import RosMiddleware.Gid
import RosMiddleware.Proofs.TransportServices

/-!
Identifiers of readers as numbers. The participant takes 32 bits of an identifier and the reader
24, so two of them are the same exactly if the numbers of the participants and of the readers
agree in these bits. The order of identifiers is that of their bytes, from the first one on, and
within these bits it is the order of the numbers.
-/
namespace RosMiddleware

namespace Transport.Guid

/-- The identity of the `n`-th reader of the `number`-th participant. -/
def ofReader (number n : Nat) : Guid :=
  ⟨hostOf (UInt32.ofNat number), readerOf (UInt32.ofNat n)⟩

theorem toNat_hostOf (number : UInt32) :
    (hostOf number).toNat = 0x010f000000000000 * UInt32.size + number.toNat := by
  rw [hostOf, toNat_append]
  simp [Nat.shiftLeft_eq, UInt32.size]

theorem toNat_bits (g : Guid) : g.bits.toNat = g.host.toNat * UInt32.size + g.entity.toNat := by
  rw [bits, toNat_append]
  simp [Nat.shiftLeft_eq, UInt32.size]

theorem toNat_ofReader (number n : Nat) :
    (ofReader number n).bits.toNat =
      (0x010f000000000000 * UInt32.size + number % UInt32.size) * UInt32.size +
        (n % readerRange * 256 + 4) := by
  have reader : n % UInt32.size % readerRange = n % readerRange := by
    simp only [UInt32.size, readerRange]
    omega
  rw [toNat_bits, ofReader, toNat_hostOf, toNat_readerOf, UInt32.toNat_ofNat', UInt32.toNat_ofNat',
    ← reader]

end Transport.Guid

namespace Gid

open Transport (Guid)

def ofReader (number n : Nat) : Gid :=
  ⟨implementationTag, (Guid.ofReader number n).bits ++ (0 : BitVec 64)⟩

theorem ofGuid_ofReader (number n : Nat) :
    ofGuid implementationTag (Guid.ofReader number n) = .ok (ofReader number n) := by
  have known : Guid.ofReader number n ≠ .unknown := Guid.known_of_hostOf _ _
  simp [ofGuid, Guid.isUnknown, known, ofReader]

theorem toNat_data (guid : Guid) :
    (guid.bits ++ (0 : BitVec 64)).toNat = guid.bits.toNat * UInt64.size := by
  rw [Guid.toNat_append]
  simp [Nat.shiftLeft_eq, UInt64.size]

theorem ofReader_eq_iff {number other m n : Nat} :
    ofReader number m = ofReader other n ↔
      number % UInt32.size = other % UInt32.size ∧
        m % Guid.readerRange = n % Guid.readerRange := by
  rw [ofReader, ofReader, Gid.mk.injEq, BitVec.toNat_inj.symm, toNat_data, toNat_data,
    Guid.toNat_ofReader, Guid.toNat_ofReader]
  simp only [true_and, UInt32.size, UInt64.size, Guid.readerRange]
  omega

example : ofReader 1 (Guid.readerRange + 1) = ofReader 1 1 := by
  decide

/-- The first sixteen bytes are not those of the unknown identity. -/
theorem guidBits_ofReader (number n : Nat) :
    (ofReader number n).guidBits ≠ Guid.unknown.bits := by
  intro same
  have bits : (ofReader number n).guidBits = (Guid.ofReader number n).bits := by
    rw [guidBits, ofReader, BitVec.extractLsb'_append_eq_left]
  have value := congrArg BitVec.toNat (bits.symm.trans same)
  rw [Guid.toNat_ofReader, Guid.toNat_bits] at value
  simp [Guid.unknown] at value

/-! ### The order of identifiers -/

/-- The last `n` bytes of a number, the most significant one first. -/
def lastBytes (n x : Nat) : List Nat :=
  (List.range n).map fun i => x >>> (8 * (n - 1 - i)) % 256

theorem lastBytes_succ (n x : Nat) :
    lastBytes (n + 1) x = lastBytes n (x >>> 8) ++ [x % 256] := by
  rw [lastBytes, List.range_succ, List.map_append, List.map_singleton]
  congr 1
  · refine List.map_congr_left fun i mem => ?_
    have place : 8 * (n + 1 - 1 - i) = 8 + 8 * (n - 1 - i) := by
      have := List.mem_range.mp mem
      omega
    rw [place, Nat.shiftRight_add]
  · simp

/-- Of lists of one length the last items decide only if all before them are the same. -/
theorem append_singleton_lt_iff {l m : List Nat} {a b : Nat} (same : l.length = m.length) :
    l ++ [a] < m ++ [b] ↔ l < m ∨ l = m ∧ a < b := by
  induction l generalizing m with
  | nil =>
      obtain rfl := List.eq_nil_of_length_eq_zero same.symm
      simp [List.cons_lt_cons_iff]
  | cons c l ih =>
      cases m with
      | nil => cases same
      | cons d m =>
          have rest := ih (Nat.succ.inj same)
          simp only [List.cons_append, List.cons_lt_cons_iff, rest, List.cons.injEq]
          grind

theorem length_lastBytes (n x : Nat) : (lastBytes n x).length = n := by
  simp [lastBytes]

/-- Bytes are in the order of the numbers as long as no byte is cut off. -/
theorem lastBytes_order {n x y : Nat} (hx : x >>> (8 * n) = 0) (hy : y >>> (8 * n) = 0) :
    (lastBytes n x = lastBytes n y ↔ x = y) ∧ (lastBytes n x < lastBytes n y ↔ x < y) := by
  induction n generalizing x y with
  | zero => simp_all [lastBytes]
  | succ n ih =>
      have place : 8 * (n + 1) = 8 + 8 * n := by omega
      rw [place, Nat.shiftRight_add] at hx hy
      -- the last byte decides only where those before it agree
      obtain ⟨same, less⟩ := ih hx hy
      rw [lastBytes_succ, lastBytes_succ, append_singleton_lt_iff (by simp [length_lastBytes]),
        List.append_singleton_inj, same, less, Nat.shiftRight_eq_div_pow, Nat.shiftRight_eq_div_pow]
      omega

theorem bytes_eq (g : Gid) : g.bytes = lastBytes 24 g.data.toNat := by
  simp [bytes, lastBytes, BitVec.extractLsb'_toNat]

theorem compare_data_eq_lt_iff {a b : BitVec 192} : compare a b = .lt ↔ a.toNat < b.toNat := by
  rw [← BitVec.lt_def]
  exact compareOfLessAndEq_eq_lt

theorem compare_of_same {a b : Gid} (same : a.implementation = b.implementation) :
    compare a b = compare a.data b.data := by
  change (compare a.implementation b.implementation).then (compare a.data b.data) = _
  rw [same, Std.compare_self]
  rfl

theorem compare_eq_lt_iff {a b : Gid} (same : a.implementation = b.implementation) :
    compare a b = .lt ↔ a.bytes < b.bytes := by
  have small (g : Gid) : g.data.toNat >>> (8 * 24) = 0 := by
    rw [Nat.shiftRight_eq_div_pow]
    exact Nat.div_eq_of_lt g.data.isLt
  rw [compare_of_same same, compare_data_eq_lt_iff, bytes_eq, bytes_eq,
    (lastBytes_order (small a) (small b)).2]

/-- The order of the readers of one participant, as long as their numbers do not come again. -/
theorem ofReader_ascending (number : Nat) {m n : Nat} (less : m < n)
    (few : n < Guid.readerRange) :
    compare (ofReader number m) (ofReader number n) = .lt ∧
      (ofReader number m).bytes < (ofReader number n).bytes := by
  have same : (ofReader number m).implementation = (ofReader number n).implementation := rfl
  have order : compare (ofReader number m) (ofReader number n) = .lt := by
    rw [compare_of_same same, compare_data_eq_lt_iff, ofReader, ofReader, toNat_data, toNat_data,
      Guid.toNat_ofReader, Guid.toNat_ofReader, Nat.mod_eq_of_lt few,
      Nat.mod_eq_of_lt (Nat.lt_trans less few)]
    simp only [UInt32.size, UInt64.size]
    omega
  exact ⟨order, (compare_eq_lt_iff same).mp order⟩

end Gid

end RosMiddleware
