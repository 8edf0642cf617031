import Std.Data.ExtTreeSet
import RosMiddleware.Error
import RosMiddleware.Transport.Guid

/-!
Global identifiers: the tag of the implementation and 24 bytes, of which the first sixteen
are the identity of a transport entity and the rest are zero. They are ordered by the tag
and then by the bytes.
-/
namespace RosMiddleware

structure Gid where
  implementation : String
  data : BitVec 192
deriving DecidableEq, Repr, Inhabited

namespace Gid

/-- The identifier of a transport entity, which must be known. -/
def ofGuid (implementation : String) (guid : Transport.Guid) : Except Error Gid :=
  if guid.isUnknown then .error .unknownGuid
  else .ok ⟨implementation, guid.bits ++ (0 : BitVec 64)⟩

def guidBits (g : Gid) : BitVec 128 := g.data.extractLsb' 64 128

def text (g : Gid) : String := g.guidBits.toHex

/-- All bytes, the most significant one first. -/
def bytes (g : Gid) : List Nat :=
  (List.range 24).map fun i => (g.data.extractLsb' (8 * (23 - i)) 8).toNat

instance : Ord Gid := ⟨compareLex (compareOn Gid.implementation) (compareOn Gid.data)⟩

instance : Std.TransOrd Gid :=
  inferInstanceAs (Std.TransCmp (compareLex (compareOn Gid.implementation) (compareOn Gid.data)))

instance : Std.LawfulEqOrd Gid where
  eq_of_compare {a b} h := by
    have h : compareLex (compareOn Gid.implementation) (compareOn Gid.data) a b = .eq := h
    rw [compareLex_eq_eq] at h
    obtain ⟨hi, hd⟩ := h
    cases a; cases b
    simp only [compareOn, Std.LawfulEqCmp.compare_eq_iff_eq] at hi hd
    simp_all

/-- The identifiers in their order, each once. -/
def inOrder (gids : List Gid) : List Gid := (Std.ExtTreeSet.ofList gids).toList

end Gid

end RosMiddleware
