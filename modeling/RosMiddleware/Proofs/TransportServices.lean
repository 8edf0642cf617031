import RosMiddleware.Gid
import RosMiddleware.Transport.Basic

/-!
What the services of the transport do to its state, refusals included. The services for
types touch the registered types only. The identity of a new reader is known unless it is
switched off, and the identities of readers differ as long as their numbers do.
-/
namespace RosMiddleware

namespace Transport.Guid

theorem hostOf_ne_zero (number : UInt32) : hostOf number ≠ 0 := by
  intro h
  have bits := congrArg BitVec.toNat h
  rw [hostOf, BitVec.toNat_append] at bits
  have high := (Nat.or_eq_zero_iff.mp bits).1
  simp at high

theorem known_of_hostOf (number : UInt32) (entity : BitVec 32) :
    (⟨hostOf number, entity⟩ : Guid) ≠ unknown := by
  intro h
  exact hostOf_ne_zero number (congrArg Guid.host h)

theorem toNat_append {m n : Nat} (x : BitVec m) (y : BitVec n) :
    (x ++ y).toNat = x.toNat <<< n + y.toNat := by
  rw [BitVec.toNat_append, Nat.shiftLeft_add_eq_or_of_lt y.isLt]

/-- How many readers of a participant the entity part tells apart. -/
def readerRange : Nat := 0x1000000

theorem toNat_readerOf (n : UInt32) :
    (readerOf n).toNat = n.toNat % readerRange * 256 + 4 := by
  rw [readerOf, toNat_append]
  simp [Nat.shiftLeft_eq, readerRange]

theorem readerOf_injOn {m n : UInt32} (hm : m.toNat < readerRange)
    (hn : n.toNat < readerRange) (h : readerOf m = readerOf n) : m = n := by
  have number := congrArg BitVec.toNat h
  rw [toNat_readerOf, toNat_readerOf, Nat.mod_eq_of_lt hm, Nat.mod_eq_of_lt hn] at number
  exact UInt32.toNat_inj.mp (by omega)

theorem toNat_next {n : UInt32} (h : n.toNat < readerRange) : (n + 1).toNat = n.toNat + 1 := by
  rw [UInt32.toNat_add]
  simp only [readerRange] at h
  exact Nat.mod_eq_of_lt (by simp only [UInt32.toNat_one]; omega)

end Transport.Guid

namespace Transport

theorem isRegistered_eq_isSome (t : Transport) (typeName : String) :
    t.isRegistered typeName = t.types[typeName]?.isSome :=
  Std.ExtTreeMap.isSome_getElem?_eq_contains.symm

theorem registerType_of_unknown (t : Transport) (a : Adapter)
    (unknown : t.types[a.typeName]? = none) :
    t.registerType a =
      if t.faults.registerType then .error .registrationRejected
      else .ok { t with types := t.types.insert a.typeName a } := by
  simp [registerType, isRegistered_eq_isSome, unknown]

theorem unregisterType_of_known (t : Transport) (typeName : String) (a : Adapter)
    (known : t.types[typeName]? = some a) :
    t.unregisterType typeName =
      if t.faults.unregisterType then .error .unregistrationRejected
      else .ok { t with types := t.types.erase typeName } := by
  simp [unregisterType, isRegistered_eq_isSome, known]

theorem nextGuid_eq_unknown_iff (t : Transport) :
    t.nextGuid = .unknown ↔ t.faults.unknownGuid = true := by
  cases h : t.faults.unknownGuid with
  | true => simp [nextGuid, h]
  | false => simpa [nextGuid, h] using Guid.known_of_hostOf t.number _

/-- No reader was created that stayed, and none deleted. -/
structure SameReaders (t t' : Transport) : Prop where
  number : t'.number = t.number
  next : t'.nextReader = t.nextReader
  attached : t'.attached = t.attached
  live : t'.liveReaders = t.liveReaders
  created : t.createdReaders ≤ t'.createdReaders

theorem SameReaders.refl (t : Transport) : SameReaders t t :=
  ⟨rfl, rfl, rfl, rfl, Nat.le_refl _⟩

section Reader

variable {t t' : Transport} {attributes : ReaderAttributes} {listener : Option ListenerId}
  {reader : Reader}

/-- A reader that cannot be told from others uses up no number. -/
theorem createReader_ok (h : t.createReader attributes listener = .ok (reader, t')) :
    reader = ⟨t.nextGuid, attributes⟩ ∧
      t' = { t with
        nextReader := if t.faults.unknownGuid then t.nextReader else t.nextReader + 1
        attached := t.attached ++
          listener.toList.map fun l => ⟨reader.guid, reader.attributes.topicName, l⟩
        liveReaders := t.liveReaders + 1
        createdReaders := t.createdReaders + 1 } := by
  unfold createReader at h
  split at h
  · cases h
  split at h
  · cases h
  · cases h
    exact ⟨rfl, rfl⟩

/-- A reader with a known identity takes the next number. -/
theorem createReader_of_known (h : t.createReader attributes listener = .ok (reader, t'))
    (known : reader.guid ≠ .unknown) :
    reader.guid = ⟨Guid.hostOf t.number, Guid.readerOf t.nextReader⟩ ∧
      t' = { t with
        nextReader := t.nextReader + 1
        attached := t.attached ++
          listener.toList.map fun l => ⟨reader.guid, reader.attributes.topicName, l⟩
        liveReaders := t.liveReaders + 1
        createdReaders := t.createdReaders + 1 } := by
  obtain ⟨new, left⟩ := createReader_ok h
  have switched : t.faults.unknownGuid = false := by
    rw [new, Ne, nextGuid_eq_unknown_iff] at known
    simpa using known
  refine ⟨by simp [new, nextGuid, switched], ?_⟩
  rw [left]
  simp [switched]

/-- One with an unknown identity takes none. When it is deleted again, no other listener
goes with it, as long as none is attached under the unknown identity. -/
theorem dropReader_of_unknown (h : t.createReader attributes listener = .ok (reader, t'))
    (unknown : reader.guid = .unknown) (known : ∀ a ∈ t.attached, a.guid ≠ .unknown) :
    t'.dropReader reader = { t with createdReaders := t.createdReaders + 1 } := by
  obtain ⟨new, left⟩ := createReader_ok h
  have switched : t.faults.unknownGuid = true := by
    rw [← nextGuid_eq_unknown_iff, ← unknown, new]
  have others : ∀ a ∈ t.attached, ¬ (a.guid == reader.guid) = true := by
    intro a ha
    simpa [unknown] using known a ha
  rw [left, dropReader]
  simp only [switched, if_true, Nat.add_sub_cancel]
  rw [List.eraseP_append_right _ others]
  cases listener <;> simp

end Reader

end Transport

theorem Gid.ofGuid_ok {implementation : String} {guid : Transport.Guid} {gid : Gid}
    (h : ofGuid implementation guid = .ok gid) : guid ≠ .unknown := by
  rintro rfl
  simp [ofGuid, Transport.Guid.isUnknown] at h

theorem Gid.ofGuid_error {implementation : String} {guid : Transport.Guid} {e : Error}
    (h : ofGuid implementation guid = .error e) : guid = .unknown := by
  by_cases unknown : guid.isUnknown = true
  · simpa [Transport.Guid.isUnknown] using unknown
  · simp [ofGuid, unknown] at h

end RosMiddleware
