import RosMiddleware.Subscription

/-!
Profiles written over the attributes of a reader. However far the writing gets, it changes
policies only: the topic, the type and the way in which samples are stored stay.
-/
namespace RosMiddleware

open Transport (ReaderAttributes)

namespace Qos

structure SameTopic (a b : ReaderAttributes) : Prop where
  topicKind : b.topicKind = a.topicKind
  topicName : b.topicName = a.topicName
  typeName : b.typeName = a.typeName
  memoryPolicy : b.memoryPolicy = a.memoryPolicy

theorem SameTopic.refl (a : ReaderAttributes) : SameTopic a a := ⟨rfl, rfl, rfl, rfl⟩

theorem SameTopic.trans {a b c : ReaderAttributes} (first : SameTopic a b)
    (second : SameTopic b c) : SameTopic a c where
  topicKind := second.topicKind.trans first.topicKind
  topicName := second.topicName.trans first.topicName
  typeName := second.typeName.trans first.typeName
  memoryPolicy := second.memoryPolicy.trans first.memoryPolicy

/-- Writers of policies leave the topic and the type alone. -/
theorem sameTopic_writer {q : Profile}
    {write : ReaderAttributes → Except Rejection ReaderAttributes} (mem : write ∈ q.writers)
    {a b : ReaderAttributes} (written : write a = .ok b) : SameTopic a b := by
  simp only [Profile.writers, List.mem_cons, List.not_mem_nil, or_false] at mem
  rcases mem with rfl | rfl | rfl | rfl | rfl | rfl | rfl
  · unfold Profile.writeReliability at written
    split at written <;> cases written <;> exact ⟨rfl, rfl, rfl, rfl⟩
  · unfold Profile.writeDurability at written
    split at written <;> cases written <;> exact ⟨rfl, rfl, rfl, rfl⟩
  · cases written
    exact ⟨rfl, rfl, rfl, rfl⟩
  · cases written
    exact ⟨rfl, rfl, rfl, rfl⟩
  · unfold Profile.writeLiveliness at written
    split at written <;> cases written <;> exact ⟨rfl, rfl, rfl, rfl⟩
  · cases written
    exact ⟨rfl, rfl, rfl, rfl⟩
  · unfold Profile.writeHistory at written
    split at written
    · cases written
      exact ⟨rfl, rfl, rfl, rfl⟩
    · split at written
      · cases written
        exact ⟨rfl, rfl, rfl, rfl⟩
      · split at written <;> cases written
        exact ⟨rfl, rfl, rfl, rfl⟩
    · cases written
      exact ⟨rfl, rfl, rfl, rfl⟩
    · cases written

theorem sameTopic_writeAll {writers : List (ReaderAttributes → Except Rejection ReaderAttributes)}
    (keep : ∀ write ∈ writers, ∀ a b, write a = .ok b → SameTopic a b)
    (a : ReaderAttributes) : SameTopic a (writeAll writers a).2 := by
  induction writers generalizing a with
  | nil => exact .refl a
  | cons write writers ih =>
      rw [writeAll]
      split
      · rename_i b written
        have first := keep write List.mem_cons_self a b written
        have rest := ih (fun other mem => keep other (List.mem_cons_of_mem _ mem)) b
        exact first.trans rest
      · exact .refl a

theorem sameTopic_writeTo (q : Profile) (a : ReaderAttributes) :
    SameTopic a (q.writeTo a).2 :=
  sameTopic_writeAll (fun _ mem _ _ written => sameTopic_writer mem written) a

end Qos

theorem Subscription.Request.sameTopic_attributes {r : Request} {settings : Settings}
    {type : MessageType} {defaults attributes : ReaderAttributes}
    (h : r.attributes settings type defaults = .ok attributes) :
    Qos.SameTopic (r.baseAttributes settings type defaults) attributes := by
  have same := Qos.sameTopic_writeTo r.qos (r.baseAttributes settings type defaults)
  rw [Request.attributes] at h
  split at h
  · rename_i written
    cases h
    rw [written] at same
    exact same
  · cases h

end RosMiddleware
