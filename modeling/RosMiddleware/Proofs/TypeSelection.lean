import RosMiddleware.Proofs.Conditions
import RosMiddleware.TypeSupport

/-!
The type that a request comes to. Of the supports that are offered the first for C is preferred,
then the first for C++, and the transport knows the type of the one that is selected by a name
made of its namespace and its own name.
-/
namespace RosMiddleware

/-- The name of a type for the transport. Only a namespace brings colons in front of the mark. -/
inductive MessageType.Named (type : MessageType) : String → Prop
  | alone (unplaced : type.space = "") : Named type ("dds_::" ++ type.name ++ "_")
  | placed (placed : type.space ≠ "") :
      Named type (type.space ++ "::dds_::" ++ type.name ++ "_")

theorem MessageType.named_iff {type : MessageType} {typeName : String} :
    type.Named typeName ↔ type.typeName = typeName := by
  have alone (unplaced : type.space = "") : type.typeName = "dds_::" ++ type.name ++ "_" := by
    rw [MessageType.typeName, if_pos unplaced, String.empty_append]
  have placed (placed : type.space ≠ "") :
      type.typeName = type.space ++ "::dds_::" ++ type.name ++ "_" := by
    have joined : type.space ++ "::" ++ "dds_::" = type.space ++ "::dds_::" := String.append_assoc
    rw [MessageType.typeName, if_neg placed, joined]
  constructor
  · intro named
    cases named with
    | alone unplaced => exact alone unplaced
    | placed spaced => exact placed spaced
  · rintro rfl
    by_cases unplaced : type.space = ""
    · rw [alone unplaced]
      exact .alone unplaced
    · rw [placed unplaced]
      exact .placed unplaced

namespace TypeSupport

variable {offered : List TypeSupport} {convention : String} {s : TypeSupport}

def Known (s : TypeSupport) : Prop := s.convention = conventionC ∨ s.convention = conventionCpp

/-- The first for C, or the first for C++ if there is none for C. -/
inductive Preferred (offered : List TypeSupport) (s : TypeSupport) : Prop
  | c (before after : List TypeSupport) (place : offered = before ++ s :: after)
      (follows : s.convention = conventionC)
      (first : ∀ other ∈ before, other.convention ≠ conventionC)
  | cpp (none : ∀ other ∈ offered, other.convention ≠ conventionC)
      (before after : List TypeSupport) (place : offered = before ++ s :: after)
      (follows : s.convention = conventionCpp)
      (first : ∀ other ∈ before, other.convention ≠ conventionCpp)

theorem find?_eq_some_iff :
    find? offered convention = some s ↔ s.convention = convention ∧
      ∃ before after, offered = before ++ s :: after ∧
        ∀ other ∈ before, other.convention ≠ convention := by
  simp [find?, List.find?_eq_some_iff_append]

theorem find?_eq_none_iff :
    find? offered convention = none ↔ ∀ s ∈ offered, s.convention ≠ convention := by
  simp [find?]

/-- C goes before C++, wherever the two stand. -/
theorem select_ok_iff : select offered = .ok s ↔ Preferred offered s := by
  have selects : select offered = .ok s ↔
      (find? offered conventionC).or (find? offered conventionCpp) = some s := by
    unfold select
    split <;> rename_i found <;> simp [found]
  rw [selects, Option.or_eq_some_iff, find?_eq_some_iff, find?_eq_some_iff, find?_eq_none_iff]
  constructor
  · rintro (⟨follows, before, after, place, first⟩ | ⟨none, follows, before, after, place, first⟩)
    · exact .c before after place follows first
    · exact .cpp none before after place follows first
  · intro preferred
    cases preferred with
    | c before after place follows first => exact .inl ⟨follows, before, after, place, first⟩
    | cpp none before after place follows first =>
        exact .inr ⟨none, follows, before, after, place, first⟩

theorem Preferred.unique {other : TypeSupport} (preferred : Preferred offered s)
    (another : Preferred offered other) : s = other :=
  Except.ok.inj ((select_ok_iff.mpr preferred).symm.trans (select_ok_iff.mpr another))

theorem select_decided (offered : List TypeSupport) :
    Condition.Decide
      [⟨∃ s ∈ offered, s.Known, .foreignTypeSupport (offered.map TypeSupport.convention)⟩]
      (select offered) := by
  unfold select
  cases found : (find? offered conventionC).or (find? offered conventionCpp) with
  | some s =>
      have known : ∃ s ∈ offered, s.Known := by
        obtain c | ⟨_, cpp⟩ := Option.or_eq_some_iff.mp found
        · exact ⟨s, List.mem_of_find?_eq_some c, .inl (find?_eq_some_iff.mp c).1⟩
        · exact ⟨s, List.mem_of_find?_eq_some cpp, .inr (find?_eq_some_iff.mp cpp).1⟩
      exact ⟨fun _ => ⟨s, rfl⟩, absurd known⟩
  | none =>
      obtain ⟨c, cpp⟩ := Option.or_eq_none_iff.mp found
      refine ⟨fun known => ?_, fun _ => rfl⟩
      obtain ⟨s, offers, follows⟩ := known
      cases follows with
      | inl follows => exact absurd follows (find?_eq_none_iff.mp c s offers)
      | inr follows => exact absurd follows (find?_eq_none_iff.mp cpp s offers)

end TypeSupport

end RosMiddleware
