import RosMiddleware.Proofs.TypeCuts

/-!
Types of actions and of services, read off the names of the messages that they exchange.
Both are taken from the part before the ending, cut at its first marker, and they agree on
every type that has a name of its own. Where the name is missing, the service is none, but
the namespace alone passes for an action.
-/
namespace RosMiddleware

namespace Demangler

theorem serviceStem?_append (stem : String) {ending : String} (known : ending ∈ serviceEndings) :
    serviceStem? (stem ++ ending) = some stem := by
  simp only [serviceEndings, List.mem_cons, List.not_mem_nil, or_false] at known
  rcases known with rfl | rfl
  · simp only [serviceStem?, serviceEndings, List.findSome?_cons, stripBack?_append]
  · have apart : Text.stripBack? "_Response_" (stem ++ "_Request_") = none := by
      refine Option.eq_none_iff_forall_ne_some.mpr fun rest found => ?_
      have same := Text.stripBack?_eq_some_iff.mp found
      have chars := congrArg (fun s => s.toList.reverse[1]?) same
      simp at chars
    simp only [serviceStem?, serviceEndings, List.findSome?_cons, apart, stripBack?_append]

variable {type space last : String}

/-- A service goes by the last part of its type, which must be there. -/
theorem serviceType_append (split : splitType? type = some (space, last)) {ending : String}
    (known : ending ∈ serviceEndings) :
    serviceType.apply (type ++ ending) = (nonEmpty? last).map (space ++ ·) := by
  have marked := contains_of_splitType? (splitType?_append split ending)
  simp only [serviceType, serviceTypeName?, marked, if_true, serviceStem?_append type known,
    Option.bind_some, typeStem?, split]

/-- For an action it is enough that something is left of the whole. -/
theorem actionType_append (split : splitType? type = some (space, last)) :
    actionType.apply (type ++ "_FeedbackMessage_") = nonEmpty? (space ++ last) := by
  have trailer : type ++ "_FeedbackMessage_" = type ++ feedbackTypeEnding ++ "_" := by
    rw [String.append_assoc]
    rfl
  have split' := splitType?_append split feedbackTypeEnding
  have named : last ++ feedbackTypeEnding ≠ "" := by simp [feedbackTypeEnding]
  have stem : messageType.apply (type ++ "_FeedbackMessage_") =
      some (space ++ (last ++ feedbackTypeEnding)) := by
    simp only [messageType, messageTypeName?, trailer, stripBack?_append, Option.bind_some,
      typeStem?, split', nonEmpty?, named, if_false, Option.map_some]
  simp only [actionType, stem, Option.bind_some, ← String.append_assoc, stripBack?_append]

/-- There is a namespace, but nothing comes after the first marker. -/
def Nameless (before after : String) : Prop :=
  before ≠ "" ∧ Text.contains marker before = false ∧ after = ""

/-- The cut is at the first marker, which may begin before the one that is written here. -/
theorem splitType?_append_marker (before after : String) :
    ∃ space last, splitType? (before ++ marker ++ after) = some (space, last) ∧
      (space ≠ "" ∧ last = "" ↔ Nameless before after) ∧
      (Nameless before after → space = String.ofList (Text.slashed before.toList)) := by
  cases marked : Text.contains marker before with
  | true =>
      obtain ⟨space, last, split, named⟩ := splitType?_of_marked marked after
      exact ⟨space, last, split, by simp [Nameless, named, marked], by simp [Nameless, marked]⟩
  | false =>
      refine ⟨_, _, splitType?_of_unmarked marked after, ?_, fun _ => rfl⟩
      simp [Nameless, marked, Text.slashed_eq_nil_iff]

/-- The feedback of an action and the messages of a service stand for the same type, unless
the type has no name of its own. The service is none then, but the action is said to be
the namespace. -/
theorem actionType_agrees_iff (before after : String) :
    serviceType.apply (before ++ marker ++ after ++ "_Response_") =
        serviceType.apply (before ++ marker ++ after ++ "_Request_") ∧
      (actionType.apply (before ++ marker ++ after ++ "_FeedbackMessage_") =
          serviceType.apply (before ++ marker ++ after ++ "_Request_") ↔
        ¬ Nameless before after) ∧
      (∀ space, splitType? (before ++ marker ++ after) = some (space, "") →
        serviceType.apply (before ++ marker ++ after ++ "_Request_") = none) ∧
      (Nameless before after →
        actionType.apply (before ++ marker ++ after ++ "_FeedbackMessage_") =
          some (String.ofList (Text.slashed before.toList))) := by
  obtain ⟨space, last, split, nameless, spaced⟩ := splitType?_append_marker before after
  have asked : serviceType.apply (before ++ marker ++ after ++ "_Request_") =
      (nonEmpty? last).map (space ++ ·) :=
    serviceType_append split (by decide)
  have replied : serviceType.apply (before ++ marker ++ after ++ "_Response_") =
      (nonEmpty? last).map (space ++ ·) :=
    serviceType_append split (by decide)
  have fed : actionType.apply (before ++ marker ++ after ++ "_FeedbackMessage_") =
      nonEmpty? (space ++ last) := actionType_append split
  rw [asked, replied, fed, ← nameless]
  refine ⟨rfl, ?_, ?_, ?_⟩
  · by_cases named : last = ""
    · by_cases placed : space = "" <;> simp [nonEmpty?, named, placed]
    · simp [nonEmpty?, named]
  · intro space' split'
    cases split.symm.trans split'
    rfl
  · rintro ⟨placed, rfl⟩
    rw [← spaced (nameless.mp ⟨placed, rfl⟩)]
    simp [nonEmpty?, placed]

/-- The feedback of an action without a name is taken for the feedback of its namespace. -/
theorem actionType_not_agrees :
    ¬ ∀ before after,
      actionType.apply (before ++ marker ++ after ++ "_FeedbackMessage_") =
        serviceType.apply (before ++ marker ++ after ++ "_Request_") := by
  intro agree
  have action : actionType.apply ("pkg::action::" ++ marker ++ "" ++ "_FeedbackMessage_") =
      some "pkg/action/" := by decide +kernel
  have service : serviceType.apply ("pkg::action::" ++ marker ++ "" ++ "_Request_") = none := by
    decide +kernel
  cases (action.symm.trans (agree "pkg::action::" "")).trans service

end Demangler

end RosMiddleware
