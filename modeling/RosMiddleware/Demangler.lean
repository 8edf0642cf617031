import RosMiddleware.TopicName

/-!
From DDS names back to ROS names. A demangler answers nothing for a name that is not of its
kind; for some names that come close to its kind it also leaves a warning.

The name of a DDS type is the ROS name with the marker `dds_::` before the last part, pairs
of colons between the parts, and a low line at the end.
-/
namespace RosMiddleware

structure Demangler where
  apply : String → Option String
  warnings : String → List String := fun _ => []

/-- What is left, unless it is nothing. -/
def nonEmpty? (s : String) : Option String :=
  if s = "" then none else some s

theorem nonEmpty?_eq_some_iff {s t : String} : nonEmpty? s = some t ↔ s = t ∧ t ≠ "" := by
  by_cases empty : s = ""
  · simp only [nonEmpty?, empty, if_true]
    exact ⟨nofun, fun named => absurd named.1.symm named.2⟩
  · simp only [nonEmpty?, empty, if_false, Option.some.injEq]
    exact ⟨fun same => ⟨same, same ▸ empty⟩, And.left⟩

namespace Demangler

def marker : String := "dds_::"

/-- The namespace with slashes and the last part, cut at the first marker. -/
def splitType? (name : String) : Option (String × String) :=
  (Text.cutFirst? marker.toList name.toList).map fun cut =>
    (String.ofList (Text.slashed cut.1), String.ofList cut.2)

/-- The ROS name of the type whose DDS name is `name` without what ends it. -/
def typeStem? (name : String) : Option String :=
  (splitType? name).bind fun (space, last) => (nonEmpty? last).map (space ++ ·)

def messageTypeName? (name : String) : Option String :=
  (Text.stripBack? "_" name).bind typeStem?

def serviceEndings : List String := ["_Response_", "_Request_"]

/-- The name without the first ending that it has. -/
def serviceStem? (name : String) : Option String :=
  serviceEndings.findSome? fun ending => Text.stripBack? ending name

def serviceTypeName? (name : String) : Option String :=
  if Text.contains marker name then (serviceStem? name).bind typeStem? else none

/-- One warning for each ending that stands in the name but not at its end, as far as the
endings are tried. -/
def serviceTypeWarnings (name : String) : List String :=
  if Text.contains marker name then
    let tried := serviceEndings.takeWhile fun ending =>
      (Text.stripBack? ending name).isNone
    let misplaced := tried.filter fun ending => Text.contains ending name
    misplaced.map fun _ =>
      "service type contains 'dds_::' and a suffix, but not at the end: '" ++ name ++ "'"
  else []

/-- A low line before the ending is not part of the name of the service. -/
def serviceTopicName? (c : Channel) (name : String) : Option String :=
  (TopicName.unmarked? c.mark name).bind fun topic =>
    (Text.stripBack? c.ending topic).bind fun stem =>
      nonEmpty? ((Text.stripBack? "_" stem).getD stem)

def serviceTopicWarnings (c : Channel) (name : String) : List String :=
  match TopicName.unmarked? c.mark name with
  | none => []
  | some topic =>
    if (Text.stripBack? c.ending topic).isSome then []
    else if Text.contains c.ending topic then
      ["service topic has service prefix and a suffix, but not at the end: '" ++ name ++ "'"]
    else ["service topic has prefix but no suffix: '" ++ name ++ "'"]

/-- Every name stands for itself. -/
def identity : Demangler where
  apply := some

def topic : Demangler where
  apply := TopicName.unmarked? Channel.message.mark

/-- Every topic, without its mark if it has one. -/
def anyTopic : Demangler where
  apply name := some (TopicName.withoutMark name)

def messageType : Demangler where
  apply := messageTypeName?

def requestTopic : Demangler where
  apply := serviceTopicName? .request
  warnings := serviceTopicWarnings .request

def replyTopic : Demangler where
  apply := serviceTopicName? .reply
  warnings := serviceTopicWarnings .reply

/-- Topics of services in either direction; replies are tried first. -/
def serviceTopic : Demangler where
  apply name := (replyTopic.apply name).or (requestTopic.apply name)
  warnings name :=
    replyTopic.warnings name ++
      if (replyTopic.apply name).isSome then [] else requestTopic.warnings name

/-- Types of services, by the type of their requests or of their replies. -/
def serviceType : Demangler where
  apply := serviceTypeName?
  warnings := serviceTypeWarnings

def feedbackTopicEnding : String := "/_action/feedback"

def feedbackTypeEnding : String := "_FeedbackMessage"

def feedbackTopic : Demangler where
  apply name :=
    ((topic.apply name).bind (Text.stripBack? feedbackTopicEnding)).bind nonEmpty?

/-- Types of actions, by the type of their feedback. -/
def actionType : Demangler where
  apply name :=
    ((messageType.apply name).bind (Text.stripBack? feedbackTypeEnding)).bind nonEmpty?

end Demangler

end RosMiddleware
