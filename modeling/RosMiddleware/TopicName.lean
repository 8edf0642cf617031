import RosMiddleware.Qos.Profile
import RosMiddleware.Text.Basic

/-!
Names of DDS topics. What is carried shows in a mark of two letters, which a slash
separates from the name of the topic, and in the ending of the name.
-/
namespace RosMiddleware

/-- What a topic carries. -/
inductive Channel
  | message
  | request
  | reply
deriving DecidableEq, Repr

def Channel.mark : Channel → String
  | .message => "rt"
  | .request => "rq"
  | .reply => "rr"

def Channel.ending : Channel → String
  | .message => ""
  | .request => "Request"
  | .reply => "Reply"

namespace TopicName

/-- One slash at the front belongs to the separator. -/
def withoutSlash (topic : String) : String :=
  (Text.stripFront? "/" topic).getD topic

/-- The DDS name of a ROS topic. A profile with raw names leaves the mark out. -/
def build (q : Qos.Profile) (mark topic ending : String) : String :=
  if q.rawNames then topic ++ ending
  else mark ++ "/" ++ withoutSlash topic ++ ending

/-- What follows the mark and the slash. -/
def unmarked? (mark name : String) : Option String :=
  (Text.stripFront? mark name).bind (Text.stripFront? "/")

/-- The name without its mark, if it has one of the three. -/
def withoutMark (name : String) : String :=
  ([Channel.message, .request, .reply].findSome? fun c => unmarked? c.mark name).getD name

theorem unmarked?_eq_some_iff {mark name rest : String} :
    unmarked? mark name = some rest ↔ name = mark ++ "/" ++ rest := by
  simp only [unmarked?, Option.bind_eq_some_iff, Text.stripFront?_eq_some_iff]
  constructor
  · rintro ⟨r, rfl, rfl⟩
    rw [String.append_assoc]
  · rintro rfl
    exact ⟨"/" ++ rest, String.append_assoc .., rfl⟩

end TopicName

end RosMiddleware
