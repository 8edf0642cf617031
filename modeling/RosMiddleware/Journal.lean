import RosMiddleware.Error

/-!
What operations leave behind beside their results: the message of the last error, and the
events of the log. An error that is recorded goes to both; a refusal that nobody can be
told about goes to the log alone.
-/
namespace RosMiddleware

inductive Event
  | warning (text : String)
  | error (text : String)
deriving DecidableEq, Repr, Inhabited

/-- The level of the event before its text. -/
def Event.line : Event → String
  | .warning text => "WARN " ++ text
  | .error text => "ERROR " ++ text

structure Journal where
  lastError : Option String := none
  events : List Event := []
deriving DecidableEq, Repr, Inhabited

namespace Journal

def log (j : Journal) (events : List Event) : Journal :=
  { j with events := j.events ++ events }

/-- The message takes the place of the one before. -/
def setError (j : Journal) (message : String) : Journal :=
  { j with lastError := some message }

def record (j : Journal) (e : Error) : Journal :=
  (j.log [.error e.display]).setError e.message

/-- An outcome whose error, if it is one, is recorded. -/
def settle {α : Type} (j : Journal) : Except Error α → Journal
  | .ok _ => j
  | .error e => j.record e

def resetError (j : Journal) : Journal := { j with lastError := none }

/-- The last message, or an empty text. -/
def errorText (j : Journal) : String := j.lastError.getD ""

/-- The slot for the last error belongs to a thread: another one starts with none. -/
def onNewThread (_ : Journal) : Journal := {}

end Journal

end RosMiddleware
