import RosMiddleware.Config.Fault
import RosMiddleware.Json5.Value
import RosMiddleware.Text.Basic
import RosMiddleware.Text.Blank

/-!
Overrides: a key and a value that takes the place of one setting. A text of overrides has
segments with semicolons between them; a segment is a key, an equals sign and a JSON5 value,
and white space around any of them does not count.
-/
namespace RosMiddleware.Config

open Json (Value)
open Transport (MemoryPolicy)

def foundOf : Value → Found
  | .null => .null
  | .bool b => .bool b
  | .int i => .int i
  | .float x => .float x
  | .text s => .text s
  | .array _ => .sequence
  | .object _ => .map

def boolOf : Value → Except Mismatch Bool
  | .bool b => .ok b
  | v => .error (.kind (foundOf v) .bool)

def policyOfName (name : String) : Except Mismatch MemoryPolicy :=
  match MemoryPolicy.ofName? name with
  | some policy => .ok policy
  | none => .error (.unknownPolicy name)

/-- A policy is a text, or an object with nothing under its one name. -/
def policyOf : Value → Except Mismatch MemoryPolicy
  | .text name => policyOfName name
  | .object [(name, v)] => do
    let policy ← policyOfName name
    match v with
    | .null => return policy
    | v => throw (.kind (foundOf v) .nothing)
  | .object _ => .error .severalPolicies
  | v => .error (.kind (foundOf v) .policy)

def write (s : Settings) (v : Value) : Settings.Key → Except Mismatch Settings
  | .keepTransportPolicy => return { s with keepTransportPolicy := ← boolOf v }
  | .memoryPolicy => return { s with memoryPolicy := ← policyOf v }
  | .createListeners => return { s with createListeners := ← boolOf v }

def override (s : Settings) (key : String) (v : Value) : Except Fault Settings :=
  match Settings.Key.ofName? key with
  | none => .error (.unknownKey key)
  | some k => (write s v k).mapError (.badValue key)

/-- Overrides one after another, up to the first that fails. -/
def overrideAll (s : Settings) : List (String × Value) → Except Fault Settings
  | [] => .ok s
  | (key, v) :: overrides => do
    let s ← override s key v
    overrideAll s overrides

/-- The key and the value of a segment without white space at its ends. -/
def readSegment (decode : String → Except Json5.Fault Value) (segment : List Char) :
    Except Fault (String × Value) :=
  match Text.cutFirst? ['='] segment with
  | none => .error (.noEquals (String.ofList segment))
  | some (key, text) =>
    let key := String.ofList (Text.trim key)
    let text := String.ofList (Text.trim text)
    match decode text with
    | .ok v => .ok (key, v)
    | .error fault => .error (.badText key text fault)

/-- The segments of a text that are not blank, without white space at their ends. -/
def segments (text : List Char) : List (List Char) :=
  ((text.splitOn ';').map Text.trim).filter fun segment => !segment.isEmpty

/-- Overrides in a text, with the values read by `decode`. -/
def readOverridesWith (decode : String → Except Json5.Fault Value) (text : String) :
    Except Fault (List (String × Value)) :=
  (segments text.toList).mapM (readSegment decode)

def readOverrides (text : String) : Except Fault (List (String × Value)) :=
  readOverridesWith Json5.value text

end RosMiddleware.Config
