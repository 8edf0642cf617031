import RosMiddleware.Binary64.Notation
import RosMiddleware.Config.Path
import RosMiddleware.Config.Settings
import RosMiddleware.Json5.Fault
import RosMiddleware.Text.Quoted

/-!
What can be wrong with a source of settings: a file that cannot be read, a text that is not
JSON5, a value of the wrong kind, a key that does not exist.
-/
namespace RosMiddleware.Config

/-- What stands where something else is wanted. -/
inductive Found
  | bool (b : Bool)
  | int (i : Int)
  | float (x : Binary64)
  | text (s : String)
  | sequence
  | map
  | null
deriving DecidableEq, Repr, Inhabited

/-- How a source words what it found: its null, and its numbers with a fraction. -/
structure Wording where
  null : String
  floats : Binary64.Style

/-- Documents call their null a unit value and write all numbers out. -/
def documentWording : Wording := ⟨"unit value", .plain⟩

/-- Values call their null by its name and use exponents. -/
def valueWording : Wording := ⟨"null", .compact⟩

def Found.describe (w : Wording) : Found → String
  | .bool b => "boolean `" ++ (if b then "true" else "false") ++ "`"
  | .int i => "integer `" ++ toString i ++ "`"
  | .float x => "floating point `" ++ w.floats.text x ++ "`"
  | .text s => "string " ++ Text.quoted s
  | .sequence => "sequence"
  | .map => "map"
  | .null => w.null

inductive Wanted
  | settings
  | bool
  | policy
  | nothing
deriving DecidableEq, Repr, Inhabited

def Wanted.describe : Wanted → String
  | .settings => "struct RmwConfig"
  | .bool => "a boolean"
  | .policy => "string or map"
  | .nothing => "unit"

/-- Why a value of the right grammar gives no settings. -/
inductive Mismatch
  | kind (found : Found) (wanted : Wanted)
  | unknownField (name : String)
  | repeatedField (name : String)
  | unknownPolicy (name : String)
  /-- A policy is named by a text or by an object. -/
  | unnamedPolicy
  | emptyPolicy
  /-- An object names one policy, no more and no less. -/
  | severalPolicies
deriving DecidableEq, Repr, Inhabited

/-- Names between backquotes, with commas between them. -/
def alternatives (names : List String) : String :=
  ", ".intercalate (names.map fun name => "`" ++ name ++ "`")

def Mismatch.message (w : Wording) : Mismatch → String
  | .kind found wanted =>
    "invalid type: " ++ found.describe w ++ ", expected " ++ wanted.describe
  | .unknownField name =>
    "unknown field `" ++ name ++ "`, expected one of "
      ++ alternatives (Settings.Key.all.map Settings.Key.name)
  | .repeatedField name => "duplicate field `" ++ name ++ "`"
  | .unknownPolicy name =>
    "unknown variant `" ++ name ++ "`, expected one of "
      ++ alternatives (Transport.MemoryPolicy.all.map Transport.MemoryPolicy.name)
  | .unnamedPolicy => "expected a string or an object"
  | .emptyPolicy => "expected a nonempty object"
  | .severalPolicies => "invalid value: map, expected map with a single key"

inductive DocumentFault
  | json5 (fault : Json5.Fault)
  | mismatch (mismatch : Mismatch)
deriving DecidableEq, Repr, Inhabited

def DocumentFault.message : DocumentFault → String
  | .json5 fault => fault.message
  | .mismatch m => m.message documentWording

inductive ReadFault
  /-- Something else that the system has to say. -/
  | other (message : String)
  | missing
  | notADirectory
  | isADirectory
  | nameTooLong
  | nulInName
  | notText
deriving DecidableEq, Repr, Inhabited

def ReadFault.message : ReadFault → String
  | .other message => message
  | .missing => "No such file or directory (os error 2)"
  | .notADirectory => "Not a directory (os error 20)"
  | .isADirectory => "Is a directory (os error 21)"
  | .nameTooLong => "File name too long (os error 36)"
  | .nulInName => "file name contained an unexpected NUL byte"
  | .notText => "stream did not contain valid UTF-8"

def overrideVariable : String := "RMW_DDS_CONFIG_OVERRIDE"

inductive Fault
  | unreadable (path : Path) (fault : ReadFault)
  | document (fault : DocumentFault)
  | unknownKey (key : String)
  | badValue (key : String) (mismatch : Mismatch)
  /-- A segment of overrides without an equals sign. -/
  | noEquals (segment : String)
  | badText (key text : String) (fault : Json5.Fault)
deriving DecidableEq, Repr, Inhabited

def Fault.message : Fault → String
  | .unreadable path fault => "cannot read config file " ++ path.shown ++ ": " ++ fault.message
  | .document fault => "invalid config: " ++ fault.message
  | .unknownKey key => "unknown config key '" ++ key ++ "'"
  | .badValue key mismatch =>
    "invalid value for config key '" ++ key ++ "': " ++ mismatch.message valueWording
  | .noEquals segment =>
    "invalid " ++ overrideVariable ++ " format: '" ++ segment ++ "'. Expected 'key=value'"
  | .badText key text fault =>
    "failed to parse " ++ overrideVariable ++ " value for key '" ++ key ++ "': "
      ++ fault.message ++ " (value: " ++ text ++ ")"

end RosMiddleware.Config
