import RosMiddleware.Config.Document
import RosMiddleware.Config.FileSystem
import RosMiddleware.Config.Override
import RosMiddleware.Config.Position

/-!
The sources of settings, from the weakest to the strongest: the defaults, a file, the switch
for profiles from XML, overrides given to the builder, and overrides in the environment. The
first source that is bad decides the error.
-/
namespace RosMiddleware.Config

open Json (Value)

/-- The variables of the environment that count, as bytes. -/
structure Environment where
  configFile : Option ByteArray := none
  overrides : Option ByteArray := none
  qosFromXml : Option ByteArray := none
deriving Inhabited

/-- A variable that is not text counts as unset. -/
def Environment.text? (bytes : Option ByteArray) : Option String :=
  bytes.bind String.fromUTF8?

def FileSystem.settings (files : FileSystem) (json5 : Json5.Reader) (path : Path) :
    Except Fault Settings :=
  match files.text path with
  | .error fault => .error (.unreadable path fault)
  | .ok text => ofTextWith json5.document text

structure Sources where
  files : FileSystem
  json5 : Json5.Reader := {}
  environment : Environment := {}
  /-- The file that goes before the one of the environment. -/
  explicitFile : Option Path := none
  overrides : List (String × Value) := []
deriving Inhabited

namespace Sources

/-- One more override. A value that could not be made leaves a text with the reason in its
place, which no key accepts. -/
def withOverride (s : Sources) (key : String) (value : Except String Value) : Sources :=
  let value :=
    match value with
    | .ok v => v
    | .error reason => .text ("<unserializable: " ++ Position.normalize reason ++ ">")
  { s with overrides := s.overrides ++ [(key, value)] }

def file? (s : Sources) : Option Path :=
  s.explicitFile.or ((Environment.text? s.environment.configFile).map .ofText)

def fromFile (s : Sources) : Except Fault Settings :=
  match s.file? with
  | some path => s.files.settings s.json5 path
  | none => .ok {}

/-- The switch is on for the text `1` and for no other. -/
def qosFromXml (s : Sources) : Bool :=
  Environment.text? s.environment.qosFromXml == some "1"

def environmentOverrides (s : Sources) : Except Fault (List (String × Value)) :=
  match Environment.text? s.environment.overrides with
  | some text => readOverridesWith s.json5.value text
  | none => .ok []

def load (s : Sources) : Except Fault Settings := do
  let settings ← s.fromFile
  let settings := if s.qosFromXml then { settings with keepTransportPolicy := true } else settings
  let settings ← overrideAll settings s.overrides
  let overrides ← s.environmentOverrides
  overrideAll settings overrides

end Sources

end RosMiddleware.Config
