import RosMiddleware.Config.Fault
import RosMiddleware.Json5.Document

/-!
Settings from a document. It is an object with the settings under their keys, or a list of
settings in their order; what is missing keeps its default. A policy is a text, or an object
whose first name is the policy, whatever stands under it.
-/
namespace RosMiddleware.Config

open Json5 (Document Piece Numeral)
open Transport (MemoryPolicy)

def textOf (pieces : List Piece) : Except DocumentFault String :=
  (Json5.decodeText pieces).mapError .json5

/-- What a document turns out to be. Numbers and texts have to be read for that. -/
def foundIn : Document → Except DocumentFault Found
  | .null => .ok .null
  | .bool b => .ok (.bool b)
  | .number n =>
    match n.value with
    | .ok (.int i) => .ok (.int i)
    | .ok (.float x) => .ok (.float x)
    | .error fault => .error (.json5 fault)
  | .text pieces => (textOf pieces).map .text
  | .array _ => .ok .sequence
  | .object _ => .ok .map

def unwanted {α : Type} (d : Document) (wanted : Wanted) : Except DocumentFault α := do
  let found ← foundIn d
  throw (.mismatch (.kind found wanted))

def boolIn : Document → Except DocumentFault Bool
  | .bool b => .ok b
  | d => unwanted d .bool

def policyNamed (pieces : List Piece) : Except DocumentFault MemoryPolicy := do
  let name ← textOf pieces
  match MemoryPolicy.ofName? name with
  | some policy => return policy
  | none => throw (.mismatch (.unknownPolicy name))

def policyIn : Document → Except DocumentFault MemoryPolicy
  | .text pieces => policyNamed pieces
  | .object [] => .error (.mismatch .emptyPolicy)
  | .object ((name, _) :: _) => policyNamed name
  | _ => .error (.mismatch .unnamedPolicy)

def writeDocument (s : Settings) (d : Document) : Settings.Key → Except DocumentFault Settings
  | .keepTransportPolicy => return { s with keepTransportPolicy := ← boolIn d }
  | .memoryPolicy => return { s with memoryPolicy := ← policyIn d }
  | .createListeners => return { s with createListeners := ← boolIn d }

/-- Fields one after another; each key is written at most once. -/
def writeFields : List (List Piece × Document) → List Settings.Key → Settings →
    Except DocumentFault Settings
  | [], _, s => .ok s
  | (name, d) :: fields, seen, s => do
    let name ← textOf name
    match Settings.Key.ofName? name with
    | none => throw (.mismatch (.unknownField name))
    | some key =>
      if key ∈ seen then throw (.mismatch (.repeatedField name))
      let s ← writeDocument s d key
      writeFields fields (key :: seen) s

/-- Items one after another, each under the next key; items without a key are not read. -/
def writeItems : List (Document × Settings.Key) → Settings → Except DocumentFault Settings
  | [], s => .ok s
  | (d, key) :: items, s => do
    let s ← writeDocument s d key
    writeItems items s

def ofDocument : Document → Except DocumentFault Settings
  | .object fields => writeFields fields [] {}
  | .array items => writeItems (items.zip Settings.Key.all) {}
  | d => unwanted d .settings

/-- Settings from a text that is read by `read`. -/
def ofTextWith (read : String → Except Json5.Fault Document) (text : String) :
    Except Fault Settings :=
  match read text with
  | .error fault => .error (.document (.json5 fault))
  | .ok d => (ofDocument d).mapError .document

def ofText (text : String) : Except Fault Settings :=
  ofTextWith Document.read text

end RosMiddleware.Config
