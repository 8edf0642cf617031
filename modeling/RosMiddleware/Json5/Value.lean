import RosMiddleware.Json.Value
import RosMiddleware.Json5.Document

/-!
The value that a document stands for. Its parts are read in the order in which they are
written, and the first fault counts. Numbers that are not finite have no value but null.
-/
namespace RosMiddleware.Json5

def Number.toValue : Number → Json.Value
  | .int i => .int i
  | .float x => if x.isFinite then .float x else .null

mutual

def Document.value : Document → Except Fault Json.Value
  | .null => .ok .null
  | .bool b => .ok (.bool b)
  | .number n => Number.toValue <$> n.value
  | .text pieces => .text <$> decodeText pieces
  | .array items => .array <$> Document.values items
  | .object fields => .ofFields <$> Document.fieldValues fields

def Document.values : List Document → Except Fault (List Json.Value)
  | [] => .ok []
  | item :: items => do
    let value ← Document.value item
    let values ← Document.values items
    return value :: values

def Document.fieldValues :
    List (List Piece × Document) → Except Fault (List (String × Json.Value))
  | [] => .ok []
  | (name, item) :: fields => do
    let name ← decodeText name
    let value ← Document.value item
    let values ← Document.fieldValues fields
    return (name, value) :: values

end

def value (text : String) : Except Fault Json.Value :=
  Document.read text >>= Document.value

/-- What reads texts, as documents and as values. -/
structure Reader where
  document : String → Except Fault Document := Document.read
  value : String → Except Fault Json.Value := value

instance : Inhabited Reader := ⟨{}⟩

end RosMiddleware.Json5
