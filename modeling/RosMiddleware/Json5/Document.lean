import RosMiddleware.Json5.Token

/-!
Documents: a value with the texts and numerals still as they are written. They are read
from tokens by a machine that keeps the lists and objects it is inside of.
-/
namespace RosMiddleware.Json5

inductive Document
  | null
  | bool (b : Bool)
  | number (n : Numeral)
  | text (pieces : List Piece)
  | array (items : List Document)
  | object (fields : List (List Piece × Document))
deriving Inhabited

/-- A list or an object that is open; what it holds so far comes last first, and of an
object also the name of the field being read. -/
inductive Frame
  | array (items : List Document)
  | object (fields : List (List Piece × Document)) (name : List Piece)

/-- What the next token may be. -/
inductive Awaiting
  | value (inside : List Frame)
  /-- An item or the end of the list. -/
  | item (items : List Document) (inside : List Frame)
  /-- A name or the end of the object. -/
  | name (fields : List (List Piece × Document)) (inside : List Frame)
  | colon (name : List Piece) (fields : List (List Piece × Document)) (inside : List Frame)
  /-- A comma or an end, after a value that is complete. -/
  | close (value : Document) (inside : List Frame)

/-- The word as it is written, unless it has escapes. -/
def plainWord? (pieces : List Piece) : Option (List Char) :=
  pieces.mapM fun piece =>
    match piece with
    | .plain c => some c
    | _ => none

/-- The value that a bare word is. -/
def wordValue? (pieces : List Piece) : Option Document :=
  (plainWord? pieces).bind fun word =>
    if word = "null".toList then some .null
    else if word = "true".toList then some (.bool true)
    else if word = "false".toList then some (.bool false)
    else if word = "Infinity".toList ∨ word = "NaN".toList then
      (Numeral.read? word).map .number
    else none

def Awaiting.begin (stack : List Frame) : Token → Option Awaiting
  | .mark c =>
    if c = '[' then some (.item [] stack)
    else if c = '\x7b' then some (.name [] stack)
    else none
  | .text pieces => some (.close (.text pieces) stack)
  | .word pieces => (wordValue? pieces).map fun value => .close value stack
  | .number written => (Numeral.read? written).map fun n => .close (.number n) stack

def Awaiting.step (state : Awaiting) (token : Token) : Option Awaiting :=
  match state with
  | .value stack => Awaiting.begin stack token
  | .item items stack =>
    if token = .mark ']' then some (.close (.array items.reverse) stack)
    else Awaiting.begin (.array items :: stack) token
  | .name fields stack =>
    match token with
    | .text pieces | .word pieces => some (.colon pieces fields stack)
    | _ =>
      if token = .mark '\x7d' then some (.close (.object fields.reverse) stack) else none
  | .colon key fields stack =>
    if token = .mark ':' then some (.value (.object fields key :: stack)) else none
  | .close _ [] => none
  | .close done (.array items :: stack) =>
    if token = .mark ',' then some (.item (done :: items) stack)
    else if token = .mark ']' then some (.close (.array (done :: items).reverse) stack)
    else none
  | .close done (.object fields key :: stack) =>
    if token = .mark ',' then some (.name ((key, done) :: fields) stack)
    else if token = .mark '\x7d' then
      some (.close (.object ((key, done) :: fields).reverse) stack)
    else none

/-- The value that is complete at the end of the text. -/
def Awaiting.finish : Awaiting → Option Document
  | .close done [] => some done
  | _ => none

/-- The document that a text is. -/
def Document.read (text : String) : Except Fault Document :=
  match (tokens? text.toList).bind fun tokens =>
      (tokens.foldlM Awaiting.step (.value [])).bind Awaiting.finish with
  | some document => .ok document
  | none => .error .grammar

end RosMiddleware.Json5
