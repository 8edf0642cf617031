import RosMiddleware.Json5.Numeral
import RosMiddleware.Text.Basic

/-!
Messages that end in a place: the line and the column at which something failed. The place is
read off the end of a message and written anew; one in line zero is no place and is left out.
-/
namespace RosMiddleware.Config

structure Position where
  line : Nat
  column : Nat
deriving DecidableEq, Repr, Inhabited

namespace Position

/-- A number of 64 bits in decimal digits and nothing else. -/
def number? (digits : List Char) : Option Nat :=
  let n := Json5.ofDigits 10 digits
  if digits ≠ [] ∧ digits.all Json5.isDigit ∧ n < UInt64.size then some n else none

def lineMark : String := " at line "

def columnMark : String := " column "

/-- The part of a message before its place, and the place. -/
def cut? (message : String) : Option (String × Position) := do
  let (text, place) ← Text.cutLast? lineMark.toList message.toList
  let (line, column) ← Text.cutFirst? columnMark.toList place
  return (String.ofList text, ⟨← number? line, ← number? column⟩)

def ending (p : Position) : String :=
  if p.line = 0 then ""
  else lineMark ++ toString p.line ++ columnMark ++ toString p.column

/-- The message with its place, if it ends in one, written anew. -/
def normalize (message : String) : String :=
  match cut? message with
  | some (text, place) => text ++ place.ending
  | none => message

end Position

end RosMiddleware.Config
