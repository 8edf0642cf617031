import RosMiddleware.Binary64.Basic
import RosMiddleware.Json5.Fault

/-!
Numerals: what they are in the grammar, and what they stand for. A numeral without point
and exponent is an integer of 64 bits; one in base sixteen is an integer of 32 bits
without a sign.
-/
namespace RosMiddleware.Json5

def isDigit (c : Char) : Bool :=
  decide ('0' ≤ c ∧ c ≤ '9')

def isHexDigit (c : Char) : Bool :=
  isDigit c || decide ('a' ≤ c ∧ c ≤ 'f') || decide ('A' ≤ c ∧ c ≤ 'F')

def hexDigit (c : Char) : Nat :=
  if isDigit c then c.toNat - 48
  else if decide ('a' ≤ c) then c.toNat - 87
  else c.toNat - 55

def ofDigits (base : Nat) (digits : List Char) : Nat :=
  digits.foldl (fun n c => n * base + hexDigit c) 0

inductive Sign
  | none
  | plus
  | minus
deriving DecidableEq, Repr

/-- A numeral without its sign. -/
inductive Magnitude
  | infinity
  | nan
  | hexadecimal (digits : List Char)
  /-- The fraction is there if the point is; the exponent has its sign. -/
  | decimal (whole : List Char) (fraction : Option (List Char))
      (exponent : Option (Bool × List Char))
deriving DecidableEq, Repr

structure Numeral where
  sign : Sign
  magnitude : Magnitude
deriving DecidableEq, Repr

/-- A whole part is a zero or begins with another digit. -/
def isWhole (digits : List Char) : Bool :=
  digits == ['0'] || (digits.head?.any fun c => c != '0')

/-- The exponent that the rest of a decimal numeral is, if it is one or nothing. -/
def exponent? : List Char → Option (Option (Bool × List Char))
  | [] => some none
  | mark :: rest =>
    if mark = 'e' ∨ mark = 'E' then
      let (negative, digits) :=
        match rest with
        | '-' :: digits => (true, digits)
        | '+' :: digits => (false, digits)
        | digits => (false, digits)
      if digits ≠ [] ∧ digits.all isDigit then some (some (negative, digits)) else none
    else none

def decimal? (cs : List Char) : Option Magnitude :=
  let whole := cs.takeWhile isDigit
  match cs.dropWhile isDigit with
  | '.' :: rest =>
    let fraction := rest.takeWhile isDigit
    if isWhole whole ∨ (whole = [] ∧ fraction ≠ []) then
      (exponent? (rest.dropWhile isDigit)).map (.decimal whole (some fraction))
    else none
  | rest => if isWhole whole then (exponent? rest).map (.decimal whole none) else none

def magnitude? (cs : List Char) : Option Magnitude :=
  if cs = "Infinity".toList then some .infinity
  else if cs = "NaN".toList then some .nan
  else match cs with
    | '0' :: mark :: digits =>
      if mark = 'x' ∨ mark = 'X' then
        if digits ≠ [] ∧ digits.all isHexDigit then some (.hexadecimal digits) else none
      else decimal? cs
    | _ => decimal? cs

/-- The numeral that `cs` is, if it is one. -/
def Numeral.read? : List Char → Option Numeral
  | '+' :: cs => (magnitude? cs).map fun m => ⟨.plus, m⟩
  | '-' :: cs => (magnitude? cs).map fun m => ⟨.minus, m⟩
  | cs => (magnitude? cs).map fun m => ⟨.none, m⟩

inductive Number
  | int (i : Int)
  | float (x : Binary64)
deriving DecidableEq, Repr

/-- An integer of 64 bits with its sign. -/
def signed (sign : Sign) (n : Nat) : Except Fault Number :=
  if sign = .minus ∧ n ≤ 1 <<< 63 then .ok (.int (-n))
  else if sign ≠ .minus ∧ n < 1 <<< 63 then .ok (.int n)
  else .error .integer

def Numeral.value (n : Numeral) : Except Fault Number :=
  match n.magnitude with
  | .infinity =>
    if n.sign = .plus then .error .integer
    else .ok (.float (Binary64.infinity (n.sign = .minus)))
  | .nan => if n.sign = .plus then .error .integer else .ok (.float Binary64.nan)
  | .hexadecimal digits =>
    if n.sign = .none then
      let value := ofDigits 16 digits
      if value < UInt32.size then .ok (.int value) else .error .hexadecimal
    else if digits.any fun c => c == 'e' || c == 'E' then .error .number
    else .error .integer
  | .decimal whole none none => signed n.sign (ofDigits 10 whole)
  | .decimal whole fraction exponent =>
    let places := fraction.getD []
    let power : Int :=
      match exponent with
      | none => 0
      | some (negative, digits) =>
        if negative then -(ofDigits 10 digits : Int) else ofDigits 10 digits
    match Binary64.ofDecimal? (n.sign = .minus) (ofDigits 10 (whole ++ places))
        (power - places.length) with
    | some x => .ok (.float x)
    | none => .error .range

end RosMiddleware.Json5
