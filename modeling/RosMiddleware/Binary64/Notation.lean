import RosMiddleware.Binary64.Shortest

/-!
The written forms of numbers: plain positional notation, and a notation that changes to an
exponent for very large and very small numbers. A whole number keeps one decimal place.
-/
namespace RosMiddleware.Binary64

structure Style where
  /-- The powers of ten of the first digit between which the number is written out. -/
  positional : Option (Int × Int)
  tie : Tie

/-- Every number is written out, and of two equally near decimals the larger one is. -/
def Style.plain : Style := ⟨none, .upward⟩

/-- Exponents are used below `10 ^ (-5)` and from `10 ^ 16` on; ties go to even digits. -/
def Style.compact : Style := ⟨some (-5, 15), .toEven⟩

def zeros (n : Nat) : List Char := List.replicate n '0'

def Decimal.writtenOut (d : Decimal) : List Char :=
  let digits := Nat.toDigits 10 d.digits
  if 0 ≤ d.exponent then digits ++ zeros d.exponent.toNat ++ ['.', '0']
  else
    let places := (-d.exponent).toNat
    if places < digits.length then
      digits.take (digits.length - places) ++ '.' :: digits.drop (digits.length - places)
    else '0' :: '.' :: zeros (places - digits.length) ++ digits

def Decimal.leading (d : Decimal) : Int :=
  (Nat.toDigits 10 d.digits).length - 1 + d.exponent

/-- A number with its sign, also if it is not negative. -/
def signed (i : Int) : List Char :=
  if 0 ≤ i then '+' :: (toString i).toList else (toString i).toList

/-- One digit before the point, and the power of ten with its sign behind an `e`. -/
def Decimal.withExponent (d : Decimal) : List Char :=
  let mantissa :=
    match Nat.toDigits 10 d.digits with
    | [] => []
    | [first] => [first]
    | first :: rest => first :: '.' :: rest
  mantissa ++ 'e' :: signed d.leading

def Style.decimal (style : Style) (d : Decimal) : List Char :=
  match style.positional with
  | none => d.writtenOut
  | some (low, high) =>
    if low ≤ d.leading ∧ d.leading ≤ high then d.writtenOut else d.withExponent

def Style.text (style : Style) (x : Binary64) : String :=
  if x.isNaN then "NaN"
  else
    let magnitude :=
      if ¬ x.isFinite then "inf".toList
      else if x.field = 0 then "0.0".toList
      else style.decimal (shortest style.tie x.field)
    String.ofList (if x.isNegative then '-' :: magnitude else magnitude)

end RosMiddleware.Binary64
