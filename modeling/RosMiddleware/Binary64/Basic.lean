/-!
Binary floating point numbers of 64 bits, read exactly: the number nearest to a quotient of
naturals, a half going to the even neighbour, and the number a decimal numeral stands for.
-/
namespace RosMiddleware

/-- A number of 64 bits: a sign, eleven bits of exponent, 52 bits of fraction. -/
structure Binary64 where
  bits : BitVec 64
deriving DecidableEq, Repr, Inhabited

namespace Binary64

/-- The quotient rounded to the nearest natural, a half going to the even one. -/
def roundHalfEven (num den : Nat) : Nat :=
  let quotient := num / den
  let twice := 2 * (num % den)
  if twice < den then quotient
  else if den < twice then quotient + 1
  else quotient + quotient % 2

/-- The exponent `e` with `2 ^ e ≤ num / den < 2 ^ (e + 1)`, for positive arguments. -/
def leadingBit (num den : Nat) : Int :=
  let guess : Int := (num.log2 : Int) - den.log2
  let reached : Bool :=
    if 0 ≤ guess then decide (den <<< guess.toNat ≤ num)
    else decide (den ≤ num <<< (-guess).toNat)
  if reached then guess else guess - 1

/-- The exponent and fraction bits of the number nearest to `num / den`; from
`infinityField` on, the quotient is out of range. -/
def nearestField (num den : Nat) : Nat :=
  if num = 0 then 0
  else
    let unit : Int := max (leadingBit num den - 52) (-1074)
    let significand :=
      if 0 ≤ unit then roundHalfEven num (den <<< unit.toNat)
      else roundHalfEven (num <<< (-unit).toNat) den
    ((unit + 1074).toNat <<< 52) + significand

def infinityField : Nat := 0x7ff <<< 52

def ofField (negative : Bool) (field : Nat) : Binary64 :=
  ⟨BitVec.ofNat 64 ((if negative then 1 <<< 63 else 0) + field)⟩

def nan : Binary64 := ofField false (infinityField + (1 <<< 51))

def infinity (negative : Bool) : Binary64 := ofField negative infinityField

/-- The number nearest to `± digits * 10 ^ exponent`, unless that is out of range. Powers
are only taken of exponents that can matter. -/
def ofDecimal? (negative : Bool) (digits : Nat) (exponent : Int) : Option Binary64 :=
  let leading : Int := (Nat.toDigits 10 digits).length + exponent
  if digits = 0 ∨ leading < -330 then some (ofField negative 0)
  else if 320 < leading then none
  else
    let field :=
      if 0 ≤ exponent then nearestField (digits * Nat.pow 10 exponent.toNat) 1
      else nearestField digits (Nat.pow 10 (-exponent).toNat)
    if field < infinityField then some (ofField negative field) else none

def isNegative (x : Binary64) : Bool := x.bits.msb

def field (x : Binary64) : Nat := x.bits.toNat % (1 <<< 63)

def isNaN (x : Binary64) : Bool := decide (infinityField < x.field)

def isFinite (x : Binary64) : Bool := decide (x.field < infinityField)

end Binary64

end RosMiddleware
