import RosMiddleware.Binary64.Basic

/-!
The shortest decimal that reads back as a given number and, of those, the nearest one.
-/
namespace RosMiddleware.Binary64

/-- Which of two equally near decimals is taken. -/
inductive Tie
  | upward
  | toEven
deriving DecidableEq, Repr

/-- `digits * 10 ^ exponent`. -/
structure Decimal where
  digits : Nat
  exponent : Int
deriving DecidableEq, Repr

/-- The leading bit of the significands that have 53 bits. -/
def hiddenBit : Nat := 1 <<< 52

/-- A finite number as `significand * 2 ^ unit`. -/
def significandAndUnit (field : Nat) : Nat × Int :=
  if field < hiddenBit then (field, -1074)
  else (hiddenBit + field % hiddenBit, (field / hiddenBit : Nat) - 1075)

/-- The exponent `e` with `10 ^ e ≤ num / den < 10 ^ (e + 1)`, for positive arguments. -/
def leadingDigit (num den : Nat) : Int :=
  let guess : Int := (Nat.toDigits 10 num).length - ((Nat.toDigits 10 den).length : Int)
  let reached : Bool :=
    if 0 ≤ guess then decide (den * Nat.pow 10 guess.toNat ≤ num)
    else decide (den ≤ num * Nat.pow 10 (-guess).toNat)
  if reached then guess else guess - 1

/-- The point of the grid of spacing `10 ^ exponent` that reads back as the number with
these bits and is nearest to it, if a neighbour on that grid reads back at all. Lengths
are measured in quarters of the number's unit. -/
def onGrid? (tie : Tie) (field : Nat) (exponent : Int) : Option Decimal :=
  let (significand, unit) := significandAndUnit field
  let below := if field % hiddenBit = 0 ∧ hiddenBit < field then 1 else 2
  let quarter : Int := unit - 2
  let num := Nat.pow 10 exponent.toNat <<< (-quarter).toNat
  let den := Nat.pow 10 (-exponent).toNat <<< quarter.toNat
  let value := 4 * significand * den
  let low := (4 * significand - below) * den
  let high := (4 * significand + 2) * den
  let readsBack (point : Nat) : Bool :=
    if significand % 2 = 0 then decide (low ≤ point * num ∧ point * num ≤ high)
    else decide (low < point * num ∧ point * num < high)
  let floor := value / num
  let choice : Option Nat :=
    match readsBack floor, readsBack (floor + 1) with
    | false, false => none
    | true, false => some floor
    | false, true => some (floor + 1)
    | true, true =>
      let down := value - floor * num
      let up := (floor + 1) * num - value
      if down < up then some floor
      else if up < down then some (floor + 1)
      else match tie with
        | .upward => some (floor + 1)
        | .toEven => some (floor + floor % 2)
  choice.map fun digits => ⟨digits, exponent⟩

/-- Trailing zeros move into the exponent; at most `fuel` of them. -/
def Decimal.trimmed (fuel : Nat) (d : Decimal) : Decimal :=
  match fuel with
  | 0 => d
  | fuel + 1 =>
    if d.digits ≠ 0 ∧ d.digits % 10 = 0 then
      Decimal.trimmed fuel ⟨d.digits / 10, d.exponent + 1⟩
    else d

/-- The shortest decimal for a positive finite number: the first grid, from coarse to fine,
on which a neighbour reads back. Seventeen digits always suffice. -/
def shortest (tie : Tie) (field : Nat) : Decimal :=
  let (significand, unit) := significandAndUnit field
  let leading := leadingDigit (significand <<< unit.toNat) (1 <<< (-unit).toNat)
  let grids := (List.range 17).map fun (n : Nat) => leading - n
  ((grids.findSome? (onGrid? tie field)).getD ⟨significand, unit⟩).trimmed 20

end RosMiddleware.Binary64
