import RosMiddleware.Binary64.Basic

/-!
Values of a configuration: null, booleans, integers, finite numbers, texts, lists, and
fields under names. The fields of an object are in ascending order of their names, and of
two fields of one name the later one counts.
-/
namespace RosMiddleware.Json

inductive Value
  | null
  | bool (b : Bool)
  | int (i : Int)
  | float (x : Binary64)
  | text (s : String)
  | array (items : List Value)
  | object (fields : List (String × Value))
deriving Inhabited

/-- The fields with `value` under `name`, in place of what stood there. -/
def setField (name : String) (value : Value) : List (String × Value) → List (String × Value)
  | [] => [(name, value)]
  | field :: fields =>
    if name < field.1 then (name, value) :: field :: fields
    else if name = field.1 then (name, value) :: fields
    else field :: setField name value fields

/-- The object written with these fields, in this order. -/
def Value.ofFields (fields : List (String × Value)) : Value :=
  .object (fields.foldl (fun done field => setField field.1 field.2 done) [])

/-- The number that an unbounded numeral of a plain text stands for: an integer if it is
one of 64 bits, signed or not, and else the nearest number, if there is one. A negative
zero is no integer. -/
def Value.ofDecimal? (negative whole : Bool) (digits : Nat) (exponent : Int) : Option Value :=
  if whole ∧ ¬ negative ∧ digits < UInt64.size then some (.int digits)
  else if whole ∧ negative ∧ 0 < digits ∧ digits ≤ 1 <<< 63 then some (.int (-digits))
  else (Binary64.ofDecimal? negative digits exponent).map .float

end RosMiddleware.Json
