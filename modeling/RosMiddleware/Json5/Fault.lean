/-!
What can be wrong with a text that should be a JSON5 value. The grammar is checked over the
whole text first; the other faults belong to single numerals and strings.
-/
namespace RosMiddleware.Json5

inductive Fault
  | grammar
  /-- No integer of 64 bits. -/
  | integer
  | number
  /-- Beyond the largest finite number. -/
  | range
  | hexadecimal
  /-- The second half of a surrogate pair without the first. -/
  | strayTrail
  /-- Nothing after the first half of a surrogate pair. -/
  | missingTrail
  /-- Another code after the first half of a surrogate pair. -/
  | noTrail
deriving DecidableEq, Repr, Inhabited

def Fault.message : Fault → String
  | .grammar => "<syntax error>"
  | .integer => "error parsing integer"
  | .number => "error parsing number"
  | .range => "error parsing number: too large"
  | .hexadecimal => "error parsing hex"
  | .strayTrail => "unexpected unicode trail surrogate"
  | .missingTrail => "missing unicode trail surrogate"
  | .noTrail => "expecting unicode trail surrogate"

end RosMiddleware.Json5
