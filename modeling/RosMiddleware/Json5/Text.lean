import RosMiddleware.Json5.Numeral

/-!
The pieces that strings and bare words are written in, and the text they stand for. A pair
of surrogate escapes stands for one character above the first plane; the second of the pair
is whatever piece follows, read as a number in base sixteen.
-/
namespace RosMiddleware.Json5

inductive Piece
  | plain (c : Char)
  /-- A character after a backslash. -/
  | escaped (c : Char)
  | zero
  | byte (digits : List Char)
  | unit (digits : List Char)
deriving DecidableEq, Repr

/-- What a character after a backslash stands for. -/
def unescape (c : Char) : Char :=
  if c = 'b' then '\x08'
  else if c = 'f' then '\x0c'
  else if c = 'n' then '\n'
  else if c = 'r' then '\r'
  else if c = 't' then '\t'
  else if c = 'v' then '\x0b'
  else c

/-- How the piece is written, without what introduces it. -/
def Piece.written : Piece → List Char
  | .plain c => [c]
  | .escaped c => [c]
  | .zero => ['0']
  | .byte digits => digits
  | .unit digits => digits

def isLead (code : Nat) : Bool := decide (0xd800 ≤ code ∧ code < 0xdc00)

def isTrail (code : Nat) : Bool := decide (0xdc00 ≤ code ∧ code < 0xe000)

/-- The character of a surrogate pair: the ten low bits of the one before those of the other,
with bit 16 set. A lead that has the bit already gives the same character as one without it. -/
def paired (lead trail : Nat) : Char :=
  Char.ofNat (0x10000 ||| (lead - 0xd800) <<< 10 ||| (trail - 0xdc00))

def decode : List Piece → Except Fault (List Char)
  | [] => .ok []
  | .plain c :: rest => (c :: ·) <$> decode rest
  | .escaped c :: rest => (unescape c :: ·) <$> decode rest
  | .zero :: rest => ('\x00' :: ·) <$> decode rest
  | .byte digits :: rest => (Char.ofNat (ofDigits 16 digits) :: ·) <$> decode rest
  | .unit digits :: rest =>
    let code := ofDigits 16 digits
    if isTrail code then .error .strayTrail
    else if isLead code then
      match rest with
      | [] => .error .missingTrail
      | next :: rest =>
        if ¬ next.written.all isHexDigit then .error .hexadecimal
        else if isTrail (ofDigits 16 next.written) then
          (paired code (ofDigits 16 next.written) :: ·) <$> decode rest
        else .error .noTrail
    else (Char.ofNat code :: ·) <$> decode rest

def decodeText (pieces : List Piece) : Except Fault String :=
  String.ofList <$> decode pieces

end RosMiddleware.Json5
