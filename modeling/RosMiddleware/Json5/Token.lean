import RosMiddleware.Json5.Identifier
import RosMiddleware.Json5.Text

/-!
Tokens: brackets, braces, colons, commas, strings, bare words and runs of the characters of
numerals. White space and comments only separate them. The text is read character by
character by a machine whose state says what is being read.
-/
namespace RosMiddleware.Json5

inductive Token
  | mark (c : Char)
  | text (pieces : List Piece)
  | word (pieces : List Piece)
  | number (written : List Char)
deriving DecidableEq, Repr

def isLineEnd (c : Char) : Bool :=
  c == '\n' || c == '\r' || c == '\u2028' || c == '\u2029'

def spaceRanges : List (Nat × Nat) :=
  [(0x9, 0x9), (0xb, 0xc), (0x20, 0x20), (0xa0, 0xa0), (0x1680, 0x1680), (0x2000, 0x200a),
    (0x202f, 0x202f), (0x205f, 0x205f), (0x3000, 0x3000), (0xfeff, 0xfeff)]

def isSpace (c : Char) : Bool :=
  isLineEnd c || Text.within spaceRanges c

def marks : List Char := ['[', ']', '\x7b', '\x7d', ':', ',']

/-- Whether `c` may stand after the first character of a numeral. -/
def isNumberPart (c : Char) : Bool :=
  c == '.' || c == '+' || c == '-' || c.isAlphanum

/-- What is being read. The pieces and characters read so far come last first; what a
string or a word is written in is told apart by the quote, which a word has not. -/
inductive Reading
  | nothing
  | slash
  | lineComment
  | blockComment
  | blockStar
  | number (written : List Char)
  | word (pieces : List Piece)
  | text (quote : Char) (pieces : List Piece)
  /-- After a backslash. -/
  | escape (quote : Option Char) (pieces : List Piece)
  /-- After a backslash and a carriage return: a line feed would belong to them. -/
  | carriage (quote : Char) (pieces : List Piece)
  /-- Inside the digits of an escape, of which some are missing. -/
  | digits (quote : Option Char) (pieces : List Piece) (wide : Bool) (missing : Nat)
      (seen : List Char)
deriving DecidableEq, Repr

/-- The tokens read so far, last first, and what is being read. -/
structure Scanner where
  tokens : List Token
  reading : Reading
deriving DecidableEq, Repr

def Scanner.start (tokens : List Token) (c : Char) : Option Scanner :=
  if isSpace c then some ⟨tokens, .nothing⟩
  else if c = '/' then some ⟨tokens, .slash⟩
  else if marks.contains c then some ⟨.mark c :: tokens, .nothing⟩
  else if c = '"' ∨ c = '\'' then some ⟨tokens, .text c []⟩
  else if isDigit c ∨ c = '.' ∨ c = '+' ∨ c = '-' then some ⟨tokens, .number [c]⟩
  else if c = '\\' then some ⟨tokens, .escape none []⟩
  else if isWordStart c then some ⟨tokens, .word [.plain c]⟩
  else none

def Scanner.escape (tokens : List Token) (quote : Char) (pieces : List Piece) (c : Char) :
    Option Scanner :=
  if c = 'u' then some ⟨tokens, .digits (some quote) pieces true 4 []⟩
  else if c = 'x' then some ⟨tokens, .digits (some quote) pieces false 2 []⟩
  else if c = '0' then some ⟨tokens, .text quote (.zero :: pieces)⟩
  else if isDigit c then none
  else if c = '\r' then some ⟨tokens, .carriage quote pieces⟩
  else if isLineEnd c then some ⟨tokens, .text quote pieces⟩
  else some ⟨tokens, .text quote (.escaped c :: pieces)⟩

def Scanner.text (tokens : List Token) (quote : Char) (pieces : List Piece) (c : Char) :
    Option Scanner :=
  if c = quote then some ⟨.text pieces.reverse :: tokens, .nothing⟩
  else if c = '\\' then some ⟨tokens, .escape (some quote) pieces⟩
  else if isLineEnd c then none
  else some ⟨tokens, .text quote (.plain c :: pieces)⟩

/-- Back to the string or word that an escape stands in. -/
def Reading.resume (quote : Option Char) (pieces : List Piece) : Reading :=
  match quote with
  | some quote => .text quote pieces
  | none => .word pieces

def Scanner.step (s : Scanner) (c : Char) : Option Scanner :=
  match s.reading with
  | .nothing => Scanner.start s.tokens c
  | .slash =>
    if c = '/' then some { s with reading := .lineComment }
    else if c = '*' then some { s with reading := .blockComment }
    else none
  | .lineComment => some (if isLineEnd c then { s with reading := .nothing } else s)
  | .blockComment => some (if c = '*' then { s with reading := .blockStar } else s)
  | .blockStar =>
    if c = '/' then some { s with reading := .nothing }
    else if c = '*' then some s
    else some { s with reading := .blockComment }
  | .number written =>
    if isNumberPart c then some { s with reading := .number (c :: written) }
    else Scanner.start (.number written.reverse :: s.tokens) c
  | .word pieces =>
    if c = '\\' then some { s with reading := .escape none pieces }
    else if isWordPart c then some { s with reading := .word (.plain c :: pieces) }
    else Scanner.start (.word pieces.reverse :: s.tokens) c
  | .text quote pieces => Scanner.text s.tokens quote pieces c
  | .escape (some quote) pieces => Scanner.escape s.tokens quote pieces c
  | .escape none pieces =>
    if c = 'u' then some { s with reading := .digits none pieces true 4 [] } else none
  | .carriage quote pieces =>
    if c = '\n' then some { s with reading := .text quote pieces }
    else Scanner.text s.tokens quote pieces c
  | .digits quote pieces wide missing seen =>
    if ¬ isHexDigit c then none
    else if missing ≤ 1 then
      let digits := (c :: seen).reverse
      let piece := if wide then Piece.unit digits else Piece.byte digits
      some { s with reading := .resume quote (piece :: pieces) }
    else some { s with reading := .digits quote pieces wide (missing - 1) (c :: seen) }

/-- The tokens at the end of the text, unless something is left open. -/
def Scanner.finish (s : Scanner) : Option (List Token) :=
  match s.reading with
  | .nothing | .lineComment => some s.tokens.reverse
  | .number written => some (.number written.reverse :: s.tokens).reverse
  | .word pieces => some (.word pieces.reverse :: s.tokens).reverse
  | _ => none

def tokens? (text : List Char) : Option (List Token) :=
  (text.foldlM Scanner.step ⟨[], .nothing⟩).bind Scanner.finish

end RosMiddleware.Json5
