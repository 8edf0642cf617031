/-!
Bytes shown as a text. Where they are not the bytes of characters, the longest beginning of a
character, or a byte that begins none, is replaced by one character.
-/
namespace RosMiddleware.Text

/-- A character that is not complete yet. -/
structure Begun where
  /-- What its bytes stand for so far. -/
  code : Nat
  missing : Nat
  /-- The bounds of the next byte. -/
  least : UInt8 := 0x80
  most : UInt8 := 0xBF

/-- It stands where bytes are no text. -/
def replacement : Char := '\ufffd'

/-- A byte where a character begins. After four of them not every byte may follow that goes on
others, so that no character has two forms and none is a surrogate or out of range. -/
def lead (b : UInt8) : List Char × Option Begun :=
  if b < 0x80 then ([Char.ofNat b.toNat], none)
  else if b < 0xC2 then ([replacement], none)
  else if b < 0xE0 then ([], some { code := b.toNat - 0xC0, missing := 1 })
  else if b = 0xE0 then ([], some { code := 0, missing := 2, least := 0xA0 })
  else if b = 0xED then ([], some { code := 0xD, missing := 2, most := 0x9F })
  else if b < 0xF0 then ([], some { code := b.toNat - 0xE0, missing := 2 })
  else if b = 0xF0 then ([], some { code := 0, missing := 3, least := 0x90 })
  else if b < 0xF4 then ([], some { code := b.toNat - 0xF0, missing := 3 })
  else if b = 0xF4 then ([], some { code := 4, missing := 3, most := 0x8F })
  else ([replacement], none)

/-- One more byte of a character, or the first of another one. -/
def Begun.next (p : Begun) (b : UInt8) : List Char × Option Begun :=
  if p.least ≤ b ∧ b ≤ p.most then
    let code := p.code * 64 + (b.toNat - 0x80)
    if p.missing = 1 then ([Char.ofNat code], none)
    else ([], some { code := code, missing := p.missing - 1 })
  else
    let (shown, begun) := lead b
    (replacement :: shown, begun)

def replacedFrom : Option Begun → List UInt8 → List Char
  | none, [] => []
  | some _, [] => [replacement]
  | begun, b :: bytes =>
    let (shown, begun) := (begun.map (·.next b)).getD (lead b)
    shown ++ replacedFrom begun bytes

/-- The text that the bytes are, or one with replacements. -/
def replaced (bytes : ByteArray) : String :=
  match String.fromUTF8? bytes with
  | some text => text
  | none => String.ofList (replacedFrom none bytes.toList)

end RosMiddleware.Text
