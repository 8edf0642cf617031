/-!
Identities of transport entities: twelve bytes for the participant and four for the entity,
the most significant byte first.
-/
namespace RosMiddleware.Transport

structure Guid where
  host : BitVec 96
  entity : BitVec 32
deriving DecidableEq, Repr, Inhabited

def Guid.unknown : Guid := ⟨0, 0⟩

def Guid.isUnknown (g : Guid) : Bool := g == .unknown

def Guid.bits (g : Guid) : BitVec 128 := g.host ++ g.entity

def Guid.ofBits (bits : BitVec 128) : Guid :=
  ⟨bits.extractLsb' 32 96, bits.extractLsb' 0 32⟩

/-- Both parts in hexadecimal digits, with a bar between them. -/
def Guid.text (g : Guid) : String := g.host.toHex ++ "|" ++ g.entity.toHex

/-- The participant part of the `number`-th participant. -/
def Guid.hostOf (number : UInt32) : BitVec 96 := (0x010f000000000000 : BitVec 64) ++ number.toBitVec

/-- The entity part of a participant's reader: three bytes of its number, then the mark of
a reader without key. -/
def Guid.readerOf (number : UInt32) : BitVec 32 :=
  number.toBitVec.setWidth 24 ++ (0x04 : BitVec 8)

end RosMiddleware.Transport
