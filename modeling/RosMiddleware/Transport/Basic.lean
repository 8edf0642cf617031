import Std.Data.ExtTreeMap
import RosMiddleware.Transport.Attributes
import RosMiddleware.Transport.Guid
import RosMiddleware.Transport.Refusal
import RosMiddleware.TypeSupport

/-!
A transport participant in memory. It keeps the registered types, the listeners attached to
readers in the order of their creation, and counts of readers; each of its services can be
switched to fail.
-/
namespace RosMiddleware

/-- Where a listener is kept. -/
abbrev ListenerId := Nat

namespace Transport

structure Faults where
  registerType : Bool := false
  unregisterType : Bool := false
  createReader : Bool := false
  /-- Readers get the unknown identity. -/
  unknownGuid : Bool := false
deriving DecidableEq, Repr, Inhabited

/-- A listener that hears of the samples on a topic. -/
structure Attachment where
  guid : Guid
  topic : String
  listener : ListenerId
deriving DecidableEq, Repr, Inhabited

structure Reader where
  guid : Guid
  attributes : ReaderAttributes
deriving DecidableEq, Repr, Inhabited

end Transport

structure Transport where
  /-- The number of the participant. -/
  number : UInt32
  /-- The number of the next reader with a known identity. -/
  nextReader : UInt32 := 1
  defaults : Transport.ReaderAttributes := {}
  faults : Transport.Faults := {}
  types : Std.ExtTreeMap String Adapter := ∅
  attached : List Transport.Attachment := []
  liveReaders : Nat := 0
  /-- Readers ever created. -/
  createdReaders : Nat := 0

namespace Transport

instance : Inhabited Transport := ⟨{ number := 0 }⟩

/-- The `number`-th participant, with nothing registered or created. -/
def ofNumber (number : Nat) : Transport := { number := UInt32.ofNat number }

def isRegistered (t : Transport) (typeName : String) : Bool := t.types.contains typeName

/-- Each name is registered at most once. -/
def registerType (t : Transport) (a : Adapter) : Except Refusal Transport :=
  if t.faults.registerType then .error .registrationRejected
  else if t.isRegistered a.typeName then .error (.registeredTwice a.typeName)
  else .ok { t with types := t.types.insert a.typeName a }

def unregisterType (t : Transport) (typeName : String) : Except Refusal Transport :=
  if t.faults.unregisterType then .error .unregistrationRejected
  else if t.isRegistered typeName then .ok { t with types := t.types.erase typeName }
  else .error (.notRegistered typeName)

def nextGuid (t : Transport) : Guid :=
  if t.faults.unknownGuid then .unknown
  else ⟨Guid.hostOf t.number, Guid.readerOf t.nextReader⟩

/-- A reader needs a registered type. Its number is used up only if its identity is known. -/
def createReader (t : Transport) (attributes : ReaderAttributes)
    (listener : Option ListenerId) : Except Refusal (Reader × Transport) :=
  if t.faults.createReader then .error .readerRejected
  else if ¬ t.isRegistered attributes.typeName then .error (.notRegistered attributes.typeName)
  else
    let guid := t.nextGuid
    let attachment := listener.toList.map fun l => ⟨guid, attributes.topicName, l⟩
    .ok (⟨guid, attributes⟩,
      { t with
        nextReader := if t.faults.unknownGuid then t.nextReader else t.nextReader + 1
        attached := t.attached ++ attachment
        liveReaders := t.liveReaders + 1
        createdReaders := t.createdReaders + 1 })

/-- The reader is deleted, and with it the first listener attached under its identity. -/
def dropReader (t : Transport) (r : Reader) : Transport :=
  { t with
    attached := t.attached.eraseP fun a => a.guid == r.guid
    liveReaders := t.liveReaders - 1 }

/-- The listeners on a topic, in the order in which they were attached. -/
def listenersOn (t : Transport) (topic : String) : List ListenerId :=
  (t.attached.filter fun a => a.topic == topic).map Attachment.listener

end Transport

end RosMiddleware
