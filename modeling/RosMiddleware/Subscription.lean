import RosMiddleware.Gid
import RosMiddleware.Listener
import RosMiddleware.Qos.Encoding
import RosMiddleware.TopicName
import RosMiddleware.TypeRegistry

/-!
Subscriptions. One is made of a hold on its registered type, a listener if it wants one, and
a reader of the transport; they are acquired in this order, and when one of them cannot be
had, those before it are given up again in the reverse order.
-/
namespace RosMiddleware

open Transport (Reader ReaderAttributes)

structure Subscription where
  implementation : String
  topicName : String
  ignoreLocal : Bool
  reader : Reader
  listener : Option ListenerId
  hold : TypeHold
  /-- The convention of the type support that was selected. -/
  convention : String
  gid : Gid
  /-- The profile that was asked for. -/
  qos : Qos.Profile
deriving DecidableEq, Repr, Inhabited

namespace Subscription

def ddsTopicName (s : Subscription) : String := s.reader.attributes.topicName

def typeName (s : Subscription) : String := s.hold.typeName

def adapter (s : Subscription) : Adapter := s.hold.registration.adapter

def actualQos (s : Subscription) : Qos.Profile :=
  .ofAttributes s.reader.attributes s.qos.rawNames

def gidDiagnostic (g : Gid) : String :=
  Text.record "Gid"
    [("implementation_identifier", Text.quoted g.implementation),
      ("data", "[" ++ ", ".intercalate (g.bytes.map toString) ++ "]")]

def diagnostic (s : Subscription) : String :=
  Text.record "Subscription"
    [("implementation_identifier", Text.quoted s.implementation),
      ("topic_name", Text.quoted s.topicName),
      ("type_name", Text.quoted s.typeName),
      ("gid", gidDiagnostic s.gid),
      ("listener", Text.truth s.listener.isSome)]

/-- What a subscription is asked to be. -/
structure Request where
  offered : List TypeSupport
  topic : String
  qos : Qos.Profile := {}
  ignoreLocal : Bool := false
  keyed : Bool := false
  wantsListener : Bool
deriving DecidableEq, Repr, Inhabited

namespace Request

/-- The attributes of the reader before the profile is written over them. -/
def baseAttributes (r : Request) (settings : Settings) (type : MessageType)
    (defaults : ReaderAttributes) : ReaderAttributes :=
  { defaults with
    topicKind := if r.keyed then .withKey else .noKey
    topicName := TopicName.build r.qos Channel.message.mark r.topic ""
    typeName := type.typeName
    memoryPolicy :=
      if settings.keepTransportPolicy then defaults.memoryPolicy else settings.memoryPolicy }

def attributes (r : Request) (settings : Settings) (type : MessageType)
    (defaults : ReaderAttributes) : Except Qos.Rejection ReaderAttributes :=
  match r.qos.writeTo (r.baseAttributes settings type defaults) with
  | (.ok (), attributes) => .ok attributes
  | (.error rejection, _) => .error rejection

/-- What is wrong with the request itself; otherwise the type support to be used. -/
def check (r : Request) (isOpen : Bool) : Except Error TypeSupport :=
  if r.topic = "" then .error .emptyTopic
  else if ¬ isOpen then .error .participantShutDown
  else
    match TypeSupport.select r.offered with
    | .error e => .error e
    | .ok support =>
      match r.qos.check with
      | .error rejection => .error (.qos rejection)
      | .ok () => .ok support

end Request

end Subscription

namespace Registrar

open Subscription (Request)

def adapterFor (type : MessageType) : Factory := fun built => .ok ⟨built, type⟩

/-- A creation that cannot go on: the hold is dropped. -/
def giveUp (s : Registrar) (hold : TypeHold) (e : Error) :
    Except Error Subscription × Registrar × List Event :=
  let (s, events) := s.dropHold hold
  (.error e, s, events)

/-- The hold, the reader and the identifier of a subscription; `listener` is where its
listener will be kept if it wants one. -/
def establish (s : Registrar) (settings : Settings) (listener : ListenerId) (r : Request)
    (support : TypeSupport) : Except Error Subscription × Registrar × List Event :=
  match s.acquire support.type.typeName (adapterFor support.type) with
  | (.error e, s) => (.error e, s, [])
  | (.ok hold, s) =>
    match r.attributes settings support.type s.transport.defaults with
    | .error rejection => s.giveUp hold (.readerQos rejection)
    | .ok attributes =>
      let attached := if r.wantsListener then some listener else none
      match s.transport.createReader attributes attached with
      | .error refusal => s.giveUp hold (.readerCreation refusal)
      | .ok (reader, transport) =>
        match Gid.ofGuid implementationTag reader.guid with
        | .error e => { s with transport := transport.dropReader reader }.giveUp hold e
        | .ok gid =>
          (.ok
            { implementation := implementationTag
              topicName := r.topic
              ignoreLocal := r.ignoreLocal
              reader := reader
              listener := attached
              hold := hold
              convention := support.convention
              gid := gid
              qos := r.qos },
            { s with transport := transport }, [])

/-- The reader goes first, then the hold; a refusal goes to the log. -/
def drop (s : Registrar) (sub : Subscription) : Registrar × List Event :=
  { s with transport := s.transport.dropReader sub.reader }.dropHold sub.hold

/-- The same, but a refusal is returned. -/
def tearDown (s : Registrar) (sub : Subscription) : Except Error Unit × Registrar :=
  { s with transport := s.transport.dropReader sub.reader }.releaseHold sub.hold

end Registrar

end RosMiddleware
