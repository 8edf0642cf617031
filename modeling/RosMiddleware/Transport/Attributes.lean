/-!
What the transport needs to know of a reader: its topic, its policies, and durations, of
which an absent one is infinite. Each choice has a name of one word.
-/
namespace RosMiddleware.Transport

inductive TopicKind
  | noKey
  | withKey
deriving DecidableEq, Repr, Inhabited

def TopicKind.all : List TopicKind := [.noKey, .withKey]

def TopicKind.name : TopicKind → String
  | .noKey => "NoKey"
  | .withKey => "WithKey"

inductive Reliability
  | bestEffort
  | reliable
deriving DecidableEq, Repr, Inhabited

def Reliability.all : List Reliability := [.bestEffort, .reliable]

def Reliability.name : Reliability → String
  | .bestEffort => "BestEffort"
  | .reliable => "Reliable"

inductive Durability
  | volatile
  | transientLocal
deriving DecidableEq, Repr, Inhabited

def Durability.all : List Durability := [.volatile, .transientLocal]

def Durability.name : Durability → String
  | .volatile => "Volatile"
  | .transientLocal => "TransientLocal"

inductive History
  | keepLast (depth : UInt32)
  | keepAll
deriving DecidableEq, Repr, Inhabited

inductive Liveliness
  | automatic
  | manualByParticipant
  | manualByTopic
deriving DecidableEq, Repr, Inhabited

def Liveliness.all : List Liveliness := [.automatic, .manualByParticipant, .manualByTopic]

def Liveliness.name : Liveliness → String
  | .automatic => "Automatic"
  | .manualByParticipant => "ManualByParticipant"
  | .manualByTopic => "ManualByTopic"

/-- How the samples of a history are stored. -/
inductive MemoryPolicy
  | preallocated
  | preallocatedWithRealloc
  | dynamic
deriving DecidableEq, Repr, Inhabited

def MemoryPolicy.all : List MemoryPolicy := [.preallocated, .preallocatedWithRealloc, .dynamic]

def MemoryPolicy.name : MemoryPolicy → String
  | .preallocated => "Preallocated"
  | .preallocatedWithRealloc => "PreallocatedWithRealloc"
  | .dynamic => "Dynamic"

def MemoryPolicy.ofName? (name : String) : Option MemoryPolicy :=
  MemoryPolicy.all.find? fun policy => policy.name == name

/-- Whole seconds and the nanoseconds of less than one second. -/
structure Span where
  seconds : UInt64
  nanos : Nat
  nanos_lt : nanos < 1000000000 := by decide
deriving DecidableEq, Repr

def Span.total (s : Span) : Nat := s.seconds.toNat * 1000000000 + s.nanos

structure ReaderAttributes where
  topicKind : TopicKind := .noKey
  topicName : String := ""
  typeName : String := ""
  reliability : Reliability := .bestEffort
  durability : Durability := .volatile
  history : History := .keepLast 1
  deadline : Option Span := none
  lifespan : Option Span := none
  liveliness : Liveliness := .automatic
  lease : Option Span := none
  memoryPolicy : MemoryPolicy := .preallocated
deriving DecidableEq, Repr

instance : Inhabited ReaderAttributes := ⟨{}⟩

end RosMiddleware.Transport
