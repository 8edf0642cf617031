import RosMiddleware.Qos.Duration

/-!
Profiles: the policies that the user of a subscription asks for, and how they are shown. The
name of a choice is one word; its text is for people.
-/
namespace RosMiddleware.Qos

inductive Reliability
  | systemDefault
  | reliable
  | bestEffort
  | unknown
deriving DecidableEq, Repr, Inhabited

def Reliability.all : List Reliability := [.systemDefault, .reliable, .bestEffort, .unknown]

def Reliability.name : Reliability → String
  | .systemDefault => "SystemDefault"
  | .reliable => "Reliable"
  | .bestEffort => "BestEffort"
  | .unknown => "Unknown"

def Reliability.text : Reliability → String
  | .systemDefault => "System Default"
  | .reliable => "Reliable"
  | .bestEffort => "Best Effort"
  | .unknown => "Unknown"

inductive Durability
  | systemDefault
  | transientLocal
  | volatile
  | unknown
deriving DecidableEq, Repr, Inhabited

def Durability.all : List Durability := [.systemDefault, .transientLocal, .volatile, .unknown]

def Durability.name : Durability → String
  | .systemDefault => "SystemDefault"
  | .transientLocal => "TransientLocal"
  | .volatile => "Volatile"
  | .unknown => "Unknown"

def Durability.text : Durability → String
  | .systemDefault => "System Default"
  | .transientLocal => "Transient Local"
  | .volatile => "Volatile"
  | .unknown => "Unknown"

inductive History
  | systemDefault
  | keepLast (depth : UInt64)
  | keepAll
  | unknown
deriving DecidableEq, Repr, Inhabited

def History.text : History → String
  | .systemDefault => "System Default"
  | .keepLast depth => "Keep Last (" ++ toString depth.toNat ++ ")"
  | .keepAll => "Keep All"
  | .unknown => "Unknown"

def defaultDepth : UInt64 := 10

/-- The history that keeps the last samples; a depth of zero asks for the usual depth. -/
def History.ofDepth (depth : UInt64) : History :=
  .keepLast (if depth = 0 then defaultDepth else depth)

inductive Liveliness
  | systemDefault
  | automatic
  | manualByNode
  | manualByTopic
  | unknown
deriving DecidableEq, Repr, Inhabited

def Liveliness.all : List Liveliness :=
  [.systemDefault, .automatic, .manualByNode, .manualByTopic, .unknown]

def Liveliness.name : Liveliness → String
  | .systemDefault => "SystemDefault"
  | .automatic => "Automatic"
  | .manualByNode => "ManualByNode"
  | .manualByTopic => "ManualByTopic"
  | .unknown => "Unknown"

def Liveliness.text : Liveliness → String
  | .systemDefault => "System Default"
  | .automatic => "Automatic"
  | .manualByNode => "Manual by Node"
  | .manualByTopic => "Manual by Topic"
  | .unknown => "Unknown"

structure Profile where
  reliability : Reliability := .reliable
  durability : Durability := .volatile
  history : History := .keepLast defaultDepth
  deadline : Duration := .infinite
  lifespan : Duration := .infinite
  liveliness : Liveliness := .automatic
  lease : Duration := .infinite
  /-- The topic name is used as it is, without the prefix of topics. -/
  rawNames : Bool := false
deriving DecidableEq, Repr

instance : Inhabited Profile := ⟨{}⟩

namespace Profile

/-- The profile of sensor readings: losses are accepted and few samples are kept. -/
def sensorData : Profile := { reliability := .bestEffort, history := .keepLast 5 }

/-- The profile that leaves every policy to the transport. -/
def systemDefault : Profile where
  reliability := .systemDefault
  durability := .systemDefault
  history := .systemDefault
  liveliness := .systemDefault

/-- The three policies that are always shown, then what differs from the usual. -/
def text (q : Profile) : String :=
  let bound (label : String) (d : Duration) :=
    if d = .infinite then "" else ", " ++ label ++ "=" ++ d.text
  "QoS(" ++ q.reliability.text ++ ", " ++ q.durability.text ++ ", " ++ q.history.text
    ++ bound "deadline" q.deadline ++ bound "lifespan" q.lifespan
    ++ (if q.liveliness = .automatic then "" else ", liveliness=" ++ q.liveliness.text)
    ++ bound "lease" q.lease ++ (if q.rawNames then ", raw names" else "") ++ ")"

end Profile

inductive Rejection
  | unknownReliability
  | unknownDurability
  | manualByNode
  | unknownLiveliness
  | depthBeyondRange (depth : UInt64)
  | unknownHistory
deriving DecidableEq, Repr, Inhabited

def Rejection.message : Rejection → String
  | .unknownReliability => "unknown QoS reliability policy"
  | .unknownDurability => "unknown QoS durability policy"
  | .manualByNode => "MANUAL_BY_NODE liveliness is not supported"
  | .unknownLiveliness => "unknown QoS liveliness policy"
  | .depthBeyondRange depth =>
    "history depth " ++ toString depth.toNat ++ " exceeds the transport limit"
  | .unknownHistory => "unknown QoS history policy"

/-- Profiles that no transport can honour are refused before anything is asked of one. -/
def Profile.check (q : Profile) : Except Rejection Unit :=
  if q.liveliness = .manualByNode then .error .manualByNode else .ok ()

end RosMiddleware.Qos
