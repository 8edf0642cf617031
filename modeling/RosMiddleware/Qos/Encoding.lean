import RosMiddleware.Qos.Profile
import RosMiddleware.Transport.Attributes

/-!
Profiles written over the attributes of a reader, and profiles rebuilt from them. The
policies are written one after another up to the first that is refused; what a profile
leaves open keeps the value of the transport.
-/
namespace RosMiddleware.Qos

open Transport (ReaderAttributes Span)

/-- The same length of time for the transport; infinite if the seconds are out of range. -/
def Duration.span? (d : Duration) : Option Span :=
  let seconds := d.sec.toNat + d.nsec.toNat / 1000000000
  if h : seconds < UInt64.size then
    some ⟨UInt64.ofNatLT seconds h, d.nsec.toNat % 1000000000, Nat.mod_lt _ (by decide)⟩
  else none

/-- The duration that a reader runs with. -/
def Duration.ofSpan : Option Span → Duration
  | none => .infinite
  | some s => ⟨s.seconds, UInt64.ofNat s.nanos⟩

/-- A duration that is asked for goes in the place of the transport's. -/
def Duration.over (d : Duration) (kept : Option Span) : Option Span :=
  if d.isUnspecified then kept else d.span?

namespace Profile

def writeReliability (q : Profile) (a : ReaderAttributes) :
    Except Rejection ReaderAttributes :=
  match q.reliability with
  | .systemDefault => .ok a
  | .reliable => .ok { a with reliability := .reliable }
  | .bestEffort => .ok { a with reliability := .bestEffort }
  | .unknown => .error .unknownReliability

def writeDurability (q : Profile) (a : ReaderAttributes) :
    Except Rejection ReaderAttributes :=
  match q.durability with
  | .systemDefault => .ok a
  | .transientLocal => .ok { a with durability := .transientLocal }
  | .volatile => .ok { a with durability := .volatile }
  | .unknown => .error .unknownDurability

def writeDeadline (q : Profile) (a : ReaderAttributes) : Except Rejection ReaderAttributes :=
  .ok { a with deadline := q.deadline.over a.deadline }

def writeLifespan (q : Profile) (a : ReaderAttributes) : Except Rejection ReaderAttributes :=
  .ok { a with lifespan := q.lifespan.over a.lifespan }

def writeLiveliness (q : Profile) (a : ReaderAttributes) :
    Except Rejection ReaderAttributes :=
  match q.liveliness with
  | .systemDefault => .ok a
  | .automatic => .ok { a with liveliness := .automatic }
  | .manualByTopic => .ok { a with liveliness := .manualByTopic }
  | .manualByNode => .error .manualByNode
  | .unknown => .error .unknownLiveliness

def writeLease (q : Profile) (a : ReaderAttributes) : Except Rejection ReaderAttributes :=
  .ok { a with lease := q.lease.over a.lease }

/-- The transport counts samples in 31 bits. -/
def depthLimit : Nat := 1 <<< 31

/-- A depth of zero asks for nothing. -/
def writeHistory (q : Profile) (a : ReaderAttributes) : Except Rejection ReaderAttributes :=
  match q.history with
  | .systemDefault => .ok a
  | .keepLast depth =>
    if depth = 0 then .ok a
    else if depth.toNat < depthLimit then .ok { a with history := .keepLast depth.toUInt32 }
    else .error (.depthBeyondRange depth)
  | .keepAll => .ok { a with history := .keepAll }
  | .unknown => .error .unknownHistory

/-- The policies in the order in which they are written. -/
def writers (q : Profile) : List (ReaderAttributes → Except Rejection ReaderAttributes) :=
  [q.writeReliability, q.writeDurability, q.writeDeadline, q.writeLifespan,
    q.writeLiveliness, q.writeLease, q.writeHistory]

end Profile

/-- One writer after another, up to the first that refuses; with the refusal come the
attributes as they were when it was met. -/
def writeAll :
    List (ReaderAttributes → Except Rejection ReaderAttributes) → ReaderAttributes →
      Except Rejection Unit × ReaderAttributes
  | [], a => (.ok (), a)
  | write :: writers, a =>
    match write a with
    | .ok written => writeAll writers written
    | .error rejection => (.error rejection, a)

def Profile.writeTo (q : Profile) (a : ReaderAttributes) :
    Except Rejection Unit × ReaderAttributes :=
  writeAll q.writers a

/-- The profile that a reader with these attributes runs with. -/
def Profile.ofAttributes (a : ReaderAttributes) (rawNames : Bool) : Profile where
  reliability :=
    match a.reliability with
    | .reliable => .reliable
    | .bestEffort => .bestEffort
  durability :=
    match a.durability with
    | .transientLocal => .transientLocal
    | .volatile => .volatile
  history :=
    match a.history with
    | .keepLast depth => .keepLast depth.toUInt64
    | .keepAll => .keepAll
  deadline := .ofSpan a.deadline
  lifespan := .ofSpan a.lifespan
  liveliness :=
    match a.liveliness with
    | .automatic => .automatic
    | .manualByParticipant => .manualByNode
    | .manualByTopic => .manualByTopic
  lease := .ofSpan a.lease
  rawNames := rawNames

end RosMiddleware.Qos
