import RosMiddleware.Proofs.Conditions
import RosMiddleware.Qos.Encoding

/-!
Profiles that a reader can honour. Each policy goes over the transport's own choice, which
stays where the profile asks for nothing. Writing a profile fails at the first policy that no
reader has; otherwise all of them have been written.
-/
namespace RosMiddleware.Qos

open Transport (ReaderAttributes Span)

theorem Duration.over_of_open {d : Duration} (nothing : d = zero ∨ d = infinite)
    (kept : Option Span) : d.over kept = kept := by
  have unspecified : d.isUnspecified = true := by
    rcases nothing with rfl | rfl <;> decide
  rw [Duration.over, unspecified, if_pos rfl]

theorem Duration.over_of_asked {d : Duration} (asked : d ≠ zero ∧ d ≠ infinite)
    (kept : Option Span) : d.over kept = d.span? := by
  have specified : d.isUnspecified = false := by simp [isUnspecified, asked.1, asked.2]
  rw [Duration.over, specified, if_neg (by decide)]

/-- The choice that a reader runs with, given the one it would have run with. -/
def Reliability.over : Reliability → Transport.Reliability → Transport.Reliability
  | .reliable, _ => .reliable
  | .bestEffort, _ => .bestEffort
  | .systemDefault, kept | .unknown, kept => kept

def Durability.over : Durability → Transport.Durability → Transport.Durability
  | .transientLocal, _ => .transientLocal
  | .volatile, _ => .volatile
  | .systemDefault, kept | .unknown, kept => kept

def Liveliness.over : Liveliness → Transport.Liveliness → Transport.Liveliness
  | .automatic, _ => .automatic
  | .manualByTopic, _ => .manualByTopic
  | .systemDefault, kept | .manualByNode, kept | .unknown, kept => kept

def History.over : History → Transport.History → Transport.History
  | .keepAll, _ => .keepAll
  | .keepLast depth, kept => if depth = 0 then kept else .keepLast depth.toUInt32
  | .systemDefault, kept | .unknown, kept => kept

def Profile.over (q : Profile) (a : ReaderAttributes) : ReaderAttributes :=
  { a with
    reliability := q.reliability.over a.reliability
    durability := q.durability.over a.durability
    history := q.history.over a.history
    deadline := q.deadline.over a.deadline
    lifespan := q.lifespan.over a.lifespan
    liveliness := q.liveliness.over a.liveliness
    lease := q.lease.over a.lease }

def History.Supported : History → Prop
  | .keepLast depth => depth.toNat ≤ 2147483647
  | .unknown => False
  | .systemDefault | .keepAll => True

instance : DecidablePred History.Supported
  | .keepLast depth => inferInstanceAs (Decidable (depth.toNat ≤ 2147483647))
  | .unknown => .isFalse not_false
  | .systemDefault | .keepAll => .isTrue trivial

def History.rejection : History → Rejection
  | .keepLast depth => .depthBeyondRange depth
  | _ => .unknownHistory

/-- What the policies of a profile have to be, in the order in which they are written. -/
def Profile.demands (q : Profile) : List Condition :=
  [⟨q.reliability ≠ .unknown, .readerQos .unknownReliability⟩,
    ⟨q.durability ≠ .unknown, .readerQos .unknownDurability⟩,
    ⟨q.liveliness ≠ .unknown, .readerQos .unknownLiveliness⟩,
    ⟨q.history.Supported, .readerQos q.history.rejection⟩]

theorem writeReliability_eq (q : Profile) (a : ReaderAttributes) :
    q.writeReliability a =
      if q.reliability ≠ .unknown then .ok { a with reliability := q.reliability.over a.reliability }
      else .error .unknownReliability := by
  unfold Profile.writeReliability
  cases q.reliability <;> rfl

theorem writeDurability_eq (q : Profile) (a : ReaderAttributes) :
    q.writeDurability a =
      if q.durability ≠ .unknown then .ok { a with durability := q.durability.over a.durability }
      else .error .unknownDurability := by
  unfold Profile.writeDurability
  cases q.durability <;> rfl

theorem writeLiveliness_eq {q : Profile} (placed : q.liveliness ≠ .manualByNode)
    (a : ReaderAttributes) :
    q.writeLiveliness a =
      if q.liveliness ≠ .unknown then .ok { a with liveliness := q.liveliness.over a.liveliness }
      else .error .unknownLiveliness := by
  unfold Profile.writeLiveliness
  cases h : q.liveliness with
  | manualByNode => exact absurd h placed
  | systemDefault | automatic | manualByTopic | unknown => rfl

theorem inRange_iff {depth : UInt64} :
    depth.toNat < Profile.depthLimit ↔ (History.keepLast depth).Supported := by
  simp only [Profile.depthLimit, History.Supported]
  omega

theorem writeHistory_eq (q : Profile) (a : ReaderAttributes) :
    q.writeHistory a =
      if q.history.Supported then .ok { a with history := q.history.over a.history }
      else .error q.history.rejection := by
  unfold Profile.writeHistory
  cases q.history with
  | systemDefault | keepAll | unknown => rfl
  | keepLast depth =>
      by_cases none : depth = 0
      · subst none
        rfl
      · simp only [none, if_false, inRange_iff, History.over, History.rejection]

/-- The conditions decide whether the writers get to the end, and `final` is what they have
written if they do. -/
structure Writes (cs : List Condition)
    (writers : List (ReaderAttributes → Except Rejection ReaderAttributes))
    (a final : ReaderAttributes) : Prop where
  decided : Condition.Decide cs ((writeAll writers a).1.mapError .readerQos)
  written : (writeAll writers a).1 = .ok () → (writeAll writers a).2 = final

theorem Writes.nil (a : ReaderAttributes) : Writes [] [] a a where
  decided := ⟨(), rfl⟩
  written _ := rfl

section Writer

variable {write : ReaderAttributes → Except Rejection ReaderAttributes}
  {writers : List (ReaderAttributes → Except Rejection ReaderAttributes)}
  {cs : List Condition} {a b final : ReaderAttributes}

theorem Writes.always (step : write a = .ok b) (rest : Writes cs writers b final) :
    Writes cs (write :: writers) a final := by
  have same : writeAll (write :: writers) a = writeAll writers b := by
    simp only [writeAll, step]
  exact ⟨same ▸ rest.decided, same ▸ rest.written⟩

theorem Writes.cons {p : Prop} [Decidable p] {e : Rejection}
    (step : write a = if p then .ok b else .error e) (rest : Writes cs writers b final) :
    Writes (⟨p, .readerQos e⟩ :: cs) (write :: writers) a final := by
  by_cases given : p
  · have next := Writes.always (step.trans (if_pos given)) rest
    exact ⟨⟨fun _ => next.decided, absurd given⟩, next.written⟩
  · have stop : writeAll (write :: writers) a = (.error e, a) := by
      simp only [writeAll, step, if_neg given]
    exact ⟨⟨fun holds => absurd holds given, fun _ => by rw [stop]; rfl⟩,
      fun ok => by rw [stop] at ok; cases ok⟩

end Writer

theorem writes_profile {q : Profile} (placed : q.liveliness ≠ .manualByNode)
    (a : ReaderAttributes) : Writes q.demands q.writers a (q.over a) :=
  .cons (writeReliability_eq q _) <| .cons (writeDurability_eq q _) <|
    .always rfl <| .always rfl <| .cons (writeLiveliness_eq placed _) <|
    .always rfl <| .cons (writeHistory_eq q _) <| .nil _

end RosMiddleware.Qos
