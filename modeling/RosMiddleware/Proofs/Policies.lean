import RosMiddleware.Proofs.HonouredProfiles
import RosMiddleware.Proofs.WrittenProfiles

/-!
The policies of a profile one by one. Writing goes through them in their order and stops at
the first that no reader has: those in front of it are over the transport's choices, and the
others are as they were. What is written is what the profile asks for, to the nanosecond, and
a policy that it leaves open keeps the transport's choice.
-/
namespace RosMiddleware.Qos

open Transport (ReaderAttributes Span)

inductive Policy
  | reliability
  | durability
  | deadline
  | lifespan
  | liveliness
  | lease
  | history
deriving DecidableEq

/-- No reader has it. -/
def Liveliness.rejection? : Liveliness → Option Rejection
  | .manualByNode => some .manualByNode
  | .unknown => some .unknownLiveliness
  | .systemDefault | .automatic | .manualByTopic => none

inductive Reliability.MetBy : Reliability → Transport.Reliability → Prop
  | reliable : MetBy .reliable .reliable
  | bestEffort : MetBy .bestEffort .bestEffort

inductive Durability.MetBy : Durability → Transport.Durability → Prop
  | transientLocal : MetBy .transientLocal .transientLocal
  | volatile : MetBy .volatile .volatile

inductive Liveliness.MetBy : Liveliness → Transport.Liveliness → Prop
  | automatic : MetBy .automatic .automatic
  | manualByTopic : MetBy .manualByTopic .manualByTopic

inductive History.MetBy : History → Transport.History → Prop
  | keepAll : MetBy .keepAll .keepAll
  | keepLast {depth : UInt64} {kept : UInt32} (same : kept.toNat = depth.toNat) :
      MetBy (.keepLast depth) (.keepLast kept)

/-- The same length to the nanosecond, or no bound if the seconds are out of range. -/
structure Duration.MetBy (d : Duration) (actual : Option Span) : Prop where
  exact : d.sec.toNat + d.nsec.toNat / 1000000000 < UInt64.size →
    ∃ span, actual = some span ∧ span.total = d.total
  unbounded : UInt64.size ≤ d.sec.toNat + d.nsec.toNat / 1000000000 → actual = none

def Policy.order : List Policy :=
  [.reliability, .durability, .deadline, .lifespan, .liveliness, .lease, .history]

abbrev Policy.Choice : Policy → Type
  | .reliability => Transport.Reliability
  | .durability => Transport.Durability
  | .liveliness => Transport.Liveliness
  | .history => Transport.History
  | .deadline | .lifespan | .lease => Option Span

def Policy.get (a : ReaderAttributes) : (p : Policy) → p.Choice
  | .reliability => a.reliability
  | .durability => a.durability
  | .deadline => a.deadline
  | .lifespan => a.lifespan
  | .liveliness => a.liveliness
  | .lease => a.lease
  | .history => a.history

def Policy.put (a : ReaderAttributes) : (p : Policy) → p.Choice → ReaderAttributes
  | .reliability, choice => { a with reliability := choice }
  | .durability, choice => { a with durability := choice }
  | .deadline, choice => { a with deadline := choice }
  | .lifespan, choice => { a with lifespan := choice }
  | .liveliness, choice => { a with liveliness := choice }
  | .lease, choice => { a with lease := choice }
  | .history, choice => { a with history := choice }

def Policy.rejection? (q : Profile) : Policy → Option Rejection
  | .reliability => if q.reliability = .unknown then some .unknownReliability else none
  | .durability => if q.durability = .unknown then some .unknownDurability else none
  | .liveliness => q.liveliness.rejection?
  | .history => if q.history.Supported then none else some q.history.rejection
  | .deadline | .lifespan | .lease => none

def Policy.Open (q : Profile) : Policy → Prop
  | .reliability => q.reliability = .systemDefault
  | .durability => q.durability = .systemDefault
  | .deadline => q.deadline = .zero ∨ q.deadline = .infinite
  | .lifespan => q.lifespan = .zero ∨ q.lifespan = .infinite
  | .liveliness => q.liveliness = .systemDefault
  | .lease => q.lease = .zero ∨ q.lease = .infinite
  | .history => q.history = .systemDefault ∨ q.history = .keepLast 0

/-- The choice is what the profile asks for. -/
def Policy.MetBy (q : Profile) : (p : Policy) → p.Choice → Prop
  | .reliability, choice => q.reliability.MetBy choice
  | .durability, choice => q.durability.MetBy choice
  | .deadline, choice => q.deadline.MetBy choice
  | .lifespan, choice => q.lifespan.MetBy choice
  | .liveliness, choice => q.liveliness.MetBy choice
  | .lease, choice => q.lease.MetBy choice
  | .history, choice => q.history.MetBy choice

def Policy.over (q : Profile) : (p : Policy) → p.Choice → p.Choice
  | .reliability, kept => q.reliability.over kept
  | .durability, kept => q.durability.over kept
  | .deadline, kept => q.deadline.over kept
  | .lifespan, kept => q.lifespan.over kept
  | .liveliness, kept => q.liveliness.over kept
  | .lease, kept => q.lease.over kept
  | .history, kept => q.history.over kept

def Policy.write (q : Profile) : Policy → ReaderAttributes → Except Rejection ReaderAttributes
  | .reliability => q.writeReliability
  | .durability => q.writeDurability
  | .deadline => q.writeDeadline
  | .lifespan => q.writeLifespan
  | .liveliness => q.writeLiveliness
  | .lease => q.writeLease
  | .history => q.writeHistory

namespace Policy

variable {p other : Policy} {q : Profile}

theorem get_put_self (a : ReaderAttributes) (choice : p.Choice) :
    p.get (p.put a choice) = choice := by
  cases p <;> rfl

theorem get_put_of_ne (apart : other ≠ p) (a : ReaderAttributes) (choice : p.Choice) :
    other.get (p.put a choice) = other.get a := by
  cases p <;> cases other <;> simp [get, put] at apart ⊢

/-- A writer looks at nothing but its own policy and touches no other one. -/
theorem write_eq (p : Policy) (q : Profile) (a : ReaderAttributes) :
    p.write q a =
      match p.rejection? q with
      | none => .ok (p.put a (p.over q (p.get a)))
      | some e => .error e := by
  cases p with
  | reliability =>
      simp only [write, writeReliability_eq, rejection?]
      by_cases unknown : q.reliability = .unknown <;> simp [unknown, put, Policy.over, get]
  | durability =>
      simp only [write, writeDurability_eq, rejection?]
      by_cases unknown : q.durability = .unknown <;> simp [unknown, put, Policy.over, get]
  | liveliness =>
      simp only [write, Profile.writeLiveliness, rejection?]
      cases asked : q.liveliness <;>
        simp [Liveliness.rejection?, put, Policy.over, get, asked, Liveliness.over]
  | history =>
      simp only [write, writeHistory_eq, rejection?]
      by_cases supported : q.history.Supported <;> simp [supported, put, Policy.over, get]
  | deadline | lifespan | lease => rfl

/-- Up to the first rejection. -/
theorem writeAll_fst (ps : List Policy) (q : Profile) (a : ReaderAttributes) :
    (writeAll (ps.map (·.write q)) a).1 =
      match ps.findSome? (·.rejection? q) with
      | none => .ok ()
      | some e => .error e := by
  induction ps generalizing a with
  | nil => rfl
  | cons p ps ih =>
      rw [List.map_cons, writeAll, write_eq, List.findSome?_cons]
      cases p.rejection? q with
      | none => exact ih _
      | some e => rfl

/-- The writers stop at the first policy that is refused, so exactly those in front of it are
written. -/
theorem get_writeAll (ps : List Policy) (once : ps.Nodup) (q : Profile) (a : ReaderAttributes)
    (other : Policy) :
    other.get (writeAll (ps.map (·.write q)) a).2 =
      if other ∈ ps.takeWhile fun p => (p.rejection? q).isNone then other.over q (other.get a)
      else other.get a := by
  induction ps generalizing a with
  | nil => rfl
  | cons p ps ih =>
      obtain ⟨fresh, once⟩ := List.nodup_cons.mp once
      rw [List.map_cons, writeAll, write_eq, List.takeWhile_cons]
      cases refused : p.rejection? q with
      | some e => rfl
      | none =>
          dsimp only
          rw [ih once]
          by_cases same : other = p
          · subst same
            have later : other ∉ ps.takeWhile fun p => (p.rejection? q).isNone :=
              fun mem => fresh (List.takeWhile_subset _ mem)
            simp [later, get_put_self]
          · simp [same, get_put_of_ne same]

theorem over_of_open (nothing : p.Open q) (kept : p.Choice) : p.over q kept = kept := by
  cases p with
  | reliability => rw [Policy.over, show q.reliability = _ from nothing]; rfl
  | durability => rw [Policy.over, show q.durability = _ from nothing]; rfl
  | liveliness => rw [Policy.over, show q.liveliness = _ from nothing]; rfl
  | history => rcases nothing with nothing | nothing <;> rw [Policy.over, nothing] <;> rfl
  | deadline | lifespan | lease => exact Duration.over_of_open nothing kept

end Policy

theorem Reliability.metBy_over {r : Reliability} (known : r ≠ .unknown)
    (asked : r ≠ .systemDefault) (kept : Transport.Reliability) : r.MetBy (r.over kept) := by
  cases r with
  | reliable => exact .reliable
  | bestEffort => exact .bestEffort
  | systemDefault => exact absurd rfl asked
  | unknown => exact absurd rfl known

theorem Durability.metBy_over {d : Durability} (known : d ≠ .unknown)
    (asked : d ≠ .systemDefault) (kept : Transport.Durability) : d.MetBy (d.over kept) := by
  cases d with
  | transientLocal => exact .transientLocal
  | volatile => exact .volatile
  | systemDefault => exact absurd rfl asked
  | unknown => exact absurd rfl known

theorem Liveliness.metBy_over {l : Liveliness} (accepted : l.rejection? = none)
    (asked : l ≠ .systemDefault) (kept : Transport.Liveliness) : l.MetBy (l.over kept) := by
  cases l with
  | automatic => exact .automatic
  | manualByTopic => exact .manualByTopic
  | systemDefault => exact absurd rfl asked
  | manualByNode | unknown => cases accepted

theorem History.metBy_over {h : History} (supported : h.Supported)
    (asked : ¬ (h = .systemDefault ∨ h = .keepLast 0)) (kept : Transport.History) :
    h.MetBy (h.over kept) := by
  cases h with
  | systemDefault => exact absurd (.inl rfl) asked
  | unknown => exact supported.elim
  | keepAll => exact .keepAll
  | keepLast depth =>
      have positive : depth ≠ 0 := fun none => asked (.inr (none ▸ rfl))
      have small : depth.toNat ≤ 2147483647 := supported
      rw [History.over, if_neg positive]
      refine .keepLast ?_
      rw [UInt64.toNat_toUInt32]
      omega

theorem Duration.metBy_over {d : Duration} (asked : ¬ (d = zero ∨ d = infinite))
    (kept : Option Span) : d.MetBy (d.over kept) := by
  rw [over_of_asked (not_or.mp asked)]
  constructor
  · intro fits
    rw [span?, dif_pos fits]
    refine ⟨_, rfl, ?_⟩
    simp only [Span.total, total, UInt64.toNat_ofNatLT]
    omega
  · intro exceeds
    rw [span?, dif_neg (Nat.not_lt.mpr exceeds)]

/-- What is written for a policy that asks for something is what it asks for. -/
theorem Policy.metBy_over {p : Policy} {q : Profile} (accepted : p.rejection? q = none)
    (asked : ¬ p.Open q) (kept : p.Choice) : p.MetBy q (p.over q kept) := by
  cases p with
  | reliability =>
      have known : q.reliability ≠ .unknown := by simpa [rejection?] using accepted
      exact Reliability.metBy_over known asked kept
  | durability =>
      have known : q.durability ≠ .unknown := by simpa [rejection?] using accepted
      exact Durability.metBy_over known asked kept
  | liveliness => exact Liveliness.metBy_over accepted asked kept
  | history =>
      have supported : q.history.Supported := by simpa [rejection?] using accepted
      exact History.metBy_over supported asked kept
  | deadline | lifespan | lease => exact Duration.metBy_over asked kept

theorem Liveliness.isSome_rejection?_iff {l : Liveliness} :
    l.rejection?.isSome = true ↔ l = .manualByNode ∨ l = .unknown := by
  cases l <;> simp [rejection?]

theorem History.not_supported_iff {h : History} :
    ¬ h.Supported ↔
      h = .unknown ∨ ∃ depth, h = .keepLast depth ∧ 2147483647 < depth.toNat := by
  cases h <;> simp [Supported]

/-- The policies that are written: those in front of the first that no reader has. -/
def Profile.written (q : Profile) : List Policy :=
  Policy.order.takeWhile fun p => (p.rejection? q).isNone

theorem Policy.mem_order (p : Policy) : p ∈ order := by
  cases p <;> decide

section WriteTo

variable {q : Profile} {a : ReaderAttributes}

theorem get_writeTo (q : Profile) (a : ReaderAttributes) (p : Policy) :
    p.get (q.writeTo a).2 = if p ∈ q.written then p.over q (p.get a) else p.get a :=
  Policy.get_writeAll Policy.order (by decide) q a p

theorem writeTo_error_iff {e : Rejection} :
    (q.writeTo a).1 = .error e ↔ Policy.order.findSome? (·.rejection? q) = some e := by
  rw [show (q.writeTo a).1 = _ from Policy.writeAll_fst Policy.order q a]
  cases Policy.order.findSome? (·.rejection? q) <;> simp

theorem writeTo_ok_iff : (q.writeTo a).1 = .ok () ↔ ∀ p : Policy, p.rejection? q = none := by
  have none_iff : Policy.order.findSome? (·.rejection? q) = none ↔
      ∀ p : Policy, p.rejection? q = none := by
    simp [Policy.mem_order]
  rw [show (q.writeTo a).1 = _ from Policy.writeAll_fst Policy.order q a, ← none_iff]
  cases Policy.order.findSome? (·.rejection? q) <;> simp

theorem writeTo_eq_ok_iff {b : ReaderAttributes} :
    q.writeTo a = (.ok (), b) ↔ (∀ p : Policy, p.rejection? q = none) ∧ b = q.over a := by
  have written : (∀ p : Policy, p.rejection? q = none) → q.writeTo a = (.ok (), q.over a) := by
    intro accepted
    have placed : q.liveliness ≠ .manualByNode := by
      intro byNode
      have clash : q.liveliness.rejection? = none := accepted .liveliness
      rw [byNode] at clash
      cases clash
    have ok := writeTo_ok_iff (a := a).mpr accepted
    exact Prod.ext ok ((writes_profile placed a).written ok)
  constructor
  · intro outcome
    have accepted := writeTo_ok_iff.mp (congrArg Prod.fst outcome)
    rw [written accepted] at outcome
    exact ⟨accepted, (congrArg Prod.snd outcome).symm⟩
  · rintro ⟨accepted, rfl⟩
    exact written accepted

theorem exists_error_iff :
    (∃ e, (q.writeTo a).1 = .error e) ↔ ∃ p : Policy, (p.rejection? q).isSome = true := by
  simp only [writeTo_error_iff, ← Option.isSome_iff_exists, List.findSome?_isSome_iff,
    Policy.mem_order, true_and]

/-- Six choices are refused: the unknown ones, the liveliness of a node and a depth out of range. -/
theorem exists_rejection_iff :
    (∃ p : Policy, (p.rejection? q).isSome = true) ↔
      q.reliability = .unknown ∨ q.durability = .unknown ∨ q.liveliness = .manualByNode ∨
        q.liveliness = .unknown ∨ q.history = .unknown ∨
        ∃ depth, q.history = .keepLast depth ∧ 2147483647 < depth.toNat := by
  constructor
  · rintro ⟨p, refused⟩
    cases p with
    | reliability =>
        have unknown : q.reliability = .unknown := by simpa [Policy.rejection?] using refused
        exact .inl unknown
    | durability =>
        have unknown : q.durability = .unknown := by simpa [Policy.rejection?] using refused
        exact .inr (.inl unknown)
    | liveliness =>
        obtain byNode | unknown := Liveliness.isSome_rejection?_iff.mp refused
        · exact .inr (.inr (.inl byNode))
        · exact .inr (.inr (.inr (.inl unknown)))
    | history =>
        have other : ¬ q.history.Supported := by simpa [Policy.rejection?] using refused
        exact .inr (.inr (.inr (.inr (History.not_supported_iff.mp other))))
    | deadline | lifespan | lease => cases refused
  · rintro (unknown | unknown | byNode | unknown | other)
    · exact ⟨.reliability, by simp [Policy.rejection?, unknown]⟩
    · exact ⟨.durability, by simp [Policy.rejection?, unknown]⟩
    · exact ⟨.liveliness, Liveliness.isSome_rejection?_iff.mpr (.inl byNode)⟩
    · exact ⟨.liveliness, Liveliness.isSome_rejection?_iff.mpr (.inr unknown)⟩
    · exact ⟨.history, by simp [Policy.rejection?, History.not_supported_iff.mpr other]⟩

end WriteTo

/-- A profile is written up to the first policy that no reader has, and the others stay as
they are; what is written is exactly what is asked for. -/
theorem policies_written (q : Profile) (a : ReaderAttributes) :
    let outcome := (q.writeTo a).1
    let b := (q.writeTo a).2
    ((∃ e, outcome = .error e) ↔
        q.reliability = .unknown ∨ q.durability = .unknown ∨ q.liveliness = .manualByNode ∨
          q.liveliness = .unknown ∨ q.history = .unknown ∨
          ∃ depth, q.history = .keepLast depth ∧ 2147483647 < depth.toNat) ∧
      (∀ e, outcome = .error e ↔ Policy.order.findSome? (·.rejection? q) = some e) ∧
      (∀ p ∈ q.written, ¬ p.Open q → p.MetBy q (p.get b)) ∧
      (∀ p : Policy, p ∉ q.written ∨ p.Open q → p.get b = p.get a) ∧
      SameTopic a b := by
  intro outcome b
  refine ⟨exists_error_iff.trans exists_rejection_iff, fun e => writeTo_error_iff, ?_, ?_,
    sameTopic_writeTo q a⟩
  · intro p front asked
    have accepted : p.rejection? q = none := by
      simpa using List.all_eq_true.mp List.all_takeWhile p front
    rw [get_writeTo, if_pos front]
    exact Policy.metBy_over accepted asked _
  · rintro p (behind | nothing)
    · rw [get_writeTo, if_neg behind]
    · rw [get_writeTo, Policy.over_of_open nothing, ite_self]

/-- The deadline comes before the liveliness, and the lease after it. -/
example :
    (Profile.writeTo { liveliness := .manualByNode, deadline := ⟨1, 500⟩, lease := ⟨2, 0⟩ }
      {}).2 = { reliability := .reliable, deadline := some ⟨1, 500, by decide⟩ } := by
  decide

end RosMiddleware.Qos
