import RosMiddleware.Proofs.ActualProfiles
import RosMiddleware.Proofs.Policies

/-!
The profile that a reader runs with, asked for again. It has a choice for every policy, but a
finite duration of the transport may read as no bound and a depth of zero as no depth; where
it does, the transport had that choice already, so over the same attributes the profile is
accepted and makes the same reader.
-/
namespace RosMiddleware.Qos

open Transport (ReaderAttributes Span)

namespace Duration

theorem span?_ofSpan (s : Span) : (ofSpan (some s)).span? = some s := by
  have nanos : (UInt64.ofNat s.nanos).toNat = s.nanos :=
    UInt64.toNat_ofNat_of_lt' (Nat.lt_trans s.nanos_lt (by decide))
  have carry : s.nanos / 1000000000 = 0 := Nat.div_eq_of_lt s.nanos_lt
  have whole : s.nanos % 1000000000 = s.nanos := Nat.mod_eq_of_lt s.nanos_lt
  have bound := s.seconds.toNat_lt_size
  simp only [span?, ofSpan, nanos, carry, whole, Nat.add_zero, bound, dif_pos,
    UInt64.ofNatLT_toNat]

theorem ofSpan_over_self (kept : Option Span) : (ofSpan kept).over kept = kept := by
  cases kept with
  | none => exact over_of_open (.inr rfl) none
  | some s =>
      by_cases nothing : ofSpan (some s) = zero ∨ ofSpan (some s) = infinite
      · exact over_of_open nothing (some s)
      · rw [over_of_asked (not_or.mp nothing), span?_ofSpan]

theorem ofSpan_over {d : Duration} (whole : d.nsec.toNat < 1000000000) (kept : Option Span) :
    (ofSpan (d.over kept)).over kept = d.over kept := by
  by_cases nothing : d = zero ∨ d = infinite
  · rw [over_of_open nothing, ofSpan_over_self]
  · rw [over_of_asked (not_or.mp nothing), (runsAs_ofSpan d).kept whole,
      over_of_asked (not_or.mp nothing)]

end Duration

theorem Liveliness.over_ne {l : Liveliness} {kept : Transport.Liveliness}
    (placed : kept ≠ .manualByParticipant) : l.over kept ≠ .manualByParticipant := by
  cases l with
  | automatic | manualByTopic => nofun
  | systemDefault | manualByNode | unknown => exact placed

/-- A depth of the reader is in range, and if it is zero the transport had it. -/
theorem History.over_eq_keepLast {h : History} {kept : Transport.History} {depth : UInt32}
    (supported : h.Supported)
    (shallow : ∀ depth, kept = .keepLast depth → depth.toNat ≤ 2147483647)
    (runs : h.over kept = .keepLast depth) :
    depth.toNat ≤ 2147483647 ∧ (depth = 0 → kept = .keepLast 0) := by
  cases h with
  | systemDefault | unknown =>
      have runs : kept = .keepLast depth := runs
      exact ⟨shallow depth runs, fun none => none ▸ runs⟩
  | keepAll => cases runs
  | keepLast asked =>
      rw [History.over] at runs
      split at runs
      · exact ⟨shallow depth runs, fun none => none ▸ runs⟩
      · rename_i positive
        have small : asked.toNat ≤ 2147483647 := supported
        have back := toUInt64_toUInt32_of_le small
        rw [Transport.History.keepLast.inj runs] at back
        refine ⟨?_, fun none => ?_⟩
        · rw [← back, UInt32.toNat_toUInt64] at small
          exact small
        · subst none
          exact absurd back.symm positive

/-! ### The choices of a reader -/

section Choices

variable (a : ReaderAttributes) (raw : Bool)

theorem reliability_again (kept : Transport.Reliability) :
    (Profile.ofAttributes a raw).reliability ≠ .unknown ∧
      (Profile.ofAttributes a raw).reliability.over kept = a.reliability := by
  simp only [Profile.ofAttributes]
  cases a.reliability <;> exact ⟨by decide, rfl⟩

theorem durability_again (kept : Transport.Durability) :
    (Profile.ofAttributes a raw).durability ≠ .unknown ∧
      (Profile.ofAttributes a raw).durability.over kept = a.durability := by
  simp only [Profile.ofAttributes]
  cases a.durability <;> exact ⟨by decide, rfl⟩

variable {a}

theorem liveliness_again (placed : a.liveliness ≠ .manualByParticipant)
    (kept : Transport.Liveliness) :
    (Profile.ofAttributes a raw).liveliness.rejection? = none ∧
      (Profile.ofAttributes a raw).liveliness.over kept = a.liveliness := by
  simp only [Profile.ofAttributes]
  cases runs : a.liveliness with
  | automatic | manualByTopic => exact ⟨rfl, rfl⟩
  | manualByParticipant => exact absurd runs placed

/-- A depth of zero cannot be told from one that was left open, so it has to be what is kept. -/
theorem history_again {kept : Transport.History}
    (shallow : ∀ depth, a.history = .keepLast depth → depth.toNat ≤ 2147483647)
    (none : a.history = .keepLast 0 → kept = .keepLast 0) :
    (Profile.ofAttributes a raw).history.Supported ∧
      (Profile.ofAttributes a raw).history.over kept = a.history := by
  simp only [Profile.ofAttributes]
  cases runs : a.history with
  | keepAll => exact ⟨trivial, rfl⟩
  | keepLast depth =>
      refine ⟨shallow depth runs, ?_⟩
      simp only [History.over]
      split
      · rename_i zero
        have zero : depth = 0 := by simpa using congrArg UInt64.toUInt32 zero
        rw [zero] at runs ⊢
        exact none runs
      · rw [UInt32.toUInt32_toUInt64]

end Choices

/-- Profiles that write the same for each policy write the same attributes. -/
theorem Profile.over_congr {q q' : Profile} {b : ReaderAttributes}
    (same : ∀ p : Policy, p.over q (p.get b) = p.over q' (p.get b)) : q.over b = q'.over b := by
  have reliability : q.reliability.over b.reliability = _ := same .reliability
  have durability : q.durability.over b.durability = _ := same .durability
  have deadline : q.deadline.over b.deadline = _ := same .deadline
  have lifespan : q.lifespan.over b.lifespan = _ := same .lifespan
  have liveliness : q.liveliness.over b.liveliness = _ := same .liveliness
  have lease : q.lease.over b.lease = _ := same .lease
  have history : q.history.over b.history = _ := same .history
  rw [Profile.over, reliability, durability, deadline, lifespan, liveliness, lease, history]
  rfl

/-- Each policy that the reader runs with is accepted again, and comes to the same choice. -/
theorem Policy.over_ofAttributes {q : Profile} {b : ReaderAttributes}
    (accepted : ∀ p : Policy, p.rejection? q = none)
    (placed : b.liveliness ≠ .manualByParticipant)
    (shallow : ∀ depth, b.history = .keepLast depth → depth.toNat ≤ 2147483647)
    (whole : ∀ d ∈ [q.deadline, q.lifespan, q.lease], d.nsec.toNat < 1000000000)
    (raw : Bool) (p : Policy) :
    p.rejection? (.ofAttributes (q.over b) raw) = none ∧
      p.over (.ofAttributes (q.over b) raw) (p.get b) = p.over q (p.get b) := by
  cases p with
  | reliability =>
      obtain ⟨known, same⟩ := reliability_again (q.over b) raw b.reliability
      exact ⟨if_neg known, same⟩
  | durability =>
      obtain ⟨known, same⟩ := durability_again (q.over b) raw b.durability
      exact ⟨if_neg known, same⟩
  | deadline => exact ⟨rfl, Duration.ofSpan_over (whole q.deadline (by simp)) b.deadline⟩
  | lifespan => exact ⟨rfl, Duration.ofSpan_over (whole q.lifespan (by simp)) b.lifespan⟩
  | lease => exact ⟨rfl, Duration.ofSpan_over (whole q.lease (by simp)) b.lease⟩
  | liveliness =>
      have runs : (q.over b).liveliness ≠ .manualByParticipant := Liveliness.over_ne placed
      exact liveliness_again raw runs b.liveliness
  | history =>
      have supported : q.history.Supported := by simpa [rejection?] using accepted .history
      have runs (depth : UInt32) (h : (q.over b).history = .keepLast depth) :=
        History.over_eq_keepLast supported shallow h
      obtain ⟨known, same⟩ := history_again raw (fun depth h => (runs depth h).1)
        fun h => (runs 0 h).2 rfl
      exact ⟨if_pos known, same⟩

/-- A reader's profile, asked for over the same attributes, gives the same reader again. -/
theorem writeTo_ofAttributes (q : Profile) (a b : ReaderAttributes) (raw : Bool)
    (placed : b.liveliness ≠ .manualByParticipant)
    (shallow : ∀ depth, b.history = .keepLast depth → depth.toNat ≤ 2147483647)
    (whole : ∀ d ∈ [q.deadline, q.lifespan, q.lease], d.nsec.toNat < 1000000000)
    (accepted : q.writeTo b = (.ok (), a)) :
    (Profile.ofAttributes a raw).writeTo b = (.ok (), a) := by
  obtain ⟨granted, rfl⟩ := writeTo_eq_ok_iff.mp accepted
  have again := Policy.over_ofAttributes granted placed shallow whole raw
  refine writeTo_eq_ok_iff.mpr ⟨fun p => (again p).1, ?_⟩
  exact Profile.over_congr fun p => (again p).2.symm

/-- A finite deadline that reads as none, a lifespan and a depth of zero, and a lease that is
asked for. -/
theorem writeTo_ofAttributes_unspecified :
    let b : ReaderAttributes :=
      { history := .keepLast 0, deadline := some ⟨9223372036, 854775807, by decide⟩,
        lifespan := some ⟨0, 0, by decide⟩, liveliness := .manualByTopic }
    let q : Profile :=
      { durability := .systemDefault, history := .keepLast 0, liveliness := .systemDefault,
        lease := ⟨2, 500⟩ }
    let a : ReaderAttributes :=
      { b with reliability := .reliable, lease := some ⟨2, 500, by decide⟩ }
    let again := Profile.ofAttributes a true
    b.liveliness ≠ .manualByParticipant ∧
      (∀ depth, b.history = .keepLast depth → depth.toNat ≤ 2147483647) ∧
      (∀ d ∈ [q.deadline, q.lifespan, q.lease], d.nsec.toNat < 1000000000) ∧
      q.writeTo b = (.ok (), a) ∧ again.deadline = .infinite ∧ again.lifespan = .zero ∧
      again.history = .keepLast 0 ∧ again.writeTo b = (.ok (), a) := by
  intro b q a again
  have placed : b.liveliness ≠ .manualByParticipant := by decide
  have shallow : ∀ depth, b.history = .keepLast depth → depth.toNat ≤ 2147483647 := by
    intro depth zero
    rw [← Transport.History.keepLast.inj zero]
    decide
  have whole : ∀ d ∈ [q.deadline, q.lifespan, q.lease], d.nsec.toNat < 1000000000 := by decide
  have accepted : q.writeTo b = (.ok (), a) :=
    writeTo_eq_ok_iff.mpr ⟨fun p => by cases p <;> decide, by decide⟩
  exact ⟨placed, shallow, whole, accepted, by decide, by decide, by decide,
    writeTo_ofAttributes q a b true placed shallow whole accepted⟩

end RosMiddleware.Qos
