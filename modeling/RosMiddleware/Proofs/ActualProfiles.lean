import RosMiddleware.Proofs.CreationOutcome

/-!
Profiles that readers run with. A profile that leaves no policy open is written over all of
the transport's choices, so the profile that is rebuilt from the reader is the one that was
asked for. Only a duration with a second or more in its nanoseconds comes back in another
shape, and one that is too long for the transport comes back as infinite.
-/
namespace RosMiddleware

namespace Qos

open Transport (ReaderAttributes Span)

namespace Duration

/-- What becomes of a duration that is asked for. -/
structure RunsAs (asked actual : Duration) : Prop where
  kept : asked.nsec.toNat < 1000000000 → actual = asked
  carried : 1000000000 ≤ asked.nsec.toNat →
    asked.sec.toNat + asked.nsec.toNat / 1000000000 < UInt64.size →
      actual.total = asked.total ∧ actual.nsec.toNat < 1000000000
  unbounded : 1000000000 ≤ asked.nsec.toNat →
    UInt64.size ≤ asked.sec.toNat + asked.nsec.toNat / 1000000000 → actual = infinite

/-- The parts of a duration that the transport can hold. -/
theorem ofSpan_of_fits {d : Duration}
    (fits : d.sec.toNat + d.nsec.toNat / 1000000000 < UInt64.size) :
    (ofSpan d.span?).sec.toNat = d.sec.toNat + d.nsec.toNat / 1000000000 ∧
      (ofSpan d.span?).nsec.toNat = d.nsec.toNat % 1000000000 := by
  have small := Nat.mod_lt d.nsec.toNat (show 0 < 1000000000 by decide)
  have word : d.nsec.toNat % 1000000000 < UInt64.size := Nat.lt_trans small (by decide)
  rw [span?, dif_pos fits]
  exact ⟨UInt64.toNat_ofNatLT, UInt64.toNat_ofNat_of_lt' word⟩

theorem eq_of_toNat {d d' : Duration} (sec : d.sec.toNat = d'.sec.toNat)
    (nsec : d.nsec.toNat = d'.nsec.toNat) : d = d' := by
  cases d
  cases d'
  rw [mk.injEq]
  exact ⟨UInt64.toNat_inj.mp sec, UInt64.toNat_inj.mp nsec⟩

/-- Only a duration with too many nanoseconds is read back as another one. -/
theorem runsAs_ofSpan (d : Duration) : d.RunsAs (ofSpan d.span?) where
  kept whole := by
    have bound := d.sec.toNat_lt_size
    have carry : d.nsec.toNat / 1000000000 = 0 := Nat.div_eq_of_lt whole
    obtain ⟨sec, nsec⟩ := ofSpan_of_fits (d := d) (by rw [carry]; exact bound)
    exact eq_of_toNat (by omega) (by omega)
  carried _ fits := by
    obtain ⟨sec, nsec⟩ := ofSpan_of_fits fits
    simp only [total, sec, nsec]
    omega
  unbounded _ exceeds := by
    rw [span?, dif_neg (Nat.not_lt.mpr exceeds)]
    rfl

end Duration

/-- The profile has a choice of its own for every policy, and one that a reader can have. -/
structure Profile.Settled (q : Profile) : Prop where
  reliability : q.reliability = .reliable ∨ q.reliability = .bestEffort
  durability : q.durability = .transientLocal ∨ q.durability = .volatile
  liveliness : q.liveliness = .automatic ∨ q.liveliness = .manualByTopic
  history : q.history = .keepAll ∨
    ∃ depth, q.history = .keepLast depth ∧ 1 ≤ depth.toNat ∧ depth.toNat ≤ 2147483647
  deadline : q.deadline ≠ .zero ∧ q.deadline ≠ .infinite
  lifespan : q.lifespan ≠ .zero ∧ q.lifespan ≠ .infinite
  lease : q.lease ≠ .zero ∧ q.lease ≠ .infinite

theorem toUInt64_toUInt32_of_le {depth : UInt64} (small : depth.toNat ≤ 2147483647) :
    depth.toUInt32.toUInt64 = depth := by
  rw [← UInt64.toNat_inj, UInt32.toNat_toUInt64, UInt64.toNat_toUInt32]
  omega

/-- What is read back of a settled profile is the profile, but for the spelling of its durations. -/
theorem Profile.ofAttributes_over {q : Profile} (settled : q.Settled) (a : ReaderAttributes) :
    ofAttributes (q.over a) q.rawNames =
      { q with
        deadline := .ofSpan q.deadline.span?
        lifespan := .ofSpan q.lifespan.span?
        lease := .ofSpan q.lease.span? } := by
  simp only [ofAttributes, Profile.over, Duration.over_of_asked settled.deadline,
    Duration.over_of_asked settled.lifespan, Duration.over_of_asked settled.lease, mk.injEq,
    and_true, true_and]
  refine ⟨?_, ?_, ?_, ?_⟩
  · cases settled.reliability with
    | inl chosen | inr chosen => rw [chosen]; rfl
  · cases settled.durability with
    | inl chosen | inr chosen => rw [chosen]; rfl
  · cases settled.history with
    | inl all => rw [all]; rfl
    | inr last =>
        obtain ⟨depth, last, positive, small⟩ := last
        have nonzero : depth ≠ 0 := fun zero => absurd (zero ▸ positive) (by decide)
        rw [last]
        simp only [History.over, nonzero, if_false, toUInt64_toUInt32_of_le small]
  · cases settled.liveliness with
    | inl chosen | inr chosen => rw [chosen]; rfl

end Qos

theorem Registrar.qos_of_establish {s s' : Registrar} {settings : Settings}
    {place : ListenerId} {r : Subscription.Request} {support : TypeSupport}
    {sub : Subscription} {events : List Event}
    (h : s.establish settings place r support = (.ok sub, s', events)) : sub.qos = r.qos := by
  cases creation_establish h with
  | made => rfl

namespace Site

open Subscription (Request)

/-- The profile was written over whatever attributes the reader would have had. -/
theorem actualQos_of_create {s : Site} {r : Request} {sub : Subscription}
    (created : (s.create r).1 = .ok sub) :
    ∃ base, sub.actualQos = .ofAttributes (r.qos.over base) r.qos.rawNames := by
  obtain ⟨support, _, _, _, checked, established, _⟩ := create_ok created
  obtain ⟨defaults, written⟩ := (Registrar.establish_fulfilled established).attributes
  have attributes := Request.attributes_of_placed (Request.placed_of_check checked) written
  refine ⟨r.baseAttributes s.participant.settings support.type defaults, ?_⟩
  rw [Subscription.actualQos, attributes, Registrar.qos_of_establish established]

/-- A subscription runs with the profile that was asked for, if that leaves nothing open. -/
theorem actualQos_requested (s : Site) (r : Request) (sub : Subscription)
    (settled : r.qos.Settled) (created : (s.create r).1 = .ok sub) :
    let durations := [r.qos.deadline, r.qos.lifespan, r.qos.lease]
    ((∀ d ∈ durations, d.nsec.toNat < 1000000000) → sub.actualQos = r.qos) ∧
      ∃ deadline lifespan lease,
        sub.actualQos =
          { r.qos with deadline := deadline, lifespan := lifespan, lease := lease } ∧
        r.qos.deadline.RunsAs deadline ∧ r.qos.lifespan.RunsAs lifespan ∧
          r.qos.lease.RunsAs lease := by
  intro durations
  obtain ⟨base, actual⟩ := actualQos_of_create created
  rw [Qos.Profile.ofAttributes_over settled] at actual
  have deadline := Qos.Duration.runsAs_ofSpan r.qos.deadline
  have lifespan := Qos.Duration.runsAs_ofSpan r.qos.lifespan
  have lease := Qos.Duration.runsAs_ofSpan r.qos.lease
  refine ⟨fun whole => ?_, _, _, _, actual, deadline, lifespan, lease⟩
  rw [actual, deadline.kept (whole _ (by simp [durations])),
    lifespan.kept (whole _ (by simp [durations])), lease.kept (whole _ (by simp [durations]))]

/-- A lifespan with two seconds in its nanoseconds, and a lease that is a second too long,
beside a profile without either. -/
theorem actualQos_requested_carry :
    let s : Site := fresh {} 1
    let string : MessageType := ⟨"std_msgs::msg", "String", 256⟩
    let r : Request := ⟨[⟨TypeSupport.conventionC, string⟩], "chatter",
      { reliability := .bestEffort, durability := .transientLocal, history := .keepLast 3,
        deadline := ⟨0, 250000000⟩, lifespan := ⟨1, 2500000000⟩, liveliness := .manualByTopic,
        lease := ⟨18446744073709551615, 1000000000⟩ }, false, false, true⟩
    let whole : Request :=
      { r with qos := { r.qos with lifespan := ⟨3, 500000000⟩, lease := ⟨2, 0⟩ } }
    r.qos.Settled ∧ whole.qos.Settled ∧
      (∃ sub, (s.create whole).1 = .ok sub ∧ sub.actualQos = whole.qos) ∧
      ∃ sub, (s.create r).1 = .ok sub ∧ sub.actualQos.deadline = ⟨0, 250000000⟩ ∧
        sub.actualQos.lifespan.total = 3500000000 ∧
        sub.actualQos.lifespan.nsec.toNat < 1000000000 ∧
        sub.actualQos.lease = .infinite := by
  intro s string r whole
  have settled : r.qos.Settled :=
    ⟨.inr rfl, .inl rfl, .inr rfl, .inr ⟨3, rfl, by decide, by decide⟩, by decide, by decide,
      by decide⟩
  have whole_settled : whole.qos.Settled :=
    ⟨.inr rfl, .inl rfl, .inr rfl, .inr ⟨3, rfl, by decide, by decide⟩, by decide, by decide,
      by decide⟩
  have made : (s.create r).1.isOk = true := by decide +kernel
  have whole_made : (s.create whole).1.isOk = true := by decide +kernel
  obtain ⟨sub, created⟩ := exists_ok_of_isOk made
  obtain ⟨whole_sub, whole_created⟩ := exists_ok_of_isOk whole_made
  obtain ⟨same, _⟩ := actualQos_requested s whole whole_sub whole_settled whole_created
  obtain ⟨_, deadline, lifespan, lease, actual, kept, carried, unbounded⟩ :=
    actualQos_requested s r sub settled created
  have moved := carried.carried (by decide) (by decide)
  refine ⟨settled, whole_settled, ⟨whole_sub, whole_created, same (by decide)⟩, sub, created, ?_⟩
  rw [actual]
  exact ⟨kept.kept (by decide), moved.1.trans (by decide), moved.2,
    unbounded.unbounded (by decide) (by decide)⟩

end Site

end RosMiddleware
