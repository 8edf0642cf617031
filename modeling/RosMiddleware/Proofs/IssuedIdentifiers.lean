import RosMiddleware.Domain
import RosMiddleware.Proofs.ReaderIdentifiers
import RosMiddleware.Proofs.SubscriptionLifecycle

/-!
Identifiers of readers in one process. Each transport counts the readers to which it gave a known
identity, and nothing else moves its count: no refusal, no rollback, no teardown and no switch.
So the identifiers that one transport gives out are those of its first, second, third reader and
so on, and as long as neither participants nor readers are too many, none is given out twice.
-/
namespace RosMiddleware

open Transport (Guid Reader ReaderAttributes)

namespace Transport

structure SameNumbers (t t' : Transport) : Prop where
  number : t'.number = t.number
  next : t'.nextReader = t.nextReader

/-- What becomes of the numbers of a transport while at most one identifier is given out. -/
inductive Issues (t t' : Transport) : Option Gid → Prop
  | nothing (same : SameNumbers t t') : Issues t t' none
  | reader (gid : Gid) (number : t'.number = t.number) (next : t'.nextReader = t.nextReader + 1)
      (named : Gid.ofGuid implementationTag
        ⟨Guid.hostOf t.number, Guid.readerOf t.nextReader⟩ = .ok gid) :
      Issues t t' (some gid)

theorem SameNumbers.refl (t : Transport) : SameNumbers t t := ⟨rfl, rfl⟩

variable {t t' t'' : Transport}

theorem SameNumbers.trans (first : SameNumbers t t') (second : SameNumbers t' t'') :
    SameNumbers t t'' :=
  ⟨second.number.trans first.number, second.next.trans first.next⟩

theorem Issues.after_same {gid? : Option Gid} (same : SameNumbers t t')
    (issues : Issues t' t'' gid?) : Issues t t'' gid? := by
  obtain ⟨number, next⟩ := same
  cases issues with
  | nothing same' => exact .nothing (.trans ⟨number, next⟩ same')
  | reader gid number' next' named =>
      rw [number, next] at named
      exact .reader gid (number'.trans number) (next ▸ next') named

theorem sameNumbers_dropReader (t : Transport) (r : Reader) : SameNumbers t (t.dropReader r) :=
  ⟨rfl, rfl⟩

theorem sameNumbers_registerType {a : Adapter} (done : t.registerType a = .ok t') :
    SameNumbers t t' := by
  unfold registerType at done
  split at done
  · cases done
  split at done
  · cases done
  · cases done
    exact ⟨rfl, rfl⟩

theorem sameNumbers_unregisterType {typeName : String}
    (done : t.unregisterType typeName = .ok t') : SameNumbers t t' := by
  unfold unregisterType at done
  split at done
  · cases done
  split at done
  · cases done
    exact ⟨rfl, rfl⟩
  · cases done

section Reader

variable {attributes : ReaderAttributes} {listener : Option ListenerId} {r : Reader}

theorem sameNumbers_of_unknown (done : t.createReader attributes listener = .ok (r, t'))
    (unknown : r.guid = .unknown) : SameNumbers t t' := by
  obtain ⟨new, left⟩ := createReader_ok done
  have switched : t.faults.unknownGuid = true := by
    rw [← nextGuid_eq_unknown_iff, ← unknown, new]
  rw [left]
  exact ⟨rfl, by simp [switched]⟩

/-- A new reader gives out an identifier exactly if its identity is known. -/
theorem createReader_issues (done : t.createReader attributes listener = .ok (r, t')) :
    Issues t t' (Gid.ofGuid implementationTag r.guid).toOption := by
  cases named : Gid.ofGuid implementationTag r.guid with
  | error e => exact .nothing (sameNumbers_of_unknown done (Gid.ofGuid_error named))
  | ok gid =>
      obtain ⟨guid, left⟩ := createReader_of_known done (Gid.ofGuid_ok named)
      rw [guid] at named
      exact .reader gid (by rw [left]) (by rw [left]) named

end Reader

end Transport

namespace Registrar

open Transport (SameNumbers Issues)

/-- Types are registered without a number. -/
theorem sameNumbers_acquire (s : Registrar) (typeName : String) (factory : Factory) :
    SameNumbers s.transport (s.acquire typeName factory).2.transport := by
  have registered : SameNumbers s.transport (s.getOrRegister typeName factory).2.transport := by
    unfold getOrRegister
    split
    · exact .refl _
    dsimp only
    split
    · exact .refl _
    split
    · exact .refl _
    · rename_i done
      exact Transport.sameNumbers_registerType done
  unfold acquire
  split <;> rename_i left <;> rwa [left] at registered

theorem sameNumbers_release (s : Registrar) (typeName : String) :
    SameNumbers s.transport (s.release typeName).2.transport := by
  unfold release
  split
  · exact .refl _
  dsimp only
  split
  · exact .refl _
  split
  · exact .refl _
  · rename_i done
    exact Transport.sameNumbers_unregisterType done

theorem sameNumbers_dropHold (s : Registrar) (hold : TypeHold) :
    SameNumbers s.transport (s.dropHold hold).1.transport := by
  rw [dropHold_fst]
  exact s.sameNumbers_release hold.typeName

theorem sameNumbers_unregisterEach (names : List String) (s : Registrar) :
    SameNumbers s.transport (unregisterEach names s).2.transport := by
  induction names generalizing s with
  | nil => exact .refl _
  | cons typeName names ih =>
      rw [unregisterEach]
      split
      · exact ih s
      · rename_i transport done
        have rest := ih { s with registry := s.registry.erase typeName, transport := transport }
        exact (Transport.sameNumbers_unregisterType done).trans rest

theorem sameNumbers_unregisterAll (s : Registrar) :
    SameNumbers s.transport s.unregisterAll.2.1.transport :=
  sameNumbers_unregisterEach _ s

theorem sameNumbers_drop (s : Registrar) (sub : Subscription) :
    SameNumbers s.transport (s.drop sub).1.transport :=
  (s.transport.sameNumbers_dropReader sub.reader).trans
    (sameNumbers_dropHold (s.withoutReader sub) sub.hold)

/-- A subscription takes one number; a creation that fails takes none. -/
theorem establish_issues {s s' : Registrar} {settings : Settings} {place : ListenerId}
    {r : Subscription.Request} {support : TypeSupport} {outcome : Except Error Subscription}
    {events : List Event} (h : s.establish settings place r support = (outcome, s', events)) :
    Issues s.transport s'.transport (outcome.toOption.map Subscription.gid) := by
  have acquired := s.sameNumbers_acquire support.type.typeName (adapterFor support.type)
  cases creation_establish h with
  | withoutHold e _ asked =>
      rw [asked] at acquired
      exact .nothing acquired
  | withoutAttributes hold s₁ _ had _ | withoutReader hold s₁ _ _ had _ _ =>
      rw [had] at acquired
      exact .nothing (acquired.trans (s₁.sameNumbers_dropHold hold))
  | withoutGid hold s₁ _ reader t _ had _ made unnamed =>
      rw [had] at acquired
      -- the reader that is deleted again had no known identity, so its number is still free
      have same := Transport.sameNumbers_of_unknown made (Gid.ofGuid_error unnamed)
      have dropped := same.trans (t.sameNumbers_dropReader reader)
      have released := sameNumbers_dropHold { s₁ with transport := t.dropReader reader } hold
      exact .nothing ((acquired.trans dropped).trans released)
  | made hold s₁ _ reader _ gid had _ made named =>
      rw [had] at acquired
      have issues := Transport.createReader_issues made
      rw [named] at issues
      exact issues.after_same acquired

end Registrar

namespace Site

open Transport (SameNumbers Issues)

theorem create_issues (s : Site) (r : Subscription.Request) :
    Issues s.registrar.transport (s.create r).2.registrar.transport
      ((s.create r).1.toOption.map Subscription.gid) := by
  rcases s.create_cases r with ⟨e, journal, left⟩ |
    ⟨support, outcome, registrar, events, journal, _, established, left⟩
  · rw [left]
    exact .nothing (.refl _)
  · rw [left]
    exact Registrar.establish_issues established

theorem sameNumbers_destroy (s : Site) (sub : Subscription) :
    SameNumbers s.registrar.transport (s.destroy sub).2.registrar.transport := by
  obtain ⟨journal, left⟩ := s.destroy_snd sub sub.implementation
  rw [left]
  exact s.registrar.sameNumbers_drop sub

theorem sameNumbers_shutdown (s : Site) :
    SameNumbers s.registrar.transport s.shutdown.2.registrar.transport := by
  cases wasOpen : s.participant.isOpen with
  | false =>
      rw [shutdown_of_closed wasOpen]
      exact .refl _
  | true =>
      obtain ⟨journal, left⟩ := shutdown_snd wasOpen
      rw [left]
      exact s.registrar.sameNumbers_unregisterAll

end Site

/-! ### Processes -/

structure Process where
  domain : Domain := {}
  issued : List (TransportId × Gid) := []

inductive RegistryCall
  | acquire (typeName : String) (factory : Factory)
  | release (hold : TypeHold)
  | drop (hold : TypeHold)
  | unregisterAll

def RegistryCall.perform (s : Registrar) : RegistryCall → Registrar
  | .acquire typeName factory => (s.acquire typeName factory).2
  | .release hold => (s.releaseHold hold).2
  | .drop hold => (s.dropHold hold).1
  | .unregisterAll => s.unregisterAll.2.1

inductive Action
  | addTransport
  | addParticipant (t : TransportId) (settings : Settings)
  | switch (t : TransportId) (faults : Transport.Faults)
  | configure (t : TransportId) (defaults : ReaderAttributes)
  | registerType (t : TransportId) (type : MessageType)
  | unregisterType (t : TransportId) (typeName : String)
  | createReader (t : TransportId) (attributes : ReaderAttributes) (listener : Option ListenerId)
  | dropReader (t : TransportId) (reader : Reader)
  | atRegistry (r : RegistryId) (t : TransportId) (call : RegistryCall)
  | create (p : ParticipantId) (request : Subscription.Request)
  | drop (p : ParticipantId) (sub : Subscription)
  | destroy (p : ParticipantId) (sub : Subscription)
  | shutdown (p : ParticipantId)
  /-- Something that is not about transports. -/
  | elsewhere (change : Domain → Domain) (apart : ∀ d, (change d).transports = d.transports)

namespace Action

/-- The action, and the identifier that it gives out with its transport. -/
def perform (d : Domain) : Action → Option (TransportId × Gid) × Domain
  | .addTransport => (none, d.addTransport.2)
  | .addParticipant t settings => (none, (d.addParticipant t settings).2)
  | .switch t faults => (none, d.putTransport t { d.transport t with faults := faults })
  | .configure t defaults => (none, d.putTransport t { d.transport t with defaults := defaults })
  | .registerType t type => (none, (d.registerType t type).2)
  | .unregisterType t typeName => (none, (d.unregisterType t typeName).2)
  | .createReader t attributes listener =>
    match d.createReader t attributes listener with
    | (.ok reader, d) => ((Gid.ofGuid implementationTag reader.guid).toOption.map (t, ·), d)
    | (.error _, d) => (none, d)
  | .dropReader t reader => (none, d.dropReader t reader)
  | .atRegistry r t call => (none, (d.atRegistrar r t fun s => ((), call.perform s)).2)
  | .create p request =>
    let (outcome, left) := d.atSite p fun s => s.create request
    ((outcome.toOption.map Subscription.gid).map ((d.member p).transport, ·), left)
  | .drop p sub => (none, (d.atSite p fun s => ((), s.drop sub)).2)
  | .destroy p sub => (none, (d.atSite p fun s => s.destroy sub).2)
  | .shutdown p => (none, (d.atSite p Site.shutdown).2)
  | .elsewhere change _ => (none, change d)

def possible (d : Domain) : Action → Bool
  | .addTransport | .elsewhere _ _ => true
  | .addParticipant t _ | .switch t _ | .configure t _ | .registerType t _
  | .unregisterType t _ | .createReader t _ _ | .dropReader t _ | .atRegistry _ t _ =>
    decide (t < d.transports.size)
  | .create p _ | .drop p _ | .destroy p _ | .shutdown p =>
    decide (p < d.members.size ∧ (d.member p).transport < d.transports.size)

/-- A new transport, no change at all, or one transport that may give out an identifier. -/
inductive Effect (d d' : Domain) : Option (TransportId × Gid) → Prop
  | added (left : d'.transports = d.transports.push (.ofNumber (d.transports.size + 1))) :
      Effect d d' none
  | apart (same : d'.transports = d.transports) : Effect d d' none
  | served (t : TransportId) (here : t < d.transports.size) (transport : Transport)
      (gid? : Option Gid) (issues : (d.transport t).Issues transport gid?)
      (left : d'.transports = d.transports.setIfInBounds t transport) :
      Effect d d' (gid?.map (t, ·))

theorem sameNumbers_perform (s : Registrar) (call : RegistryCall) :
    s.transport.SameNumbers (call.perform s).transport := by
  cases call with
  | acquire typeName factory => exact s.sameNumbers_acquire typeName factory
  | release hold => exact s.sameNumbers_release hold.typeName
  | drop hold => exact s.sameNumbers_dropHold hold
  | unregisterAll => exact s.sameNumbers_unregisterAll

variable {d : Domain}

theorem effect_atSite {α : Type} {p : ParticipantId} {gid? : Option Gid}
    (here : (d.member p).transport < d.transports.size) (f : Site → α × Site)
    (issues : (d.site p).registrar.transport.Issues (f (d.site p)).2.registrar.transport gid?) :
    Effect d (d.atSite p f).2 (gid?.map ((d.member p).transport, ·)) :=
  .served _ here _ gid? issues rfl

/-- An action is about one transport, and on it at most one reader is created. -/
theorem perform_effect (a : Action) (possible : a.possible d = true) :
    Effect d (a.perform d).2 (a.perform d).1 := by
  cases a with
  | addTransport => exact .added rfl
  | addParticipant t settings => exact .apart rfl
  | elsewhere change apart => exact .apart (apart d)
  | switch t faults =>
      have here := of_decide_eq_true possible
      exact .served t here { d.transport t with faults := faults } none (.nothing ⟨rfl, rfl⟩) rfl
  | configure t defaults =>
      have here := of_decide_eq_true possible
      exact .served t here { d.transport t with defaults := defaults } none (.nothing ⟨rfl, rfl⟩) rfl
  | dropReader t reader =>
      have same := (d.transport t).sameNumbers_dropReader reader
      exact .served t (of_decide_eq_true possible) _ none (.nothing same) rfl
  | registerType t type =>
      have here := of_decide_eq_true possible
      simp only [perform, Domain.registerType]
      split
      · rename_i done
        exact .served t here _ none (.nothing (Transport.sameNumbers_registerType done)) rfl
      · exact .apart rfl
  | unregisterType t typeName =>
      have here := of_decide_eq_true possible
      simp only [perform, Domain.unregisterType]
      split
      · rename_i done
        exact .served t here _ none (.nothing (Transport.sameNumbers_unregisterType done)) rfl
      · exact .apart rfl
  | createReader t attributes listener =>
      have here := of_decide_eq_true possible
      simp only [perform, Domain.createReader]
      cases done : (d.transport t).createReader attributes listener with
      | error refusal => exact .apart rfl
      | ok made => exact .served t here _ _ (Transport.createReader_issues done) rfl
  | atRegistry r t call =>
      have same := sameNumbers_perform (d.registrar r t) call
      exact .served t (of_decide_eq_true possible) _ none (.nothing same) rfl
  | create p request =>
      have here := (of_decide_eq_true possible).2
      exact effect_atSite here (fun s => s.create request) ((d.site p).create_issues request)
  | drop p sub =>
      have here := (of_decide_eq_true possible).2
      exact effect_atSite here (fun s => ((), s.drop sub))
        (.nothing ((d.site p).registrar.sameNumbers_drop sub))
  | destroy p sub =>
      have here := (of_decide_eq_true possible).2
      exact effect_atSite here (fun s => s.destroy sub)
        (.nothing ((d.site p).sameNumbers_destroy sub))
  | shutdown p =>
      have here := (of_decide_eq_true possible).2
      exact effect_atSite here Site.shutdown (.nothing (d.site p).sameNumbers_shutdown)

end Action

namespace Process

/-- Nothing happens where there is nothing. -/
def act (s : Process) (a : Action) : Process :=
  if a.possible s.domain then
    { domain := (a.perform s.domain).2
      issued := s.issued ++ (a.perform s.domain).1.toList }
  else s

def run (s : Process) (actions : List Action) : Process := actions.foldl act s

def gidsOf (s : Process) (t : TransportId) : List Gid :=
  (s.issued.filter fun g => g.1 == t).map Prod.snd

structure Counted (transport : Transport) (t : TransportId) (gids : List Gid) : Prop where
  number : transport.number = UInt32.ofNat (t + 1)
  next : transport.nextReader = UInt32.ofNat (gids.length + 1)
  gids : gids = (List.range gids.length).map fun i => Gid.ofReader (t + 1) (i + 1)

theorem counted_fresh (t : TransportId) : Counted (.ofNumber (t + 1)) t [] := ⟨rfl, rfl, rfl⟩

/-- What is given out is the identifier of the reader after the last one. -/
theorem counted_issues {transport transport' : Transport} {t : TransportId} {gids : List Gid}
    {gid? : Option Gid} (counted : Counted transport t gids)
    (issues : transport.Issues transport' gid?) :
    Counted transport' t (gids ++ gid?.toList) := by
  obtain ⟨number, next, numbered⟩ := counted
  cases issues with
  | nothing same =>
      rw [Option.toList_none, List.append_nil]
      exact ⟨same.number.trans number, same.next.trans next, numbered⟩
  | reader gid number' next' named =>
      rw [number, next] at named
      obtain rfl : Gid.ofReader (t + 1) (gids.length + 1) = gid :=
        Except.ok.inj ((Gid.ofGuid_ofReader _ _).symm.trans named)
      refine ⟨number'.trans number, ?_, ?_⟩
      · simp [next', next, UInt32.ofNat_add]
      · rw [Option.toList_some, List.length_append, List.length_singleton, List.range_succ,
          List.map_append, ← numbered, List.map_singleton]

/-- The transports are numbered from one, and so are the readers of each of them. -/
structure Numbered (s : Process) : Prop where
  counted : ∀ t, t < s.domain.transports.size → Counted (s.domain.transport t) t (s.gidsOf t)
  absent : ∀ t, s.domain.transports.size ≤ t → s.gidsOf t = []

variable {s : Process}

theorem numbered_fresh : Numbered {} where
  counted _ here := absurd here (Nat.not_lt_zero _)
  absent _ _ := rfl

theorem transport_set {d : Domain} {t : TransportId} (here : t < d.transports.size)
    (transport : Transport) (u : TransportId) :
    (d.transports.setIfInBounds t transport).getD u default =
      if t = u then transport else d.transport u := by
  rw [Array.getD_eq_getD_getElem?, Array.getElem?_setIfInBounds, Domain.transport,
    Array.getD_eq_getD_getElem?]
  by_cases same : t = u
  · simp [same ▸ here, same]
  · simp [same]

theorem transport_push {d : Domain} (transport : Transport) (u : TransportId) :
    (d.transports.push transport).getD u default =
      if u = d.transports.size then transport else d.transport u := by
  rw [Array.getD_eq_getD_getElem?, Array.getElem?_push, Domain.transport,
    Array.getD_eq_getD_getElem?]
  split <;> rfl

theorem gidsOf_append (s : Process) (d : Domain) (t u : TransportId) (gid? : Option Gid) :
    gidsOf ⟨d, s.issued ++ (gid?.map (t, ·)).toList⟩ u =
      s.gidsOf u ++ if t = u then gid?.toList else [] := by
  rw [gidsOf, gidsOf, List.filter_append, List.map_append]
  cases gid? with
  | none => simp
  | some gid => by_cases same : t = u <;> simp [same]

theorem numbered_added (numbered : s.Numbered) {d : Domain}
    (left : d.transports = s.domain.transports.push (.ofNumber (s.domain.transports.size + 1))) :
    Numbered ⟨d, s.issued⟩ := by
  have size : d.transports.size = s.domain.transports.size + 1 := by
    rw [left, Array.size_push]
  constructor
  · intro t here
    dsimp only at here ⊢
    rw [size] at here
    rw [Domain.transport, left, transport_push]
    split
    · rename_i new
      rw [← new]
      exact numbered.absent t (Nat.le_of_eq new.symm) ▸ counted_fresh t
    · rename_i old
      exact numbered.counted t (Nat.lt_of_le_of_ne (Nat.le_of_lt_succ here) old)
  · intro t there
    dsimp only at there
    rw [size] at there
    exact numbered.absent t (Nat.le_of_succ_le there)

/-- A transport goes on counting from where it was. -/
theorem numbered_served (numbered : s.Numbered) {d : Domain} {t : TransportId}
    {transport : Transport} {gid? : Option Gid} (here : t < s.domain.transports.size)
    (issues : (s.domain.transport t).Issues transport gid?)
    (left : d.transports = s.domain.transports.setIfInBounds t transport) :
    Numbered ⟨d, s.issued ++ (gid?.map (t, ·)).toList⟩ := by
  have size : d.transports.size = s.domain.transports.size := by
    rw [left, Array.size_setIfInBounds]
  constructor
  · intro u there
    dsimp only at there ⊢
    rw [gidsOf_append, Domain.transport, left, transport_set here]
    by_cases same : t = u
    · subst same
      rw [if_pos rfl, if_pos rfl]
      exact counted_issues (numbered.counted t here) issues
    · rw [if_neg same, if_neg same, List.append_nil]
      exact numbered.counted u (size ▸ there)
  · intro u there
    dsimp only at there
    rw [size] at there
    have apart : t ≠ u := fun same => Nat.not_lt.mpr there (same ▸ here)
    rw [gidsOf_append, if_neg apart, List.append_nil]
    exact numbered.absent u there

theorem numbered_effect (numbered : s.Numbered) {d : Domain}
    {issued : Option (TransportId × Gid)} (effect : Action.Effect s.domain d issued) :
    Numbered ⟨d, s.issued ++ issued.toList⟩ := by
  cases effect with
  | apart same =>
      rw [Option.toList_none, List.append_nil]
      constructor
      · intro t here
        have counted := numbered.counted t (same ▸ here)
        rwa [Domain.transport, ← same] at counted
      · intro t there
        exact numbered.absent t (same ▸ there)
  | added left =>
      rw [Option.toList_none, List.append_nil]
      exact numbered_added numbered left
  | served t here transport gid? issues left => exact numbered_served numbered here issues left

theorem numbered_act (numbered : s.Numbered) (a : Action) : Numbered (s.act a) := by
  rw [act]
  split
  · rename_i possible
    exact numbered_effect numbered (Action.perform_effect a possible)
  · exact numbered

theorem numbered_run (numbered : s.Numbered) (actions : List Action) :
    Numbered (s.run actions) := by
  induction actions generalizing s with
  | nil => exact numbered
  | cons a actions ih => exact ih (numbered_act numbered a)

/-! ### Identifiers that differ -/

/-- Neither participants nor readers are so many that their numbers come again. -/
structure Few (s : Process) : Prop where
  participants : s.domain.transports.size < UInt32.size
  readers : ∀ t, (s.gidsOf t).length < Guid.readerRange

theorem Numbered.gids (numbered : s.Numbered) (t : TransportId) :
    s.gidsOf t = (List.range (s.gidsOf t).length).map fun i => Gid.ofReader (t + 1) (i + 1) := by
  by_cases here : t < s.domain.transports.size
  · exact (numbered.counted t here).gids
  · rw [numbered.absent t (Nat.le_of_not_lt here)]
    rfl

theorem Numbered.getElem? (numbered : s.Numbered) {t : TransportId} {i : Nat} {gid : Gid}
    (given : (s.gidsOf t)[i]? = some gid) : gid = Gid.ofReader (t + 1) (i + 1) := by
  rw [numbered.gids t, List.getElem?_map, Option.map_eq_some_iff] at given
  obtain ⟨j, place, rfl⟩ := given
  obtain ⟨_, rfl⟩ := List.getElem?_eq_some_iff.mp place
  rw [List.getElem_range]

theorem Numbered.of_mem (numbered : s.Numbered) {t : TransportId} {gid : Gid}
    (mem : (t, gid) ∈ s.issued) :
    t < s.domain.transports.size ∧
      ∃ i, i < (s.gidsOf t).length ∧ gid = Gid.ofReader (t + 1) (i + 1) := by
  have given : gid ∈ s.gidsOf t := by
    simp only [gidsOf, List.mem_map, List.mem_filter, beq_iff_eq]
    exact ⟨_, ⟨mem, rfl⟩, rfl⟩
  constructor
  · refine Nat.lt_of_not_le fun there => ?_
    rw [numbered.absent t there] at given
    cases given
  · obtain ⟨i, lt, rfl⟩ := List.getElem_of_mem given
    exact ⟨i, lt, numbered.getElem? (List.getElem?_eq_getElem lt)⟩

/-- Pairs that are related wherever they are apart, and within each of the places, are related
throughout. -/
theorem pairwise_of_places {R : Gid → Gid → Prop} {issued : List (TransportId × Gid)}
    (apart : ∀ a ∈ issued, ∀ b ∈ issued, a.1 ≠ b.1 → R a.2 b.2)
    (within : ∀ t, ((issued.filter fun g => g.1 == t).map Prod.snd).Pairwise R) :
    (issued.map Prod.snd).Pairwise R := by
  induction issued with
  | nil => exact .nil
  | cons g issued ih =>
      rw [List.map_cons, List.pairwise_cons]
      constructor
      · intro gid mem
        obtain ⟨other, later, rfl⟩ := List.mem_map.mp mem
        by_cases same : other.1 = g.1
        · have here := within g.1
          rw [List.filter_cons_of_pos (by simp), List.map_cons, List.pairwise_cons] at here
          refine here.1 _ (List.mem_map_of_mem (List.mem_filter.mpr ⟨later, ?_⟩))
          simp [same]
        · exact apart g List.mem_cons_self other (List.mem_cons_of_mem g later) (Ne.symm same)
      · refine ih (fun a ha b hb => ?_) fun t => ?_
        · exact apart a (List.mem_cons_of_mem g ha) b (List.mem_cons_of_mem g hb)
        · exact (within t).sublist (((List.sublist_cons_self g issued).filter _).map _)

theorem Numbered.ascending (numbered : s.Numbered) (few : s.Few) (t : TransportId) :
    (s.gidsOf t).Pairwise fun a b => compare a b = .lt ∧ a.bytes < b.bytes := by
  rw [numbered.gids t, List.pairwise_map]
  refine List.pairwise_lt_range.imp_of_mem fun {i j} _ mem less => ?_
  have last : j + 1 ≤ (s.gidsOf t).length := List.mem_range.mp mem
  have readers : j + 1 < Guid.readerRange := Nat.lt_of_le_of_lt last (few.readers t)
  exact Gid.ofReader_ascending (t + 1) (Nat.add_lt_add_right less 1) readers

/-- Identifiers of different transports differ in the number of the participant, and those of one
transport in the number of the reader. -/
theorem Numbered.distinct (numbered : s.Numbered) (few : s.Few) :
    (s.issued.map Prod.snd).Nodup := by
  -- readers of two participants differ in the first number, those of one in the second
  refine pairwise_of_places ?_ fun t => ?_
  · intro a ha b hb apart same
    obtain ⟨hereA, i, _, gidA⟩ := numbered.of_mem ha
    obtain ⟨hereB, j, _, gidB⟩ := numbered.of_mem hb
    rw [gidA, gidB] at same
    have numbers := (Gid.ofReader_eq_iff.mp same).1
    rw [Nat.mod_eq_of_lt (Nat.lt_of_le_of_lt hereA few.participants),
      Nat.mod_eq_of_lt (Nat.lt_of_le_of_lt hereB few.participants)] at numbers
    exact apart (Nat.succ.inj numbers)
  · refine (numbered.ascending few t).imp ?_
    rintro a _ ⟨less, -⟩ rfl
    rw [Std.compare_self] at less
    cases less

/-- In every run the identifiers of readers are told apart by the low bits of two numbers, that
of the participant and that of the reader, and no reader without one of them has used up a
number. If the numbers do not come again, the identifiers are distinct and ascend. -/
theorem identifiers_by_numbers (actions : List Action) :
    let s := run {} actions
    (∀ t, t < s.domain.transports.size →
        (s.domain.transport t).number = UInt32.ofNat (t + 1) ∧
          (s.domain.transport t).nextReader = UInt32.ofNat ((s.gidsOf t).length + 1)) ∧
      (∀ t u i j a b, (s.gidsOf t)[i]? = some a → (s.gidsOf u)[j]? = some b →
        (a = b ↔ (t + 1) % UInt32.size = (u + 1) % UInt32.size ∧
          (i + 1) % Guid.readerRange = (j + 1) % Guid.readerRange)) ∧
      (∀ g ∈ s.issued, g.2.guidBits ≠ Guid.unknown.bits) ∧
      (s.Few → (s.issued.map Prod.snd).Nodup ∧
        ∀ t, (s.gidsOf t).Pairwise fun a b => compare a b = .lt ∧ a.bytes < b.bytes) := by
  intro s
  have numbered : s.Numbered := numbered_run numbered_fresh actions
  refine ⟨fun t here => ?_, ?_, ?_, fun few => ⟨numbered.distinct few, numbered.ascending few⟩⟩
  · have counted := numbered.counted t here
    exact ⟨counted.number, counted.next⟩
  · intro t u i j a b given other
    rw [numbered.getElem? given, numbered.getElem? other]
    exact Gid.ofReader_eq_iff
  · intro g mem
    obtain ⟨_, i, _, gid⟩ := numbered.of_mem mem
    rw [gid]
    exact Gid.guidBits_ofReader _ _

end Process

end RosMiddleware
