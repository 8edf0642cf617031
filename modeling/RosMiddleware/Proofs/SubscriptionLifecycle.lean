import RosMiddleware.Participant
import RosMiddleware.Proofs.RegistryAgreement

/-!
Creation and teardown of a subscription on a registry that agrees with its transport. A
creation either leaves one more holder, one more reader and the listener of the new
subscription, or it is undone: its hold is given up again, and no reader stays. Both ways
of tearing a subscription down have the same effect.
-/
namespace RosMiddleware

open Transport (Reader ReaderAttributes)

/-- What the transport keeps for the listener of a subscription. -/
def Subscription.attachment? (sub : Subscription) : Option Transport.Attachment :=
  sub.listener.map fun l => ⟨sub.reader.guid, sub.ddsTopicName, l⟩

namespace Subscription.Request

def listenerAt (r : Request) (place : ListenerId) : Option ListenerId :=
  if r.wantsListener then some place else none

def subscription (r : Request) (support : TypeSupport) (listener : Option ListenerId)
    (hold : TypeHold) (reader : Reader) (gid : Gid) : Subscription where
  implementation := implementationTag
  topicName := r.topic
  ignoreLocal := r.ignoreLocal
  reader := reader
  listener := listener
  hold := hold
  convention := support.convention
  gid := gid
  qos := r.qos

end Subscription.Request

namespace Registrar

/-- A hold on the type was taken and given up again. Where the type had no holders before,
the unregistration that follows shows: it may be refused for a new type, which then stays,
or accepted for one that was left over, which then goes. -/
inductive Unwound (typeName : String) (s s' : Registrar) : Prop
  | restored (entries : s'.registry.entries = s.registry.entries)
      (types : s'.transport.types = s.transport.types)
  | leftOver (a : Adapter) (absent : s.registry.entries[typeName]? = none)
      (built : a.typeName = typeName)
      (refused : s.transport.faults.unregisterType = true)
      (entries : s'.registry.entries = s.registry.entries.insert typeName ⟨a, 0⟩)
      (types : s'.transport.types = s.transport.types.insert typeName a)
  | cleared (a : Adapter) (idle : s.registry.entries[typeName]? = some ⟨a, 0⟩)
      (accepted : s.transport.faults.unregisterType = false)
      (entries : s'.registry.entries = s.registry.entries.erase typeName)
      (types : s'.transport.types = s.transport.types.erase typeName)

/-- Between the two the readers may have changed, but neither the tables nor the switches. -/
theorem Acquired.unwound {typeName : String} {s s₁ s₂ s₃ : Registrar} {hold : TypeHold}
    (agrees : s.Agrees) (acquired : Acquired typeName s s₁ hold)
    (entries : s₂.registry.entries = s₁.registry.entries)
    (types : s₂.transport.types = s₁.transport.types)
    (faults : s₂.transport.faults = s.transport.faults)
    (released : Released typeName s₂ s₃) : Unwound typeName s s₃ := by
  rw [acquired.entries] at entries
  rw [acquired.transport] at types
  have held : s₂.registry.entries[typeName]? =
      some ⟨hold.registration.adapter, s.registry.holders typeName + 1⟩ := by
    simp [entries]
  cases released with
  | uncached absent _ => cases absent.symm.trans held
  | kept entry cached stays effect =>
      cases cached.symm.trans held
      have left : s₃.registry.entries = s.registry.entries.insert typeName
          ⟨hold.registration.adapter, s.registry.holders typeName⟩ := by
        rw [effect, TypeRegistry.insert_entries, entries, table_insert_insert]
        rfl
      have typesLeft : s₃.transport.types = s₂.transport.types := by rw [effect]
      -- the type stays either for other holders or because it could not be unregistered
      cases before : s.registry.entries[typeName]? with
      | some entry =>
          rw [acquired.reused entry before] at left types
          rw [TypeRegistry.holders_of_some before] at left
          refine .restored ?_ ?_
          · rw [left, table_insert_of_some _ before]
          · rw [typesLeft, types, agrees.types_insert before]
      | none =>
          rw [TypeRegistry.holders_of_none before] at left stays
          rw [faults] at stays
          exact .leftOver _ before (acquired.built before) (stays.resolve_left (by simp)) left
            (typesLeft.trans types)
  | gone entry cached last accepted effect =>
      cases cached.symm.trans held
      have left : s₃.registry.entries = s.registry.entries.erase typeName := by
        rw [effect, TypeRegistry.erase_entries, entries, table_erase_insert]
      have typesLeft : s₃.transport.types = s.transport.types.erase typeName := by
        rw [effect]
        change s₂.transport.types.erase typeName = _
        rw [types, table_erase_insert]
      cases before : s.registry.entries[typeName]? with
      | some entry =>
          have idle : entry = ⟨entry.adapter, 0⟩ := by
            rw [TypeRegistry.holders_of_some before] at last
            have none : entry.holders = 0 := by simpa using last
            rw [← none]
          exact .cleared entry.adapter (idle ▸ before) (faults ▸ accepted) left typesLeft
      | none =>
          refine .restored ?_ ?_
          · rw [left, table_erase_of_none _ before]
          · rw [typesLeft, table_erase_of_none _ (agrees.types_of_none before)]

theorem Unwound.agrees {typeName : String} {s s' : Registrar}
    (unwound : Unwound typeName s s') (agrees : s.Agrees) : s'.Agrees := by
  cases unwound with
  | restored entries types => exact agrees.congr entries types
  | leftOver _ _ _ _ entries types => exact agrees.of_insert entries types
  | cleared _ _ _ entries types => exact agrees.of_erase entries types

theorem Unwound.named {typeName : String} {s s' : Registrar}
    (unwound : Unwound typeName s s') (named : s.Named) : s'.Named := by
  cases unwound with
  | restored entries _ => exact named.congr entries
  | leftOver a _ built _ entries _ => exact named.of_insert ⟨a, 0⟩ built entries
  | cleared _ _ _ entries _ => exact named.of_erase entries

/-- Nobody's hold is lost. -/
theorem Unwound.holders {typeName : String} {s s' : Registrar}
    (unwound : Unwound typeName s s') (other : String) :
    s'.registry.holders other = s.registry.holders other := by
  cases unwound with
  | restored entries _ => simp only [TypeRegistry.holders, entries]
  | leftOver a absent _ _ entries _ =>
      by_cases h : typeName = other
      · subst h
        simp [TypeRegistry.holders, entries, absent]
      · simp [TypeRegistry.holders, entries, Std.ExtTreeMap.getElem?_insert, h]
  | cleared a idle _ entries _ =>
      by_cases h : typeName = other
      · subst h
        simp [TypeRegistry.holders, entries, idle]
      · simp [TypeRegistry.holders, entries, Std.ExtTreeMap.getElem?_erase, h]

structure RolledBack (typeName : String) (s s' : Registrar) : Prop where
  unwound : Unwound typeName s s'
  readers : s.transport.SameReaders s'.transport

structure Established (typeName : String) (s s' : Registrar) (sub : Subscription) : Prop where
  typed : sub.typeName = typeName
  tagged : sub.implementation = implementationTag
  guid : sub.reader.guid =
    ⟨Transport.Guid.hostOf s.transport.number, Transport.Guid.readerOf s.transport.nextReader⟩
  /-- The adapter is the one that was cached, or it was built for the name. -/
  reused : ∀ entry, s.registry.entries[typeName]? = some entry → sub.adapter = entry.adapter
  built : s.registry.entries[typeName]? = none → sub.adapter.typeName = typeName
  entries : s'.registry.entries =
    s.registry.entries.insert typeName ⟨sub.adapter, s.registry.holders typeName + 1⟩
  transport : s'.transport = { s.transport with
    types := s.transport.types.insert typeName sub.adapter
    nextReader := s.transport.nextReader + 1
    attached := s.transport.attached ++ sub.attachment?.toList
    liveReaders := s.transport.liveReaders + 1
    createdReaders := s.transport.createdReaders + 1 }

/-- The adapter that the subscription holds is of its type, whoever had it registered. -/
theorem Established.adapter_typeName {typeName : String} {s s' : Registrar} {sub : Subscription}
    (established : Established typeName s s' sub) (named : s.Named) :
    sub.adapter.typeName = typeName := by
  cases cached : s.registry.entries[typeName]? with
  | some entry => rw [established.reused entry cached, named typeName entry cached]
  | none => exact established.built cached

theorem names_adapterFor (type : MessageType) : (adapterFor type).Names type.typeName := by
  intro n a made
  cases made
  rfl

/-- The hold is given up; all that may have happened since it was had is a reader come and
gone. -/
theorem Acquired.rolledBack {typeName : String} {s s₁ s₂ : Registrar} {hold : TypeHold}
    (agrees : s.Agrees) (acquired : Acquired typeName s s₁ hold)
    (entries : s₂.registry.entries = s₁.registry.entries)
    (transport : s₂.transport =
      { s₁.transport with createdReaders := s₂.transport.createdReaders })
    (created : s.transport.createdReaders ≤ s₂.transport.createdReaders) :
    RolledBack typeName s (s₂.release hold.typeName).2 := by
  have types : s₂.transport.types = s₁.transport.types := by rw [transport]
  have faults : s₂.transport.faults = s.transport.faults := by
    rw [transport, acquired.transport]
  have agrees₂ : s₂.Agrees := (acquired.agrees agrees).congr entries types
  rw [acquired.named]
  have released := release_released agrees₂ typeName
  have left := released.transport
  refine ⟨acquired.unwound agrees entries types faults released, ?_⟩
  rw [left, transport, acquired.transport]
  exact ⟨rfl, rfl, rfl, rfl, created⟩

/-- The ways in which a creation can go: it ends at the first step that fails, and what was
had by then is given up. -/
inductive Creation (s : Registrar) (settings : Settings) (place : ListenerId)
    (r : Subscription.Request) (support : TypeSupport) :
    Except Error Subscription → Registrar → List Event → Prop
  | withoutHold (e : Error) (s₁ : Registrar)
      (asked : s.acquire support.type.typeName (adapterFor support.type) = (.error e, s₁)) :
      Creation s settings place r support (.error e) s₁ []
  | withoutAttributes (hold : TypeHold) (s₁ : Registrar) (rejection : Qos.Rejection)
      (had : s.acquire support.type.typeName (adapterFor support.type) = (.ok hold, s₁))
      (written : r.attributes settings support.type s₁.transport.defaults = .error rejection) :
      Creation s settings place r support (.error (.readerQos rejection))
        (s₁.dropHold hold).1 (s₁.dropHold hold).2
  | withoutReader (hold : TypeHold) (s₁ : Registrar) (attributes : ReaderAttributes)
      (refusal : Transport.Refusal)
      (had : s.acquire support.type.typeName (adapterFor support.type) = (.ok hold, s₁))
      (written : r.attributes settings support.type s₁.transport.defaults = .ok attributes)
      (created : s₁.transport.createReader attributes (r.listenerAt place) = .error refusal) :
      Creation s settings place r support (.error (.readerCreation refusal))
        (s₁.dropHold hold).1 (s₁.dropHold hold).2
  | withoutGid (hold : TypeHold) (s₁ : Registrar) (attributes : ReaderAttributes)
      (reader : Reader) (t : Transport) (e : Error)
      (had : s.acquire support.type.typeName (adapterFor support.type) = (.ok hold, s₁))
      (written : r.attributes settings support.type s₁.transport.defaults = .ok attributes)
      (created : s₁.transport.createReader attributes (r.listenerAt place) = .ok (reader, t))
      (named : Gid.ofGuid implementationTag reader.guid = .error e) :
      Creation s settings place r support (.error e)
        ({ s₁ with transport := t.dropReader reader }.dropHold hold).1
        ({ s₁ with transport := t.dropReader reader }.dropHold hold).2
  | made (hold : TypeHold) (s₁ : Registrar) (attributes : ReaderAttributes)
      (reader : Reader) (t : Transport) (gid : Gid)
      (had : s.acquire support.type.typeName (adapterFor support.type) = (.ok hold, s₁))
      (written : r.attributes settings support.type s₁.transport.defaults = .ok attributes)
      (created : s₁.transport.createReader attributes (r.listenerAt place) = .ok (reader, t))
      (named : Gid.ofGuid implementationTag reader.guid = .ok gid) :
      Creation s settings place r support
        (.ok (r.subscription support (r.listenerAt place) hold reader gid))
        { s₁ with transport := t } []

/-- Each step works on what the one before left, and what is undone is undone in the state of the
failure. -/
theorem creation_establish {s s' : Registrar} {settings : Settings} {place : ListenerId}
    {r : Subscription.Request} {support : TypeSupport} {outcome : Except Error Subscription}
    {events : List Event} (h : s.establish settings place r support = (outcome, s', events)) :
    Creation s settings place r support outcome s' events := by
  unfold establish at h
  split at h
  · rename_i asked
    cases h
    exact .withoutHold _ _ asked
  rename_i hold s₁ had
  split at h
  · rename_i written
    cases h
    exact .withoutAttributes hold s₁ _ had written
  rename_i attributes written
  dsimp only at h
  split at h
  · rename_i created
    cases h
    exact .withoutReader hold s₁ attributes _ had written created
  rename_i reader t created
  split at h
  · rename_i named
    cases h
    exact .withoutGid hold s₁ attributes reader t _ had written created named
  · rename_i gid named
    cases h
    exact .made hold s₁ attributes reader t gid had written created named

/-- The reader that was made before its identity turned out to be unknown is deleted, and
no other listener with it, since none is attached under the unknown identity. -/
theorem establish_error {s s' : Registrar} {settings : Settings} {place : ListenerId}
    {r : Subscription.Request} {support : TypeSupport} {e : Error} {events : List Event}
    (agrees : s.Agrees) (known : ∀ a ∈ s.transport.attached, a.guid ≠ .unknown)
    (h : s.establish settings place r support = (.error e, s', events)) :
    RolledBack support.type.typeName s s' := by
  have acquired {hold : TypeHold} {s₁ : Registrar}
      (had : s.acquire support.type.typeName (adapterFor support.type) = (.ok hold, s₁)) :=
    acquire_ok agrees (names_adapterFor support.type) had
  cases creation_establish h with
  | withoutHold _ _ asked =>
      obtain ⟨_, registry, transport⟩ := acquire_error asked
      refine ⟨.restored (by rw [registry]) (by rw [transport]), ?_⟩
      exact transport ▸ .refl _
  | withoutAttributes hold s₁ _ had _ | withoutReader hold s₁ _ _ had _ _ =>
      have created : s.transport.createdReaders = s₁.transport.createdReaders := by
        rw [(acquired had).transport]
      rw [dropHold_fst]
      exact (acquired had).rolledBack agrees rfl rfl (Nat.le_of_eq created)
  | withoutGid hold s₁ _ _ _ _ had _ made unnamed =>
      have created : s.transport.createdReaders = s₁.transport.createdReaders := by
        rw [(acquired had).transport]
      have attached : ∀ a ∈ s₁.transport.attached, a.guid ≠ .unknown := by
        rw [(acquired had).transport]
        exact known
      have dropped := Transport.dropReader_of_unknown made (Gid.ofGuid_error unnamed) attached
      rw [dropHold_fst, dropped]
      exact (acquired had).rolledBack agrees rfl rfl (Nat.le_succ_of_le (Nat.le_of_eq created))

theorem establish_ok {s s' : Registrar} {settings : Settings} {place : ListenerId}
    {r : Subscription.Request} {support : TypeSupport} {sub : Subscription}
    {events : List Event} (agrees : s.Agrees)
    (h : s.establish settings place r support = (.ok sub, s', events)) :
    Established support.type.typeName s s' sub := by
  cases creation_establish h with
  | made hold s₁ attributes reader t gid had written created named =>
      have acquired := acquire_ok agrees (names_adapterFor support.type) had
      obtain ⟨guid, left⟩ := Transport.createReader_of_known created (Gid.ofGuid_ok named)
      rw [acquired.transport] at guid left
      have reused (entry : TypeRegistry.Entry)
          (cached : s.registry.entries[support.type.typeName]? = some entry) :
          hold.registration.adapter = entry.adapter := by
        rw [acquired.reused entry cached]
      refine ⟨acquired.named, rfl, guid, reused, acquired.built, acquired.entries, ?_⟩
      rw [left]
      simp only [Subscription.attachment?, Subscription.Request.subscription,
        Subscription.Request.listenerAt]
      cases r.wantsListener <;> rfl

/-- What a creation gives is what was asked for; its listener is kept at the given place. -/
structure Fulfilled (settings : Settings) (place : ListenerId) (r : Subscription.Request)
    (support : TypeSupport) (sub : Subscription) : Prop where
  typed : sub.typeName = support.type.typeName
  listener : sub.listener = if r.wantsListener then some place else none
  attributes : ∃ defaults,
    r.attributes settings support.type defaults = .ok sub.reader.attributes
  named : Gid.ofGuid implementationTag sub.reader.guid = .ok sub.gid

theorem typeName_of_acquire {s s' : Registrar} {typeName : String} {factory : Factory}
    {hold : TypeHold} (h : s.acquire typeName factory = (.ok hold, s')) :
    hold.typeName = typeName := by
  unfold acquire at h
  split at h <;> cases h
  rfl

theorem establish_fulfilled {s s' : Registrar} {settings : Settings} {place : ListenerId}
    {r : Subscription.Request} {support : TypeSupport} {sub : Subscription}
    {events : List Event} (h : s.establish settings place r support = (.ok sub, s', events)) :
    Fulfilled settings place r support sub := by
  cases creation_establish h with
  | made hold s₁ attributes reader t gid had written created named =>
      have kept : reader.attributes = attributes :=
        congrArg Transport.Reader.attributes (Transport.createReader_ok created).1
      exact ⟨typeName_of_acquire had, rfl, ⟨_, kept ▸ written⟩, named⟩

def withoutReader (s : Registrar) (sub : Subscription) : Registrar :=
  { s with transport := s.transport.dropReader sub.reader }

theorem Agrees.withoutReader {s : Registrar} (agrees : s.Agrees) (sub : Subscription) :
    (s.withoutReader sub).Agrees :=
  agrees.congr rfl rfl

theorem drop_fst (s : Registrar) (sub : Subscription) :
    (s.drop sub).1 = ((s.withoutReader sub).release sub.typeName).2 :=
  dropHold_fst (s.withoutReader sub) sub.hold

theorem tearDown_snd (s : Registrar) (sub : Subscription) :
    (s.tearDown sub).2 = (s.drop sub).1 :=
  (drop_fst s sub).symm

end Registrar

namespace Site

open Subscription (Request)

theorem isOpen_of_check {r : Request} {isOpen : Bool} {support : TypeSupport}
    (h : r.check isOpen = .ok support) : isOpen = true := by
  cases isOpen with
  | true => rfl
  | false =>
      unfold Request.check at h
      split at h <;> simp at h

/-- A creation that is turned down at once leaves only a record; otherwise all is decided
with the registry and the transport. -/
theorem create_cases (s : Site) (r : Request) :
    (∃ e journal, s.create r = (.error e, { s with journal := journal })) ∨
      ∃ support outcome registrar events journal,
        r.check s.participant.isOpen = .ok support ∧
          s.registrar.establish s.participant.settings s.listeners.size r support =
            (outcome, registrar, events) ∧
          s.create r = (outcome, { s with
            registrar := registrar
            listeners := if r.wantsListener then s.listeners.push {} else s.listeners
            journal := journal }) := by
  cases checked : r.check s.participant.isOpen with
  | error e => exact .inl ⟨e, _, by simp only [create, checked]; rfl⟩
  | ok support =>
      rcases established : s.registrar.establish s.participant.settings s.listeners.size r
        support with ⟨outcome, registrar, events⟩
      cases outcome <;>
        exact .inr ⟨support, _, registrar, events, _, rfl, established, by
          simp only [create, checked, established]; rfl⟩

/-- A creation that succeeds adds a listener just if the request wants one. -/
theorem create_ok {s : Site} {r : Subscription.Request} {sub : Subscription}
    (created : (s.create r).1 = .ok sub) :
    ∃ support registrar events journal, r.check s.participant.isOpen = .ok support ∧
      s.registrar.establish s.participant.settings s.listeners.size r support =
        (.ok sub, registrar, events) ∧
      s.create r = (.ok sub, { s with
        registrar := registrar
        listeners := if r.wantsListener then s.listeners.push {} else s.listeners
        journal := journal }) := by
  rcases s.create_cases r with ⟨e, _, left⟩ |
    ⟨support, outcome, registrar, events, journal, checked, established, left⟩
  · rw [left] at created
    cases created
  · obtain rfl : outcome = .ok sub := by
      rw [left] at created
      exact created
    exact ⟨support, registrar, events, journal, checked, established, left⟩

theorem participant_create (s : Site) (r : Request) :
    (s.create r).2.participant = s.participant := by
  rcases s.create_cases r with ⟨_, _, left⟩ | ⟨_, _, _, _, _, _, _, left⟩ <;> rw [left]

theorem drop_eq (s : Site) (sub : Subscription) :
    ∃ journal, s.drop sub =
      { s with registrar := (s.registrar.drop sub).1, journal := journal } :=
  ⟨_, rfl⟩

/-- Whatever the tag of the handle, giving it back is dropping it. -/
theorem destroy_snd (s : Site) (sub : Subscription) (implementation : String) :
    ∃ journal, (s.destroy { sub with implementation := implementation }).2 =
      { s with registrar := (s.registrar.drop sub).1, journal := journal } := by
  have same := s.registrar.tearDown_snd { sub with implementation := implementation }
  unfold destroy
  split
  · exact ⟨_, rfl⟩
  · split
    · rename_i left done
      rw [done] at same
      obtain rfl : left = (s.registrar.drop sub).1 := same
      exact ⟨_, rfl⟩
    · rename_i left failed
      rw [failed] at same
      obtain rfl : left = (s.registrar.drop sub).1 := same
      exact ⟨_, rfl⟩

theorem drop_of_released {s : Site} {sub : Subscription}
    (released : ((s.registrar.withoutReader sub).release sub.typeName).1 = .ok ()) :
    s.drop sub = { s with registrar := (s.registrar.drop sub).1 } := by
  have silent : (s.registrar.drop sub).2 = [] := by
    change ((s.registrar.withoutReader sub).dropHold sub.hold).2 = []
    rw [Registrar.dropHold]
    split
    · rfl
    · rename_i failed
      cases released.symm.trans (congrArg Prod.fst failed)
  simp only [drop, silent, Journal.log, List.append_nil]

theorem destroy_of_released {s : Site} {sub : Subscription}
    (own : sub.implementation = implementationTag)
    (released : ((s.registrar.withoutReader sub).release sub.typeName).1 = .ok ()) :
    s.destroy sub = (.ok (), { s with registrar := (s.registrar.drop sub).1 }) := by
  have given : s.registrar.tearDown sub = (.ok (), (s.registrar.drop sub).1) :=
    Prod.ext released (s.registrar.tearDown_snd sub)
  simp only [destroy, own, ne_eq, not_true_eq_false, if_false, given]

theorem shutdown_of_closed {s : Site} (h : s.participant.isOpen = false) :
    s.shutdown = (.ok (), s) := by
  simp [shutdown, h]

theorem shutdown_snd {s : Site} (h : s.participant.isOpen = true) :
    ∃ journal, s.shutdown.2 = { s with
      participant := { s.participant with isOpen := false }
      registrar := s.registrar.unregisterAll.2.1
      journal := journal } := by
  simp only [shutdown, h, not_true_eq_false, if_false]
  split
  · rename_i done
    exact ⟨_, by rw [done]⟩
  · rename_i failed
    exact ⟨_, by rw [failed]; rfl⟩

theorem listeners_shutdown (s : Site) : s.shutdown.2.listeners = s.listeners := by
  unfold shutdown
  split
  · rfl
  · split <;> rfl

/-- The first shutdown says what came of unregistering the types. -/
theorem shutdown_fst {s : Site} (h : s.participant.isOpen = true) :
    s.shutdown.1 = s.registrar.unregisterAll.1 := by
  simp only [shutdown, h, not_true_eq_false, if_false]
  split
  · rename_i done
    rw [done]
  · rename_i failed
    rw [failed]
    rfl

end Site

end RosMiddleware
