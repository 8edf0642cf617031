import RosMiddleware.Proofs.CreationRollback
import RosMiddleware.Proofs.HonouredProfiles
import RosMiddleware.Proofs.TopicNames

/-!
What becomes of a creation. The request is looked at first, and nothing but the request and
whether the participant is open counts for that; then the registry and the transport are
asked. A creation fails with the error of the first condition that is not given, and if all
are given it succeeds, with the reader, the hold and the listener that were asked for.
-/
namespace RosMiddleware

open Transport (ReaderAttributes)

namespace Subscription.Request

/-- What a request has to be, whatever registry and transport there are. -/
def demands (r : Request) (isOpen : Bool) : List Condition :=
  [⟨r.topic ≠ "", .emptyTopic⟩,
    ⟨isOpen = true, .participantShutDown⟩,
    ⟨∃ support ∈ r.offered, support.Known,
      .foreignTypeSupport (r.offered.map TypeSupport.convention)⟩,
    ⟨r.qos.liveliness ≠ .manualByNode, .qos .manualByNode⟩]

/-- What the registry and the transport have to do for it. -/
def services (r : Request) (s : Registrar) : List Condition :=
  ⟨∀ typeName, r.AsksFor typeName →
      typeName ∈ s.registry.entries ∨ s.transport.faults.registerType = false,
    .transport .registrationRejected⟩ ::
  (r.qos.demands ++
    [⟨s.transport.faults.createReader = false, .readerCreation .readerRejected⟩,
      ⟨s.transport.faults.unknownGuid = false, .unknownGuid⟩])

theorem check_eq (r : Request) (isOpen : Bool) :
    r.check isOpen =
      if r.topic ≠ "" then
        if isOpen = true then
          TypeSupport.select r.offered >>= fun support =>
            if r.qos.liveliness ≠ .manualByNode then .ok support
            else .error (.qos .manualByNode)
        else .error .participantShutDown
      else .error .emptyTopic := by
  unfold check Qos.Profile.check
  cases isOpen <;> cases TypeSupport.select r.offered <;>
    by_cases placed : r.qos.liveliness = .manualByNode <;> simp [placed, bind, Except.bind]

theorem check_decided (r : Request) (isOpen : Bool) :
    Condition.Decide (r.demands isOpen) (r.check isOpen) := by
  rw [check_eq]
  refine .guard fun _ => .guard fun _ => ?_
  refine .bind (TypeSupport.select_decided r.offered) fun support _ => ?_
  exact .guard fun _ => ⟨support, rfl⟩

theorem placed_of_check {r : Request} {isOpen : Bool} {support : TypeSupport}
    (h : r.check isOpen = .ok support) : r.qos.liveliness ≠ .manualByNode :=
  (check_decided r isOpen).ok_iff.mp ⟨support, h⟩ ⟨_, .qos .manualByNode⟩ (by simp [demands])

theorem attributes_decided {r : Request} (placed : r.qos.liveliness ≠ .manualByNode)
    (settings : Settings) (type : MessageType) (defaults : ReaderAttributes) :
    Condition.Decide r.qos.demands
      ((r.attributes settings type defaults).mapError .readerQos) := by
  have written := (Qos.writes_profile placed (r.baseAttributes settings type defaults)).decided
  rw [Request.attributes, Qos.Profile.writeTo]
  split <;> rename_i attributes outcome <;> rw [outcome] at written
  · exact written.map fun _ => attributes
  · exact written.map fun _ => r.baseAttributes settings type defaults

/-- Once the liveliness is not that of a node, the writers fail or write all policies. -/
theorem attributes_of_placed {r : Request} (placed : r.qos.liveliness ≠ .manualByNode)
    {settings : Settings} {type : MessageType} {defaults attributes : ReaderAttributes}
    (h : r.attributes settings type defaults = .ok attributes) :
    attributes = r.qos.over (r.baseAttributes settings type defaults) := by
  have written := (Qos.writes_profile placed (r.baseAttributes settings type defaults)).written
  rw [Request.attributes, Qos.Profile.writeTo] at h
  split at h
  · rename_i done
    rw [done] at written
    cases h
    exact written rfl
  · cases h

end Subscription.Request

namespace Registrar

/-- The outcome of a creation that the registry and the transport decide, step by step. -/
theorem establish_fst (s : Registrar) (settings : Settings) (place : ListenerId)
    (r : Subscription.Request) (support : TypeSupport) :
    (s.establish settings place r support).1 = do
      let had := s.acquire support.type.typeName (adapterFor support.type)
      let hold ← had.1
      let t := had.2.transport
      let attributes ← (r.attributes settings support.type t.defaults).mapError .readerQos
      let made ← (t.createReader attributes (r.listenerAt place)).mapError .readerCreation
      let gid ← Gid.ofGuid implementationTag made.1.guid
      return r.subscription support (r.listenerAt place) hold made.1 gid := by
  rcases established : s.establish settings place r support with ⟨outcome, s', events⟩
  cases creation_establish established with
  | withoutHold e s₁ asked =>
      simp only [asked]
      rfl
  | withoutAttributes hold s₁ rejection had written =>
      simp only [had, bind, Except.bind, written]
      rfl
  | withoutReader hold s₁ attributes refusal had written created =>
      simp only [had, bind, Except.bind, written, mapError_ok, created, mapError_error]
  | withoutGid hold s₁ attributes reader t e had written created named =>
      simp only [had, bind, Except.bind, written, mapError_ok, created, named]
  | made hold s₁ attributes reader t gid had written created named =>
      simp only [had, bind, Except.bind, written, mapError_ok, created, named]
      rfl

/-- A hold is refused only if the transport refuses a type that is not cached. -/
theorem acquire_decided {s : Registrar} (agrees : s.Agrees) (type : MessageType) :
    Condition.Decide
      [⟨type.typeName ∈ s.registry.entries ∨ s.transport.faults.registerType = false,
        .transport .registrationRejected⟩]
      (s.acquire type.typeName (adapterFor type)).1 := by
  cases cached : s.registry.entries[type.typeName]? with
  | some entry =>
      have given := table_mem_of_some _ cached
      refine ⟨fun _ => ?_, fun broken => absurd (.inl given) broken⟩
      simp only [acquire, getOrRegister, cached]
      exact ⟨_, rfl⟩
  | none =>
      have unknown : s.transport.types[(⟨s.built, type⟩ : Adapter).typeName]? = none :=
        agrees.types_of_none cached
      simp only [acquire, getOrRegister, cached, adapterFor,
        Transport.registerType_of_unknown _ _ unknown]
      have missing := table_not_mem_of_none _ cached
      cases refused : s.transport.faults.registerType with
      | true => exact ⟨fun given => absurd given (by simp [missing]), fun _ => rfl⟩
      | false => exact ⟨fun _ => ⟨_, rfl⟩, fun broken => absurd (.inr rfl) broken⟩

end Registrar

theorem Transport.createReader_decided {t : Transport} {attributes : ReaderAttributes}
    (registered : t.isRegistered attributes.typeName = true) (listener : Option ListenerId) :
    Condition.Decide [⟨t.faults.createReader = false, .readerCreation .readerRejected⟩]
      ((t.createReader attributes listener).mapError .readerCreation) := by
  unfold createReader
  cases t.faults.createReader with
  | true => exact ⟨by simp, fun _ => rfl⟩
  | false =>
      simp only [registered]
      exact ⟨fun _ => ⟨_, rfl⟩, by simp⟩

theorem Gid.ofGuid_decided {t t' : Transport} {attributes : ReaderAttributes}
    {listener : Option ListenerId} {reader : Transport.Reader}
    (created : t.createReader attributes listener = .ok (reader, t')) :
    Condition.Decide [⟨t.faults.unknownGuid = false, .unknownGuid⟩]
      (ofGuid implementationTag reader.guid) := by
  rw [(Transport.createReader_ok created).1]
  have unknown := t.nextGuid_eq_unknown_iff
  unfold ofGuid
  cases switched : t.faults.unknownGuid with
  | true =>
      have isUnknown : t.nextGuid.isUnknown = true := by
        simpa [Transport.Guid.isUnknown] using unknown.mpr switched
      simp [isUnknown, Condition.Decide]
  | false =>
      have isKnown : t.nextGuid.isUnknown = false := by
        simpa [Transport.Guid.isUnknown, switched] using unknown
      simp [isKnown, Condition.Decide]

namespace Registrar

/-- Where the hold was had, the attributes and then the transport decide. -/
theorem establish_decided {s : Registrar} (agrees : s.Agrees) {r : Subscription.Request}
    {support : TypeSupport} (preferred : TypeSupport.Preferred r.offered support)
    (placed : r.qos.liveliness ≠ .manualByNode) (settings : Settings) (place : ListenerId) :
    Condition.Decide (r.services s) (s.establish settings place r support).1 := by
  rw [establish_fst]
  simp only [Subscription.Request.services, Subscription.Request.asksFor_iff preferred, forall_eq]
  have asked := acquire_decided agrees support.type
  rcases had : s.acquire support.type.typeName (adapterFor support.type) with ⟨outcome, s₁⟩
  rw [had] at asked
  -- the hold, the policies, the reader and its identity each go by conditions of their own
  change Condition.Decide ([_] ++ (r.qos.demands ++ ([_] ++ [_])) : List Condition) _
  refine asked.bind fun hold held => ?_
  obtain rfl : outcome = .ok hold := held
  have acquired := acquire_ok agrees (names_adapterFor support.type) had
  have faults : s₁.transport.faults = s.transport.faults := by rw [acquired.transport]
  rw [← faults]
  refine (r.attributes_decided placed _ _ _).bind fun attributes written => ?_
  rw [mapError_eq_ok_iff] at written
  have registered : s₁.transport.isRegistered attributes.typeName = true := by
    rw [Subscription.Request.attributes_of_placed placed written, acquired.transport]
    exact Std.ExtTreeMap.contains_insert_self
  refine (Transport.createReader_decided registered _).bind fun made created => ?_
  rw [mapError_eq_ok_iff] at created
  exact (Gid.ofGuid_decided created).map (r.subscription support (r.listenerAt place) hold made.1)

theorem establish_made {s s' : Registrar} (agrees : s.Agrees) {r : Subscription.Request}
    {support : TypeSupport} {settings : Settings} {place : ListenerId} {sub : Subscription}
    {events : List Event} (h : s.establish settings place r support = (.ok sub, s', events)) :
    sub.convention = support.convention ∧ sub.listener = r.listenerAt place ∧
      r.attributes settings support.type s.transport.defaults = .ok sub.reader.attributes := by
  cases creation_establish h with
  | made hold s₁ attributes reader t gid had written created named =>
      have acquired := acquire_ok agrees (names_adapterFor support.type) had
      have kept : reader.attributes = attributes :=
        congrArg Transport.Reader.attributes (Transport.createReader_ok created).1
      rw [acquired.transport] at written
      exact ⟨rfl, rfl, kept ▸ written⟩

end Registrar

namespace Site

open Subscription (Request)

/-- Only the listeners and the journal depend on more than the request, the participant and the
registrar. -/
theorem create_fst (s : Site) (r : Request) :
    (s.create r).1 = r.check s.participant.isOpen >>= fun support =>
      (s.registrar.establish s.participant.settings s.listeners.size r support).1 := by
  cases checked : r.check s.participant.isOpen with
  | error e =>
      simp only [create, checked]
      rfl
  | ok support =>
      rcases established : s.registrar.establish s.participant.settings s.listeners.size r
        support with ⟨outcome, registrar, events⟩
      simp only [create, checked, established, bind, Except.bind]
      cases outcome <;> rfl

theorem create_decided {s : Site} (agrees : s.registrar.Agrees) (r : Request) :
    Condition.Decide (r.demands s.participant.isOpen ++ r.services s.registrar)
      (s.create r).1 := by
  rw [create_fst]
  refine (r.check_decided _).bind fun support checked => ?_
  have preferred := Request.preferred_of_check checked
  exact Registrar.establish_decided agrees preferred (Request.placed_of_check checked) _ _

/-- A request that is turned down for what it is leaves a record, whatever the registry and
the transport. -/
theorem create_turnedDown {s : Site} {r : Request} {e : Error}
    (failing : Condition.FirstFailing (r.demands s.participant.isOpen) e) :
    s.create r = s.fail e := by
  have checked := ((r.check_decided s.participant.isOpen).error_iff e).mpr failing
  simp only [create, checked]

end Site

namespace Session

open Subscription (Request)

structure Granted (s s' : Session) (r : Request) (sub : Subscription) : Prop where
  live : s'.live = s.live ++ [sub]
  readers : s'.transport.liveReaders = s.transport.liveReaders + 1
  /-- The adapter may be that of an earlier holder, but it is of a type of the same name. -/
  type : ∃ support, TypeSupport.Preferred r.offered support ∧
    sub.convention = support.convention ∧ support.type.Named sub.typeName ∧
    sub.adapter.type.Named sub.typeName
  holders : ∀ typeName, s'.registry.holders typeName =
    if sub.typeName = typeName then s.registry.holders typeName + 1
    else s.registry.holders typeName
  listens : sub.listener.isSome = r.wantsListener
  attached : s'.transport.attached = s.transport.attached ++ sub.attachment?.toList
  attributes : ∃ body, TopicName.Body r.topic body ∧
    sub.reader.attributes = r.qos.over { s.transport.defaults with
      topicKind := if r.keyed then .withKey else .noKey
      topicName := if r.qos.rawNames then r.topic else "rt/" ++ body
      typeName := sub.typeName
      memoryPolicy :=
        if s.site.participant.settings.keepTransportPolicy then s.transport.defaults.memoryPolicy
        else s.site.participant.settings.memoryPolicy }

theorem granted_of_create {s : Session} {r : Request} {sub : Subscription}
    (accounts : Accounts s) (created : (s.site.create r).1 = .ok sub) :
    Granted s (s.act (.create r)) r sub := by
  obtain ⟨support, registrar, events, journal, checked, established, left⟩ :=
    Site.create_ok created
  have made := Registrar.establish_ok accounts.agrees established
  obtain ⟨convention, listener, written⟩ :=
    Registrar.establish_made accounts.agrees established
  have attributes := Request.attributes_of_placed (Request.placed_of_check checked) written
  simp only [act, left]
  constructor
  · rfl
  · exact congrArg Transport.liveReaders made.transport
  · have held : sub.adapter.type.typeName = support.type.typeName :=
      made.adapter_typeName accounts.named
    refine ⟨support, Request.preferred_of_check checked, convention, ?_, ?_⟩
    · exact MessageType.named_iff.mpr made.typed.symm
    · exact MessageType.named_iff.mpr (held.trans made.typed.symm)
  · rw [made.typed]
    exact TypeRegistry.holders_one_more made.entries
  · rw [listener, Request.listenerAt]
    cases r.wantsListener <;> rfl
  · exact congrArg Transport.attached made.transport
  · refine ⟨TopicName.withoutSlash r.topic, TopicName.withoutSlash_eq_iff.mp rfl, ?_⟩
    rw [attributes, made.typed, Request.baseAttributes, TopicName.build, String.append_empty,
      String.append_empty]
    rfl

/-- In any reachable state the first condition that is not given decides the error of a creation,
and the request is looked at before the registry and the transport. If all are given, there is the
reader that was asked for, with its type held and its listener attached. -/
theorem creation_outcome (settings : Settings) (number : Nat) (actions : List Action)
    (r : Request) :
    let s := (fresh settings number).run actions
    let outcome := (s.site.create r).1
    let demands := r.demands s.isOpen
    let services := r.services s.registrar
    ((∃ sub, outcome = .ok sub) ↔ ∀ c ∈ demands ++ services, c.holds) ∧
      (∀ e, outcome = .error e ↔ Condition.FirstFailing (demands ++ services) e) ∧
      demands.map (·.error.kind) =
        [.invalidArgument, .invalidArgument, .invalidArgument, .configurationInvalid] ∧
      (∀ c ∈ services, c.error.kind = .backendFailure) ∧
      (∀ e, Condition.FirstFailing demands e → ∀ registrar,
        let elsewhere := { s.site with registrar := registrar }
        elsewhere.create r = (.error e, { elsewhere with journal := s.site.journal.record e })) ∧
      ∀ sub, outcome = .ok sub → Granted s (s.act (.create r)) r sub := by
  intro s outcome demands services
  have accounts : Accounts s := accounts_of_run settings number actions
  have decided : Condition.Decide (demands ++ services) outcome :=
    s.site.create_decided accounts.agrees r
  refine ⟨decided.ok_iff, decided.error_iff, rfl, ?_, ?_, ?_⟩
  · simp [services, Request.services, Qos.Profile.demands, Error.kind]
  · intro e failing registrar elsewhere
    exact elsewhere.create_turnedDown failing
  · intro sub created
    exact granted_of_create accounts created

end Session

end RosMiddleware
