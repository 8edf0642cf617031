import RosMiddleware.Proofs.RegistryAgreement

/-!
Runs of a registry on a transport that nobody else uses, with factories that can fail and a
transport that can be switched to refuse. In every state that is reached the two tables
agree, and from the agreement it follows what each call can answer: the errors are those of
the factories and the refusals that were switched on, never that a type is registered twice
or not at all.
-/
namespace RosMiddleware

structure Tenancy where
  registrar : Registrar
  holds : List TypeHold := []

namespace Tenancy

def fresh (number : Nat) : Tenancy where
  registrar := { transport := .ofNumber number }

/-- Types are released by their names, holds by their places among those that are out. -/
inductive Action
  | register (typeName : String) (factory : Factory) (names : factory.Names typeName)
  | acquire (typeName : String) (factory : Factory) (names : factory.Names typeName)
  | release (typeName : String)
  | giveBack (place : Nat)
  | drop (place : Nat)
  | unregisterAll
  | switch (faults : Transport.Faults)

def act (s : Tenancy) : Action → Tenancy
  | .register typeName factory _ =>
      { s with registrar := (s.registrar.getOrRegister typeName factory).2 }
  | .acquire typeName factory _ =>
      match s.registrar.acquire typeName factory with
      | (.ok hold, registrar) => ⟨registrar, s.holds ++ [hold]⟩
      | (.error _, registrar) => ⟨registrar, s.holds⟩
  | .release typeName => { s with registrar := (s.registrar.release typeName).2 }
  | .giveBack place =>
      match s.holds[place]? with
      | some hold => ⟨(s.registrar.releaseHold hold).2, s.holds.eraseIdx place⟩
      | none => s
  | .drop place =>
      match s.holds[place]? with
      | some hold => ⟨(s.registrar.dropHold hold).1, s.holds.eraseIdx place⟩
      | none => s
  | .unregisterAll => { s with registrar := s.registrar.unregisterAll.2.1 }
  | .switch faults =>
      { s with registrar :=
          { s.registrar with transport := { s.registrar.transport with faults := faults } } }

def run (s : Tenancy) (actions : List Action) : Tenancy := actions.foldl act s

end Tenancy

namespace Registrar

variable {s : Registrar} {typeName : String}

/-- One holder more, and nothing else. -/
def shared (s : Registrar) (typeName : String) (entry : TypeRegistry.Entry) : Registrar :=
  { s with registry :=
      s.registry.insert typeName { entry with holders := entry.holders + 1 } }

/-- What comes of a call that asks the factory. Success means one holder of the new adapter, in
the cache and with the transport, and a failure changes neither. -/
structure Tried (s : Registrar) (typeName : String) (factory : Factory)
    (result : Except Error Registration) (s' : Registrar) : Prop where
  asked : s'.built = s.built + 1
  done : ∀ registration, result = .ok registration →
    factory s.built = .ok registration.adapter ∧ registration.fresh = true ∧
      s'.registry = s.registry.insert typeName ⟨registration.adapter, 1⟩ ∧
      s'.transport = { s.transport with
        types := s.transport.types.insert typeName registration.adapter }
  failed : ∀ e, result = .error e →
    s'.registry = s.registry ∧ s'.transport = s.transport ∧
      (factory s.built = .error e ∨ e = .transport .registrationRejected)

/-- The transport did not let the type go: it is there on both sides as before. -/
structure Kept (typeName : String) (s s' : Registrar) : Prop where
  was : typeName ∈ s.registry.entries
  cached : s'.registry.lookup typeName = s.registry.lookup typeName
  registered : s'.transport = s.transport

structure Orderly (s : Registrar) : Prop where
  agrees : s.Agrees
  reused : ∀ typeName entry, s.registry.entries[typeName]? = some entry → ∀ factory,
    s.getOrRegister typeName factory =
        (.ok ⟨entry.adapter, false⟩, s.shared typeName entry) ∧
      s.acquire typeName factory =
        (.ok ⟨typeName, entry.adapter, false⟩, s.shared typeName entry)
  tried : ∀ typeName, typeName ∉ s.registry.entries →
    ∀ factory : Factory, factory.Names typeName →
      Tried s typeName factory (s.getOrRegister typeName factory).1
          (s.getOrRegister typeName factory).2 ∧
        Tried s typeName factory ((s.acquire typeName factory).1.map TypeHold.registration)
          (s.acquire typeName factory).2
  refused : ∀ typeName e, (s.release typeName).1 = .error e →
    e = .transport .unregistrationRejected ∧ Kept typeName s (s.release typeName).2
  dropped : ∀ hold, ∀ event ∈ (s.dropHold hold).2,
    event = .error ("failed to release type '" ++ hold.typeName ++ "': " ++
        (Error.transport .unregistrationRejected).display) ∧
      Kept hold.typeName s (s.dropHold hold).1
  refusedAll : ∀ e, s.unregisterAll.1 = .error e →
    e = .transport .unregistrationRejected ∧ s.unregisterAll.2.1 = s
  logged : ∀ event ∈ s.unregisterAll.2.2,
    ∃ typeName ∈ s.registry.entries, event = refusalEvent typeName .unregistrationRejected

/-- The error comes out of a call, and not out of its factory. -/
inductive Returns (s : Registrar) (e : Error) : Prop
  | register (typeName : String) (factory : Factory) (names : factory.Names typeName)
      (own : factory s.built ≠ .error e) (told : (s.getOrRegister typeName factory).1 = .error e)
  | acquire (typeName : String) (factory : Factory) (names : factory.Names typeName)
      (own : factory s.built ≠ .error e) (told : (s.acquire typeName factory).1 = .error e)
  | release (typeName : String) (told : (s.release typeName).1 = .error e)
  | giveBack (hold : TypeHold) (told : (s.releaseHold hold).1 = .error e)
  | unregisterAll (told : s.unregisterAll.1 = .error e)

theorem getOrRegister_of_cached {entry : TypeRegistry.Entry}
    (cached : s.registry.entries[typeName]? = some entry) (factory : Factory) :
    s.getOrRegister typeName factory =
      (.ok ⟨entry.adapter, false⟩, s.shared typeName entry) := by
  simp only [getOrRegister, cached, shared]

theorem acquire_eq (s : Registrar) (typeName : String) (factory : Factory) :
    s.acquire typeName factory =
      ((s.getOrRegister typeName factory).1.map fun registration => ⟨typeName, registration⟩,
        (s.getOrRegister typeName factory).2) := by
  rw [acquire]
  split <;> rename_i asked <;> rw [asked] <;> rfl

/-- The factory is asked, and then the transport. -/
theorem getOrRegister_tried (agrees : s.Agrees) (uncached : s.registry.entries[typeName]? = none)
    {factory : Factory} (names : factory.Names typeName) :
    Tried s typeName factory (s.getOrRegister typeName factory).1
      (s.getOrRegister typeName factory).2 := by
  cases made : factory s.built with
  | error e =>
      simp only [getOrRegister, uncached, made]
      refine ⟨rfl, ?_, ?_⟩ <;> rintro _ ⟨⟩
      exact ⟨rfl, rfl, .inl made⟩
  | ok adapter =>
      have name := names _ _ made
      subst name
      simp only [getOrRegister, uncached, made,
        Transport.registerType_of_unknown _ _ (agrees.types_of_none uncached)]
      cases refused : s.transport.faults.registerType with
      | true =>
          refine ⟨rfl, ?_, ?_⟩ <;> rintro _ ⟨⟩
          exact ⟨rfl, rfl, .inr rfl⟩
      | false =>
          refine ⟨rfl, ?_, ?_⟩ <;> rintro _ ⟨⟩
          exact ⟨made, rfl, rfl, rfl⟩

theorem acquire_tried (agrees : s.Agrees) (uncached : s.registry.entries[typeName]? = none)
    {factory : Factory} (names : factory.Names typeName) :
    Tried s typeName factory ((s.acquire typeName factory).1.map TypeHold.registration)
      (s.acquire typeName factory).2 := by
  have tried := getOrRegister_tried agrees uncached names
  rw [acquire_eq]
  cases result : (s.getOrRegister typeName factory).1 <;> rw [result] at tried <;> exact tried

theorem release_error (agrees : s.Agrees) {e : Error} (h : (s.release typeName).1 = .error e) :
    e = .transport .unregistrationRejected ∧ Kept typeName s (s.release typeName).2 := by
  cases cached : s.registry.entries[typeName]? with
  | none => simp [release, cached] at h
  | some entry =>
      simp only [release, cached,
        Transport.unregisterType_of_known _ _ _ (agrees.types_of_some cached)] at h ⊢
      split at h
      · cases h
      cases refused : s.transport.faults.unregisterType with
      | false => simp [refused] at h
      | true =>
          rename_i last
          simp only [refused, if_true, Except.error.injEq] at h
          simp only [if_neg last, if_true]
          refine ⟨h.symm, table_mem_of_some _ cached, ?_, rfl⟩
          simp [TypeRegistry.lookup, cached]

theorem dropHold_logs (agrees : s.Agrees) (hold : TypeHold) {event : Event}
    (h : event ∈ (s.dropHold hold).2) :
    event = .error ("failed to release type '" ++ hold.typeName ++ "': " ++
        (Error.transport .unregistrationRejected).display) ∧
      Kept hold.typeName s (s.dropHold hold).1 := by
  rw [dropHold_fst]
  rw [dropHold] at h
  split at h
  · simp at h
  · rename_i e left failed
    obtain ⟨rfl, kept⟩ := release_error agrees (congrArg Prod.fst failed)
    exact ⟨List.mem_singleton.mp h, kept⟩

/-- Registry and transport agree, so one refusal means that all types are refused and none goes. -/
theorem unregisterAll_answer (agrees : s.Agrees) :
    (∀ e, s.unregisterAll.1 = .error e →
        e = .transport .unregistrationRejected ∧ s.unregisterAll.2.1 = s) ∧
      ∀ event ∈ s.unregisterAll.2.2, ∃ typeName ∈ s.registry.entries,
        event = refusalEvent typeName .unregistrationRejected := by
  cases refused : s.transport.faults.unregisterType with
  | false =>
      rw [unregisterAll_of_accepted agrees refused]
      simp
  | true =>
      rw [unregisterAll, unregisterEach_of_refused s _ refused]
      refine ⟨fun e failed => ⟨?_, rfl⟩, fun event logged => ?_⟩
      · cases names : s.registry.entries.keys with
        | nil => simp [names] at failed
        | cons n names' =>
            simp only [names, List.map_cons, Except.error.injEq] at failed
            exact failed.symm
      · simp only [List.map_map, List.mem_map] at logged
        obtain ⟨typeName, cached, rfl⟩ := logged
        exact ⟨typeName, Std.ExtTreeMap.mem_keys.mp cached, rfl⟩

theorem Agrees.orderly (agrees : s.Agrees) : s.Orderly where
  agrees := agrees
  reused typeName entry cached factory := by
    have called := getOrRegister_of_cached cached factory
    exact ⟨called, by rw [acquire_eq, called]; rfl⟩
  tried typeName uncached factory names := by
    have uncached := Std.ExtTreeMap.getElem?_eq_none uncached
    exact ⟨getOrRegister_tried agrees uncached names, acquire_tried agrees uncached names⟩
  refused _ _ := release_error agrees
  dropped hold _ := dropHold_logs agrees hold
  refusedAll := (unregisterAll_answer agrees).1
  logged := (unregisterAll_answer agrees).2

theorem Orderly.of_tried (orderly : s.Orderly) {factory : Factory}
    (names : factory.Names typeName) {e : Error} (own : factory s.built ≠ .error e)
    (told : (s.getOrRegister typeName factory).1 = .error e) :
    e = .transport .registrationRejected := by
  by_cases cached : typeName ∈ s.registry.entries
  · have called := (orderly.reused typeName _
      (Std.ExtTreeMap.getElem?_eq_some_getElem cached) factory).1
    rw [called] at told
    cases told
  · exact (((orderly.tried typeName cached factory names).1.failed e told).2.2).resolve_left own

theorem Orderly.of_returns (orderly : s.Orderly) {e : Error} (returned : Returns s e) :
    e = .transport .registrationRejected ∨ e = .transport .unregistrationRejected := by
  cases returned with
  | register typeName factory names own told => exact .inl (orderly.of_tried names own told)
  | acquire typeName factory names own told =>
      rw [acquire_eq] at told
      refine .inl (orderly.of_tried names own ?_)
      cases result : (s.getOrRegister typeName factory).1 with
      | ok registration => simp [result, Except.map] at told
      | error e' => simpa [result, Except.map] using told
  | release typeName told => exact .inr (orderly.refused typeName e told).1
  | giveBack hold told => exact .inr (orderly.refused hold.typeName e told).1
  | unregisterAll told => exact .inr (orderly.refusedAll e told).1

end Registrar

namespace Tenancy

theorem agrees_acquire {s : Registrar} (agrees : s.Agrees) {typeName : String}
    {factory : Factory} (names : factory.Names typeName) :
    (s.acquire typeName factory).2.Agrees := by
  rcases called : s.acquire typeName factory with ⟨_ | hold, s'⟩
  · obtain ⟨_, registry, transport⟩ := Registrar.acquire_error called
    exact agrees.congr (by rw [registry]) (by rw [transport])
  · exact (Registrar.acquire_ok agrees names called).agrees agrees

theorem agrees_act {s : Tenancy} (agrees : s.registrar.Agrees) (a : Action) :
    (s.act a).registrar.Agrees := by
  cases a with
  | register typeName factory names =>
      have next := agrees_acquire agrees names
      rw [Registrar.acquire_eq] at next
      exact next
  | acquire typeName factory names =>
      have next := agrees_acquire agrees names
      simp only [act]
      split <;> rename_i called <;> rw [called] at next <;> exact next
  | release typeName => exact (Registrar.release_released agrees typeName).agrees agrees
  | giveBack place | drop place =>
      simp only [act]
      split
      · rename_i hold _
        simp only [Registrar.releaseHold_snd, Registrar.dropHold_fst]
        exact (Registrar.release_released agrees hold.typeName).agrees agrees
      · exact agrees
  | unregisterAll => exact (Registrar.unregisterAll_emptied agrees).agrees agrees
  | switch faults => exact agrees.congr rfl rfl

theorem agrees_run {s : Tenancy} (agrees : s.registrar.Agrees) (actions : List Action) :
    (s.run actions).registrar.Agrees := by
  induction actions generalizing s with
  | nil => exact agrees
  | cons a actions ih => exact ih (agrees_act agrees a)

/-- However a registry was used on its transport, the two agree, cached types are shared without
asking a factory, and what is refused changes nothing. So the transport never complains of a type
that was registered twice or not at all. -/
theorem registry_orderly (number : Nat) (actions : List Action) :
    let s := ((fresh number).run actions).registrar
    s.Orderly ∧ ∀ typeName,
      ¬ s.Returns (.transport (.registeredTwice typeName)) ∧
        ¬ s.Returns (.transport (.notRegistered typeName)) := by
  intro s
  have start : (fresh number).registrar.Agrees := by
    intro typeName
    simp [fresh, Transport.ofNumber, TypeRegistry.lookup]
  have orderly : s.Orderly := (agrees_run start actions).orderly
  refine ⟨orderly, fun typeName => ⟨fun returned => ?_, fun returned => ?_⟩⟩
  · simpa using orderly.of_returns returned
  · simpa using orderly.of_returns returned

end Tenancy

end RosMiddleware
