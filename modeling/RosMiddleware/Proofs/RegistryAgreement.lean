import RosMiddleware.Proofs.Tables
import RosMiddleware.Proofs.TransportServices
import RosMiddleware.TypeRegistry

/-!
Agreement of a registry with its transport: the types that are registered are those that
are cached, with the same adapters. Every operation of the registry keeps it, whatever the
transport refuses, as long as a factory builds adapters for the name it is asked for. The
operations are then determined by the entry of the name and by the switches.
-/
namespace RosMiddleware

def Factory.Names (factory : Factory) (typeName : String) : Prop :=
  ∀ n a, factory n = .ok a → a.typeName = typeName

namespace TypeRegistry

@[simp] theorem insert_entries (r : TypeRegistry) (typeName : String) (entry : Entry) :
    (r.insert typeName entry).entries = r.entries.insert typeName entry := rfl

@[simp] theorem erase_entries (r : TypeRegistry) (typeName : String) :
    (r.erase typeName).entries = r.entries.erase typeName := rfl

theorem holders_of_some {r : TypeRegistry} {typeName : String} {entry : Entry}
    (h : r.entries[typeName]? = some entry) : r.holders typeName = entry.holders := by
  simp [holders, h]

theorem holders_of_none {r : TypeRegistry} {typeName : String}
    (h : r.entries[typeName]? = none) : r.holders typeName = 0 := by
  simp [holders, h]

theorem mem_of_holders_pos {r : TypeRegistry} {typeName : String}
    (h : 0 < r.holders typeName) : typeName ∈ r.entries := by
  cases cached : r.entries[typeName]? with
  | none => simp [holders_of_none cached] at h
  | some entry => exact table_mem_of_some _ cached

theorem holders_insert (r : TypeRegistry) (typeName other : String) (entry : Entry) :
    (r.insert typeName entry).holders other =
      if typeName = other then entry.holders else r.holders other := by
  by_cases h : typeName = other <;>
    simp [holders, Std.ExtTreeMap.getElem?_insert, h]

theorem holders_erase (r : TypeRegistry) (typeName other : String) :
    (r.erase typeName).holders other = if typeName = other then 0 else r.holders other := by
  by_cases h : typeName = other <;>
    simp [holders, Std.ExtTreeMap.getElem?_erase, h]

theorem holders_one_more {r r' : TypeRegistry} {typeName : String} {a : Adapter}
    (entries : r'.entries = r.entries.insert typeName ⟨a, r.holders typeName + 1⟩)
    (other : String) :
    r'.holders other =
      if typeName = other then r.holders other + 1 else r.holders other := by
  have inserted : r' = r.insert typeName ⟨a, r.holders typeName + 1⟩ := by
    cases r'
    cases entries
    rfl
  rw [inserted, holders_insert]
  by_cases h : typeName = other <;> simp [h]

end TypeRegistry

namespace Registrar

/-- The transport knows the cached types and no others, each by the adapter in the cache. -/
def Agrees (s : Registrar) : Prop :=
  ∀ typeName, s.transport.types[typeName]? = s.registry.lookup typeName

theorem Agrees.mem_iff {s : Registrar} (agrees : s.Agrees) (typeName : String) :
    typeName ∈ s.transport.types ↔ typeName ∈ s.registry.entries := by
  rw [Std.ExtTreeMap.mem_iff_isSome_getElem?, Std.ExtTreeMap.mem_iff_isSome_getElem?,
    agrees, TypeRegistry.lookup, Option.isSome_map]

theorem Agrees.types_of_some {s : Registrar} (agrees : s.Agrees) {typeName : String}
    {entry : TypeRegistry.Entry} (h : s.registry.entries[typeName]? = some entry) :
    s.transport.types[typeName]? = some entry.adapter := by
  rw [agrees, TypeRegistry.lookup, h, Option.map_some]

theorem Agrees.types_of_none {s : Registrar} (agrees : s.Agrees) {typeName : String}
    (h : s.registry.entries[typeName]? = none) : s.transport.types[typeName]? = none := by
  rw [agrees, TypeRegistry.lookup, h, Option.map_none]

theorem Agrees.types_eq_empty {s : Registrar} (agrees : s.Agrees)
    (entries : s.registry.entries = ∅) : s.transport.types = ∅ := by
  rw [Std.ExtTreeMap.eq_empty_iff_forall_not_mem] at entries ⊢
  exact fun typeName => mt (agrees.mem_iff typeName).mp (entries typeName)

/-- Only the two tables count. -/
theorem Agrees.congr {s s' : Registrar} (agrees : s.Agrees)
    (entries : s'.registry.entries = s.registry.entries)
    (types : s'.transport.types = s.transport.types) : s'.Agrees := by
  intro typeName
  rw [types, TypeRegistry.lookup, entries]
  exact agrees typeName

theorem Agrees.of_insert {s s' : Registrar} (agrees : s.Agrees) {typeName : String}
    {entry : TypeRegistry.Entry}
    (entries : s'.registry.entries = s.registry.entries.insert typeName entry)
    (types : s'.transport.types = s.transport.types.insert typeName entry.adapter) :
    s'.Agrees := by
  intro other
  have same := agrees other
  rw [TypeRegistry.lookup] at same ⊢
  rw [types, entries, Std.ExtTreeMap.getElem?_insert, Std.ExtTreeMap.getElem?_insert]
  by_cases h : typeName = other <;> simp [h, same]

theorem Agrees.of_erase {s s' : Registrar} (agrees : s.Agrees) {typeName : String}
    (entries : s'.registry.entries = s.registry.entries.erase typeName)
    (types : s'.transport.types = s.transport.types.erase typeName) : s'.Agrees := by
  intro other
  have same := agrees other
  rw [TypeRegistry.lookup] at same ⊢
  rw [types, entries, Std.ExtTreeMap.getElem?_erase, Std.ExtTreeMap.getElem?_erase]
  by_cases h : typeName = other <;> simp [h, same]

/-- The number of holders is no affair of the transport. -/
theorem Agrees.types_insert {s : Registrar} (agrees : s.Agrees) {typeName : String}
    {entry : TypeRegistry.Entry} (h : s.registry.entries[typeName]? = some entry) :
    s.transport.types.insert typeName entry.adapter = s.transport.types :=
  table_insert_of_some _ (agrees.types_of_some h)

def Named (s : Registrar) : Prop :=
  ∀ (typeName : String) (entry : TypeRegistry.Entry),
    s.registry.entries[typeName]? = some entry → entry.adapter.typeName = typeName

theorem Named.congr {s s' : Registrar} (named : s.Named)
    (entries : s'.registry.entries = s.registry.entries) : s'.Named := by
  intro typeName entry cached
  exact named typeName entry (entries ▸ cached)

theorem Named.of_insert {s s' : Registrar} (named : s.Named) {typeName : String}
    (entry : TypeRegistry.Entry) (name : entry.adapter.typeName = typeName)
    (entries : s'.registry.entries = s.registry.entries.insert typeName entry) : s'.Named := by
  intro other entry' cached
  rw [entries, Std.ExtTreeMap.getElem?_insert] at cached
  by_cases same : typeName = other
  · simp only [same, Std.ReflCmp.compare_self, if_true, Option.some.injEq] at cached
    exact cached ▸ name.trans same
  · simp only [Std.LawfulEqCmp.compare_eq_iff_eq, same, if_false] at cached
    exact named other entry' cached

theorem Named.of_erase {s s' : Registrar} (named : s.Named) {typeName : String}
    (entries : s'.registry.entries = s.registry.entries.erase typeName) : s'.Named := by
  intro other entry cached
  rw [entries, Std.ExtTreeMap.getElem?_erase] at cached
  split at cached
  · cases cached
  · exact named other entry cached

/-- A hold that was had: one holder more, and the adapter of the hold on both sides. -/
structure Acquired (typeName : String) (s s' : Registrar) (hold : TypeHold) : Prop where
  named : hold.typeName = typeName
  reused : ∀ entry, s.registry.entries[typeName]? = some entry →
    hold.registration = ⟨entry.adapter, false⟩
  /-- An adapter that was built for the hold goes by the name. -/
  built : s.registry.entries[typeName]? = none → hold.registration.adapter.typeName = typeName
  entries : s'.registry.entries =
    s.registry.entries.insert typeName
      ⟨hold.registration.adapter, s.registry.holders typeName + 1⟩
  transport : s'.transport =
    { s.transport with types := s.transport.types.insert typeName hold.registration.adapter }

/-- A cached type is shared as it is; any other one is registered first, under the name that it goes
by. -/
theorem acquire_ok {s s' : Registrar} {typeName : String} {factory : Factory} {hold : TypeHold}
    (agrees : s.Agrees) (names : factory.Names typeName)
    (h : s.acquire typeName factory = (.ok hold, s')) : Acquired typeName s s' hold := by
  cases cached : s.registry.entries[typeName]? with
  | some entry =>
      simp only [acquire, getOrRegister, cached, Prod.mk.injEq, Except.ok.injEq] at h
      obtain ⟨rfl, rfl⟩ := h
      refine ⟨rfl, ?_, fun absent => ?_, ?_, ?_⟩
      · intro other same
        cases cached.symm.trans same
        rfl
      · cases cached.symm.trans absent
      · simp only [TypeRegistry.insert_entries, TypeRegistry.holders_of_some cached]
      · simp only [agrees.types_insert cached]
  | none =>
      simp only [acquire, getOrRegister, cached] at h
      cases made : factory s.built with
      | error e => simp [made] at h
      | ok adapter =>
          have name := names _ _ made
          subst name
          simp only [made, Transport.registerType_of_unknown _ _ (agrees.types_of_none cached)] at h
          cases refused : s.transport.faults.registerType with
          | true => simp [refused] at h
          | false =>
              simp only [refused, Bool.false_eq_true, if_false, Prod.mk.injEq, Except.ok.injEq] at h
              obtain ⟨rfl, rfl⟩ := h
              refine ⟨rfl, fun _ same => ?_, fun _ => rfl, ?_, rfl⟩
              · cases cached.symm.trans same
              · simp only [TypeRegistry.insert_entries, TypeRegistry.holders_of_none cached]

/-- A factory that fails and a refused registration leave no trace. -/
theorem acquire_error {s s' : Registrar} {typeName : String} {factory : Factory} {e : Error}
    (h : s.acquire typeName factory = (.error e, s')) :
    s.registry.entries[typeName]? = none ∧
      s'.registry = s.registry ∧ s'.transport = s.transport := by
  cases cached : s.registry.entries[typeName]? with
  | some entry => simp [acquire, getOrRegister, cached] at h
  | none =>
      simp only [acquire, getOrRegister, cached] at h
      cases made : factory s.built with
      | error _ =>
          simp only [made, Prod.mk.injEq] at h
          exact ⟨rfl, h.2 ▸ rfl, h.2 ▸ rfl⟩
      | ok adapter =>
          cases registered : s.transport.registerType adapter with
          | error _ =>
              simp only [made, registered, Prod.mk.injEq] at h
              exact ⟨rfl, h.2 ▸ rfl, h.2 ▸ rfl⟩
          | ok _ => simp [made, registered] at h

theorem Acquired.agrees {s s' : Registrar} {typeName : String} {hold : TypeHold}
    (acquired : Acquired typeName s s' hold) (agrees : s.Agrees) : s'.Agrees :=
  agrees.of_insert acquired.entries (by rw [acquired.transport])

/-- What giving up a hold does. The type goes with its last holder, unless it is refused. -/
inductive Released (typeName : String) (s s' : Registrar) : Prop
  | uncached (absent : s.registry.entries[typeName]? = none) (same : s' = s)
  | kept (entry : TypeRegistry.Entry) (cached : s.registry.entries[typeName]? = some entry)
      (stays : 1 < entry.holders ∨ s.transport.faults.unregisterType = true)
      (effect : s' = { s with
        registry := s.registry.insert typeName { entry with holders := entry.holders - 1 } })
  | gone (entry : TypeRegistry.Entry) (cached : s.registry.entries[typeName]? = some entry)
      (last : entry.holders ≤ 1) (accepted : s.transport.faults.unregisterType = false)
      (effect : s' = { s with
        registry := s.registry.erase typeName
        transport := { s.transport with types := s.transport.types.erase typeName } })

/-- A name that is not cached may be released as well; nothing comes of it. -/
theorem release_released {s : Registrar} (agrees : s.Agrees) (typeName : String) :
    Released typeName s (s.release typeName).2 := by
  cases cached : s.registry.entries[typeName]? with
  | none => exact .uncached cached (by simp only [release, cached])
  | some entry =>
      have unregister :=
        Transport.unregisterType_of_known _ _ _ (agrees.types_of_some cached)
      by_cases more : 0 < entry.holders - 1
      · refine .kept entry cached (.inl (by omega)) ?_
        simp only [release, cached, if_pos more]
      · cases refused : s.transport.faults.unregisterType with
        | true =>
            refine .kept entry cached (.inr refused) ?_
            simp only [release, cached, if_neg more, unregister, refused, if_true]
        | false =>
            refine .gone entry cached (by omega) refused ?_
            simp only [release, cached, if_neg more, unregister, refused, Bool.false_eq_true,
              if_false]

theorem Released.agrees {s s' : Registrar} {typeName : String}
    (released : Released typeName s s') (agrees : s.Agrees) : s'.Agrees := by
  cases released with
  | uncached _ same => exact same ▸ agrees
  | kept entry cached _ effect =>
      subst effect
      exact agrees.of_insert rfl (agrees.types_insert cached).symm
  | gone _ _ _ _ effect =>
      subst effect
      exact agrees.of_erase rfl rfl

theorem Released.named {s s' : Registrar} {typeName : String}
    (released : Released typeName s s') (named : s.Named) : s'.Named := by
  cases released with
  | uncached _ same => exact same ▸ named
  | kept entry cached _ effect =>
      subst effect
      exact named.of_insert { entry with holders := entry.holders - 1 }
        (named typeName entry cached) rfl
  | gone _ _ _ _ effect =>
      subst effect
      exact named.of_erase rfl

/-- Whether the type goes or stays, there is one holder less. -/
theorem Released.holders {s s' : Registrar} {typeName : String}
    (released : Released typeName s s') (other : String) :
    s'.registry.holders other =
      if typeName = other then s.registry.holders other - 1 else s.registry.holders other := by
  cases released with
  | uncached absent same =>
      subst same
      by_cases h : typeName = other
      · subst h
        simp [TypeRegistry.holders_of_none absent]
      · simp [h]
  | kept entry cached _ effect =>
      subst effect
      rw [TypeRegistry.holders_insert]
      by_cases h : typeName = other
      · subst h
        simp [TypeRegistry.holders_of_some cached]
      · simp [h]
  | gone entry cached last _ effect =>
      subst effect
      rw [TypeRegistry.holders_erase]
      by_cases h : typeName = other
      · subst h
        simp only [if_true, TypeRegistry.holders_of_some cached]
        omega
      · simp [h]

/-- Only the last holder takes the type along, and only if the transport lets it go. -/
theorem Released.mem_iff {s s' : Registrar} {typeName : String}
    (released : Released typeName s s') (other : String) :
    other ∈ s'.registry.entries ↔ other ∈ s.registry.entries ∧
      ¬ (typeName = other ∧ s.registry.holders other ≤ 1 ∧
        s.transport.faults.unregisterType = false) := by
  cases released with
  | uncached absent same =>
      have missing := table_not_mem_of_none _ absent
      rw [same]
      grind
  | kept entry cached stays effect =>
      subst effect
      have present := table_mem_of_some _ cached
      have count := TypeRegistry.holders_of_some cached
      rw [TypeRegistry.insert_entries, Std.ExtTreeMap.mem_insert]
      grind
  | gone entry cached last accepted effect =>
      subst effect
      have count := TypeRegistry.holders_of_some cached
      rw [TypeRegistry.erase_entries, Std.ExtTreeMap.mem_erase]
      grind

theorem Released.entry_self {s s' : Registrar} {typeName : String} {entry : TypeRegistry.Entry}
    (released : Released typeName s s') (accepted : s.transport.faults.unregisterType = false)
    (cached : s.registry.entries[typeName]? = some entry) :
    s'.registry.entries[typeName]? =
      if entry.holders ≤ 1 then none
      else some { entry with holders := entry.holders - 1 } := by
  cases released with
  | uncached absent _ => cases absent.symm.trans cached
  | kept _ same stays effect =>
      cases same.symm.trans cached
      have more : ¬ entry.holders ≤ 1 := Nat.not_le.mpr (stays.resolve_right (by simp [accepted]))
      rw [effect, if_neg more, TypeRegistry.insert_entries, Std.ExtTreeMap.getElem?_insert_self]
  | gone _ same last _ effect =>
      cases same.symm.trans cached
      rw [effect, if_pos last, TypeRegistry.erase_entries, Std.ExtTreeMap.getElem?_erase_self]

theorem Released.entry_other {s s' : Registrar} {typeName other : String}
    (released : Released typeName s s') (apart : typeName ≠ other) :
    s'.registry.entries[other]? = s.registry.entries[other]? := by
  cases released with
  | uncached _ same => rw [same]
  | kept _ _ _ effect => simp [effect, Std.ExtTreeMap.getElem?_insert, apart]
  | gone _ _ _ _ effect => simp [effect, Std.ExtTreeMap.getElem?_erase, apart]

/-- Of the transport only the registered types are touched. -/
theorem Released.transport {s s' : Registrar} {typeName : String}
    (released : Released typeName s s') :
    s'.transport = { s.transport with types := s'.transport.types } := by
  cases released with
  | uncached _ same => rw [same]
  | kept _ _ _ effect => rw [effect]
  | gone _ _ _ _ effect => rw [effect]

/-- A transport that accepts does so for every type that a hold can be on. -/
theorem release_of_accepted {s : Registrar} (agrees : s.Agrees)
    (accepted : s.transport.faults.unregisterType = false) (typeName : String) :
    (s.release typeName).1 = .ok () := by
  cases cached : s.registry.entries[typeName]? with
  | none => simp only [release, cached]
  | some entry =>
      simp only [release, cached, accepted, Bool.false_eq_true, if_false,
        Transport.unregisterType_of_known _ _ _ (agrees.types_of_some cached)]
      split <;> rfl

@[simp] theorem dropHold_fst (s : Registrar) (hold : TypeHold) :
    (s.dropHold hold).1 = (s.release hold.typeName).2 := by
  rw [dropHold]
  split <;> simp_all

@[simp] theorem releaseHold_snd (s : Registrar) (hold : TypeHold) :
    (s.releaseHold hold).2 = (s.release hold.typeName).2 := rfl

theorem unregisterEach_of_refused (s : Registrar) (names : List String)
    (refused : s.transport.faults.unregisterType = true) :
    unregisterEach names s = (names.map fun n => (n, .unregistrationRejected), s) := by
  induction names with
  | nil => rfl
  | cons n names ih =>
      simp only [unregisterEach, Transport.unregisterType, refused, if_true, ih, List.map_cons]

/-- As long as the transport accepts everything, all the names go. -/
theorem unregisterEach_of_accepted (s : Registrar) (names : List String) (once : names.Nodup)
    (known : ∀ n ∈ names, n ∈ s.transport.types)
    (accepted : s.transport.faults.unregisterType = false) :
    unregisterEach names s = ([], { s with
      registry := { entries := names.foldl (fun m n => m.erase n) s.registry.entries }
      transport := { s.transport with
        types := names.foldl (fun m n => m.erase n) s.transport.types } }) := by
  induction names generalizing s with
  | nil => rfl
  | cons n names ih =>
      obtain ⟨fresh, once⟩ := List.nodup_cons.mp once
      have registered : s.transport.isRegistered n = true :=
        Std.ExtTreeMap.mem_iff_contains.mp (known n List.mem_cons_self)
      simp only [unregisterEach, Transport.unregisterType, accepted, registered,
        Bool.false_eq_true, if_false, if_true]
      let left : Registrar := { s with
        registry := s.registry.erase n
        transport := { s.transport with types := s.transport.types.erase n } }
      refine (ih left once ?_ accepted).trans rfl
      intro k hk
      have apart : n ≠ k := fun h => fresh (h ▸ hk)
      simpa [left, apart] using known k (List.mem_cons_of_mem _ hk)

/-- A transport that accepts is left without types. -/
theorem unregisterAll_of_accepted {s : Registrar} (agrees : s.Agrees)
    (accepted : s.transport.faults.unregisterType = false) :
    s.unregisterAll =
      (.ok (), { s with registry := {}, transport := { s.transport with types := ∅ } }, []) := by
  have known : ∀ n ∈ s.registry.entries.keys, n ∈ s.transport.types := by
    intro n hn
    exact (agrees.mem_iff n).mpr (Std.ExtTreeMap.mem_keys.mp hn)
  have entries := foldl_erase_eq_empty s.registry.entries s.registry.entries.keys
    fun k hk => Std.ExtTreeMap.mem_keys.mpr hk
  have types := foldl_erase_eq_empty s.transport.types s.registry.entries.keys
    fun k hk => Std.ExtTreeMap.mem_keys.mpr ((agrees.mem_iff k).mp hk)
  simp only [unregisterAll,
    unregisterEach_of_accepted s _ Std.ExtTreeMap.nodup_keys known accepted, entries, types,
    List.map_nil]

/-- A transport that refuses keeps all, which is an error if there is anything to keep. -/
theorem unregisterAll_of_refused {s : Registrar}
    (refused : s.transport.faults.unregisterType = true) :
    s.unregisterAll.2.1 = s ∧ (s.unregisterAll.1 = .ok () ↔ s.registry.entries = ∅) := by
  rw [unregisterAll, unregisterEach_of_refused s _ refused, ← Std.ExtTreeMap.keys_eq_nil_iff]
  refine ⟨rfl, ?_⟩
  cases s.registry.entries.keys <;> simp

/-- What unregistering everything does: nothing or all. -/
inductive Emptied (s s' : Registrar) : Prop
  | refused (refused : s.transport.faults.unregisterType = true) (same : s' = s)
  | cleared (accepted : s.transport.faults.unregisterType = false)
      (effect : s' =
        { s with registry := {}, transport := { s.transport with types := ∅ } })

theorem unregisterAll_emptied {s : Registrar} (agrees : s.Agrees) :
    Emptied s s.unregisterAll.2.1 := by
  cases refused : s.transport.faults.unregisterType with
  | true => exact .refused refused (unregisterAll_of_refused refused).1
  | false => exact .cleared refused (by rw [unregisterAll_of_accepted agrees refused])

theorem Emptied.readers {s s' : Registrar} (emptied : Emptied s s') :
    s.transport.SameReaders s'.transport := by
  cases emptied with
  | refused _ same => exact same ▸ .refl _
  | cleared _ effect => exact effect ▸ ⟨rfl, rfl, rfl, rfl, Nat.le_refl _⟩

theorem Emptied.agrees {s s' : Registrar} (emptied : Emptied s s') (agrees : s.Agrees) :
    s'.Agrees := by
  cases emptied with
  | refused _ same => exact same ▸ agrees
  | cleared _ effect =>
      subst effect
      intro typeName
      simp [TypeRegistry.lookup]

theorem Emptied.named {s s' : Registrar} (emptied : Emptied s s') (named : s.Named) :
    s'.Named := by
  cases emptied with
  | refused _ same => exact same ▸ named
  | cleared _ effect =>
      subst effect
      intro typeName entry cached
      simp at cached

end Registrar

end RosMiddleware
