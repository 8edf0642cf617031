import RosMiddleware.Proofs.SessionRuns

/-!
The accounts of a session. However the transport refuses, and however creations fail, the
readers are those of the live subscriptions, the registered types are the cached ones, and
the holders of a cached type are the live subscriptions of that type. While the participant
is open, no live subscription lacks its type. The listeners are those of the live
subscriptions as long as the identities of readers do not repeat.
-/
namespace RosMiddleware

open Registrar (Established RolledBack Released Emptied)
open Transport (Guid)

namespace Session

def holding (s : Session) (typeName : String) : Nat := s.live.countP (·.typeName == typeName)

theorem holding_congr {s s' : Session} (live : s'.live = s.live) (typeName : String) :
    s'.holding typeName = s.holding typeName := by
  rw [holding, holding, live]

theorem holding_created {s s' : Session} {sub : Subscription} (live : s'.live = s.live ++ [sub])
    (typeName : String) :
    s'.holding typeName =
      if sub.typeName = typeName then s.holding typeName + 1 else s.holding typeName := by
  rw [holding, holding, live, List.countP_append, List.countP_singleton]
  by_cases h : sub.typeName = typeName <;> simp [h]

theorem holding_tornDown {s s' : Session} {before after : List Subscription} {sub : Subscription}
    (was : s.live = before ++ sub :: after) (live : s'.live = before ++ after)
    (typeName : String) :
    s'.holding typeName =
      if sub.typeName = typeName then s.holding typeName - 1 else s.holding typeName := by
  rw [holding, holding, was, live, List.countP_append, List.countP_append, List.countP_cons]
  by_cases h : sub.typeName = typeName <;> simp [h]

theorem holding_pos {s : Session} {sub : Subscription} (alive : sub ∈ s.live) :
    0 < s.holding sub.typeName :=
  List.countP_pos_iff.mpr ⟨sub, alive, by simp⟩

/-! ### Types and readers -/

/-- A type that is not cached has no holders, so a type with live subscriptions is cached
while the participant is open. Afterwards the cached types may have gone under them. -/
structure Accounts (s : Session) : Prop where
  agrees : s.registrar.Agrees
  named : s.registrar.Named
  known : ∀ a ∈ s.transport.attached, a.guid ≠ .unknown
  readers : s.transport.liveReaders = s.live.length
  holders : ∀ typeName ∈ s.registry.entries, s.registry.holders typeName = s.holding typeName
  covered : s.isOpen = true → ∀ typeName, s.registry.holders typeName = s.holding typeName

theorem accounts_fresh (settings : Settings) (number : Nat) :
    Accounts (fresh settings number) where
  agrees _ := by simp [fresh, Site.fresh, Transport.ofNumber, TypeRegistry.lookup]
  named _ _ cached := by simp [fresh, Site.fresh] at cached
  known := by simp [fresh, Site.fresh, Transport.ofNumber]
  readers := rfl
  holders _ _ := rfl
  covered _ _ := rfl

theorem Step.readers {s s' : Session} (step : Step s s')
    (readers : s.transport.liveReaders = s.live.length) :
    s'.transport.liveReaders = s'.live.length := by
  cases step with
  | idle _ _ same live _ => rw [same.live, live, readers]
  | created _ sub established live _ _ =>
      have more : s'.transport.liveReaders = s.transport.liveReaders + 1 :=
        (congrArg Transport.liveReaders established.transport :)
      rw [more, live, readers, List.length_append, List.length_singleton]
  | failed _ rolledBack live _ _ => rw [rolledBack.readers.live, live, readers]
  | tornDown _ _ _ was released live _ =>
      have fewer : s'.transport.liveReaders = s.transport.liveReaders - 1 :=
        (congrArg Transport.liveReaders released.transport :)
      rw [fewer, readers, was, live]
      simp
  | closed emptied live _ _ => rw [emptied.readers.live, live, readers]

/-- Name by name, since after a shutdown only the cached names have their holders right. -/
theorem Step.counted {s s' : Session} (step : Step s s') (typeName : String)
    (same : s.registry.holders typeName = s.holding typeName) :
    s'.registry.holders typeName = s'.holding typeName ∨
      s'.isOpen = false ∧ typeName ∉ s'.registry.entries := by
  cases step with
  | idle registry _ _ live _ => exact .inl (by rw [registry, holding_congr live, same])
  | created _ _ established live _ _ =>
      refine .inl ?_
      rw [holding_created live, established.typed, ← same]
      exact TypeRegistry.holders_one_more established.entries typeName
  | failed _ rolledBack live _ _ =>
      exact .inl (by rw [rolledBack.unwound.holders, holding_congr live, same])
  | tornDown _ _ _ was released live _ =>
      refine .inl ?_
      rw [holding_tornDown was live, ← same]
      exact released.holders typeName
  | closed emptied live _ isOpen =>
      cases emptied with
      | refused _ effect =>
          have registry : s'.registry = s.registry := congrArg Registrar.registry effect
          exact .inl (by rw [registry, holding_congr live, same])
      | cleared _ effect =>
          have registry : s'.registry = {} := (congrArg Registrar.registry effect :)
          exact .inr ⟨isOpen, by simp [registry]⟩

/-- No type comes in after the shutdown. -/
theorem Step.cached_of_closed {s s' : Session} (step : Step s s') (closed : s.isOpen = false)
    {typeName : String} (cached : typeName ∈ s'.registry.entries) :
    typeName ∈ s.registry.entries := by
  cases step with
  | idle registry _ _ _ _ => exact registry ▸ cached
  | tornDown _ _ _ _ released _ _ => exact ((released.mem_iff typeName).mp cached).1
  | created _ _ _ _ wasOpen _ | failed _ _ _ wasOpen _ | closed _ _ wasOpen _ =>
      cases closed.symm.trans wasOpen

/-- One more or one less on all sides at once, and after a shutdown nothing new. -/
theorem accounts_step {s s' : Session} (accounts : Accounts s) (step : Step s s') :
    Accounts s' := by
  refine ⟨step.agrees accounts.agrees, step.named accounts.named, step.known accounts.known,
    step.readers accounts.readers, ?_, ?_⟩
  · intro typeName cached
    refine (step.counted typeName ?_).resolve_right fun gone => gone.2 cached
    cases isOpen : s.isOpen with
    | true => exact accounts.covered isOpen typeName
    | false => exact accounts.holders typeName (step.cached_of_closed isOpen cached)
  · intro stillOpen typeName
    have wasOpen : s.isOpen = true := by
      refine eq_true_of_ne_false fun closed => ?_
      cases stillOpen.symm.trans (closed_step closed step)
    refine (step.counted typeName (accounts.covered wasOpen typeName)).resolve_right ?_
    rintro ⟨closed, _⟩
    cases stillOpen.symm.trans closed

theorem Accounts.step {s : Session} (accounts : Accounts s) (a : Action) : Step s (s.act a) :=
  act_step s accounts.agrees accounts.known a

theorem accounts_run {s : Session} (accounts : Accounts s) (actions : List Action) :
    Accounts (s.run actions) := by
  induction actions generalizing s with
  | nil => exact accounts
  | cons a actions ih => exact ih (accounts_step accounts (accounts.step a))

theorem accounts_of_run (settings : Settings) (number : Nat) (actions : List Action) :
    Accounts ((fresh settings number).run actions) :=
  accounts_run (accounts_fresh settings number) actions

def Tagged (s : Session) : Prop := ∀ sub ∈ s.live, sub.implementation = implementationTag

theorem tagged_step {s s' : Session} (tagged : Tagged s) (step : Step s s') : Tagged s' := by
  intro sub alive
  cases step with
  | idle _ _ _ live _ | failed _ _ live _ _ | closed _ live _ _ =>
      exact tagged sub (live ▸ alive)
  | created _ new established live _ _ =>
      rw [live, List.mem_append, List.mem_singleton] at alive
      rcases alive with alive | rfl
      · exact tagged sub alive
      · exact established.tagged
  | tornDown before after _ was _ live _ =>
      refine tagged sub ?_
      rw [live, List.mem_append] at alive
      rw [was, List.mem_append]
      exact alive.imp_right (List.mem_cons_of_mem _)

theorem tagged_run {s : Session} (accounts : Accounts s) (tagged : Tagged s)
    (actions : List Action) : Tagged (s.run actions) := by
  induction actions generalizing s with
  | nil => exact tagged
  | cons a actions ih =>
      have step := accounts.step a
      exact ih (accounts_step accounts step) (tagged_step tagged step)

theorem tagged_of_run (settings : Settings) (number : Nat) (actions : List Action) :
    Tagged ((fresh settings number).run actions) := by
  have none : Tagged (fresh settings number) := by simp [Tagged, fresh]
  exact tagged_run (accounts_fresh settings number) none actions

/-! ### Identities and listeners -/

/-- The identities of the live subscriptions differ, each being made of a number that was
given out, and their listeners are attached in the order of their creation. -/
structure Numbered (s : Session) : Prop where
  next : s.transport.nextReader.toNat ≤ s.transport.createdReaders + 1
  guids : ∀ sub ∈ s.live, ∃ n, n.toNat < s.transport.nextReader.toNat ∧
    sub.reader.guid = ⟨Guid.hostOf s.transport.number, Guid.readerOf n⟩
  apart : s.live.Pairwise fun sub other => sub.reader.guid ≠ other.reader.guid
  attached : s.transport.attached = s.live.filterMap Subscription.attachment?

theorem numbered_fresh (settings : Settings) (number : Nat) :
    Numbered (fresh settings number) where
  next := by simp [fresh, Site.fresh, Transport.ofNumber]
  guids := by simp [fresh]
  apart := .nil
  attached := rfl

/-- Readers that come and go change none of this. -/
private theorem numbered_unchanged {s s' : Session} (numbered : Numbered s)
    (readers : s.transport.SameReaders s'.transport) (live : s'.live = s.live) :
    Numbered s' := by
  refine ⟨?_, ?_, ?_, ?_⟩
  · rw [readers.next]
    exact Nat.le_trans numbered.next (Nat.succ_le_succ readers.created)
  · rw [live, readers.next, readers.number]
    exact numbered.guids
  · rw [live]
    exact numbered.apart
  · rw [readers.attached, live]
    exact numbered.attached

private theorem numbered_created {s s' : Session} {typeName : String} {sub : Subscription}
    (numbered : Numbered s) (established : Established typeName s.registrar s'.registrar sub)
    (live : s'.live = s.live ++ [sub])
    (few : s'.transport.createdReaders < Guid.readerRange) : Numbered s' := by
  have number : s'.transport.number = s.transport.number :=
    (congrArg Transport.number established.transport :)
  have created : s'.transport.createdReaders = s.transport.createdReaders + 1 :=
    (congrArg Transport.createdReaders established.transport :)
  have attached : s'.transport.attached = s.transport.attached ++ sub.attachment?.toList :=
    (congrArg Transport.attached established.transport :)
  have inRange : s.transport.nextReader.toNat < Guid.readerRange :=
    Nat.lt_of_le_of_lt numbered.next (created ▸ few)
  have next : s'.transport.nextReader.toNat = s.transport.nextReader.toNat + 1 :=
    (congrArg (·.nextReader.toNat) established.transport :).trans (Guid.toNat_next inRange)
  refine ⟨?_, ?_, ?_, ?_⟩
  · rw [next, created]
    exact Nat.succ_le_succ numbered.next
  · intro other alive
    rw [live, List.mem_append, List.mem_singleton] at alive
    rw [number, next]
    rcases alive with alive | rfl
    · obtain ⟨n, given, guid⟩ := numbered.guids other alive
      exact ⟨n, by omega, guid⟩
    · exact ⟨_, Nat.lt_succ_self _, established.guid⟩
  · rw [live, List.pairwise_append]
    refine ⟨numbered.apart, List.pairwise_singleton _ _, ?_⟩
    intro other alive new isNew same
    obtain rfl := List.mem_singleton.mp isNew
    obtain ⟨n, given, guid⟩ := numbered.guids other alive
    rw [guid, established.guid] at same
    -- within the range numbers do not wrap around, so the next one is new
    have again := Guid.readerOf_injOn (Nat.lt_trans given inRange) inRange
      (congrArg Guid.entity same)
    rw [again] at given
    exact Nat.lt_irrefl _ given
  · rw [attached, live, List.filterMap_append, numbered.attached]
    cases h : sub.attachment? <;> simp [h]

private theorem guid_of_attachment {live : List Subscription} {guid : Guid}
    (differ : ∀ sub ∈ live, sub.reader.guid ≠ guid) :
    ∀ a ∈ live.filterMap Subscription.attachment?, ¬ (a.guid == guid) = true := by
  intro a ha
  simp only [List.mem_filterMap, Subscription.attachment?, Option.map_eq_some_iff] at ha
  obtain ⟨sub, alive, l, _, rfl⟩ := ha
  simpa using differ sub alive

/-- The listener that goes with a reader is that of its subscription. -/
private theorem eraseP_attachments {before after : List Subscription} {sub : Subscription}
    (apart : (before ++ sub :: after).Pairwise fun sub other =>
      sub.reader.guid ≠ other.reader.guid) :
    ((before ++ sub :: after).filterMap Subscription.attachment?).eraseP
        (fun a => a.guid == sub.reader.guid) =
      (before ++ after).filterMap Subscription.attachment? := by
  obtain ⟨_, rest, cross⟩ := List.pairwise_append.mp apart
  obtain ⟨following, _⟩ := List.pairwise_cons.mp rest
  have first := guid_of_attachment fun other alive => cross other alive sub List.mem_cons_self
  have last := guid_of_attachment fun other alive => (following other alive).symm
  rw [List.filterMap_append, List.filterMap_append, List.eraseP_append_right _ first]
  congr 1
  simp only [List.filterMap_cons]
  cases listens : sub.listener with
  | none =>
      simp only [Subscription.attachment?, listens, Option.map_none]
      exact List.eraseP_of_forall_not last
  | some l => simp [Subscription.attachment?, listens]

private theorem numbered_tornDown {s s' : Session} {before after : List Subscription}
    {sub : Subscription} (numbered : Numbered s) (was : s.live = before ++ sub :: after)
    (released : Released sub.typeName (s.registrar.withoutReader sub) s'.registrar)
    (live : s'.live = before ++ after) : Numbered s' := by
  have number : s'.transport.number = s.transport.number :=
    (congrArg Transport.number released.transport :)
  have next : s'.transport.nextReader = s.transport.nextReader :=
    (congrArg Transport.nextReader released.transport :)
  have created : s'.transport.createdReaders = s.transport.createdReaders :=
    (congrArg Transport.createdReaders released.transport :)
  have attached : s'.transport.attached =
      s.transport.attached.eraseP fun a => a.guid == sub.reader.guid :=
    (congrArg Transport.attached released.transport :)
  have fewer : s'.live.Sublist s.live := by
    rw [was, live]
    exact List.Sublist.append_left (List.sublist_cons_self _ _) _
  refine ⟨?_, ?_, numbered.apart.sublist fewer, ?_⟩
  · rw [next, created]
    exact numbered.next
  · intro other alive
    rw [number, next]
    exact numbered.guids other (fewer.subset alive)
  · rw [attached, numbered.attached, was, live]
    exact eraseP_attachments (was ▸ numbered.apart)

theorem numbered_step {s s' : Session} (numbered : Numbered s) (step : Step s s')
    (few : s'.transport.createdReaders < Guid.readerRange) : Numbered s' := by
  cases step with
  | idle _ _ readers live _ => exact numbered_unchanged numbered readers live
  | created _ _ established live _ _ => exact numbered_created numbered established live few
  | failed _ rolledBack live _ _ => exact numbered_unchanged numbered rolledBack.readers live
  | tornDown _ _ _ was released live _ => exact numbered_tornDown numbered was released live
  | closed emptied live _ _ => exact numbered_unchanged numbered emptied.readers live

/-- Readers that were created are not forgotten. -/
theorem created_le_step {s s' : Session} (step : Step s s') :
    s.transport.createdReaders ≤ s'.transport.createdReaders := by
  cases step with
  | idle _ _ readers _ _ => exact readers.created
  | created _ _ established _ _ _ =>
      have created : s'.transport.createdReaders = s.transport.createdReaders + 1 :=
        (congrArg Transport.createdReaders established.transport :)
      omega
  | failed _ rolledBack _ _ _ => exact rolledBack.readers.created
  | tornDown _ _ _ _ released _ _ =>
      exact Nat.le_of_eq (congrArg Transport.createdReaders released.transport).symm
  | closed emptied _ _ _ => exact emptied.readers.created

theorem created_le_run {s : Session} (accounts : Accounts s) (actions : List Action) :
    s.transport.createdReaders ≤ (s.run actions).transport.createdReaders := by
  induction actions generalizing s with
  | nil => exact Nat.le_refl _
  | cons a actions ih =>
      have step := accounts.step a
      exact Nat.le_trans (created_le_step step) (ih (accounts_step accounts step))

/-- Numbers do not come again before all of them were given out, so a new reader is unlike those
that are alive. -/
theorem numbered_run {s : Session} (accounts : Accounts s) (numbered : Numbered s)
    (actions : List Action)
    (few : (s.run actions).transport.createdReaders < Guid.readerRange) :
    Numbered (s.run actions) := by
  induction actions generalizing s with
  | nil => exact numbered
  | cons a actions ih =>
      have step := accounts.step a
      have accounts' := accounts_step accounts step
      -- the bound at the end bounds every state on the way
      have fewer := Nat.lt_of_le_of_lt (created_le_run accounts' actions) few
      exact ih accounts' (numbered_step numbered step fewer) few

/-- The accounts balance after every run, as long as the numbers of readers last. -/
theorem accounts_balance (settings : Settings) (number : Nat) (actions : List Action)
    (few : ((fresh settings number).run actions).transport.createdReaders < Guid.readerRange) :
    let s := (fresh settings number).run actions
    s.transport.liveReaders = s.live.length ∧
      s.transport.attached = s.live.filterMap Subscription.attachment? ∧
      (∀ typeName, typeName ∈ s.transport.types ↔ typeName ∈ s.registry.entries) ∧
      (∀ typeName entry, s.registry.entries[typeName]? = some entry →
        entry.holders = s.live.countP (·.typeName == typeName)) ∧
      (.shutdown ∉ actions → ∀ sub ∈ s.live, sub.typeName ∈ s.registry.entries) := by
  intro s
  have accounts : Accounts s := accounts_of_run settings number actions
  have numbered : Numbered s :=
    numbered_run (accounts_fresh settings number) (numbered_fresh settings number) actions few
  refine ⟨accounts.readers, numbered.attached, accounts.agrees.mem_iff, ?_, ?_⟩
  · intro typeName entry cached
    rw [← TypeRegistry.holders_of_some cached]
    exact accounts.holders typeName (table_mem_of_some _ cached)
  · intro never sub alive
    have stillOpen : s.isOpen = true := isOpen_run never
    refine TypeRegistry.mem_of_holders_pos ?_
    rw [accounts.covered stillOpen]
    exact holding_pos alive

/-- Two creations fail, one for its topic and one at the reader, and a handle with another tag is
given back. -/
theorem accounts_balance_failed_creation :
    let actions := [.create (stringRequest "chatter"), .create (stringRequest ""),
      .create (stringRequest "chatter"), .switch { unregisterType := true },
      .destroy 0 "another", .switch { createReader := true }, .create (stringRequest "chatter")]
    let s := (fresh {} 1).run actions
    s.transport.createdReaders < Guid.readerRange ∧
      s.transport.liveReaders = s.live.length ∧
      s.transport.attached = s.live.filterMap Subscription.attachment? ∧
      (∀ typeName, typeName ∈ s.transport.types ↔ typeName ∈ s.registry.entries) := by
  intro actions s
  have few : s.transport.createdReaders < Guid.readerRange := by decide +kernel
  obtain ⟨readers, attached, types, _⟩ := accounts_balance {} 1 actions few
  exact ⟨few, readers, attached, types⟩

end Session

end RosMiddleware
