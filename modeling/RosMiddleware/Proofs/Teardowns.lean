import RosMiddleware.Proofs.SessionAccounts

/-!
Teardowns of live subscriptions, by dropping them or by giving their handles back. Both do
the same to the registry and to the transport. While the participant is open and the
transport accepts, the order does not count either: what is left is a matter of the
subscriptions that are left, and each type goes with the last of them that held it.
-/
namespace RosMiddleware

open Registrar (Released)
open Transport (Guid)

/-- A subscription is dropped, or its handle is given back with a tag. -/
structure Teardown where
  sub : Subscription
  tag : Option String := none
deriving DecidableEq

namespace Teardown

def Unaltered (t : Teardown) : Prop := ∀ tag ∈ t.tag, tag = t.sub.implementation

def action (t : Teardown) (live : List Subscription) : Session.Action :=
  match t.tag with
  | none => .drop (live.idxOf t.sub)
  | some tag => .destroy (live.idxOf t.sub) tag

end Teardown

namespace Session

def tearDown (s : Session) (t : Teardown) : Session := s.act (t.action s.live)

def tearDownAll (s : Session) (ts : List Teardown) : Session := ts.foldl tearDown s

def Unregisters (s : Session) (t : Teardown) (typeName : String) : Prop :=
  typeName ∈ s.transport.types ∧ typeName ∉ (s.tearDown t).transport.types

instance (s : Session) (t : Teardown) (typeName : String) :
    Decidable (s.Unregisters t typeName) :=
  inferInstanceAs (Decidable (_ ∧ _))

def unregistrations (typeName : String) : Session → List Teardown → Nat
  | _, [] => 0
  | s, t :: ts =>
      (if s.Unregisters t typeName then 1 else 0) +
        unregistrations typeName (s.tearDown t) ts

/-- What does not depend on the order of the teardowns, nor on the way of each, and how the
types go. A handle with another tag leaves an error in the journal. -/
structure OrderFree (s : Session) (ts : List Teardown) : Prop where
  same : ∀ ts' : List Teardown, (ts'.map Teardown.sub).Perm (ts.map Teardown.sub) →
    s.tearDownAll ts' = { s.tearDownAll ts with
      site := { (s.tearDownAll ts).site with journal := (s.tearDownAll ts').site.journal } }
  quiet : (∀ t ∈ ts, t.Unaltered) → (s.tearDownAll ts).site.journal = s.site.journal
  accepted : ∀ before t after, ts = before ++ t :: after →
    ((s.tearDownAll before).site.destroy t.sub).1 = .ok ()
  last : ∀ before t after, ts = before ++ t :: after → ∀ typeName,
    (s.tearDownAll before).Unregisters t typeName ↔
      t.sub.typeName = typeName ∧ (s.tearDownAll before).holding typeName = 1
  once : ∀ typeName, s.unregistrations typeName ts =
    if 0 < s.holding typeName ∧ (s.tearDownAll ts).holding typeName = 0 then 1 else 0
  bare : (∀ sub ∈ s.live, sub ∈ ts.map Teardown.sub) →
    (s.tearDownAll ts).transport.liveReaders = 0 ∧
      (s.tearDownAll ts).transport.attached = [] ∧
      ∀ typeName, typeName ∈ (s.tearDownAll ts).transport.types ↔
        typeName ∈ s.transport.types ∧ s.registry.holders typeName = 0

variable {s : Session} {t : Teardown}

private theorem at_idxOf {live : List Subscription} {sub : Subscription} (alive : sub ∈ live) :
    live[live.idxOf sub]? = some sub := by
  rw [List.getElem?_eq_getElem (List.idxOf_lt_length_of_mem alive), List.getElem_idxOf]

/-- It makes no difference to anything but the journal how a subscription is torn down. -/
theorem tearDown_eq (alive : t.sub ∈ s.live) :
    ∃ journal, s.tearDown t =
      ⟨{ s.site with registrar := (s.registrar.drop t.sub).1, journal := journal },
        s.live.erase t.sub⟩ := by
  have place := at_idxOf alive
  rw [List.erase_eq_eraseIdx_of_idxOf rfl]
  cases tag : t.tag with
  | none =>
      obtain ⟨journal, left⟩ := s.site.drop_eq t.sub
      exact ⟨journal, by simp only [tearDown, Teardown.action, tag, act, place, left]⟩
  | some altered =>
      obtain ⟨journal, left⟩ := s.site.destroy_snd t.sub altered
      exact ⟨journal, by simp only [tearDown, Teardown.action, tag, act, place, left]⟩

theorem live_tearDown (alive : t.sub ∈ s.live) : (s.tearDown t).live = s.live.erase t.sub := by
  obtain ⟨_, left⟩ := tearDown_eq alive
  rw [left]

theorem released_tearDown (accounts : Accounts s) (alive : t.sub ∈ s.live) :
    Released t.sub.typeName (s.registrar.withoutReader t.sub) (s.tearDown t).registrar := by
  obtain ⟨_, left⟩ := tearDown_eq alive
  rw [left]
  simp only [Registrar.drop_fst]
  exact Registrar.release_released (accounts.agrees.withoutReader t.sub) _

theorem holding_tearDown (alive : t.sub ∈ s.live) (typeName : String) :
    (s.tearDown t).holding typeName =
      if t.sub.typeName = typeName then s.holding typeName - 1 else s.holding typeName := by
  obtain ⟨before, after, _, was, rest⟩ := List.exists_erase_eq alive
  exact holding_tornDown was ((live_tearDown alive).trans rest) typeName

/-- The session with those parts of the other one that teardowns touch. -/
def touched (s s' : Session) : Session where
  site := { s.site with
    registrar := { s.registrar with
      registry := s'.registry
      transport := { s.transport with
        types := s'.transport.types
        attached := s'.transport.attached
        liveReaders := s'.transport.liveReaders } }
    journal := s'.site.journal }
  live := s'.live

theorem tearDown_touches (accounts : Accounts s) (alive : t.sub ∈ s.live) :
    s.tearDown t = s.touched (s.tearDown t) := by
  have released := released_tearDown accounts alive
  obtain ⟨journal, left⟩ := tearDown_eq alive
  rw [left] at released ⊢
  simp only [registrar] at released
  generalize (s.registrar.drop t.sub).1 = registrar at released ⊢
  cases released with
  | uncached _ effect | kept _ _ _ effect | gone _ _ _ _ effect =>
      subst effect
      rfl

/-- What the registry is like when it has only the later live subscriptions to serve. -/
def Remains (s s' : Session) : Prop :=
  ∀ typeName : String, s'.registry.entries[typeName]? =
    (s.registry.entries[typeName]?).bind fun entry =>
      if 0 < s.holding typeName ∧ s'.holding typeName = 0 then none
      else some ⟨entry.adapter, s'.holding typeName⟩

structure Serving (s : Session) : Prop where
  accounts : Accounts s
  numbered : Numbered s
  tagged : Tagged s
  few : s.transport.createdReaders < Guid.readerRange
  isOpen : s.isOpen = true
  accepts : s.transport.faults.unregisterType = false

theorem Serving.tearDown (serving : Serving s) (alive : t.sub ∈ s.live) :
    Serving (s.tearDown t) := by
  have step : Step s (s.tearDown t) := serving.accounts.step (t.action s.live)
  have touches := tearDown_touches serving.accounts alive
  have few : (s.tearDown t).transport.createdReaders < Guid.readerRange := by
    rw [touches]
    exact serving.few
  refine ⟨accounts_step serving.accounts step, numbered_step serving.numbered step few,
    tagged_step serving.tagged step, few, ?_, ?_⟩
  · rw [touches]
    exact serving.isOpen
  · rw [touches]
    exact serving.accepts

theorem Serving.holders_of_some (serving : Serving s) {typeName : String}
    {entry : TypeRegistry.Entry} (cached : s.registry.entries[typeName]? = some entry) :
    entry.holders = s.holding typeName := by
  rw [← serving.accounts.covered serving.isOpen, TypeRegistry.holders_of_some cached]

theorem Serving.cached (serving : Serving s) {typeName : String} (held : 0 < s.holding typeName) :
    typeName ∈ s.registry.entries := by
  rw [← serving.accounts.covered serving.isOpen] at held
  exact TypeRegistry.mem_of_holders_pos held

/-- What is left serves the subscriptions that are left. -/
theorem remains_tearDown (serving : Serving s) (alive : t.sub ∈ s.live) :
    Remains s (s.tearDown t) := by
  intro typeName
  have released := released_tearDown serving.accounts alive
  rw [holding_tearDown alive]
  by_cases same : t.sub.typeName = typeName
  · subst same
    have held := holding_pos alive
    have cached := Std.ExtTreeMap.getElem?_eq_some_getElem (serving.cached held)
    have count := serving.holders_of_some cached
    rw [released.entry_self serving.accepts cached, cached, Option.bind_some, if_pos rfl, count]
    by_cases last : s.holding t.sub.typeName = 1
    · simp [last]
    · rw [if_neg (by omega), if_neg (by omega)]
  · have other : (s.tearDown t).registry.entries[typeName]? = s.registry.entries[typeName]? :=
      released.entry_other same
    rw [other, if_neg same]
    cases cached : s.registry.entries[typeName]? with
    | none => rfl
    | some entry =>
        rw [Option.bind_some, if_neg (by omega), ← serving.holders_of_some cached]

theorem Serving.released (serving : Serving s) (sub : Subscription) :
    ((s.registrar.withoutReader sub).release sub.typeName).1 = .ok () :=
  Registrar.release_of_accepted (serving.accounts.agrees.withoutReader sub) serving.accepts _

theorem Serving.destroy_fst (serving : Serving s) {sub : Subscription} (alive : sub ∈ s.live) :
    (s.site.destroy sub).1 = .ok () := by
  rw [Site.destroy_of_released (serving.tagged sub alive) (serving.released sub)]

theorem journal_tearDown (serving : Serving s) (alive : t.sub ∈ s.live) (own : t.Unaltered) :
    (s.tearDown t).site.journal = s.site.journal := by
  have place := at_idxOf alive
  cases tag : t.tag with
  | none =>
      simp only [tearDown, Teardown.action, tag, act, place,
        Site.drop_of_released (serving.released t.sub)]
  | some given =>
      obtain rfl := own given tag
      simp only [tearDown, Teardown.action, tag, act, place,
        Site.destroy_of_released (serving.tagged t.sub alive) (serving.released t.sub)]

theorem Remains.mem_iff {s' : Session} (remains : Remains s s') (typeName : String) :
    typeName ∈ s'.registry.entries ↔ typeName ∈ s.registry.entries ∧
      ¬ (0 < s.holding typeName ∧ s'.holding typeName = 0) := by
  rw [Std.ExtTreeMap.mem_iff_isSome_getElem?, Std.ExtTreeMap.mem_iff_isSome_getElem?, remains]
  cases s.registry.entries[typeName]? with
  | none => simp
  | some entry =>
      rw [Option.bind_some]
      split <;> simp_all

/-- A type is let go with its last live subscription, and with no other one. -/
theorem unregisters_iff (serving : Serving s) (alive : t.sub ∈ s.live) (typeName : String) :
    s.Unregisters t typeName ↔ t.sub.typeName = typeName ∧ s.holding typeName = 1 := by
  rw [Unregisters, serving.accounts.agrees.mem_iff,
    (serving.tearDown alive).accounts.agrees.mem_iff, (remains_tearDown serving alive).mem_iff,
    holding_tearDown alive]
  have present : 0 < s.holding typeName → typeName ∈ s.registry.entries := serving.cached
  by_cases same : t.sub.typeName = typeName
  · simp only [same, if_true, true_and]
    constructor
    · rintro ⟨here, gone⟩
      have last := Classical.not_not.mp fun stays => gone ⟨here, stays⟩
      omega
    · intro last
      exact ⟨present (by omega), fun left => left.2 (by omega)⟩
  · simp only [same, if_false, false_and, iff_false]
    rintro ⟨here, gone⟩
    exact gone ⟨here, by omega⟩

/-! ### Several teardowns -/

/-- Teardowns of subscriptions that are alive, each of another one. -/
structure Among (s : Session) (ts : List Teardown) : Prop where
  apart : (ts.map Teardown.sub).Nodup
  alive : ∀ t ∈ ts, t.sub ∈ s.live

structure After (s : Session) (ts : List Teardown) (s' : Session) : Prop where
  serving : Serving s'
  touches : s' = s.touched s'
  live : s'.live = s.live.filter fun sub => sub ∉ ts.map Teardown.sub
  remains : Remains s s'

theorem Numbered.nodup (numbered : Numbered s) : s.live.Nodup :=
  numbered.apart.imp fun apart same => apart (congrArg (·.reader.guid) same)

theorem Among.tail {ts : List Teardown} (among : Among s (t :: ts)) :
    t.sub ∈ s.live ∧ Among (s.tearDown t) ts := by
  have alive := among.alive t List.mem_cons_self
  obtain ⟨apart, rest⟩ := List.nodup_cons.mp among.apart
  refine ⟨alive, rest, fun other later => ?_⟩
  rw [live_tearDown alive]
  have differs : other.sub ≠ t.sub := fun same => apart (same ▸ List.mem_map_of_mem later)
  exact (List.mem_erase_of_ne differs).mpr (among.alive other (List.mem_cons_of_mem t later))

theorem remains_refl (serving : Serving s) : Remains s s := by
  intro typeName
  cases cached : s.registry.entries[typeName]? with
  | none => rfl
  | some entry => rw [Option.bind_some, if_neg (by omega), ← serving.holders_of_some cached]

theorem Remains.trans {s₁ s₂ : Session} (first : Remains s s₁) (later : Remains s₁ s₂)
    (fewer : ∀ typeName, s₁.holding typeName ≤ s.holding typeName)
    (fewer' : ∀ typeName, s₂.holding typeName ≤ s₁.holding typeName) : Remains s s₂ := by
  intro typeName
  have less := fewer typeName
  have less' := fewer' typeName
  rw [later, first]
  cases s.registry.entries[typeName]? with
  | none => rfl
  | some entry =>
      simp only [Option.bind_some]
      by_cases gone : 0 < s.holding typeName ∧ s₁.holding typeName = 0
      · rw [if_pos gone, if_pos (by omega), Option.bind_none]
      · rw [if_neg gone, Option.bind_some]
        split <;> split <;> first | rfl | omega

theorem touched_trans {s₁ s₂ : Session} (first : s₁ = s.touched s₁)
    (later : s₂ = s₁.touched s₂) : s₂ = s.touched s₂ := by
  rw [first] at later
  exact later

theorem After.holding_le {ts : List Teardown} {s' : Session} (after : After s ts s')
    (typeName : String) : s'.holding typeName ≤ s.holding typeName := by
  rw [holding, holding, after.live]
  exact List.filter_sublist.countP_le

/-- By induction on the teardowns; each is accepted, since the ones before it left the accounts
right. -/
theorem after_tearDownAll {ts : List Teardown} (serving : Serving s) (among : Among s ts) :
    After s ts (s.tearDownAll ts) := by
  induction ts generalizing s with
  | nil =>
      refine ⟨serving, rfl, ?_, remains_refl serving⟩
      exact (List.filter_eq_self.mpr (by simp)).symm
  | cons t ts ih =>
      obtain ⟨alive, rest⟩ := among.tail
      have after := ih (serving.tearDown alive) rest
      refine ⟨after.serving, touched_trans (tearDown_touches serving.accounts alive) after.touches,
        ?_, ?_⟩
      · refine after.live.trans ?_
        rw [live_tearDown alive, serving.numbered.nodup.erase_eq_filter, List.filter_filter]
        refine List.filter_congr fun sub _ => ?_
        rw [List.map_cons, Bool.eq_iff_iff]
        simp [and_comm]
      · refine (remains_tearDown serving alive).trans after.remains (fun typeName => ?_)
          after.holding_le
        rw [holding_tearDown alive]
        split <;> omega

/-- The state is a matter of the subscriptions that are left. -/
theorem After.eq_of_perm {ts ts' : List Teardown} {s₁ s₂ : Session} (first : After s ts s₁)
    (second : After s ts' s₂)
    (perm : (ts'.map Teardown.sub).Perm (ts.map Teardown.sub)) :
    s₂ = { s₁ with site := { s₁.site with journal := s₂.site.journal } } := by
  have live : s₂.live = s₁.live := by
    rw [first.live, second.live]
    exact List.filter_congr fun sub _ => by simp only [perm.mem_iff]
  have registry : s₂.registry = s₁.registry := by
    have entries : s₂.registry.entries = s₁.registry.entries := by
      ext1 typeName
      rw [first.remains, second.remains, holding_congr live]
    exact congrArg TypeRegistry.mk entries
  have types : s₂.transport.types = s₁.transport.types := by
    ext1 typeName
    rw [first.serving.accounts.agrees, second.serving.accounts.agrees]
    exact congrArg (·.lookup typeName) registry
  have attached : s₂.transport.attached = s₁.transport.attached := by
    rw [first.serving.numbered.attached, second.serving.numbered.attached, live]
  have readers : s₂.transport.liveReaders = s₁.transport.liveReaders := by
    rw [first.serving.accounts.readers, second.serving.accounts.readers, live]
  have same : s.touched s₂ = { s.touched s₁ with
      site := { (s.touched s₁).site with journal := s₂.site.journal } } := by
    simp only [touched, registry, types, attached, readers, live]
  rw [← first.touches, ← second.touches] at same
  exact same

theorem Among.append {before after : List Teardown} (serving : Serving s)
    (among : Among s (before ++ after)) :
    Among s before ∧ Among (s.tearDownAll before) after := by
  have apart := among.apart
  rw [List.map_append] at apart
  obtain ⟨first, second, across⟩ := List.nodup_append.mp apart
  have started : Among s before :=
    ⟨first, fun t here => among.alive t (List.mem_append_left _ here)⟩
  refine ⟨started, second, fun t here => ?_⟩
  rw [(after_tearDownAll serving started).live, List.mem_filter, decide_eq_true_eq]
  refine ⟨among.alive t (List.mem_append_right _ here), fun torn => ?_⟩
  exact across _ torn _ (List.mem_map_of_mem here) rfl

theorem journal_tearDownAll {ts : List Teardown} (serving : Serving s) (among : Among s ts)
    (own : ∀ t ∈ ts, t.Unaltered) : (s.tearDownAll ts).site.journal = s.site.journal := by
  induction ts generalizing s with
  | nil => rfl
  | cons t ts ih =>
      obtain ⟨alive, rest⟩ := among.tail
      have later := ih (serving.tearDown alive) rest
        fun other here => own other (List.mem_cons_of_mem t here)
      exact later.trans (journal_tearDown serving alive (own t List.mem_cons_self))

/-- A type that was held and is held no more went once. -/
theorem unregistrations_eq {ts : List Teardown} (serving : Serving s) (among : Among s ts)
    (typeName : String) :
    s.unregistrations typeName ts =
      if 0 < s.holding typeName ∧ (s.tearDownAll ts).holding typeName = 0 then 1 else 0 := by
  induction ts generalizing s with
  | nil =>
      have kept : ¬ (0 < s.holding typeName ∧ (s.tearDownAll []).holding typeName = 0) := by
        simp only [tearDownAll, List.foldl_nil]
        omega
      rw [if_neg kept, unregistrations]
  | cons t ts ih =>
      obtain ⟨alive, rest⟩ := among.tail
      have later := serving.tearDown alive
      have fewer := (after_tearDownAll later rest).holding_le typeName
      have end_ : s.tearDownAll (t :: ts) = (s.tearDown t).tearDownAll ts := rfl
      rw [unregistrations, ih later rest, end_]
      simp only [unregisters_iff serving alive, holding_tearDown alive] at fewer ⊢
      -- after its last holder a type has none, and only the last one lets it go
      by_cases same : t.sub.typeName = typeName
      · by_cases last : s.holding typeName = 1
        · simp_all
        · have held : 0 < s.holding typeName := same ▸ holding_pos alive
          have more : 0 < s.holding typeName - 1 := by omega
          simp only [same, last, held, more, if_true, and_false, if_false, Nat.zero_add]
      · simp only [same, if_false, false_and, Nat.zero_add]

/-- The state afterwards is that of the types that still have live subscriptions, and this does not
depend on the order. -/
theorem orderFree_of_serving {ts : List Teardown} (serving : Serving s) (among : Among s ts) :
    OrderFree s ts := by
  have after := after_tearDownAll serving among
  refine ⟨fun ts' perm => ?_, journal_tearDownAll serving among, ?_, ?_,
    unregistrations_eq serving among, ?_⟩
  · have among' : Among s ts' := by
      refine ⟨(perm.nodup_iff).mpr among.apart, fun t here => ?_⟩
      obtain ⟨other, there, same⟩ :=
        List.mem_map.mp (perm.mem_iff.mp (List.mem_map_of_mem here))
      exact same ▸ among.alive other there
    exact after.eq_of_perm (after_tearDownAll serving among') perm
  · rintro before t rest rfl
    obtain ⟨first, later⟩ := among.append serving
    exact (after_tearDownAll serving first).serving.destroy_fst
      (later.alive t List.mem_cons_self)
  · rintro before t rest rfl typeName
    obtain ⟨first, later⟩ := among.append serving
    exact unregisters_iff (after_tearDownAll serving first).serving
      (later.alive t List.mem_cons_self) typeName
  · intro all
    have none : (s.tearDownAll ts).live = [] := by
      rw [after.live, List.filter_eq_nil_iff]
      intro sub alive
      simpa using all sub alive
    refine ⟨?_, ?_, fun typeName => ?_⟩
    · rw [after.serving.accounts.readers, none, List.length_nil]
    · rw [after.serving.numbered.attached, none, List.filterMap_nil]
    · rw [after.serving.accounts.agrees.mem_iff, after.remains.mem_iff,
        serving.accounts.agrees.mem_iff, serving.accounts.covered serving.isOpen]
      have gone : (s.tearDownAll ts).holding typeName = 0 := by rw [holding, none]; rfl
      simp only [gone, and_true, Nat.pos_iff_ne_zero, Classical.not_not]

/-- Giving back a handle does to types and readers what dropping it does, whatever its tag. While
the transport accepts it, subscriptions may be torn down in any order and in either way: each type
goes just once, with the last of its subscriptions, and the same is left. -/
theorem teardowns_order_free (settings : Settings) (number : Nat) (actions : List Action)
    (few : ((fresh settings number).run actions).transport.createdReaders < Guid.readerRange) :
    let s := (fresh settings number).run actions
    (∀ sub ∈ s.live, ∀ implementation,
      (s.site.destroy { sub with implementation := implementation }).2.registrar =
        (s.site.drop sub).registrar) ∧
      (.shutdown ∉ actions → s.transport.faults.unregisterType = false →
        ∀ ts : List Teardown, (ts.map Teardown.sub).Nodup → (∀ t ∈ ts, t.sub ∈ s.live) →
          OrderFree s ts) := by
  intro s
  refine ⟨fun sub _ implementation => ?_, fun never accepts ts apart alive => ?_⟩
  · obtain ⟨_, destroyed⟩ := s.site.destroy_snd sub implementation
    rw [destroyed]
    rfl
  · have serving : Serving s := ⟨accounts_of_run settings number actions,
      numbered_run (accounts_fresh settings number) (numbered_fresh settings number) actions few,
      tagged_of_run settings number actions, few, isOpen_run never, accepts⟩
    exact orderFree_of_serving serving ⟨apart, alive⟩

/-- Two holders of a type beside another type that was left over without any. -/
theorem teardowns_order_free_left_over :
    let pose : Subscription.Request := { stringRequest "pose" with
      offered := [⟨TypeSupport.conventionC, ⟨"geometry_msgs::msg", "Pose", 256⟩⟩] }
    let actions : List Action := [.create (stringRequest "chatter"), .create pose,
      .create (stringRequest "chatter"), .switch { unregisterType := true }, .drop 1,
      .switch {}]
    let s := (fresh {} 1).run actions
    let ts : List Teardown := s.live.reverse.map fun sub => ⟨sub, some implementationTag⟩
    let ts' : List Teardown := s.live.map fun sub => ⟨sub, none⟩
    s.transport.createdReaders < Guid.readerRange ∧ .shutdown ∉ actions ∧
      s.transport.faults.unregisterType = false ∧ (ts.map Teardown.sub).Nodup ∧
      (∀ t ∈ ts, t.sub ∈ s.live) ∧ s.live.length = 2 ∧
      s.tearDownAll ts' = s.tearDownAll ts ∧
      s.unregistrations "std_msgs::msg::dds_::String_" ts = 1 ∧
      (s.tearDownAll ts).transport.attached = [] ∧
      "geometry_msgs::msg::dds_::Pose_" ∈ (s.tearDownAll ts).transport.types := by
  intro pose actions s ts ts'
  have few : s.transport.createdReaders < Guid.readerRange := by decide +kernel
  have never : .shutdown ∉ actions := by simp [actions]
  have accepts : s.transport.faults.unregisterType = false := by decide +kernel
  have apart : (ts.map Teardown.sub).Nodup := by decide +kernel
  have alive : ∀ t ∈ ts, t.sub ∈ s.live := by simp [ts]
  have alive' : ∀ t ∈ ts', t.sub ∈ s.live := by simp [ts']
  have free : ∀ ts : List Teardown, (ts.map Teardown.sub).Nodup → (∀ t ∈ ts, t.sub ∈ s.live) →
      OrderFree s ts := (teardowns_order_free {} 1 actions few).2 never accepts
  obtain ⟨same, quiet, _, _, once, bare⟩ := free ts apart alive
  have perm : (ts'.map Teardown.sub).Perm (ts.map Teardown.sub) := by
    simp [ts, ts', Function.comp_def, s.live.reverse_perm.symm]
  have quiet' := (free ts' (perm.nodup_iff.mpr apart) alive').quiet
    (by simp [ts', Teardown.Unaltered])
  have own : ∀ t ∈ ts, t.Unaltered := by
    have tagged : ∀ sub ∈ s.live, sub.implementation = implementationTag := by decide +kernel
    intro t here tag given
    obtain ⟨sub, torn, rfl⟩ := List.mem_map.mp here
    obtain rfl := Option.mem_some_iff.mp given
    exact (tagged sub (List.mem_reverse.mp torn)).symm
  obtain ⟨_, attached, types⟩ := bare (by simp [ts])
  have order : s.tearDownAll ts' = s.tearDownAll ts := by
    rw [same ts' perm, quiet', ← quiet own]
  have alone : s.unregistrations "std_msgs::msg::dds_::String_" ts = 1 := by
    rw [once, if_pos (by decide +kernel)]
  have leftOver : "geometry_msgs::msg::dds_::Pose_" ∈ (s.tearDownAll ts).transport.types := by
    rw [types]
    decide +kernel
  have two : s.live.length = 2 := by decide +kernel
  exact ⟨few, never, accepts, apart, alive, two, order, alone, attached, leftOver⟩

end Session

end RosMiddleware
