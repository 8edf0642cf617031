import RosMiddleware.Proofs.CreationRollback

/-!
The samples that the listeners of a session hear of. A place in the list of listeners is
used by one subscription only, also after that has gone, and while the identities of
readers do not repeat a sample arrives once at the listener of each live subscription on
its topic. So what is unread at a listener is what arrived while its subscription was
alive, less what was taken.
-/
namespace RosMiddleware

open Transport (Guid)

namespace Listeners

theorem find_setIfInBounds (ls : Listeners) (l other : ListenerId) (listener : Listener) :
    find (ls.setIfInBounds l listener) other =
      if l = other ∧ l < ls.size then listener else find ls other := by
  simp only [find, Array.getD_eq_getD_getElem?, Array.getElem?_setIfInBounds]
  by_cases same : l = other
  · subst same
    by_cases inBounds : l < ls.size <;> simp [inBounds]
  · simp [same]

/-- Without a callback a sample only counts. -/
theorem arrive_of_silent {listener : Listener} (silent : listener.callback = none) :
    listener.arrive =
      ({ listener with unread := listener.unread + 1, unnotified := listener.unnotified + 1 },
        none) := by
  simp only [Listener.arrive, silent]

theorem change_arrive {ls : Listeners} {l : ListenerId} (silent : (find ls l).callback = none) :
    (ls.change l Listener.arrive).1 = ls.setIfInBounds l (find ls l).arrive.1 := by
  simp only [change, arrive_of_silent silent, Listener.settle]

/-- Each target hears of the sample once, and nobody else does. -/
theorem find_arriveAt {targets : List ListenerId} {ls : Listeners} (once : targets.Nodup)
    (inBounds : ∀ l ∈ targets, l < ls.size) (silent : ∀ l, (find ls l).callback = none)
    (l : ListenerId) :
    find (arriveAt targets ls).1 l =
      if l ∈ targets then (find ls l).arrive.1 else find ls l := by
  induction targets generalizing ls with
  | nil => rfl
  | cons target targets ih =>
      obtain ⟨fresh, once⟩ := List.nodup_cons.mp once
      have room := inBounds target List.mem_cons_self
      have changed := change_arrive (silent target)
      have found := find_setIfInBounds ls target l (find ls target).arrive.1
      simp only [arriveAt]
      rw [changed, ih once]
      · by_cases same : target = l
        · subst same
          simp [found, room, fresh]
        · simp [found, same, Ne.symm same]
      · intro other later
        rw [Array.size_setIfInBounds]
        exact inBounds other (List.mem_cons_of_mem _ later)
      · intro other
        rw [find_setIfInBounds]
        split
        · rw [arrive_of_silent (silent target)]
          exact silent target
        · exact silent other

theorem size_arriveAt (targets : List ListenerId) (ls : Listeners) :
    (arriveAt targets ls).1.size = ls.size := by
  induction targets generalizing ls with
  | nil => rfl
  | cons target targets ih =>
      simp only [arriveAt]
      rw [ih]
      exact Array.size_setIfInBounds

theorem size_matchAt (change : Int32) (targets : List ListenerId) (ls : Listeners) :
    (matchAt change targets ls).size = ls.size := by
  induction targets generalizing ls with
  | nil => rfl
  | cons target targets ih =>
      simp only [matchAt]
      rw [ih]
      exact Array.size_setIfInBounds

/-- At the targets the count of publishers changes, elsewhere nothing. -/
theorem find_matchAt (change : Int32) (targets : List ListenerId) (ls : Listeners)
    (l : ListenerId) :
    ∃ matched, find (matchAt change targets ls) l = { find ls l with matched := matched } ∧
      (l ∉ targets → matched = (find ls l).matched) := by
  induction targets generalizing ls with
  | nil => exact ⟨_, rfl, fun _ => rfl⟩
  | cons target targets ih =>
      simp only [matchAt]
      obtain ⟨matched, found, others⟩ := ih (ls.change target fun listener =>
        (listener.matchPublishers change, none)).1
      have changed := find_setIfInBounds ls target l ((find ls target).matchPublishers change)
      refine ⟨matched, ?_, ?_⟩
      · rw [found]
        simp only [Listeners.change, Listener.settle, changed]
        split
        · rename_i same
          rw [← same.1]
          rfl
        · rfl
      · intro elsewhere
        rw [List.mem_cons, not_or] at elsewhere
        rw [others elsewhere.2]
        simp only [Listeners.change, Listener.settle, changed]
        rw [if_neg fun same => elsewhere.1 same.1.symm]

end Listeners

namespace Session

def places (s : Session) : List ListenerId := s.live.filterMap (·.listener)

/-- A sample on the topic of a live subscription that has the listener. -/
def hears (l : ListenerId) (s : Session) : Action → Bool
  | .deliver topic => s.live.any fun sub => sub.listener == some l && sub.ddsTopicName == topic
  | _ => false

def Action.takesFrom (l : ListenerId) : Action → Bool
  | .take other => other == l
  | _ => false

def takes (l : ListenerId) (s : Session) (a : Action) : Bool :=
  a.takesFrom l && (Listeners.find s.site.listeners l).takeOne.1

def times (happens : Session → Action → Bool) : Session → List Action → Nat
  | _, [] => 0
  | s, a :: actions => (if happens s a then 1 else 0) + times happens (s.act a) actions

/-- Signals and taking change listeners, but nothing else does. -/
def Action.Silent : Action → Prop
  | .deliver _ | .matchPublishers _ _ | .take _ => False
  | _ => True

/-- At most one subscription joins the live ones, with a new place for its listener. -/
structure Regrouped (s s' : Session) : Prop where
  room : s.site.listeners.size ≤ s'.site.listeners.size
  live : s'.live.Sublist s.live ∨ ∃ sub, s'.live = s.live ++ [sub] ∧
    ∀ l, sub.listener = some l → l = s.site.listeners.size ∧ l < s'.site.listeners.size

/-- No place is shared, and nothing is called back. -/
structure Placed (s : Session) : Prop where
  once : s.places.Nodup
  inBounds : ∀ l ∈ s.places, l < s.site.listeners.size
  silent : ∀ l, (Listeners.find s.site.listeners l).callback = none

/-- Only some subscriptions ever have the listener at the place. -/
structure Reserved (s : Session) (l : ListenerId) (p : Subscription → Prop) : Prop where
  inBounds : l < s.site.listeners.size
  live : ∀ sub ∈ s.live, sub.listener = some l → p sub

variable {s s' : Session} {a : Action} {l : ListenerId}

/-! ### Places -/

private theorem regrouped_of_same (listeners : s'.site.listeners = s.site.listeners)
    (live : s'.live.Sublist s.live) : Regrouped s s' :=
  ⟨Nat.le_of_eq (congrArg Array.size listeners).symm, .inl live⟩

private theorem regrouped_of_tornDown {place : Nat} (tornDown : TornDown s place s') :
    Regrouped s s' :=
  regrouped_of_same tornDown.listeners tornDown.live

private theorem regrouped_create (s : Session) (r : Subscription.Request) :
    Regrouped s (s.act (.create r)) := by
  rcases s.site.create_cases r with ⟨e, journal, left⟩ |
    ⟨support, outcome, registrar, events, journal, checked, established, left⟩
  · simp only [act, left]
    exact regrouped_of_same rfl (List.Sublist.refl _)
  · have room : s.site.listeners.size ≤
        (if r.wantsListener then s.site.listeners.push {} else s.site.listeners).size := by
      split <;> simp
    cases outcome with
    | error e =>
        simp only [act, left]
        exact ⟨room, .inl (List.Sublist.refl _)⟩
    | ok sub =>
        simp only [act, left]
        refine ⟨room, .inr ⟨sub, rfl, ?_⟩⟩
        intro l has
        rw [(Registrar.establish_fulfilled established).listener] at has
        cases wants : r.wantsListener with
        | true =>
            simp only [wants, if_true, Option.some.injEq] at has ⊢
            simp [← has]
        | false => simp [wants] at has

theorem regrouped_act (s : Session) (a : Action) : Regrouped s (s.act a) := by
  cases a with
  | create r => exact regrouped_create s r
  | drop place => exact regrouped_of_tornDown (tornDown_drop s place)
  | destroy place implementation =>
      exact regrouped_of_tornDown (tornDown_destroy s place implementation)
  | shutdown => exact regrouped_of_same s.site.listeners_shutdown (List.Sublist.refl _)
  | switch _ | configure _ => exact regrouped_of_same rfl (List.Sublist.refl _)
  | deliver topic =>
      have size := Listeners.size_arriveAt (s.transport.listenersOn topic) s.site.listeners
      exact ⟨Nat.le_of_eq size.symm, .inl (List.Sublist.refl _)⟩
  | matchPublishers topic change =>
      have size :=
        Listeners.size_matchAt change (s.transport.listenersOn topic) s.site.listeners
      exact ⟨Nat.le_of_eq size.symm, .inl (List.Sublist.refl _)⟩
  | take l => exact ⟨Nat.le_of_eq Array.size_setIfInBounds.symm, .inl (List.Sublist.refl _)⟩

theorem reserved_run {p : Subscription → Prop} (reserved : Reserved s l p)
    (actions : List Action) : Reserved (s.run actions) l p := by
  induction actions generalizing s with
  | nil => exact reserved
  | cons a actions ih =>
      have regrouped := regrouped_act s a
      refine ih ⟨Nat.lt_of_lt_of_le reserved.inBounds regrouped.room, ?_⟩
      intro sub alive has
      rcases regrouped.live with fewer | ⟨new, more, atEnd⟩
      · exact reserved.live sub (fewer.subset alive) has
      · rw [more, List.mem_append, List.mem_singleton] at alive
        rcases alive with alive | rfl
        · exact reserved.live sub alive has
        · exact absurd (atEnd l has).1 (Nat.ne_of_lt reserved.inBounds)

theorem Placed.reserved (placed : Placed s) {sub : Subscription} (alive : sub ∈ s.live)
    (has : sub.listener = some l) : Reserved s l (· = sub) where
  inBounds := placed.inBounds l (List.mem_filterMap.mpr ⟨sub, alive, has⟩)
  live := by
    intro other lives same
    obtain ⟨before, after, split⟩ := List.append_of_mem alive
    have once := placed.once
    rw [places, split, List.filterMap_append, List.filterMap_cons_some has,
      List.perm_middle.nodup_iff, List.nodup_cons, ← List.filterMap_append] at once
    rw [split, List.mem_append, List.mem_cons, or_left_comm, ← List.mem_append] at lives
    refine lives.resolve_right fun elsewhere => ?_
    exact once.1 (List.mem_filterMap.mpr ⟨other, elsewhere, same⟩)

/-! ### Signals -/

theorem listenersOn_eq
    (attached : s.transport.attached = s.live.filterMap Subscription.attachment?)
    (topic : String) :
    s.transport.listenersOn topic =
      (s.live.filter (·.ddsTopicName == topic)).filterMap (·.listener) := by
  rw [Transport.listenersOn, attached]
  generalize s.live = live
  induction live with
  | nil => rfl
  | cons sub live ih =>
      cases has : sub.listener <;> by_cases same : sub.ddsTopicName = topic <;>
        simp [Subscription.attachment?, has, same, ih]

structure Audible (s : Session) : Prop where
  accounts : Accounts s
  numbered : Numbered s
  placed : Placed s

theorem audible_fresh (settings : Settings) (number : Nat) :
    Audible (fresh settings number) where
  accounts := accounts_fresh settings number
  numbered := numbered_fresh settings number
  placed := ⟨.nil, by simp [fresh, places], fun _ => rfl⟩

theorem Audible.mem_listenersOn (audible : Audible s) {topic : String} :
    l ∈ s.transport.listenersOn topic ↔ hears l s (.deliver topic) = true := by
  rw [listenersOn_eq audible.numbered.attached]
  simp only [List.mem_filterMap, List.mem_filter, beq_iff_eq, hears, List.any_eq_true,
    Bool.and_eq_true, and_assoc]
  exact exists_congr fun _ => and_congr_right fun _ => and_comm

theorem Audible.length_listenersOn (audible : Audible s) (topic : String) :
    (s.transport.listenersOn topic).length =
      s.live.countP fun sub => sub.listener.isSome && sub.ddsTopicName == topic := by
  rw [listenersOn_eq audible.numbered.attached, List.length_filterMap_eq_countP,
    List.countP_filter]

theorem Audible.find_deliver (audible : Audible s) (topic : String) (l : ListenerId) :
    Listeners.find (s.act (.deliver topic)).site.listeners l =
      if hears l s (.deliver topic) then (Listeners.find s.site.listeners l).arrive.1
      else Listeners.find s.site.listeners l := by
  have placed := audible.placed
  have targets : (s.transport.listenersOn topic).Sublist s.places := by
    rw [listenersOn_eq audible.numbered.attached]
    exact List.filter_sublist.filterMap _
  have found := Listeners.find_arriveAt (placed.once.sublist targets)
    (fun target heard => placed.inBounds target (targets.subset heard)) placed.silent l
  simp only [audible.mem_listenersOn] at found
  exact found

theorem find_take (s : Session) (l other : ListenerId) :
    Listeners.find (s.act (.take other)).site.listeners l =
      if (Action.take other).takesFrom l then (Listeners.find s.site.listeners l).takeOne.2
      else Listeners.find s.site.listeners l := by
  have found := Listeners.find_setIfInBounds s.site.listeners other l
    (Listeners.find s.site.listeners other).takeOne.2
  refine Eq.trans found ?_
  by_cases same : other = l
  · subst same
    by_cases inBounds : other < s.site.listeners.size
    · simp [Action.takesFrom, inBounds]
    · have unused : Listeners.find s.site.listeners other = {} := by
        simp [Listeners.find, inBounds]
      simp [Action.takesFrom, inBounds, unused, Listener.takeOne]
  · simp [Action.takesFrom, same]

theorem find_act_of_silent (silent : a.Silent) (l : ListenerId) :
    Listeners.find (s.act a).site.listeners l = Listeners.find s.site.listeners l := by
  cases a with
  | create r =>
      rcases s.site.create_cases r with ⟨_, _, left⟩ | ⟨_, outcome, _, _, _, _, _, left⟩
      · simp only [act, left]
      · have pushed : Listeners.find
            (if r.wantsListener then s.site.listeners.push {} else s.site.listeners) l =
              Listeners.find s.site.listeners l := by
          split
          · exact Listeners.find_push s.site.listeners l
          · rfl
        cases outcome <;> simp only [act, left] <;> exact pushed
  | drop place => rw [(tornDown_drop s place).listeners]
  | destroy place implementation => rw [(tornDown_destroy s place implementation).listeners]
  | shutdown => exact congrArg (Listeners.find · l) s.site.listeners_shutdown
  | switch _ | configure _ => rfl
  | deliver _ | matchPublishers _ _ | take _ => exact silent.elim

/-! ### Steps and runs -/

private theorem silent_act (audible : Audible s) (a : Action) (l : ListenerId) :
    (Listeners.find (s.act a).site.listeners l).callback = none := by
  have silent := audible.placed.silent l
  cases a with
  | deliver topic =>
      rw [audible.find_deliver]
      split
      · rw [Listeners.arrive_of_silent silent]
        exact silent
      · exact silent
  | matchPublishers topic change =>
      obtain ⟨_, found, _⟩ := Listeners.find_matchAt change (s.transport.listenersOn topic)
        s.site.listeners l
      exact (congrArg Listener.callback found).trans silent
  | take other =>
      rw [find_take]
      split
      · rw [Listener.takeOne]
        split <;> exact silent
      · exact silent
  | create _ | drop _ | destroy _ _ | shutdown | switch _ | configure _ =>
      refine (congrArg Listener.callback (find_act_of_silent ?_ l)).trans silent
      trivial

/-- A new listener has a place that no other one ever had. -/
theorem placed_act (audible : Audible s) (a : Action) : Placed (s.act a) := by
  have placed := audible.placed
  have regrouped := regrouped_act s a
  have silent := silent_act audible a
  rcases regrouped.live with fewer | ⟨sub, more, new⟩
  · have places : (s.act a).places.Sublist s.places := fewer.filterMap _
    refine ⟨placed.once.sublist places, ?_, silent⟩
    intro l has
    exact Nat.lt_of_lt_of_le (placed.inBounds l (places.subset has)) regrouped.room
  · have places : (s.act a).places = s.places ++ sub.listener.toList := by
      rw [Session.places, more, List.filterMap_append]
      cases has : sub.listener <;> simp [has, Session.places]
    refine ⟨?_, ?_, silent⟩
    · rw [places, List.nodup_append]
      refine ⟨placed.once, by cases sub.listener <;> simp, ?_⟩
      intro l old other has same
      have atEnd := (new other (Option.mem_toList.mp has)).1
      have within := placed.inBounds l old
      rw [same, atEnd] at within
      exact Nat.lt_irrefl _ within
    · intro l has
      rw [places, List.mem_append, Option.mem_toList] at has
      rcases has with old | has
      · exact Nat.lt_of_lt_of_le (placed.inBounds l old) regrouped.room
      · exact (new l has).2

/-- The bound at the end of a run bounds every state on the way. -/
theorem Audible.act (audible : Audible s) {a : Action} {actions : List Action}
    (few : (s.run (a :: actions)).transport.createdReaders < Guid.readerRange) :
    Audible (s.act a) := by
  have step := audible.accounts.step a
  have accounts := accounts_step audible.accounts step
  have fewer := Nat.lt_of_le_of_lt (created_le_run accounts actions) few
  exact ⟨accounts, numbered_step audible.numbered step fewer, placed_act audible a⟩

theorem audible_run (audible : Audible s) (actions : List Action)
    (few : (s.run actions).transport.createdReaders < Guid.readerRange) :
    Audible (s.run actions) := by
  induction actions generalizing s with
  | nil => exact audible
  | cons a actions ih => exact ih (audible.act few) few

/-- A step adds at most one sample to the unread ones, or takes one of them. -/
theorem unread_act (audible : Audible s) (a : Action) (l : ListenerId) :
    (Listeners.find (s.act a).site.listeners l).unread + (if takes l s a then 1 else 0) =
      (Listeners.find s.site.listeners l).unread + (if hears l s a then 1 else 0) := by
  cases a with
  | deliver topic =>
      rw [audible.find_deliver]
      cases heard : hears l s (.deliver topic) with
      | true =>
          simp only [if_true, Listeners.arrive_of_silent (audible.placed.silent l)]
          rfl
      | false => rfl
  | matchPublishers topic change =>
      obtain ⟨_, found, _⟩ := Listeners.find_matchAt change (s.transport.listenersOn topic)
        s.site.listeners l
      have unread := congrArg Listener.unread found
      simp only [takes, Action.takesFrom, hears, Bool.false_and, Bool.false_eq_true, if_false,
        Nat.add_zero]
      exact unread
  | take other =>
      rw [find_take]
      by_cases same : other = l
      · subst same
        by_cases empty : (Listeners.find s.site.listeners other).unread = 0
        · simp [takes, hears, Action.takesFrom, Listener.takeOne, empty]
        · simp only [takes, hears, Action.takesFrom, Listener.takeOne, empty, beq_self_eq_true,
            if_true, if_false, Bool.true_and, Bool.false_eq_true]
          omega
      · simp [takes, hears, Action.takesFrom, same]
  | create _ | drop _ | destroy _ _ | shutdown | switch _ | configure _ =>
      simp only [takes, Action.takesFrom, hears, Bool.false_and, Bool.false_eq_true, if_false,
        Nat.add_zero]
      refine congrArg Listener.unread (find_act_of_silent ?_ l)
      trivial

theorem unread_run (audible : Audible s) (actions : List Action)
    (few : (s.run actions).transport.createdReaders < Guid.readerRange) (l : ListenerId) :
    (Listeners.find (s.run actions).site.listeners l).unread + s.times (takes l) actions =
      (Listeners.find s.site.listeners l).unread + s.times (hears l) actions := by
  induction actions generalizing s with
  | nil => rfl
  | cons a actions ih =>
      have rest := ih (audible.act few) few
      have step := unread_act audible a l
      rw [run_cons, times, times]
      omega

/-- Nobody signals a listener that no live subscription has. -/
theorem find_act_of_vacant (audible : Audible s) (vacant : Reserved s l fun _ => False)
    (a : Action) :
    Listeners.find (s.act a).site.listeners l =
      if a.takesFrom l then (Listeners.find s.site.listeners l).takeOne.2
      else Listeners.find s.site.listeners l := by
  have unheard (topic : String) : hears l s (.deliver topic) = false := by
    simp only [hears, List.any_eq_false, Bool.and_eq_true, beq_iff_eq]
    intro sub alive has
    exact vacant.live sub alive has.1
  cases a with
  | deliver topic =>
      rw [audible.find_deliver, unheard]
      rfl
  | matchPublishers topic change =>
      obtain ⟨matched, found, same⟩ := Listeners.find_matchAt change
        (s.transport.listenersOn topic) s.site.listeners l
      have elsewhere : l ∉ s.transport.listenersOn topic := by
        rw [audible.mem_listenersOn, unheard]
        exact Bool.false_ne_true
      rw [same elsewhere] at found
      exact found
  | take other => exact find_take s l other
  | create _ | drop _ | destroy _ _ | shutdown | switch _ | configure _ =>
      refine find_act_of_silent ?_ l
      trivial

theorem find_run_of_vacant (audible : Audible s) (vacant : Reserved s l fun _ => False)
    (actions : List Action)
    (few : (s.run actions).transport.createdReaders < Guid.readerRange) :
    Listeners.find (s.run actions).site.listeners l =
      (Listeners.find s.site.listeners l).takeMany (actions.countP (·.takesFrom l)) := by
  induction actions generalizing s with
  | nil => rfl
  | cons a actions ih =>
      have rest := ih (audible.act few) (reserved_run vacant [a]) few
      rw [run_cons, rest, find_act_of_vacant audible vacant, List.countP_cons]
      cases a.takesFrom l <;> rfl

theorem audible_prefix (audible : Audible s) (before after : List Action)
    (few : (s.run (before ++ after)).transport.createdReaders < Guid.readerRange) :
    Audible (s.run before) := by
  rw [run_append] at few
  have accounts := accounts_run audible.accounts before
  exact audible_run audible before (Nat.lt_of_le_of_lt (created_le_run accounts after) few)

/-- Each sample arrives once at the listeners of the live subscriptions on its topic and at
no others, and what is unread at a listener is what arrived and was not taken. A listener
belongs to one subscription for good, and after that is gone it is only taken from. -/
theorem sample_counts (settings : Settings) (number : Nat) (actions : List Action)
    (few : ((fresh settings number).run actions).transport.createdReaders < Guid.readerRange) :
    let s := (fresh settings number).run actions
    let find (s : Session) (l : ListenerId) := Listeners.find s.site.listeners l
    (∀ topic, (s.transport.deliver topic s.site.listeners).1 =
        s.live.countP fun sub => sub.listener.isSome && sub.ddsTopicName == topic) ∧
      (∀ topic l, find (s.act (.deliver topic)) l =
        if ∃ sub ∈ s.live, sub.listener = some l ∧ sub.ddsTopicName = topic then
          { find s l with
            unread := (find s l).unread + 1, unnotified := (find s l).unnotified + 1 }
        else find s l) ∧
      (∀ l, (find s l).unread + (fresh settings number).times (takes l) actions =
        (fresh settings number).times (hears l) actions) ∧
      ∀ before after, actions = before ++ after →
        let s₁ := (fresh settings number).run before
        ∀ sub ∈ s₁.live, ∀ l, sub.listener = some l →
          (∀ other ∈ s.live, other.listener = some l → other = sub) ∧
            ∀ between later, after = between ++ later → sub ∉ (s₁.run between).live →
              find s l =
                (find (s₁.run between) l).takeMany (later.countP (·.takesFrom l)) := by
  intro s find
  have start := audible_fresh settings number
  have audible : Audible s := audible_run start actions few
  refine ⟨audible.length_listenersOn, ?_, ?_, ?_⟩
  · intro topic l
    refine (audible.find_deliver topic l).trans ?_
    rw [Listeners.arrive_of_silent (audible.placed.silent l)]
    simp only [hears, List.any_eq_true, Bool.and_eq_true, beq_iff_eq]
    rfl
  · intro l
    have counted := unread_run start actions few l
    rw [show (Listeners.find (fresh settings number).site.listeners l).unread = 0 from rfl,
      Nat.zero_add] at counted
    exact counted
  · intro before after split s₁ sub alive l has
    subst split
    have audible₁ : Audible s₁ := audible_prefix start before after few
    have reserved := audible₁.placed.reserved alive has
    rw [run_append] at few
    rw [show s = s₁.run after from run_append _ _ _]
    refine ⟨(reserved_run reserved after).live, ?_⟩
    intro between later split gone
    subst split
    have audible₂ := audible_prefix audible₁ between later few
    have kept := reserved_run reserved between
    have vacant : Reserved (s₁.run between) l fun _ => False := by
      refine ⟨kept.inBounds, ?_⟩
      intro other lives same
      exact gone (kept.live other lives same ▸ lives)
    rw [run_append] at few ⊢
    exact find_run_of_vacant audible₂ vacant later few

/-- The first listener outlives its subscription: the sample that it got before is taken, and it
misses the second. -/
theorem sample_counts_kept_listener :
    let create := .create (stringRequest "chatter")
    let actions := [create, .switch { unknownGuid := true }, create, .switch {}, create,
      .deliver "rt/chatter", .drop 0, .deliver "rt/chatter", .take 0, .take 0]
    let s := (fresh {} 1).run actions
    s.transport.createdReaders < Guid.readerRange ∧
      (s.transport.deliver "rt/chatter" s.site.listeners).1 = 1 ∧
      (fresh {} 1).times (hears 2) actions = 2 ∧
      (Listeners.find s.site.listeners 2).unread = 2 ∧
      (fresh {} 1).times (hears 0) actions = 1 ∧
      (Listeners.find s.site.listeners 0).unread = 0 := by
  intro create actions s
  have few : s.transport.createdReaders < Guid.readerRange := by decide +kernel
  have counts : (∀ topic, (s.transport.deliver topic s.site.listeners).1 =
      s.live.countP fun sub => sub.listener.isSome && sub.ddsTopicName == topic) ∧ _ ∧
    (∀ l, (Listeners.find s.site.listeners l).unread + (fresh {} 1).times (takes l) actions =
      (fresh {} 1).times (hears l) actions) ∧ _ := sample_counts {} 1 actions few
  obtain ⟨delivered, _, counted, _⟩ := counts
  have alive : (s.live.countP fun sub =>
      sub.listener.isSome && sub.ddsTopicName == "rt/chatter") = 1 := by decide +kernel
  have heard : (fresh {} 1).times (hears 2) actions = 2 := by decide +kernel
  have untaken : (fresh {} 1).times (takes 2) actions = 0 := by decide +kernel
  have heardOnce : (fresh {} 1).times (hears 0) actions = 1 := by decide +kernel
  have taken : (fresh {} 1).times (takes 0) actions = 1 := by decide +kernel
  have kept := counted 2
  have left := counted 0
  rw [heard, untaken, Nat.add_zero] at kept
  rw [heardOnce, taken, Nat.add_eq_right] at left
  exact ⟨few, (delivered "rt/chatter").trans alive, heard, kept, heardOnce, left⟩

end Session

end RosMiddleware
