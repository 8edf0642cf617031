import RosMiddleware.Proofs.SessionAccounts

/-!
What a shutdown leaves behind. Only the first call works on the types; when it is refused,
they stay, and every later call succeeds without a further attempt. A type that stayed can
then go only with its last live subscription, so whether a call that succeeded leaves
anything behind is a matter of the subscriptions that were torn down in between.
-/
namespace RosMiddleware

namespace Session

/-- The last live subscription of the type is torn down while the transport accepts that
types are unregistered. -/
def LetsGo (s : Session) (typeName : String) (a : Action) : Prop :=
  0 < s.holding typeName ∧ (s.act a).holding typeName = 0 ∧
    s.transport.faults.unregisterType = false

def LetGo (s : Session) (typeName : String) (actions : List Action) : Prop :=
  ∃ before a after, actions = before ++ a :: after ∧ LetsGo (s.run before) typeName a

theorem not_letGo_nil (s : Session) (typeName : String) : ¬ LetGo s typeName [] := by
  rintro ⟨before, a, after, split, _⟩
  simp at split

theorem letGo_cons {s : Session} {typeName : String} {a : Action} {actions : List Action} :
    LetGo s typeName (a :: actions) ↔
      LetsGo s typeName a ∨ LetGo (s.act a) typeName actions := by
  constructor
  · rintro ⟨before, b, after, split, goes⟩
    cases before with
    | nil =>
        cases split
        exact .inl goes
    | cons c before =>
        cases split
        exact .inr ⟨before, b, after, rfl, goes⟩
  · rintro (goes | ⟨before, b, after, rfl, goes⟩)
    · exact ⟨[], a, actions, rfl, goes⟩
    · exact ⟨a :: before, b, after, rfl, goes⟩

theorem closed_run {s : Session} (accounts : Accounts s) (closed : s.isOpen = false)
    (actions : List Action) : (s.run actions).isOpen = false := by
  induction actions generalizing s with
  | nil => exact closed
  | cons a actions ih =>
      have step := accounts.step a
      exact ih (accounts_step accounts step) (closed_step closed step)

/-- After the shutdown a cached type stays unless it is let go. -/
theorem mem_act_of_closed {s : Session} (accounts : Accounts s) (closed : s.isOpen = false)
    (a : Action) (typeName : String) :
    typeName ∈ (s.act a).registry.entries ↔
      typeName ∈ s.registry.entries ∧ ¬ LetsGo s typeName a := by
  cases accounts.step a with
  | idle registry _ _ live _ =>
      have same := holding_congr live typeName
      rw [registry, LetsGo, same]
      exact (and_iff_left (by omega)).symm
  | tornDown _ _ sub was released live _ =>
      have left : typeName ∈ (s.act a).registry.entries ↔
          typeName ∈ s.registry.entries ∧ ¬ (sub.typeName = typeName ∧
            s.registry.holders typeName ≤ 1 ∧
            s.transport.faults.unregisterType = false) :=
        released.mem_iff typeName
      have alive : 0 < s.holding sub.typeName := holding_pos (by simp [was])
      -- a cached type has as many holders as live subscriptions, so its last is the last one
      rw [left, LetsGo, holding_tornDown was live typeName]
      refine and_congr_right fun cached => not_congr ?_
      rw [accounts.holders typeName cached]
      by_cases same : sub.typeName = typeName
      · subst same
        simp only [true_and, if_true, alive]
        exact and_congr_left fun _ => by omega
      · simp only [same, false_and, if_false, false_iff]
        omega
  | created _ _ _ _ wasOpen _ | failed _ _ _ wasOpen _ | closed _ _ wasOpen _ =>
      cases closed.symm.trans wasOpen

theorem mem_run_of_closed {s : Session} (accounts : Accounts s) (closed : s.isOpen = false)
    (actions : List Action) (typeName : String) :
    typeName ∈ (s.run actions).registry.entries ↔
      typeName ∈ s.registry.entries ∧ ¬ LetGo s typeName actions := by
  induction actions generalizing s with
  | nil => exact (and_iff_left (not_letGo_nil s typeName)).symm
  | cons a actions ih =>
      have step := accounts.step a
      rw [run_cons, ih (accounts_step accounts step) (closed_step closed step),
        mem_act_of_closed accounts closed, letGo_cons, not_or, and_assoc]

theorem isOpen_act_shutdown (s : Session) : (s.act .shutdown).isOpen = false := by
  cases isOpen : s.isOpen with
  | false =>
      simp only [act, Site.shutdown_of_closed isOpen]
      exact isOpen
  | true =>
      obtain ⟨journal, left⟩ := Site.shutdown_snd isOpen
      simp only [act, left]

theorem closed_of_shutdown {s : Session} (accounts : Accounts s) (before after : List Action) :
    (s.run (before ++ .shutdown :: after)).isOpen = false := by
  have reached := accounts_run accounts before
  rw [run_append, run_cons]
  exact closed_run (accounts_step reached (reached.step .shutdown)) (isOpen_act_shutdown _) after

/-- The types are those that the first shutdown left, but for the ones let go since. -/
theorem shutdown_residue {s : Session} (accounts : Accounts s) (before after : List Action)
    (typeName : String) :
    typeName ∈ (s.run (before ++ .shutdown :: after)).registry.entries ↔
      typeName ∈ (s.run (before ++ [.shutdown])).registry.entries ∧
        ¬ LetGo (s.run (before ++ [.shutdown])) typeName after := by
  rw [List.append_cons, run_append]
  exact mem_run_of_closed (accounts_run accounts _) (closed_of_shutdown accounts before []) after
    typeName

/-- A first shutdown that succeeds leaves no type behind. -/
theorem empty_of_first_shutdown {s : Session} (accounts : Accounts s) (wasOpen : s.isOpen = true)
    (done : s.site.shutdown.1 = .ok ()) : (s.act .shutdown).registry.entries = ∅ := by
  rw [Site.shutdown_fst wasOpen] at done
  obtain ⟨journal, left⟩ := Site.shutdown_snd wasOpen
  simp only [act, left]
  cases refused : s.transport.faults.unregisterType with
  | true =>
      obtain ⟨same, nothing⟩ := Registrar.unregisterAll_of_refused refused
      rw [same]
      exact nothing.mp done
  | false => rw [Registrar.unregisterAll_of_accepted accounts.agrees refused]

/-- When a call succeeds, nothing is left if and only if each type that the first call left
has been let go since. -/
theorem shutdown_ok_empty_iff (settings : Settings) (number : Nat) (actions : List Action)
    (done : ((fresh settings number).run actions).site.shutdown.1 = .ok ()) :
    let s := ((fresh settings number).run actions).act .shutdown
    (s.registry.entries = ∅ ∧ s.transport.types = ∅) ↔
      ∀ before after, actions = before ++ .shutdown :: after → .shutdown ∉ before →
        let s₁ := (fresh settings number).run (before ++ [.shutdown])
        ∀ typeName ∈ s₁.registry.entries, LetGo s₁ typeName after := by
  intro s
  have start := accounts_fresh settings number
  have accounts := accounts_run start actions
  have agrees : s.registrar.Agrees := (accounts_step accounts (accounts.step .shutdown)).agrees
  rw [and_iff_left_of_imp agrees.types_eq_empty, Std.ExtTreeMap.eq_empty_iff_forall_not_mem]
  by_cases again : Action.shutdown ∈ actions
  · obtain ⟨before, after, split, first⟩ := List.eq_append_cons_of_mem again
    have closed := closed_of_shutdown start before after
    rw [← split] at closed
    rw [show s = (fresh settings number).run actions from act_shutdown_of_closed closed]
    constructor
    · intro empty before after split _ s₁ typeName present
      have left := empty typeName
      rw [split, shutdown_residue start, not_and, Classical.not_not] at left
      exact left present
    · intro gone typeName present
      rw [split, shutdown_residue start] at present
      exact present.2 (gone before after split first typeName present.1)
  · have empty : s.registry.entries = ∅ :=
      empty_of_first_shutdown accounts (isOpen_run again) done
    refine iff_of_true (Std.ExtTreeMap.eq_empty_iff_forall_not_mem.mp empty) ?_
    intro before after split
    exact absurd (split ▸ List.mem_append_right _ List.mem_cons_self) again

/-- The type that the shutdown had to leave goes with its last subscription. -/
theorem shutdown_ok_empty_iff_dropped :
    let before := [.create (stringRequest "chatter"), .switch { unregisterType := true }]
    let after := [.switch {}, .drop 0]
    let s := (fresh {} 1).run (before ++ [.shutdown])
    ((fresh {} 1).run (before ++ .shutdown :: after)).site.shutdown.1 = .ok () ∧
      ∀ typeName ∈ s.registry.entries, LetGo s typeName after := by
  intro before after s
  have closed : ((fresh {} 1).run (before ++ .shutdown :: after)).isOpen = false := by
    decide +kernel
  have done := congrArg Prod.fst (Site.shutdown_of_closed closed)
  have entries : (((fresh {} 1).run (before ++ .shutdown :: after)).act
      .shutdown).registry.entries.isEmpty = true := by decide +kernel
  have types : (((fresh {} 1).run (before ++ .shutdown :: after)).act
      .shutdown).transport.types.isEmpty = true := by decide +kernel
  have gone := (shutdown_ok_empty_iff {} 1 (before ++ .shutdown :: after) done).mp
    ⟨Std.ExtTreeMap.isEmpty_iff.mp entries, Std.ExtTreeMap.isEmpty_iff.mp types⟩
  exact ⟨done, gone before after rfl (by simp [before])⟩

/-- The call after one that was refused succeeds with the type still there. -/
theorem shutdown_ok_not_empty :
    ¬ ∀ settings number actions,
      ((fresh settings number).run actions).site.shutdown.1 = .ok () →
      let s := ((fresh settings number).run actions).act .shutdown
      s.registry.entries = ∅ ∧ s.transport.types = ∅ := by
  intro empty
  let actions : List Action := [.create (stringRequest "chatter"),
    .switch { unregisterType := true }, .shutdown, .switch {}]
  have closed : ((fresh {} 1).run actions).isOpen = false := by decide +kernel
  have done := congrArg Prod.fst (Site.shutdown_of_closed closed)
  have cached : (((fresh {} 1).run actions).act .shutdown).registry.entries.isEmpty = false := by
    decide +kernel
  rw [Std.ExtTreeMap.isEmpty_iff.mpr (empty {} 1 actions done).1] at cached
  cases cached

end Session

end RosMiddleware
