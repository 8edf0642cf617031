import RosMiddleware.Error

/-!
Calls that go by conditions. The conditions are looked at in their order; the first one that
is not given decides the error, and a call whose conditions are all given succeeds.
-/
namespace RosMiddleware

section Outcome

variable {ε ε' α β : Type}

theorem bind_eq_ok_iff {outcome : Except ε α} {rest : α → Except ε β} {b : β} :
    outcome >>= rest = .ok b ↔ ∃ a, outcome = .ok a ∧ rest a = .ok b := by
  cases outcome <;> simp [bind, Except.bind]

@[simp]
theorem mapError_ok (f : ε → ε') (a : α) : (Except.ok a).mapError f = .ok a := rfl

@[simp]
theorem mapError_error (f : ε → ε') (e : ε) :
    (Except.error e : Except ε α).mapError f = .error (f e) := rfl

theorem mapError_eq_ok_iff {outcome : Except ε α} {f : ε → ε'} {a : α} :
    outcome.mapError f = .ok a ↔ outcome = .ok a := by
  cases outcome <;> simp

theorem mapError_eq_error_iff {outcome : Except ε α} {f : ε → ε'} {e' : ε'} :
    outcome.mapError f = .error e' ↔ ∃ e, outcome = .error e ∧ f e = e' := by
  cases outcome <;> simp

theorem map_eq_ok_iff {outcome : Except ε α} {f : α → β} {b : β} :
    outcome.map f = .ok b ↔ ∃ a, outcome = .ok a ∧ f a = b := by
  cases outcome <;> simp [Except.map]

theorem toOption_eq_some_iff {outcome : Except ε α} {a : α} :
    outcome.toOption = some a ↔ outcome = .ok a := by
  cases outcome <;> simp [Except.toOption]

theorem exists_ok_of_isOk {outcome : Except ε α} (ok : outcome.isOk = true) :
    ∃ a, outcome = .ok a := by
  cases outcome with
  | error e => cases ok
  | ok a => exact ⟨a, rfl⟩

end Outcome

/-- Something that has to be given, and the error if it is not. -/
structure Condition where
  holds : Prop
  error : Error

namespace Condition

inductive FirstFailing : List Condition → Error → Prop
  | here {c : Condition} {cs : List Condition} (broken : ¬ c.holds) : FirstFailing (c :: cs) c.error
  | later {c : Condition} {cs : List Condition} {e : Error} (given : c.holds)
      (rest : FirstFailing cs e) : FirstFailing (c :: cs) e

theorem FirstFailing.mem {cs : List Condition} {e : Error} (failing : FirstFailing cs e) :
    ∃ c ∈ cs, c.error = e := by
  induction failing with
  | here broken => exact ⟨_, List.mem_cons_self, rfl⟩
  | later given rest ih =>
      obtain ⟨c, mem, same⟩ := ih
      exact ⟨c, List.mem_cons_of_mem _ mem, same⟩

def Decide {α : Type} : List Condition → Except Error α → Prop
  | [], outcome => ∃ a, outcome = .ok a
  | c :: cs, outcome => (c.holds → Decide cs outcome) ∧ (¬ c.holds → outcome = .error c.error)

variable {α β : Type} {cs ds : List Condition} {outcome : Except Error α}

theorem Decide.ok_iff (decided : Decide cs outcome) :
    (∃ a, outcome = .ok a) ↔ ∀ c ∈ cs, c.holds := by
  induction cs with
  | nil => exact iff_of_true decided (by simp)
  | cons c cs ih =>
      obtain ⟨next, stop⟩ := decided
      by_cases given : c.holds
      · simp [ih (next given), given]
      · simp [stop given, given]

/-- Of several conditions that are not given only the first shows. -/
theorem Decide.error_iff (decided : Decide cs outcome) (e : Error) :
    outcome = .error e ↔ FirstFailing cs e := by
  induction cs with
  | nil =>
      obtain ⟨a, rfl⟩ := decided
      exact ⟨by simp, fun failing => by cases failing⟩
  | cons c cs ih =>
      obtain ⟨next, stop⟩ := decided
      by_cases given : c.holds
      · rw [ih (next given)]
        constructor
        · exact .later given
        · rintro (broken | ⟨_, rest⟩)
          · exact absurd given broken
          · exact rest
      · rw [stop given, Except.error.injEq]
        constructor
        · rintro rfl
          exact .here given
        · rintro (_ | ⟨given', _⟩)
          · rfl
          · exact absurd given' given

theorem Decide.guard {p : Prop} [Decidable p] {e : Error} (rest : p → Decide cs outcome) :
    Decide (⟨p, e⟩ :: cs) (if p then outcome else .error e) := by
  constructor
  · intro given
    rw [if_pos given]
    exact rest given
  · intro broken
    rw [if_neg broken]

/-- The first part of a call goes by the first conditions, and the rest by the others. -/
theorem Decide.bind {first : Except Error α} {rest : α → Except Error β}
    (decided : Decide cs first) (next : ∀ a, first = .ok a → Decide ds (rest a)) :
    Decide (cs ++ ds) (first >>= rest) := by
  induction cs with
  | nil =>
      obtain ⟨a, rfl⟩ := decided
      exact next a rfl
  | cons c cs ih =>
      refine ⟨fun given => ih (decided.1 given), fun broken => ?_⟩
      rw [decided.2 broken]
      rfl

theorem Decide.map (decided : Decide cs outcome) (f : α → β) : Decide cs (outcome.map f) := by
  induction cs with
  | nil =>
      obtain ⟨a, rfl⟩ := decided
      exact ⟨f a, rfl⟩
  | cons c cs ih =>
      refine ⟨fun given => ih (decided.1 given), fun broken => ?_⟩
      rw [decided.2 broken]
      rfl

end Condition

end RosMiddleware
