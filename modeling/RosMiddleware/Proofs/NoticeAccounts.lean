import RosMiddleware.Listener

/-!
The notices of a listener. A run is any sequence of arrivals, samples taken and callbacks
installed or removed; what a callback does with the listener when it is told is part of the
run like everything else. Each arrival is told of once: at once if there is a callback, and
otherwise together with the others that wait for the next one.
-/
namespace RosMiddleware.Listener

inductive Step
  | arrive
  | take
  | install (callback : Option Callback)
deriving DecidableEq

/-- A step by itself, without what the callback does when it is told. -/
def act (l : Listener) : Step → Listener × Option Notice
  | .arrive => l.arrive
  | .take => (l.takeOne.2, none)
  | .install callback => l.install callback

def run (l : Listener) : List Step → Listener
  | [] => l
  | s :: steps => (l.act s).1.run steps

def notices (l : Listener) : List Step → List Notice
  | [] => []
  | s :: steps => (l.act s).2.toList ++ (l.act s).1.notices steps

def Step.takes (l : Listener) : Step → Bool
  | .take => l.takeOne.1
  | .arrive | .install _ => false

def taken (l : Listener) : List Step → Nat
  | [] => 0
  | s :: steps => (if s.takes l then 1 else 0) + (l.act s).1.taken steps

def told : List Notice → Nat
  | [] => 0
  | n :: notices => n.count + told notices

/-- The callback that is there after the steps, if `before` was there at first. -/
def installed (before : Option Callback) : List Step → Option Callback
  | [] => before
  | .install callback :: steps => installed callback steps
  | .arrive :: steps | .take :: steps => installed before steps

def followUp : Option Notice → List Step
  | none => []
  | some n =>
    match n.callback.reaction with
    | .record => []
    | .take => List.replicate n.count .take
    | .clear => [.install none]

/-- Calls one after another, each with what the callback then does. -/
def calls (l : Listener) : List Step → Listener × List Notice
  | [] => (l, [])
  | s :: steps =>
    let (l, notice) := settle (l.act s)
    let (l, later) := l.calls steps
    (l, notice.toList ++ later)

/-- The calls and what callbacks do in between, as one run. -/
def unfolded (l : Listener) : List Step → List Step
  | [] => []
  | s :: steps =>
    let done := s :: followUp (l.act s).2
    done ++ (l.run done).unfolded steps

inductive Acted (l : Listener) : Step → Listener → Option Notice → Prop
  | waits (alone : l.callback = none) :
      Acted l .arrive { l with unread := l.unread + 1, unnotified := l.unnotified + 1 } none
  | tells (callback : Callback) (there : l.callback = some callback) :
      Acted l .arrive { l with unread := l.unread + 1 } (some ⟨callback, 1⟩)
  | nothing (empty : l.unread = 0) : Acted l .take l none
  | takes (left : 0 < l.unread) : Acted l .take { l with unread := l.unread - 1 } none
  | removes : Acted l (.install none) { l with callback := none } none
  | installs (callback : Callback) (upToDate : l.unnotified = 0) :
      Acted l (.install (some callback)) { l with callback := some callback } none
  | replays (callback : Callback) (waiting : 0 < l.unnotified) :
      Acted l (.install (some callback)) { l with callback := some callback, unnotified := 0 }
        (some ⟨callback, l.unnotified⟩)

/-- Where there is a callback, nothing waits to be told. -/
def CaughtUp (l : Listener) : Prop := l.callback ≠ none → l.unnotified = 0

variable {l l' : Listener} {s : Step} {heard : Option Notice}

theorem acted (l : Listener) (s : Step) : Acted l s (l.act s).1 (l.act s).2 := by
  cases s with
  | arrive =>
      simp only [act, Listener.arrive]
      split <;> rename_i there
      · exact .waits there
      · exact .tells _ there
  | take =>
      simp only [act, takeOne]
      split
      · exact .nothing ‹_›
      · exact .takes (Nat.pos_of_ne_zero ‹_›)
  | install callback =>
      cases callback with
      | none => exact .removes
      | some callback =>
          simp only [act, install]
          split
          · exact .installs callback ‹_›
          · exact .replays callback (Nat.pos_of_ne_zero ‹_›)

theorem takeOne_iff : l.takeOne.1 = true ↔ 0 < l.unread := by
  rw [takeOne]
  split <;> simp <;> omega

theorem Acted.told_add (acted : Acted l s l' heard) :
    told heard.toList + l'.unnotified = l.unnotified + [s].count .arrive := by
  cases acted <;> simp [told, Nat.add_comm]

theorem Acted.unread_add (acted : Acted l s l' heard) :
    l'.unread + (if s.takes l then 1 else 0) = l.unread + [s].count .arrive := by
  cases acted with
  | nothing empty => simp [Step.takes, takeOne, empty]
  | takes left =>
      simp only [Step.takes, takeOne_iff.mpr left, if_true]
      exact Nat.sub_add_cancel left
  | waits _ | tells _ _ | removes | installs _ _ | replays _ _ => simp [Step.takes]

theorem Acted.callback (acted : Acted l s l' heard) :
    l'.callback = installed l.callback [s] := by
  cases acted <;> rfl

theorem Acted.caughtUp (acted : Acted l s l' heard) (before : l.CaughtUp) : l'.CaughtUp := by
  cases acted with
  | waits alone => exact fun there => absurd alone there
  | tells _ _ | nothing _ | takes _ => exact before
  | removes => exact fun there => absurd rfl there
  | installs callback upToDate => exact fun _ => upToDate
  | replays callback waiting => exact fun _ => rfl

/-- A callback is told of something, and is the one that is there then. -/
theorem Acted.told_installed {n : Notice} (acted : Acted l s l' (some n)) :
    0 < n.count ∧ l'.callback = some n.callback ∧ s ≠ .take := by
  cases acted with
  | tells callback there => exact ⟨Nat.one_pos, there, nofun⟩
  | replays callback waiting => exact ⟨waiting, rfl, nofun⟩

/-! ### Runs -/

theorem run_append (l : Listener) (steps later : List Step) :
    l.run (steps ++ later) = (l.run steps).run later := by
  induction steps generalizing l with
  | nil => rfl
  | cons s steps ih => exact ih (l.act s).1

theorem notices_append (l : Listener) (steps later : List Step) :
    l.notices (steps ++ later) = l.notices steps ++ (l.run steps).notices later := by
  induction steps generalizing l with
  | nil => rfl
  | cons s steps ih =>
      rw [List.cons_append, notices, ih, ← List.append_assoc]
      rfl

theorem installed_append (before : Option Callback) (steps later : List Step) :
    installed before (steps ++ later) = installed (installed before steps) later := by
  induction steps generalizing before with
  | nil => rfl
  | cons s steps ih => cases s <;> exact ih _

theorem told_append (first second : List Notice) :
    told (first ++ second) = told first + told second := by
  induction first with
  | nil => exact (Nat.zero_add _).symm
  | cons n first ih => rw [List.cons_append, told, told, ih, Nat.add_assoc]

/-- Every arrival is told of once or waits to be told. -/
theorem told_run (l : Listener) (steps : List Step) :
    told (l.notices steps) + (l.run steps).unnotified = l.unnotified + steps.count .arrive := by
  induction steps generalizing l with
  | nil => simp [told, notices, run]
  | cons s steps ih =>
      have step := (acted l s).told_add
      have rest := ih (l.act s).1
      rw [notices, told_append, run, List.count_cons]
      rw [List.count_singleton] at step
      omega

/-- Every arrival is taken or waits to be read. -/
theorem unread_run (l : Listener) (steps : List Step) :
    (l.run steps).unread + l.taken steps = l.unread + steps.count .arrive := by
  induction steps generalizing l with
  | nil => rfl
  | cons s steps ih =>
      have step := (acted l s).unread_add
      have rest := ih (l.act s).1
      rw [taken, run, List.count_cons]
      rw [List.count_singleton] at step
      omega

theorem callback_run (l : Listener) (steps : List Step) :
    (l.run steps).callback = installed l.callback steps := by
  induction steps generalizing l with
  | nil => rfl
  | cons s steps ih => rw [run, ih, (acted l s).callback, ← installed_append]; rfl

theorem caughtUp_run (before : l.CaughtUp) (steps : List Step) : (l.run steps).CaughtUp := by
  induction steps generalizing l with
  | nil => exact before
  | cons s steps ih => exact ih ((acted l s).caughtUp before)

/-! ### Calls -/

theorem run_takes (l : Listener) (n : Nat) : l.run (List.replicate n .take) = l.takeMany n := by
  induction n generalizing l with
  | zero => rfl
  | succ n ih => exact ih l.takeOne.2

theorem notices_takes (l : Listener) (n : Nat) : l.notices (List.replicate n .take) = [] := by
  induction n generalizing l with
  | zero => rfl
  | succ n ih => exact ih l.takeOne.2

theorem settle_eq (l : Listener) (notice : Option Notice) :
    settle (l, notice) = (l.run (followUp notice), notice) := by
  cases notice with
  | none => rfl
  | some n =>
      simp only [settle, react, followUp]
      cases n.callback.reaction with
      | record | clear => rfl
      | take => rw [run_takes]

/-- Nothing that a callback does makes it be told again. -/
theorem notices_followUp (l : Listener) (notice : Option Notice) :
    l.notices (followUp notice) = [] := by
  cases notice with
  | none => rfl
  | some n =>
      simp only [followUp]
      cases n.callback.reaction with
      | record | clear => rfl
      | take => exact notices_takes l n.count

/-- A callback that calls back is as good as steps between the calls. -/
theorem calls_eq (l : Listener) (steps : List Step) :
    l.calls steps = (l.run (l.unfolded steps), l.notices (l.unfolded steps)) := by
  induction steps generalizing l with
  | nil => rfl
  | cons s steps ih =>
      have done : settle (l.act s) =
          (l.run (s :: followUp (l.act s).2), (l.act s).2) := settle_eq _ _
      have told : l.notices (s :: followUp (l.act s).2) = (l.act s).2.toList := by
        rw [notices, notices_followUp, List.append_nil]
      rw [calls, done, unfolded, run_append, notices_append, told]
      simp only [ih]

structure Accounted (steps : List Step) : Prop where
  /-- Each arrival is told of once, or waits. -/
  told : told (notices {} steps) + (run {} steps).unnotified = steps.count .arrive
  /-- It waits only while there is no callback. -/
  waiting : (run {} steps).unnotified ≠ 0 → installed none steps = none
  /-- Each step tells at most one callback, of something, and that is the one installed. -/
  notice : ∀ s, (run {} steps).notices [s] = [] ∨
    s ≠ .take ∧ ∃ n, (run {} steps).notices [s] = [n] ∧ 0 < n.count ∧
      installed none (steps ++ [s]) = some n.callback
  unread : (run {} steps).unread + taken {} steps = steps.count .arrive
  takes : (run {} steps).takeOne.1 = true ↔ 0 < (run {} steps).unread

/-- The accounts of a listener balance after every run, whatever callbacks are installed and
whatever they do when they are told. -/
theorem arrivals_accounted :
    (∀ steps, Accounted steps) ∧
      ∀ steps, calls {} steps = (run {} (unfolded {} steps), notices {} (unfolded {} steps)) := by
  refine ⟨fun steps => ?_, calls_eq {}⟩
  have installed_run := callback_run {} steps
  constructor
  case told => simpa using told_run {} steps
  case waiting =>
    intro waiting
    rw [← installed_run]
    have caughtUp : (run {} steps).CaughtUp := caughtUp_run (fun there => absurd rfl there) steps
    by_cases alone : (run {} steps).callback = none
    · exact alone
    · exact absurd (caughtUp alone) waiting
  case notice =>
    intro s
    have step := acted (run {} steps) s
    have told : (run {} steps).notices [s] = ((run {} steps).act s).2.toList := by
      rw [notices, notices, List.append_nil]
    cases notice : ((run {} steps).act s).2 with
    | none => exact .inl (by rw [told, notice]; rfl)
    | some n =>
        rw [notice] at step
        obtain ⟨positive, there, kind⟩ := step.told_installed
        refine .inr ⟨kind, n, by rw [told, notice]; rfl, positive, ?_⟩
        rw [installed_append, ← installed_run, ← step.callback, there]
  case unread => simpa using unread_run {} steps
  case takes => exact takeOne_iff

/-- Three arrivals are told of together, the fourth by itself, and the fifth waits. -/
example :
    let callback : Callback := ⟨"on_message", .record⟩
    let steps := [.arrive, .arrive, .arrive, .install (some callback), .arrive, .install none,
      .arrive]
    notices {} steps = [⟨callback, 3⟩, ⟨callback, 1⟩] ∧ (run {} steps).unnotified = 1 := by
  decide

end RosMiddleware.Listener
