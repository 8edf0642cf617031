import RosMiddleware.Proofs.RegistryAgreement

/-!
Holds of different generations. Holders are counted by name, so a hold that outlives an
unregistration of everything still counts when it is given up, and a type that was
registered again since then may go too early. A hold of the present registration can rely
on its type exactly as long as fewer left-over holds of the name were given up than there
are present ones.
-/
namespace RosMiddleware

structure Held where
  hold : TypeHold
  /-- It was had since everything was last unregistered. -/
  recent : Bool
deriving DecidableEq, Repr, Inhabited

/-- A registry over a transport with the holds that are alive, in the order in which they
were had. -/
structure Custody where
  registrar : Registrar
  live : List Held := []
  /-- How many holds of a name that were left over have been given up while there were
  recent ones. -/
  spent : String → Nat := fun _ => 0

namespace Custody

def fresh (number : Nat) : Custody where
  registrar := { transport := .ofNumber number }

/-- Holds are named by their places among those that are alive. -/
inductive Action
  | acquire (typeName : String) (build : Nat → Adapter)
      (named : ∀ n, (build n).typeName = typeName)
  | release (place : Nat)
  | drop (place : Nat)
  | unregisterAll

def countRecent (live : List Held) (typeName : String) : Nat :=
  live.countP fun held => held.recent && held.hold.typeName == typeName

def recentCount (s : Custody) (typeName : String) : Nat := countRecent s.live typeName

/-- A hold is gone. What left-over holds have taken no longer matters when the last recent
hold of the name is gone. -/
def givenUp (s : Custody) (place : Nat) (held : Held) (registrar : Registrar) : Custody where
  registrar := registrar
  live := s.live.eraseIdx place
  spent typeName :=
    if countRecent (s.live.eraseIdx place) typeName = 0 then 0
    else if held.hold.typeName = typeName ∧ held.recent = false then s.spent typeName + 1
    else s.spent typeName

/-- A place where no hold is alive names none: nothing happens there. -/
def act (s : Custody) : Action → Custody
  | .acquire typeName build _ =>
      match s.registrar.acquire typeName fun n => .ok (build n) with
      | (.ok hold, registrar) =>
          { s with registrar := registrar, live := s.live ++ [⟨hold, true⟩] }
      | (.error _, registrar) => { s with registrar := registrar }
  | .release place =>
      match s.live[place]? with
      | some held => s.givenUp place held (s.registrar.releaseHold held.hold).2
      | none => s
  | .drop place =>
      match s.live[place]? with
      | some held => s.givenUp place held (s.registrar.dropHold held.hold).1
      | none => s
  | .unregisterAll =>
      { registrar := s.registrar.unregisterAll.2.1
        live := s.live.map fun held => { held with recent := false } }

def run (s : Custody) (actions : List Action) : Custody := actions.foldl act s

@[simp] theorem run_nil (s : Custody) : s.run [] = s := rfl

@[simp] theorem run_cons (s : Custody) (a : Action) (actions : List Action) :
    s.run (a :: actions) = (s.act a).run actions := rfl

/-- Every recent hold has its type, in the cache and with the transport. -/
def Covered (s : Custody) : Prop :=
  ∀ held ∈ s.live, held.recent = true →
    held.hold.typeName ∈ s.registrar.registry.entries ∧
      held.hold.typeName ∈ s.registrar.transport.types

/-- On a name with recent holds, fewer left-over ones were given up than there are recent. -/
def Unspent (s : Custody) : Prop :=
  ∀ typeName, 0 < s.recentCount typeName → s.spent typeName < s.recentCount typeName

/-- The holders are the recent holds but those that left-over ones have taken. -/
structure Balanced (s : Custody) : Prop where
  agrees : s.registrar.Agrees
  accepts : s.registrar.transport.faults = {}
  holders : ∀ typeName,
    s.registrar.registry.holders typeName + s.spent typeName = s.recentCount typeName
  cached : ∀ typeName ∈ s.registrar.registry.entries,
    0 < s.registrar.registry.holders typeName

theorem recentCount_pos {s : Custody} {typeName : String} :
    0 < s.recentCount typeName ↔
      ∃ held ∈ s.live, held.recent = true ∧ held.hold.typeName = typeName := by
  rw [recentCount, countRecent, List.countP_pos_iff]
  simp

theorem Balanced.mem_iff {s : Custody} (balanced : Balanced s) (typeName : String) :
    typeName ∈ s.registrar.registry.entries ↔ s.spent typeName < s.recentCount typeName := by
  have sum := balanced.holders typeName
  refine ⟨fun present => ?_, fun unspent => TypeRegistry.mem_of_holders_pos (by omega)⟩
  have positive := balanced.cached typeName present
  omega

theorem Balanced.covered_iff {s : Custody} (balanced : Balanced s) :
    Covered s ↔ Unspent s := by
  constructor
  · intro covered typeName some
    obtain ⟨held, alive, recent, rfl⟩ := recentCount_pos.mp some
    exact (balanced.mem_iff _).mp (covered held alive recent).1
  · intro unspent held alive recent
    have some := recentCount_pos.mpr ⟨held, alive, recent, rfl⟩
    have present := (balanced.mem_iff _).mpr (unspent _ some)
    exact ⟨present, (balanced.agrees.mem_iff _).mpr present⟩

theorem balanced_fresh (number : Nat) : Balanced (fresh number) where
  agrees _ := by simp [fresh, Transport.ofNumber, TypeRegistry.lookup]
  accepts := rfl
  holders _ := rfl
  cached := by simp [fresh]

private theorem balanced_acquired {s : Custody} {typeName : String} {hold : TypeHold}
    {registrar : Registrar} (balanced : Balanced s)
    (acquired : Registrar.Acquired typeName s.registrar registrar hold) :
    Balanced { s with registrar := registrar, live := s.live ++ [⟨hold, true⟩] } := by
  have more := TypeRegistry.holders_one_more acquired.entries
  refine ⟨acquired.agrees balanced.agrees, ?_, ?_, ?_⟩
  · rw [acquired.transport]
    exact balanced.accepts
  · intro other
    have sum := balanced.holders other
    simp only [recentCount, countRecent, List.countP_append, List.countP_singleton, more,
      acquired.named, Bool.true_and, beq_iff_eq] at sum ⊢
    split <;> omega
  · intro other present
    rw [acquired.entries, Std.ExtTreeMap.mem_insert, Std.LawfulEqCmp.compare_eq_iff_eq] at present
    rw [more]
    split
    · omega
    · rename_i apart
      exact balanced.cached other (present.resolve_left apart)

private theorem countRecent_eraseIdx {live : List Held} {place : Nat} {held : Held}
    (alive : live[place]? = some held) (typeName : String) :
    countRecent live typeName = countRecent (live.eraseIdx place) typeName +
      if held.recent = true ∧ held.hold.typeName = typeName then 1 else 0 := by
  obtain ⟨lt, rfl⟩ := List.getElem?_eq_some_iff.mp alive
  rw [List.eraseIdx_eq_take_drop_succ]
  conv => lhs; rw [← List.take_append_drop place live, List.drop_eq_getElem_cons lt]
  simp only [countRecent, List.countP_append, List.countP_cons, Bool.and_eq_true, beq_iff_eq]
  omega

private theorem balanced_givenUp {s : Custody} {place : Nat} {held : Held}
    {registrar : Registrar} (balanced : Balanced s) (unspent : Unspent s)
    (alive : s.live[place]? = some held)
    (released : Registrar.Released held.hold.typeName s.registrar registrar) :
    Balanced (s.givenUp place held registrar) := by
  refine ⟨released.agrees balanced.agrees, ?_, ?_, ?_⟩
  · change registrar.transport.faults = {}
    rw [released.transport]
    exact balanced.accepts
  · intro typeName
    have sum := balanced.holders typeName
    have enough := unspent typeName
    have count := countRecent_eraseIdx alive typeName
    simp only [givenUp, recentCount, released.holders] at sum enough count ⊢
    -- a left-over hold takes a holder only where a recent hold has one, by `enough`
    grind
  · intro typeName present
    have left := (released.mem_iff typeName).mp present
    have positive := balanced.cached typeName left.1
    have accepts := balanced.accepts
    change 0 < registrar.registry.holders typeName
    rw [released.holders]
    grind

private theorem balanced_unregisterAll {s : Custody} (balanced : Balanced s) :
    Balanced (s.act .unregisterAll) := by
  have emptied := Registrar.unregisterAll_emptied balanced.agrees
  have agrees := emptied.agrees balanced.agrees
  cases emptied with
  | refused refused _ => simp [balanced.accepts] at refused
  | cleared _ effect =>
      refine ⟨agrees, ?_, ?_, ?_⟩
      · simp only [act, effect]
        exact balanced.accepts
      · intro typeName
        have lost : (s.act .unregisterAll).recentCount typeName = 0 := by
          rw [recentCount, countRecent, act, List.countP_map, List.countP_eq_zero]
          simp
        rw [lost, act, effect]
        rfl
      · simp [act, effect]

/-- What left-over holds have taken is kept account of as long as recent ones are covered. -/
theorem balanced_act {s : Custody} (balanced : Balanced s) (covered : Covered s) (a : Action) :
    Balanced (s.act a) := by
  have unspent := balanced.covered_iff.mp covered
  cases a with
  | acquire typeName build named =>
      have names : Factory.Names (fun n => .ok (build n)) typeName := by
        intro n a made
        cases made
        exact named n
      rcases asked : s.registrar.acquire typeName fun n => .ok (build n) with
        ⟨_ | hold, registrar⟩
      · obtain ⟨_, registry, transport⟩ := Registrar.acquire_error asked
        simp only [act, asked]
        refine ⟨balanced.agrees.congr (by rw [registry]) (by rw [transport]),
          transport ▸ balanced.accepts, ?_, ?_⟩
        · simp only [registry]
          exact balanced.holders
        · simp only [registry]
          exact balanced.cached
      · simp only [act, asked]
        exact balanced_acquired balanced (Registrar.acquire_ok balanced.agrees names asked)
  | release place | drop place =>
      simp only [act]
      split
      · rename_i held alive
        simp only [Registrar.releaseHold_snd, Registrar.dropHold_fst]
        exact balanced_givenUp balanced unspent alive
          (Registrar.release_released balanced.agrees _)
      · exact balanced
  | unregisterAll => exact balanced_unregisterAll balanced

private theorem forall_prefix_cons {a : Action} {actions : List Action}
    {P : List Action → Prop} :
    (∀ before, before <+: a :: actions → P before) ↔
      P [] ∧ ∀ before, before <+: actions → P (a :: before) := by
  constructor
  · intro all
    refine ⟨all [] List.nil_prefix, fun before h => ?_⟩
    exact all _ (List.cons_prefix_cons.mpr ⟨rfl, h⟩)
  · rintro ⟨first, later⟩ before h
    rcases List.prefix_cons_iff.mp h with rfl | ⟨rest, rfl, tail⟩
    · exact first
    · exact later rest tail

/-- The balance holds as long as the types are covered, so the first prefix that breaks one of the
two breaks both. -/
theorem covered_iff_unspent {s : Custody} (balanced : Balanced s) (actions : List Action) :
    (∀ before, before <+: actions → Covered (s.run before)) ↔
      ∀ before, before <+: actions → Unspent (s.run before) := by
  induction actions generalizing s with
  | nil =>
      simp only [List.prefix_nil, forall_eq, run_nil]
      exact balanced.covered_iff
  | cons a actions ih =>
      rw [forall_prefix_cons, forall_prefix_cons, run_nil, ← balanced.covered_iff]
      simp only [run_cons]
      -- the balance need only be kept by steps from covered states
      exact and_congr_right fun covered => ih (balanced_act balanced covered a)

/-- All along a run the recent holds have their types if and only if, all along it, fewer
left-over holds were given up on a name than there are recent ones. -/
theorem recent_holds_covered_iff (number : Nat) (actions : List Action) :
    (∀ before, before <+: actions → Covered ((fresh number).run before)) ↔
      ∀ before, before <+: actions → Unspent ((fresh number).run before) :=
  covered_iff_unspent (balanced_fresh number) actions

/-- One hold that was left over is enough to unregister the type of a recent one. -/
theorem recent_hold_uncovered :
    ¬ ∀ number actions, Covered ((fresh number).run actions) := by
  intro covered
  let acquire : Action := .acquire "std_msgs::msg::dds_::String_"
    (fun n => ⟨n, ⟨"std_msgs::msg", "String", 256⟩⟩) fun _ => rfl
  let actions := [acquire, .unregisterAll, acquire, .drop 0]
  have alive : ∃ held ∈ ((fresh 1).run actions).live, held.recent = true ∧
      held.hold.typeName = "std_msgs::msg::dds_::String_" := by decide +kernel
  have gone : "std_msgs::msg::dds_::String_" ∉
      ((fresh 1).run actions).registrar.registry.entries := by decide +kernel
  obtain ⟨held, alive, recent, name⟩ := alive
  rw [← name] at gone
  exact gone (covered 1 actions held alive recent).1

end Custody

end RosMiddleware
