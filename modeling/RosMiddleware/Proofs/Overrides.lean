import RosMiddleware.Config.Override

/-!
Overrides by the keys they are for. Whether an override is accepted is a matter of its key
and its value alone, and an accepted one changes the setting under its key and no other. Of
several overrides one after another, the first that is not accepted decides the error; if all
are, each setting has the last value given for its key.
-/
namespace RosMiddleware

open Transport (MemoryPolicy)

namespace Settings

abbrev Key.Choice : Key → Type
  | .keepTransportPolicy | .createListeners => Bool
  | .memoryPolicy => MemoryPolicy

def get (s : Settings) : (k : Key) → k.Choice
  | .keepTransportPolicy => s.keepTransportPolicy
  | .memoryPolicy => s.memoryPolicy
  | .createListeners => s.createListeners

def set (s : Settings) : (k : Key) → k.Choice → Settings
  | .keepTransportPolicy, keep => { s with keepTransportPolicy := keep }
  | .memoryPolicy, policy => { s with memoryPolicy := policy }
  | .createListeners, create => { s with createListeners := create }

@[simp] theorem get_set_self (s : Settings) (k : Key) (x : k.Choice) : (s.set k x).get k = x := by
  cases k <;> rfl

@[simp] theorem get_set_of_ne (s : Settings) {k other : Key} (x : k.Choice) (apart : k ≠ other) :
    (s.set k x).get other = s.get other := by
  cases k <;> cases other <;> first | rfl | exact absurd rfl apart

theorem Key.name_injective {k other : Key} (same : k.name = other.name) : k = other := by
  cases k <;> cases other <;> first | rfl | simp [name] at same

theorem Key.ofName?_eq_some_iff {name : String} {k : Key} :
    Key.ofName? name = some k ↔ k.name = name := by
  constructor
  · intro found
    simpa using List.find?_some found
  · rintro rfl
    cases k <;> rfl

end Settings

namespace Config

open Json (Value)
open Settings (Key)

def choiceOf : (k : Key) → Value → Except Mismatch k.Choice
  | .keepTransportPolicy | .createListeners => boolOf
  | .memoryPolicy => policyOf

/-- A value sets one key, and which choice it makes does not depend on the settings. -/
theorem write_eq (s : Settings) (v : Value) (k : Key) :
    write s v k = (choiceOf k v).map (s.set k) := by
  cases k with
  | keepTransportPolicy | createListeners =>
      simp only [write, choiceOf]
      cases boolOf v <;> rfl
  | memoryPolicy =>
      simp only [write, choiceOf]
      cases policyOf v <;> rfl

/-- What is wrong with an override, whatever settings it is for. -/
def complaint? (o : String × Value) : Option Fault :=
  match Key.ofName? o.1 with
  | none => some (.unknownKey o.1)
  | some k =>
    match choiceOf k o.2 with
    | .ok _ => none
    | .error mismatch => some (.badValue o.1 mismatch)

def Acceptable (o : String × Value) : Prop :=
  ∃ k x, Key.ofName? o.1 = some k ∧ choiceOf k o.2 = .ok x

theorem acceptable_iff {o : String × Value} : Acceptable o ↔ complaint? o = none := by
  unfold Acceptable complaint?
  cases Key.ofName? o.1 with
  | none => simp
  | some k =>
      cases chosen : choiceOf k o.2 with
      | ok x => simp [chosen]
      | error mismatch => simp [chosen]

theorem complaints_eq_nil_iff {overrides : List (String × Value)} :
    overrides.filterMap complaint? = [] ↔ ∀ o ∈ overrides, Acceptable o := by
  simp only [List.filterMap_eq_nil_iff, acceptable_iff]

variable {s s' : Settings} {o : String × Value} {overrides : List (String × Value)} {f : Fault}

theorem override_of_complaint (wrong : complaint? o = some f) :
    override s o.1 o.2 = .error f := by
  unfold complaint? at wrong
  unfold override
  cases named : Key.ofName? o.1 with
  | none =>
      simp only [named] at wrong ⊢
      cases wrong
      rfl
  | some k =>
      simp only [named, write_eq] at wrong ⊢
      cases chosen : choiceOf k o.2 with
      | ok x =>
          rw [chosen] at wrong
          cases wrong
      | error mismatch =>
          rw [chosen] at wrong
          cases wrong
          rfl

theorem override_of_choice {k : Key} {x : k.Choice} (named : Key.ofName? o.1 = some k)
    (chosen : choiceOf k o.2 = .ok x) : override s o.1 o.2 = .ok (s.set k x) := by
  simp only [override, named, write_eq, chosen]
  rfl

def lastChoice? (k : Key) (overrides : List (String × Value)) : Option k.Choice :=
  (overrides.reverse.lookup k.name).bind fun v => (choiceOf k v).toOption

/-- An override counts only if no later one is for the same key. -/
theorem lastChoice?_cons_self {k : Key} {x : k.Choice} (named : Key.ofName? o.1 = some k)
    (chosen : choiceOf k o.2 = .ok x) (accepted : ∀ o ∈ overrides, Acceptable o) :
    lastChoice? k (o :: overrides) = (lastChoice? k overrides).or (some x) := by
  unfold lastChoice?
  rw [List.reverse_cons, List.lookup_append]
  cases last : overrides.reverse.lookup k.name with
  | none =>
      have name := Key.ofName?_eq_some_iff.mp named
      rw [List.lookup_cons]
      simp [name, chosen, Except.toOption]
  | some v =>
      -- the value is one of those that were accepted, so it does make a choice
      obtain ⟨before, after, place, _⟩ := List.lookup_eq_some_iff.mp last
      have given : (k.name, v) ∈ overrides := by
        rw [← List.mem_reverse, place]
        simp
      obtain ⟨k', x', named', chosen'⟩ := accepted _ given
      obtain rfl := Key.name_injective (Key.ofName?_eq_some_iff.mp named')
      simp [chosen', Except.toOption]

theorem lastChoice?_cons_of_ne {k other : Key} (named : Key.ofName? o.1 = some k)
    (apart : k ≠ other) : lastChoice? other (o :: overrides) = lastChoice? other overrides := by
  have name := Key.ofName?_eq_some_iff.mp named
  have differ : (other.name == o.1) = false := by
    rw [← name, beq_eq_false_iff_ne]
    exact fun same => apart (Key.name_injective same.symm)
  unfold lastChoice?
  rw [List.reverse_cons, List.lookup_append, List.lookup_cons]
  simp [differ]

/-- The first override that is not accepted decides; otherwise the last choices count. -/
theorem overrideAll_outcome (s : Settings) (overrides : List (String × Value)) :
    match overrideAll s overrides with
    | .error f => (overrides.filterMap complaint?).head? = some f
    | .ok s' => (∀ o ∈ overrides, Acceptable o) ∧
        ∀ k, s'.get k = (lastChoice? k overrides).getD (s.get k) := by
  induction overrides generalizing s with
  | nil => exact ⟨nofun, fun _ => rfl⟩
  | cons o overrides ih =>
      cases wrong : complaint? o with
      | some f =>
          simp only [overrideAll, override_of_complaint wrong]
          simp [bind, Except.bind, wrong]
      | none =>
          obtain ⟨k, x, named, chosen⟩ := acceptable_iff.mpr wrong
          have rest := ih (s.set k x)
          simp only [overrideAll, override_of_choice named chosen, bind, Except.bind]
          cases done : overrideAll (s.set k x) overrides with
          | error f =>
              rw [done] at rest
              simpa [wrong] using rest
          | ok s' =>
              rw [done] at rest
              obtain ⟨accepted, choices⟩ := rest
              refine ⟨List.forall_mem_cons.mpr ⟨⟨k, x, named, chosen⟩, accepted⟩, ?_⟩
              intro other
              by_cases same : k = other
              · subst same
                rw [choices, Settings.get_set_self, lastChoice?_cons_self named chosen accepted]
                cases lastChoice? k overrides <;> rfl
              · rw [choices, s.get_set_of_ne x same, lastChoice?_cons_of_ne named same]

end Config

end RosMiddleware
