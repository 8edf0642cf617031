import RosMiddleware.Proofs.Overrides

/-!
Overrides by way of a value. The settings are written down as an object, the field of the key is
replaced, and the object is read back as a whole. All other fields are read back as they were
written, so an override does to one setting what its key and its value say, or nothing at all,
and of several overrides the last one that was accepted for a key counts.
-/
namespace RosMiddleware

open Json (Value)

namespace Settings

def Key.encode : (k : Key) → k.Choice → Value
  | .keepTransportPolicy, b | .createListeners, b => .bool b
  | .memoryPolicy, policy => .text policy.name

def Key.byName : List Key := [.createListeners, .memoryPolicy, .keepTransportPolicy]

def record (values : Key → Value) (keys : List Key) : List (String × Value) :=
  keys.map fun k => (k.name, values k)

def toValue (s : Settings) : Value :=
  .ofFields (record (fun k => k.encode (s.get k)) Key.all)

theorem toValue_eq (s : Settings) :
    s.toValue = .object (record (fun k => k.encode (s.get k)) Key.byName) := by
  have policy : Key.memoryPolicy.name < Key.keepTransportPolicy.name := by decide
  have create : Key.createListeners.name < Key.memoryPolicy.name := by decide
  simp only [toValue, Value.ofFields, record, Key.all, Key.byName, List.map_cons, List.map_nil,
    List.foldl_cons, List.foldl_nil, Json.setField, policy, create, if_true]

theorem Key.mem_byName (k : Key) : k ∈ Key.byName := by
  cases k <;> decide

theorem Key.nodup_byName : Key.byName.Nodup := by
  decide

theorem set_comm (s : Settings) {k other : Key} (apart : k ≠ other) (x : k.Choice)
    (y : other.Choice) : (s.set k x).set other y = (s.set other y).set k x := by
  cases k <;> cases other <;> first | rfl | exact absurd rfl apart

theorem set_set_self (s : Settings) (k : Key) (x : k.Choice) :
    (s.set k x).set k x = s.set k x := by
  cases k <;> rfl

end Settings

namespace Config

open Settings (Key record)

/-- The fields with a value in the place of the one under the name, if there is one. -/
def replaceField? (name : String) (v : Value) :
    List (String × Value) → Option (List (String × Value))
  | [] => none
  | field :: fields =>
    if field.1 = name then some ((name, v) :: fields)
    else (replaceField? name v fields).map (field :: ·)

/-- Fields one after another; each key is there at most once. -/
def readFields : List (String × Value) → List Key → Settings → Except Mismatch Settings
  | [], _, s => .ok s
  | (name, v) :: fields, seen, s =>
    match Key.ofName? name with
    | none => .error (.unknownField name)
    | some k =>
      if k ∈ seen then .error (.repeatedField name)
      else
        match write s v k with
        | .error mismatch => .error mismatch
        | .ok s => readFields fields (k :: seen) s

/-- One override, and the settings that it leaves. Keys that are missing have their defaults. -/
def patch (s : Settings) (key : String) (v : Value) : Except Fault Unit × Settings :=
  match s.toValue with
  | .object fields =>
    match replaceField? key v fields with
    | none => (.error (.unknownKey key), s)
    | some fields =>
      match readFields fields [] {} with
      | .error mismatch => (.error (.badValue key mismatch), s)
      | .ok s => (.ok (), s)
  | _ => (.error (.unknownKey key), s)

/-- What fails leaves the settings as they are. -/
def leaving (s : Settings) : Except Fault Settings → Except Fault Unit × Settings
  | .ok s => (.ok (), s)
  | .error f => (.error f, s)

theorem choiceOf_encode (k : Key) (x : k.Choice) : choiceOf k (k.encode x) = .ok x := by
  cases k with
  | keepTransportPolicy | createListeners => rfl
  | memoryPolicy => cases x <;> rfl

/-! ### One field is replaced -/

def instead (k : Key) (v : Value) (values : Key → Value) (other : Key) : Value :=
  if other = k then v else values other

variable {values : Key → Value} {keys seen : List Key} {k : Key} {s : Settings} {v : Value}

theorem record_instead_of_not_mem (values : Key → Value) (v : Value) (absent : k ∉ keys) :
    record (instead k v values) keys = record values keys := by
  refine List.map_congr_left fun other mem => ?_
  rw [instead, if_neg]
  rintro rfl
  exact absent mem

/-- The slot of a key is there in every record of all keys. -/
theorem replaceField?_record (nodup : keys.Nodup) (mem : k ∈ keys) :
    replaceField? k.name v (record values keys) = some (record (instead k v values) keys) := by
  induction keys with
  | nil => cases mem
  | cons head keys ih =>
      obtain ⟨absent, nodup⟩ := List.nodup_cons.mp nodup
      by_cases same : head = k
      · subst same
        have rest := record_instead_of_not_mem values v absent
        simp only [record, List.map_cons, replaceField?, instead, if_true] at rest ⊢
        rw [rest]
      · have apart : head.name ≠ k.name := fun equal => same (Key.name_injective equal)
        have found := ih nodup ((List.mem_cons.mp mem).resolve_left (Ne.symm same))
        simp only [record] at found
        simp [record, replaceField?, apart, found, instead, same]

theorem replaceField?_record_of_unknown {key : String} (unknown : Key.ofName? key = none) :
    replaceField? key v (record values keys) = none := by
  have apart : ∀ k : Key, k.name ≠ key := by
    intro k same
    cases unknown.symm.trans (Key.ofName?_eq_some_iff.mpr same)
  induction keys with
  | nil => rfl
  | cons head keys ih =>
      simp only [record] at ih
      simp [record, replaceField?, apart, ih]

/-! ### The whole is read back -/

def choose (values : Key → Value) (s : Settings) (k : Key) : Except Mismatch Settings :=
  (choiceOf k (values k)).map (s.set k)

/-- Keys that are there once are chosen for one after another. -/
theorem readFields_record (nodup : keys.Nodup) (fresh : ∀ k ∈ keys, k ∉ seen) :
    readFields (record values keys) seen s = keys.foldlM (choose values) s := by
  induction keys generalizing seen s with
  | nil => rfl
  | cons head keys ih =>
      obtain ⟨absent, nodup⟩ := List.nodup_cons.mp nodup
      obtain ⟨unseen, fresh⟩ := List.forall_mem_cons.mp fresh
      have fresh : ∀ k ∈ keys, k ∉ head :: seen := by
        intro k mem
        rw [List.mem_cons, not_or]
        exact ⟨fun same => absent (same ▸ mem), fresh k mem⟩
      have rest (s : Settings) := ih (s := s) nodup fresh
      rw [record] at rest
      rw [record, List.map_cons, readFields, Key.ofName?_eq_some_iff.mpr rfl, List.foldlM_cons]
      simp only [unseen, if_false, write_eq, choose]
      cases choiceOf head (values head) with
      | error mismatch => rfl
      | ok x => exact rest _

theorem choose_of_choice {x : k.Choice} (chosen : choiceOf k (values k) = .ok x) :
    choose values s k = .ok (s.set k x) := by
  rw [choose, chosen]
  rfl

/-- With a choice under each key, the settings have these choices. -/
theorem foldlM_choose {t : Settings}
    (choices : ∀ k ∈ keys, choiceOf k (values k) = .ok (t.get k)) :
    keys.foldlM (choose values) s = .ok (keys.foldl (fun s k => s.set k (t.get k)) s) := by
  induction keys generalizing s with
  | nil => rfl
  | cons head keys ih =>
      obtain ⟨choice, choices⟩ := List.forall_mem_cons.mp choices
      rw [List.foldlM_cons, choose_of_choice choice]
      exact ih choices

/-- With no choice under one key, that is what is wrong. -/
theorem foldlM_choose_of_mismatch {mismatch : Mismatch} (mem : k ∈ keys)
    (wrong : choiceOf k (values k) = .error mismatch)
    (choices : ∀ other, other ≠ k → ∃ x, choiceOf other (values other) = .ok x) :
    keys.foldlM (choose values) s = .error mismatch := by
  induction keys generalizing s with
  | nil => cases mem
  | cons head keys ih =>
      rw [List.foldlM_cons]
      by_cases same : head = k
      · subst same
        rw [choose, wrong]
        rfl
      · obtain ⟨x, choice⟩ := choices head same
        rw [choose_of_choice choice]
        exact ih ((List.mem_cons.mp mem).resolve_left (Ne.symm same))

theorem readFields_byName :
    readFields (record values Key.byName) [] s = Key.byName.foldlM (choose values) s :=
  readFields_record Key.nodup_byName (by simp)

theorem foldl_set_get (s t : Settings) :
    Key.byName.foldl (fun s k => s.set k (t.get k)) s = t := rfl

/-- What is written down and patched is read back with the one change. -/
theorem patch_eq (s : Settings) (key : String) (v : Value) :
    patch s key v = leaving s (override s key v) := by
  rw [patch, Settings.toValue_eq]
  dsimp only
  cases named : Key.ofName? key with
  | none =>
      rw [replaceField?_record_of_unknown named]
      simp only [override, named, leaving]
  | some k =>
      obtain rfl := Key.ofName?_eq_some_iff.mp named
      rw [replaceField?_record Key.nodup_byName k.mem_byName]
      dsimp only
      rw [readFields_byName]
      -- under the key there is the new value, under the others what was written down
      have patched : instead k v (fun k => k.encode (s.get k)) k = v := if_pos rfl
      have others : ∀ other, other ≠ k →
          choiceOf other (instead k v (fun k => k.encode (s.get k)) other) =
            .ok (s.get other) := by
        intro other apart
        rw [instead, if_neg apart, choiceOf_encode]
      cases chosen : choiceOf k v with
      | ok x =>
          have choices : ∀ other ∈ Key.byName,
              choiceOf other (instead k v (fun k => k.encode (s.get k)) other) =
                .ok ((s.set k x).get other) := by
            intro other _
            by_cases same : other = k
            · subst same
              rw [patched, chosen, Settings.get_set_self]
            · rw [others other same, s.get_set_of_ne x (Ne.symm same)]
          rw [foldlM_choose choices, foldl_set_get,
            override_of_choice (o := (k.name, v)) named chosen]
          rfl
      | error mismatch =>
          have wrong := (congrArg (choiceOf k) patched).trans chosen
          have complaint : complaint? (k.name, v) = some (.badValue k.name mismatch) := by
            simp only [complaint?, named, chosen]
          rw [foldlM_choose_of_mismatch k.mem_byName wrong fun other apart =>
            ⟨_, others other apart⟩, override_of_complaint complaint]
          rfl

/-! ### Overrides one after another -/

def patched (s : Settings) (o : String × Value) : Settings := (patch s o.1 o.2).2

/-- The settings that overrides leave; those that fail are passed over. -/
def patchAll (s : Settings) (overrides : List (String × Value)) : Settings :=
  overrides.foldl patched s

structure Changed (s s' : Settings) (k : Key) (x : k.Choice) : Prop where
  chosen : s'.get k = x
  kept : ∀ other, other ≠ k → s'.get other = s.get other

theorem changed_set (s : Settings) (k : Key) (x : k.Choice) : Changed s (s.set k x) k x where
  chosen := s.get_set_self k x
  kept _ apart := s.get_set_of_ne x (Ne.symm apart)

/-- Whatever the settings are, an override fails or it does not. -/
theorem patch_cases (o : String × Value) :
    (∃ f, ∀ s, patch s o.1 o.2 = (.error f, s)) ∨
      ∃ k x, Key.name k = o.1 ∧ ∀ s, patch s o.1 o.2 = (.ok (), s.set k x) := by
  cases wrong : complaint? o with
  | some f =>
      refine .inl ⟨f, fun s => ?_⟩
      rw [patch_eq, override_of_complaint wrong]
      rfl
  | none =>
      obtain ⟨k, x, named, chosen⟩ := acceptable_iff.mpr wrong
      refine .inr ⟨k, x, Key.ofName?_eq_some_iff.mp named, fun s => ?_⟩
      rw [patch_eq, override_of_choice named chosen]
      rfl

/-- An override for this key that does not fail. It fails for all settings or for none, so the
defaults show it. -/
def acceptedFor (k : Key) (o : String × Value) : Bool :=
  o.1 == k.name && (patch {} o.1 o.2).1.isOk

def lastAccepted? (k : Key) (overrides : List (String × Value)) : Option (String × Value) :=
  overrides.reverse.find? (acceptedFor k)

theorem get_patched_of_accepted {o : String × Value} (accepted : acceptedFor k o = true)
    (s t : Settings) : (patched s o).get k = (patched t o).get k := by
  simp only [acceptedFor, Bool.and_eq_true, beq_iff_eq] at accepted
  obtain ⟨name, ok⟩ := accepted
  obtain ⟨f, failed⟩ | ⟨other, x, name', done⟩ := patch_cases o
  · rw [failed] at ok
    cases ok
  · obtain rfl : other = k := Key.name_injective (name'.trans name)
    rw [patched, patched, done, done, Settings.get_set_self, Settings.get_set_self]

theorem get_patched_of_not_accepted {o : String × Value} (passed : ¬ acceptedFor k o = true)
    (s : Settings) : (patched s o).get k = s.get k := by
  obtain ⟨f, failed⟩ | ⟨other, x, name, done⟩ := patch_cases o
  · rw [patched, failed]
  · have apart : other ≠ k := by
      rintro rfl
      exact passed (by simp [acceptedFor, name, done, Except.isOk, Except.toBool])
    rw [patched, done, s.get_set_of_ne x apart]

/-- Of the overrides for a key that are accepted only the last one shows, whatever settings it met.
-/
theorem get_patchAll (s : Settings) (overrides : List (String × Value)) (k : Key) :
    match lastAccepted? k overrides with
    | some o => ∀ t, (patchAll s overrides).get k = (patched t o).get k
    | none => (patchAll s overrides).get k = s.get k := by
  rw [lastAccepted?, patchAll]
  -- the induction is on the overrides from the last one back
  rw [← List.foldr_reverse (f := fun o s => patched s o)]
  induction overrides.reverse with
  | nil => rfl
  | cons o overrides ih =>
      rw [List.find?_cons, List.foldr_cons]
      cases accepted : acceptedFor k o with
      | true => exact get_patched_of_accepted accepted _
      | false =>
          dsimp only
          have passed := get_patched_of_not_accepted (k := k) (o := o) (by simp [accepted])
          rw [passed]
          exact ih

theorem patched_comm (s : Settings) {o other : String × Value} (apart : o.1 ≠ other.1) :
    patched (patched s o) other = patched (patched s other) o := by
  obtain ⟨f, failed⟩ | ⟨k, x, name, done⟩ := patch_cases o
  · simp only [patched, failed]
  · obtain ⟨f, failed⟩ | ⟨k', x', name', done'⟩ := patch_cases other
    · simp only [patched, failed]
    · have keys : k ≠ k' := by
        rintro rfl
        exact apart (name.symm.trans name')
      simp only [patched, done, done']
      exact s.set_comm keys x x'

theorem patch_patched (s : Settings) (o : String × Value) :
    patch (patched s o) o.1 o.2 = patch s o.1 o.2 := by
  obtain ⟨f, failed⟩ | ⟨k, x, _, done⟩ := patch_cases o
  · rw [patched, failed, failed]
  · rw [patched, done, done, s.set_set_self]

theorem patchAll_append (s : Settings) (before after : List (String × Value)) :
    patchAll s (before ++ after) = patchAll (patchAll s before) after :=
  List.foldl_append

/-- An override is a matter of its key and its value: it fails for all settings, or it makes the
same choice in all of them and no other. Of several ones the last that is accepted for a key
counts, wherever those for other keys stand and however often it is repeated. -/
theorem patch_by_key_and_value :
    (∀ s key v, patch s key v = leaving s (override s key v)) ∧
      (∀ key v, (∃ f, ∀ s, patch s key v = (.error f, s)) ∨
        ∃ k x, Key.name k = key ∧ ∀ s, ∃ s', patch s key v = (.ok (), s') ∧ Changed s s' k x) ∧
      (∀ s overrides k,
        match lastAccepted? k overrides with
        | some o => ∀ t, (patchAll s overrides).get k = (patched t o).get k
        | none => (patchAll s overrides).get k = s.get k) ∧
      (∀ s before after o other, o.1 ≠ other.1 →
        patchAll s (before ++ o :: other :: after) =
          patchAll s (before ++ other :: o :: after)) ∧
      ∀ s o, patch (patched s o) o.1 o.2 = patch s o.1 o.2 := by
  refine ⟨patch_eq, fun key v => ?_, get_patchAll, ?_, patch_patched⟩
  · obtain failed | ⟨k, x, name, done⟩ := patch_cases (key, v)
    · exact .inl failed
    · exact .inr ⟨k, x, name, fun s => ⟨s.set k x, done s, changed_set s k x⟩⟩
  · intro s before after o other apart
    rw [patchAll_append, patchAll_append]
    simp only [patchAll, List.foldl_cons]
    rw [patched_comm _ apart]

end Config

end RosMiddleware
