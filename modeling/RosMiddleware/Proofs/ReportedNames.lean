import RosMiddleware.NamesAndTypes
import RosMiddleware.Proofs.Tables

/-!
What stands in a container of names and types. A table of types by names is determined by
the pairs in it as long as no name stands there without a type, and a container that is
filled from such a table reports those pairs, in ascending order.
-/
namespace RosMiddleware

theorem compare_eq_lt_iff {a b : String} : compare a b = .lt ↔ a < b :=
  compareOfLessAndEq_eq_lt

namespace TypesByName

def Under (m : TypesByName) (name type : String) : Prop :=
  ∃ types, m[name]? = some types ∧ type ∈ types

/-- No name stands without a type. -/
def Populated (m : TypesByName) : Prop :=
  ∀ (name : String) (types : Std.ExtTreeSet String), m[name]? = some types → ∃ type, type ∈ types

theorem not_under_empty (name type : String) : ¬ Under ∅ name type := by
  simp [Under]

theorem populated_empty : Populated ∅ := by
  simp [Populated]

theorem under_add (m : TypesByName) (name type other otherType : String) :
    (m.add name type).Under other otherType ↔
      name = other ∧ type = otherType ∨ m.Under other otherType := by
  by_cases h : name = other
  · subst h
    cases known : m[name]? <;> simp [Under, add, known]
  · simp [Under, add, Std.ExtTreeMap.getElem?_insert, h]

theorem populated_add {m : TypesByName} (populated : m.Populated) (name type : String) :
    (m.add name type).Populated := by
  intro other types known
  rw [add, Std.ExtTreeMap.getElem?_insert] at known
  split at known
  · cases known
    exact ⟨type, Std.ExtTreeSet.mem_insert_self⟩
  · exact populated other types known

theorem under_foldl_add (pairs : List (String × String)) (m : TypesByName)
    (name type : String) :
    (pairs.foldl (fun m pair => m.add pair.1 pair.2) m).Under name type ↔
      (name, type) ∈ pairs ∨ m.Under name type := by
  induction pairs generalizing m with
  | nil => simp
  | cons pair pairs ih =>
      rw [List.foldl_cons, ih, under_add, List.mem_cons, Prod.ext_iff]
      grind

theorem populated_foldl_add (pairs : List (String × String)) {m : TypesByName}
    (populated : m.Populated) :
    (pairs.foldl (fun m pair => m.add pair.1 pair.2) m).Populated := by
  induction pairs generalizing m with
  | nil => exact populated
  | cons pair pairs ih => exact ih (populated_add populated pair.1 pair.2)

theorem size_foldl_add_le (pairs : List (String × String)) (m : TypesByName) :
    (pairs.foldl (fun m pair => m.add pair.1 pair.2) m).size ≤ m.size + pairs.length := by
  induction pairs generalizing m with
  | nil => exact Nat.le_refl _
  | cons pair pairs ih =>
      have one : (m.add pair.1 pair.2).size ≤ m.size + 1 := Std.ExtTreeMap.size_insert_le
      have rest := ih (m.add pair.1 pair.2)
      rw [List.foldl_cons, List.length_cons]
      omega

/-- A name of one table is in the other, since it has a type. -/
theorem mem_of_under_imp {m m' : TypesByName} (populated : m.Populated)
    (sub : ∀ name type, m.Under name type → m'.Under name type) {name : String}
    (known : name ∈ m) : name ∈ m' := by
  have stands := Std.ExtTreeMap.getElem?_eq_some_getElem known
  obtain ⟨type, inside⟩ := populated name _ stands
  obtain ⟨types, known', _⟩ := sub name type ⟨_, stands, inside⟩
  exact table_mem_of_some _ known'

/-- A table is known by what it reports. -/
theorem eq_of_under {m m' : TypesByName} (populated : m.Populated) (populated' : m'.Populated)
    (same : ∀ name type, m.Under name type ↔ m'.Under name type) : m = m' := by
  ext1 name
  by_cases known : name ∈ m
  · have known' := mem_of_under_imp populated (fun name type => (same name type).mp) known
    have here := same name
    simp only [Under, Std.ExtTreeMap.getElem?_eq_some_getElem known,
      Std.ExtTreeMap.getElem?_eq_some_getElem known', Option.some.injEq, exists_eq_left'] at here ⊢
    exact Std.ExtTreeSet.ext_mem here
  · have unknown := mt (mem_of_under_imp populated' fun name type => (same name type).mpr) known
    rw [Std.ExtTreeMap.getElem?_eq_none known, Std.ExtTreeMap.getElem?_eq_none unknown]

/-- An entry is found by its name. -/
theorem find?_toList (m : TypesByName) (name : String) :
    m.toList.find? (fun entry => entry.1 == name) = m[name]?.map fun types => (name, types) := by
  have same : (fun entry : String × Std.ExtTreeSet String => entry.1 == name) =
      fun entry => compare entry.1 name == .eq := by
    funext entry
    rw [Bool.eq_iff_iff]
    simp
  rw [same]
  cases known : m[name]? with
  | none =>
      exact Std.ExtTreeMap.find?_toList_eq_none_iff_not_mem.mpr (table_not_mem_of_none m known)
  | some types =>
      refine Std.ExtTreeMap.find?_toList_eq_some_iff_getKey?_eq_some_and_getElem?_eq_some.mpr
        ⟨?_, known⟩
      exact Std.ExtTreeMap.getKey?_eq_some (table_mem_of_some m known)

theorem size_le_of_under {m m' : TypesByName} (populated : m.Populated)
    (sub : ∀ name type, m.Under name type → m'.Under name type) : m.size ≤ m'.size := by
  have names : ∀ name, name ∈ m → name ∈ m' := fun _ => mem_of_under_imp populated sub
  rw [← Std.ExtTreeMap.size_inter_eq_size_left names]
  exact Std.ExtTreeMap.size_inter_le_size_right

end TypesByName

namespace NamesAndTypes

def Reports (c : NamesAndTypes) (name type : String) : Prop :=
  ∃ types, (name, types) ∈ c.entries ∧ type ∈ types

/-- Names in ascending order, each with some types, in ascending order as well. -/
structure Ordered (c : NamesAndTypes) : Prop where
  paired : c.names.length = c.types.length
  names : c.names.Pairwise (· < ·)
  typed : ∀ types ∈ c.types, types ≠ []
  types : ∀ types ∈ c.types, types.Pairwise (· < ·)

/-- The container holds the entries of a table and no others, in their order. -/
structure Holds (c : NamesAndTypes) (m : TypesByName) : Prop where
  entries : c.entries = m.toList.map fun entry => (entry.1, entry.2.toList)
  paired : c.names.length = c.types.length
  names : c.names.Pairwise (· < ·)
  types : ∀ types ∈ c.types, types.Pairwise (· < ·)

def mostEntries : Nat := largestRequest / entrySize

def ofTable (m : TypesByName) : NamesAndTypes where
  names := m.toList.map fun entry => entry.1
  types := m.toList.map fun entry => entry.2.toList
  storage := m.size

theorem isZero_iff {c : NamesAndTypes} : c.isZero = true ↔ c = {} := by
  obtain ⟨names, types, storage⟩ := c
  simp [isZero, and_assoc]

theorem mostEntries_lt_iff {size : Nat} :
    mostEntries < size ↔ largestRequest < entrySize * size := by
  rw [mostEntries, Nat.div_lt_iff_lt_mul (by decide), Nat.mul_comm]

theorem fill_zero (m : TypesByName) :
    fill {} m = if mostEntries < m.size then .error .outputTooLarge else .ok (ofTable m) := by
  simp only [fill, reserve, checkZero, isZero, mostEntries_lt_iff]
  by_cases h : largestRequest < entrySize * m.size <;> simp [h, ofTable]

theorem entries_ofTable (m : TypesByName) :
    (ofTable m).entries = m.toList.map fun entry => (entry.1, entry.2.toList) := by
  rw [entries, ofTable, List.zip_map']

theorem holds_ofTable (m : TypesByName) : (ofTable m).Holds m where
  entries := entries_ofTable m
  paired := by simp [ofTable]
  names := by
    refine List.pairwise_map.mpr (m.ordered_keys_toList.imp ?_)
    exact fun h => compare_eq_lt_iff.mp h
  types := by
    simp only [ofTable, List.mem_map]
    rintro _ ⟨entry, _, rfl⟩
    exact entry.2.ordered_toList.imp fun h => compare_eq_lt_iff.mp h

theorem get?_ofTable (m : TypesByName) (name : String) :
    (ofTable m).get? name = m[name]?.map fun types => types.toList := by
  rw [get?, entries_ofTable, List.find?_map]
  change ((m.toList.find? fun entry => entry.1 == name).map _).map _ = _
  rw [m.find?_toList name]
  cases m[name]? <;> rfl

theorem reports_ofTable {m : TypesByName} {name type : String} :
    (ofTable m).Reports name type ↔ m.Under name type := by
  simp only [Reports, entries_ofTable, List.mem_map, Prod.ext_iff]
  constructor
  · rintro ⟨_, ⟨entry, stands, rfl, rfl⟩, inside⟩
    exact ⟨entry.2, Std.ExtTreeMap.mem_toList_iff_getElem?_eq_some.mp stands,
      Std.ExtTreeSet.mem_toList.mp inside⟩
  · rintro ⟨types, known, inside⟩
    exact ⟨types.toList,
      ⟨(name, types), Std.ExtTreeMap.mem_toList_iff_getElem?_eq_some.mpr known, rfl, rfl⟩,
      Std.ExtTreeSet.mem_toList.mpr inside⟩

theorem ordered_ofTable {m : TypesByName} (populated : m.Populated) : (ofTable m).Ordered where
  paired := (holds_ofTable m).paired
  names := (holds_ofTable m).names
  typed := by
    simp only [ofTable, List.mem_map]
    rintro _ ⟨entry, stands, rfl⟩
    obtain ⟨type, inside⟩ :=
      populated _ _ (Std.ExtTreeMap.mem_toList_iff_getElem?_eq_some.mp stands)
    exact List.ne_nil_of_mem (Std.ExtTreeSet.mem_toList.mpr inside)
  types := (holds_ofTable m).types

end NamesAndTypes

end RosMiddleware
