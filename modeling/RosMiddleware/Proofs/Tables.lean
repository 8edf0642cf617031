import Std.Data.ExtTreeMap

/-!
Tables with entries put in and taken out, one or many at a time. Two tables with the same
entries are equal, so what an operation undoes or leaves alone is stated as an equation.
-/
namespace RosMiddleware

section Table

variable {α β : Type} [Ord α] [Std.TransOrd α] (m : Std.ExtTreeMap α β) {k : α}

theorem table_mem_of_some {a : β} (h : m[k]? = some a) : k ∈ m :=
  (Std.ExtTreeMap.getElem?_eq_some_iff.mp h).1

theorem table_not_mem_of_none (h : m[k]? = none) : k ∉ m := by
  rw [Std.ExtTreeMap.mem_iff_isSome_getElem?, h]
  simp

variable [Std.LawfulEqOrd α] [DecidableEq α]

theorem table_insert_insert (k : α) (a b : β) :
    (m.insert k a).insert k b = m.insert k b := by
  ext1 other
  by_cases h : k = other <;> simp [Std.ExtTreeMap.getElem?_insert, h]

theorem table_erase_insert (k : α) (a : β) : (m.insert k a).erase k = m.erase k := by
  ext1 other
  by_cases h : k = other <;>
    simp [Std.ExtTreeMap.getElem?_insert, Std.ExtTreeMap.getElem?_erase, h]

theorem table_insert_of_some {a : β} (h : m[k]? = some a) : m.insert k a = m := by
  ext1 other
  by_cases same : k = other
  · subst same
    simp [h]
  · simp [Std.ExtTreeMap.getElem?_insert, same]

theorem table_erase_of_none (h : m[k]? = none) : m.erase k = m := by
  ext1 other
  by_cases same : k = other
  · subst same
    simp [h]
  · simp [Std.ExtTreeMap.getElem?_erase, same]

theorem getElem?_foldl_erase (keys : List α) (other : α) :
    (keys.foldl (fun m k => m.erase k) m)[other]? = if other ∈ keys then none else m[other]? := by
  induction keys generalizing m with
  | nil => simp
  | cons k keys ih =>
      simp only [List.foldl_cons, ih, Std.ExtTreeMap.getElem?_erase, List.mem_cons,
        Std.LawfulEqCmp.compare_eq_iff_eq]
      grind

theorem foldl_erase_eq_empty (keys : List α) (all : ∀ k ∈ m, k ∈ keys) :
    keys.foldl (fun m k => m.erase k) m = ∅ := by
  ext1 k
  rw [getElem?_foldl_erase, Std.ExtTreeMap.getElem?_empty]
  split
  · rfl
  · rename_i left
    exact Std.ExtTreeMap.getElem?_eq_none (mt (all k) left)

end Table

end RosMiddleware
