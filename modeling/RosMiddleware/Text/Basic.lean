/-!
Cutting texts apart: a leading or trailing part taken off, a text cut at the first or the
last occurrence of a marker, and pairs of colons read as slashes. The cuts are given with the
equations that say what they leave.
-/
namespace RosMiddleware.Text

/-- What follows `front` in a list of characters. -/
def dropFront? : List Char → List Char → Option (List Char)
  | [], s => some s
  | _ :: _, [] => none
  | a :: front, b :: s => if a = b then dropFront? front s else none

/-- What follows `front` in `s`. -/
def stripFront? (front s : String) : Option String :=
  (dropFront? front.toList s.toList).map String.ofList

/-- What precedes `back` in `s`. -/
def stripBack? (back s : String) : Option String :=
  (dropFront? back.toList.reverse s.toList.reverse).map fun rest => String.ofList rest.reverse

/-- The parts of `s` before and after the first occurrence of `marker`. -/
def cutFirst? (marker : List Char) : List Char → Option (List Char × List Char)
  | [] => if marker = [] then some ([], []) else none
  | c :: s =>
    match dropFront? marker (c :: s) with
    | some rest => some ([], rest)
    | none => (cutFirst? marker s).map fun cut => (c :: cut.1, cut.2)

/-- The parts of `s` before and after the last occurrence of `marker`. -/
def cutLast? (marker s : List Char) : Option (List Char × List Char) :=
  (cutFirst? marker.reverse s.reverse).map fun cut => (cut.2.reverse, cut.1.reverse)

/-- Whether `marker` stands anywhere in `s`. -/
def contains (marker s : String) : Bool :=
  (cutFirst? marker.toList s.toList).isSome

/-- Pairs of colons become slashes, from the left; a colon that stands alone stays. -/
def slashed : List Char → List Char
  | [] => []
  | [c] => [c]
  | c :: d :: s => if c = ':' ∧ d = ':' then '/' :: slashed s else c :: slashed (d :: s)

theorem dropFront?_eq_some_iff {front s rest : List Char} :
    dropFront? front s = some rest ↔ s = front ++ rest := by
  fun_induction dropFront? front s with
  | case1 s => simp [eq_comm]
  | case2 => simp
  | case3 a front s ih => simp [ih]
  | case4 a front b s h => simp [Ne.symm h]

theorem stripFront?_eq_some_iff {front s rest : String} :
    stripFront? front s = some rest ↔ s = front ++ rest := by
  simp only [stripFront?, Option.map_eq_some_iff, dropFront?_eq_some_iff]
  constructor
  · rintro ⟨r, h, rfl⟩
    rw [← String.toList_inj]
    simpa using h
  · rintro rfl
    exact ⟨rest.toList, by simp, by simp⟩

theorem stripBack?_eq_some_iff {back s rest : String} :
    stripBack? back s = some rest ↔ s = rest ++ back := by
  simp only [stripBack?, Option.map_eq_some_iff, dropFront?_eq_some_iff]
  constructor
  · rintro ⟨r, h, rfl⟩
    rw [← String.toList_inj]
    simpa using congrArg List.reverse h
  · rintro rfl
    exact ⟨rest.toList.reverse, by simp, by simp⟩

theorem stripBack?_eq_none_iff {back s : String} :
    stripBack? back s = none ↔ ¬ back.toList <:+ s.toList := by
  rw [Option.eq_none_iff_forall_ne_some]
  constructor
  · intro missing ends
    obtain ⟨rest, same⟩ := ends
    refine missing (String.ofList rest) (stripBack?_eq_some_iff.2 ?_)
    rw [← String.toList_inj, String.toList_append, String.toList_ofList, same]
  · intro apart rest found
    rw [stripBack?_eq_some_iff.1 found, String.toList_append] at apart
    exact apart (List.suffix_append _ _)

theorem stripFront?_eq_none_iff {front s : String} :
    stripFront? front s = none ↔ ¬ front.toList <+: s.toList := by
  rw [Option.eq_none_iff_forall_ne_some]
  constructor
  · intro missing begins
    obtain ⟨rest, same⟩ := begins
    refine missing (String.ofList rest) (stripFront?_eq_some_iff.2 ?_)
    rw [← String.toList_inj, String.toList_append, String.toList_ofList, same]
  · intro apart rest found
    rw [stripFront?_eq_some_iff.1 found, String.toList_append] at apart
    exact apart (List.prefix_append _ _)

/-- A cut gives the text back, and the marker stands nowhere earlier. -/
theorem append_of_cutFirst? {marker s a b : List Char} (h : cutFirst? marker s = some (a, b)) :
    s = a ++ marker ++ b := by
  induction s generalizing a b with
  | nil => simp only [cutFirst?] at h; split at h <;> simp_all
  | cons c s ih =>
    simp only [cutFirst?] at h
    split at h
    · rename_i rest hp
      simp only [Option.some.injEq, Prod.mk.injEq] at h
      obtain ⟨rfl, rfl⟩ := h
      simpa using dropFront?_eq_some_iff.1 hp
    · simp only [Option.map_eq_some_iff, Prod.mk.injEq] at h
      obtain ⟨cut, hc, rfl, rfl⟩ := h
      simpa using ih hc

theorem append_of_cutLast? {marker s a b : List Char} (h : cutLast? marker s = some (a, b)) :
    s = a ++ marker ++ b := by
  simp only [cutLast?, Option.map_eq_some_iff, Prod.mk.injEq] at h
  obtain ⟨cut, hc, rfl, rfl⟩ := h
  simpa using congrArg List.reverse (append_of_cutFirst? hc)

end RosMiddleware.Text
