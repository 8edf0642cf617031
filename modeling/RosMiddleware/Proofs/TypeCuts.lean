import RosMiddleware.Demangler

/-!
Where the name of a type is cut. The cut is made at the first marker, and what comes after
the first marker does not move it. Markers do not overlap, so one that is put behind a text
without any is the first.
-/
namespace RosMiddleware

namespace Text

theorem dropFront?_eq_none_iff {front s : List Char} :
    dropFront? front s = none ↔ ¬ front <+: s := by
  rw [Option.eq_none_iff_forall_ne_some]
  constructor
  · rintro missing ⟨rest, rfl⟩
    exact missing rest (dropFront?_eq_some_iff.mpr rfl)
  · intro apart rest found
    exact apart ⟨rest, (dropFront?_eq_some_iff.mp found).symm⟩

/-- What comes after the first marker does not move it. -/
theorem cutFirst?_append {marker s a b : List Char} (cut : cutFirst? marker s = some (a, b))
    (more : List Char) : cutFirst? marker (s ++ more) = some (a, b ++ more) := by
  induction s generalizing a b with
  | nil =>
      simp only [cutFirst?] at cut
      split at cut
      · rename_i none
        cases cut
        cases more <;> simp [none, cutFirst?, dropFront?]
      · cases cut
  | cons c s ih =>
      simp only [cutFirst?, List.cons_append] at cut ⊢
      split at cut
      · rename_i rest found
        cases cut
        have begins := dropFront?_eq_some_iff.mp found
        have found' : dropFront? marker (c :: (s ++ more)) = some (b ++ more) := by
          rw [dropFront?_eq_some_iff, ← List.append_assoc, ← begins, List.cons_append]
        rw [found']
      · rename_i elsewhere
        simp only [Option.map_eq_some_iff, Prod.mk.injEq] at cut
        obtain ⟨later, cut, rfl, rfl⟩ := cut
        -- the marker that is found further on shows that there is no room for a longer one
        have room : marker.length ≤ (c :: s).length := by
          rw [append_of_cutFirst? cut]
          simp only [List.length_cons, List.length_append]
          omega
        have elsewhere' : dropFront? marker (c :: (s ++ more)) = none := by
          rw [dropFront?_eq_none_iff] at elsewhere ⊢
          exact fun begins => elsewhere
            (List.prefix_of_prefix_length_le begins (List.prefix_append (c :: s) more) room)
        rw [elsewhere', ih cut, Option.map_some]

/-- No marker stands before the first. -/
theorem cutFirst?_before {marker s a b : List Char} (solid : marker ≠ [])
    (cut : cutFirst? marker s = some (a, b)) : cutFirst? marker a = none := by
  cases earlier : cutFirst? marker a with
  | none => rfl
  | some parts =>
      -- an earlier one would have been the first of the whole text
      have first := cutFirst?_append earlier (marker ++ b)
      rw [← List.append_assoc, ← append_of_cutFirst? cut] at first
      have same : (a, b) = (parts.1, parts.2 ++ (marker ++ b)) :=
        Option.some.inj (cut.symm.trans first)
      have lengths := congrArg (fun cut => cut.2.length) same
      have positive := List.length_pos_iff.mpr solid
      simp only [List.length_append] at lengths
      omega

theorem slashed_eq_nil_iff {s : List Char} : slashed s = [] ↔ s = [] := by
  cases s with
  | nil => simp [slashed]
  | cons c s =>
      cases s with
      | nil => simp [slashed]
      | cons d s =>
          simp only [slashed]
          split <;> simp

end Text

namespace Demangler

/-- No two markers overlap. -/
theorem marker_apart {shared : List Char} (ends : shared <:+ marker.toList)
    (begins : shared <+: marker.toList) : shared = [] ∨ shared = marker.toList := by
  have lengths : ∀ n ≤ marker.toList.length,
      marker.toList.take n = marker.toList.drop (marker.toList.length - n) →
        n = 0 ∨ n = marker.toList.length := by decide
  have taken := List.prefix_iff_eq_take.mp begins
  have dropped := List.suffix_iff_eq_drop.mp ends
  rcases lengths shared.length begins.length_le (taken.symm.trans dropped) with none | all
  · exact .inl (List.eq_nil_of_length_eq_zero none)
  · exact .inr (begins.eq_of_length all)

/-- A marker that is put behind a text without one is the first. -/
theorem cutFirst?_append_marker {before : List Char}
    (free : Text.cutFirst? marker.toList before = none) (after : List Char) :
    Text.cutFirst? marker.toList (before ++ marker.toList ++ after) = some (before, after) := by
  induction before with
  | nil => simp [marker, Text.cutFirst?, Text.dropFront?]
  | cons c before ih =>
      simp only [Text.cutFirst?] at free
      split at free
      · cases free
      rename_i elsewhere
      have elsewhere' :
          Text.dropFront? marker.toList (c :: (before ++ marker.toList ++ after)) = none := by
        rw [Text.dropFront?_eq_none_iff] at elsewhere ⊢
        rintro ⟨rest, same⟩
        rw [List.append_assoc, ← List.cons_append, List.append_eq_append_iff] at same
        rcases same with ⟨more, split, _⟩ | ⟨shared, split, rest'⟩
        · exact elsewhere ⟨more, split.symm⟩
        · have ends : shared <:+ marker.toList := ⟨_, split.symm⟩
          have begins : shared <+: marker.toList :=
            List.prefix_of_prefix_length_le ⟨rest, rest'.symm⟩ ⟨after, rfl⟩ ends.length_le
          rcases marker_apart ends begins with rfl | rfl
          · exact elsewhere ⟨[], by simpa using split⟩
          · have lengths := congrArg List.length split
            simp only [List.length_append, List.length_cons] at lengths
            omega
      rw [Option.map_eq_none_iff] at free
      simp only [List.cons_append, Text.cutFirst?, elsewhere', ih free, Option.map_some]

/-- What comes after the type comes after its last part. -/
theorem splitType?_append {type space last : String}
    (split : splitType? type = some (space, last)) (more : String) :
    splitType? (type ++ more) = some (space, last ++ more) := by
  simp only [splitType?, Option.map_eq_some_iff, Prod.mk.injEq] at split
  obtain ⟨⟨before, after⟩, found, rfl, rfl⟩ := split
  simp only [splitType?, String.toList_append, Text.cutFirst?_append found, Option.map_some,
    String.ofList_append, String.ofList_toList]

theorem contains_of_splitType? {type space last : String}
    (split : splitType? type = some (space, last)) : Text.contains marker type = true := by
  obtain ⟨cut, found, _⟩ := Option.map_eq_some_iff.mp split
  simp [Text.contains, found]

theorem stripBack?_append (back s : String) : Text.stripBack? back (s ++ back) = some s :=
  Text.stripBack?_eq_some_iff.mpr rfl

theorem splitType?_of_unmarked {before : String}
    (free : Text.contains marker before = false) (after : String) :
    splitType? (before ++ marker ++ after) =
      some (String.ofList (Text.slashed before.toList), after) := by
  have none : Text.cutFirst? marker.toList before.toList = none := by
    simpa [Text.contains] using free
  simp only [splitType?, String.toList_append, cutFirst?_append_marker none, Option.map_some,
    String.ofList_toList]

/-- What comes before the first marker has none, but may end in the middle of a longer part. -/
theorem splitType?_eq_some_iff {type space last : String} :
    splitType? type = some (space, last) ↔
      ∃ before, type = before ++ marker ++ last ∧ Text.contains marker before = false ∧
        space = String.ofList (Text.slashed before.toList) := by
  constructor
  · intro split
    simp only [splitType?, Option.map_eq_some_iff, Prod.mk.injEq] at split
    obtain ⟨⟨before, after⟩, found, rfl, rfl⟩ := split
    refine ⟨String.ofList before, ?_, ?_, by rw [String.toList_ofList]⟩
    · rw [← String.toList_inj]
      simpa using Text.append_of_cutFirst? found
    · have free := Text.cutFirst?_before (by decide) found
      simp only [Text.contains, String.toList_ofList, free, Option.isSome_none]
  · intro written
    obtain ⟨before, rfl, free, rfl⟩ := written
    exact splitType?_of_unmarked free last

/-- Behind an earlier marker there is at least the later one. -/
theorem splitType?_of_marked {before : String}
    (marked : Text.contains marker before = true) (after : String) :
    ∃ space last, splitType? (before ++ marker ++ after) = some (space, last) ∧ last ≠ "" := by
  obtain ⟨cut, found⟩ := Option.isSome_iff_exists.mp marked
  have split : splitType? before =
      some (String.ofList (Text.slashed cut.1), String.ofList cut.2) := by
    rw [splitType?, found, Option.map_some]
  rw [String.append_assoc]
  exact ⟨_, _, splitType?_append split _, by simp [marker]⟩

end Demangler

end RosMiddleware
