import RosMiddleware.Demangler
import RosMiddleware.TypeSupport

/-!
The names of message types for the transport, read back. A name has a marker between the
parts of the namespace and the name of the message. In a namespace whose parts are in order
nothing looks like the marker, so the first one that is found is the one that was put in.
-/
namespace RosMiddleware

/-- A part of a namespace can be told from what stands between parts. -/
structure Component (part : String) : Prop where
  nonempty : part ≠ ""
  colonFree : ':' ∉ part.toList
  slashFree : '/' ∉ part.toList
  unmarked : ¬ "dds_".toList <:+ part.toList

structure Spaced (space : String) (parts : List String) : Prop where
  joined : space = "::".intercalate parts
  components : ∀ part ∈ parts, Component part

variable {parts : List String}

theorem intercalate_concat_append (separator : String) (parts : List String)
    (last more : String) :
    separator.intercalate (parts ++ [last]) ++ more =
      separator.intercalate (parts ++ [last ++ more]) := by
  by_cases none : parts = []
  · simp [none]
  · rw [String.intercalate_append_of_ne_nil none (by simp),
      String.intercalate_append_of_ne_nil none (by simp)]
    simp [String.append_assoc]

theorem intercalate_cons_concat (separator part : String) (parts : List String)
    (last : String) :
    separator.intercalate (part :: parts ++ [last]) =
      part ++ separator ++ separator.intercalate (parts ++ [last]) := by
  rw [List.cons_append, String.intercalate_cons_of_ne_nil (by simp)]

/-- The marker is one more part of the namespace, which is empty if there is no other. -/
theorem MessageType.typeName_eq {type : MessageType} (spaced : Spaced type.space parts) :
    type.typeName = "::".intercalate (parts ++ ["dds_::" ++ type.name]) ++ "_" := by
  cases parts with
  | nil => simp [typeName, spaced.joined]
  | cons part parts =>
      have placed : type.space ≠ "" := by
        have first := (spaced.components part List.mem_cons_self).nonempty
        rw [spaced.joined]
        cases parts <;> simp [first]
      rw [typeName, if_neg placed, spaced.joined,
        String.intercalate_append_of_ne_nil (by simp) (by simp), String.intercalate_singleton]
      simp only [String.append_assoc]

namespace Text

theorem toList_colons : "::".toList = [':', ':'] := by decide

theorem slashed_append_colons {part : List Char} (colonFree : ':' ∉ part) (rest : List Char) :
    slashed (part ++ ':' :: ':' :: rest) = part ++ '/' :: slashed rest := by
  induction part with
  | nil => simp [slashed]
  | cons c part ih =>
      rw [List.mem_cons, not_or] at colonFree
      have later := ih colonFree.2
      cases part <;> simp_all [slashed, Ne.symm colonFree.1]

theorem slashed_intercalate (components : ∀ part ∈ parts, Component part) :
    slashed ("::".intercalate (parts ++ [""])).toList =
      ("/".intercalate (parts ++ [""])).toList := by
  induction parts with
  | nil => rfl
  | cons part parts ih =>
      have colonFree := (components part List.mem_cons_self).colonFree
      have later := ih fun other mem => components other (List.mem_cons_of_mem _ mem)
      rw [intercalate_cons_concat, intercalate_cons_concat]
      simp only [String.toList_append, List.append_assoc, toList_colons, List.cons_append,
        List.nil_append]
      exact (slashed_append_colons colonFree _).trans (congrArg (part.toList ++ '/' :: ·) later)

theorem takeWhile_append_colon {part : List Char} (colonFree : ':' ∉ part) (rest : List Char) :
    (part ++ ':' :: rest).takeWhile (· ≠ ':') = part := by
  rw [List.takeWhile_append_of_pos]
  · simp
  · intro c mem
    have apart : c ≠ ':' := fun same => colonFree (same ▸ mem)
    simpa using apart

end Text

namespace Demangler

theorem toList_marker : marker.toList = "dds_".toList ++ [':', ':'] := by decide

/-- No marker begins inside of a part, as the part would have to end in what the marker has before
its colons. -/
theorem cutFirst?_append_colons {part : List Char} (colonFree : ':' ∉ part)
    (unmarked : ¬ "dds_".toList <:+ part) (rest : List Char) :
    Text.cutFirst? marker.toList (part ++ ':' :: ':' :: rest) =
      (Text.cutFirst? marker.toList rest).map fun cut =>
        (part ++ ':' :: ':' :: cut.1, cut.2) := by
  induction part with
  | nil =>
      simp only [toList_marker, String.reduceToList, List.cons_append, List.nil_append,
        Text.cutFirst?, Text.dropFront?, Char.reduceEq, if_false, Option.map_map]
      rfl
  | cons c part ih =>
      have elsewhere :
          Text.dropFront? marker.toList (c :: (part ++ ':' :: ':' :: rest)) = none := by
        refine Option.eq_none_iff_forall_ne_some.mpr fun left found => ?_
        have begins := Text.dropFront?_eq_some_iff.mp found
        rw [toList_marker, List.append_assoc, ← List.cons_append] at begins
        change c :: part ++ ':' :: ':' :: rest = "dds_".toList ++ ':' :: ':' :: left at begins
        have same := congrArg (List.takeWhile (· ≠ ':')) begins
        rw [Text.takeWhile_append_colon colonFree,
          Text.takeWhile_append_colon (by decide)] at same
        exact unmarked (same ▸ List.suffix_refl _)
      have later : ¬ "dds_".toList <:+ part :=
        fun ends => unmarked (ends.trans (List.suffix_cons c part))
      have rest := ih (mt (List.mem_cons_of_mem c) colonFree) later
      simp only [List.cons_append, Text.cutFirst?, elsewhere, rest, Option.map_map]
      rfl

/-- No part ends like the marker begins, so the marker that is found is the one that was written. -/
theorem splitType?_intercalate (components : ∀ part ∈ parts, Component part) (last : String) :
    splitType? ("::".intercalate (parts ++ ["dds_::" ++ last])) =
      some ("/".intercalate (parts ++ [""]), last) := by
  have cut : Text.cutFirst? marker.toList
      ("::".intercalate (parts ++ ["dds_::" ++ last])).toList =
        some (("::".intercalate (parts ++ [""])).toList, last.toList) := by
    induction parts with
    | nil =>
        rw [List.nil_append, String.intercalate_singleton]
        simp [marker, Text.cutFirst?, Text.dropFront?]
    | cons part parts ih =>
        have component := components part List.mem_cons_self
        have later := ih fun other mem => components other (List.mem_cons_of_mem _ mem)
        rw [intercalate_cons_concat, intercalate_cons_concat]
        simp only [String.toList_append, List.append_assoc, Text.toList_colons, List.cons_append,
          List.nil_append]
        refine (cutFirst?_append_colons component.colonFree component.unmarked _).trans ?_
        rw [later]
        rfl
  simp only [splitType?, cut, Option.map_some, Text.slashed_intercalate components,
    String.ofList_toList]

theorem messageTypeName?_typeName {type : MessageType} (spaced : Spaced type.space parts)
    (named : type.name ≠ "") :
    messageTypeName? type.typeName = some ("/".intercalate (parts ++ [type.name])) := by
  have stripped := Text.stripBack?_eq_some_iff.mpr (MessageType.typeName_eq spaced)
  have split := splitType?_intercalate spaced.components type.name
  have joined := intercalate_concat_append "/" parts "" type.name
  simp only [messageTypeName?, stripped, Option.bind_some, typeStem?, split, nonEmpty?, named,
    if_false, Option.map_some, joined, String.empty_append]

end Demangler

end RosMiddleware
