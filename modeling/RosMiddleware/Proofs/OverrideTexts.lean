import RosMiddleware.Proofs.WrittenOverrides

/-!
Texts of overrides, all of them. A text is a row of segments in which every value decodes, or it
has a first segment that cannot be read. In the first case reading it gives the keys and values of
the row, and in the second the fault of that segment.
-/
namespace RosMiddleware

namespace Text

variable {s : List Char}

theorem head?_trimFront {c : Char} (first : (trimFront s).head? = some c) : isBlank c = false := by
  have solid := List.head?_dropWhile_not isBlank s
  rw [trimFront] at first
  simpa [first] using solid

/-- Nothing is left to trim. -/
theorem trimmed_trim (s : List Char) : Trimmed (trim s) := by
  constructor
  · intro c first
    obtain ⟨b, back⟩ := exists_trimBack (trimFront s)
    refine head?_trimFront (s := s) ?_
    rw [back, List.head?_append, ← trim_eq, first, Option.some_or]
  · intro c last
    rw [trim_eq, trimBack, List.getLast?_reverse] at last
    exact head?_trimFront last

end Text

namespace Config

open Json (Value)
open Text (Space Trimmed)

variable {decode : String → Except Json5.Fault Value} {text : String} {f : Fault}

inductive Wrong (decode : String → Except Json5.Fault Value) : List Char → Fault → Prop
  | undecodable (a : Assignment) (beforeKey afterKey beforeText afterText : Space)
      (fault : Json5.Fault) (fails : decode a.text = .error fault) :
      Wrong decode (Segment.assignment a beforeKey afterKey beforeText afterText).written
        (.badText a.key a.text fault)
  | stray (before after : Space) (segment : String) (nonempty : segment ≠ "")
      (plain : ';' ∉ segment.toList ∧ '=' ∉ segment.toList) (trimmed : Trimmed segment.toList) :
      Wrong decode (before.chars ++ segment.toList ++ after.chars) (.noEquals segment)

def Segment.Good (decode : String → Except Json5.Fault Value) (segment : Segment) : Prop :=
  ∀ a, segment.assignment? = some a → ∃ v, decode a.text = .ok v

/-- The text is a row of segments that give the overrides. -/
def Written (decode : String → Except Json5.Fault Value) (text : String)
    (overrides : List (String × Value)) : Prop :=
  ∃ segments : List Segment, text = join (segments.map Segment.written) ∧
    (segments.filterMap Segment.assignment?).map (fun a => (a.key, decode a.text)) =
      overrides.map fun o => (o.1, .ok o.2)

/-- The text has a first segment that cannot be read. -/
def Miswritten (decode : String → Except Json5.Fault Value) (text : String) (f : Fault) : Prop :=
  ∃ (before : List Segment) (part : List Char) (after : List (List Char)),
    text = join (before.map Segment.written ++ part :: after) ∧
      (∀ segment ∈ before, segment.Good decode) ∧ Wrong decode part f

/-! ### What a text is -/

/-- Every text is cut into parts at its semicolons. -/
theorem exists_parts (s : List Char) : ∃ part parts,
    s = [';'].intercalate (part :: parts) ∧ ∀ p ∈ part :: parts, ';' ∉ p := by
  induction s with
  | nil => exact ⟨[], [], rfl, by simp⟩
  | cons c s ih =>
      obtain ⟨part, parts, rfl, plain⟩ := ih
      by_cases mark : c = ';'
      · subst mark
        exact ⟨[], part :: parts, by simp [List.intercalate_cons_cons], by simpa using plain⟩
      · obtain ⟨first, rest⟩ := List.forall_mem_cons.mp plain
        refine ⟨c :: part, parts, ?_, List.forall_mem_cons.mpr ⟨?_, rest⟩⟩
        · cases parts with
          | nil => simp
          | cons next parts => simp [List.intercalate_cons_cons]
        · simp [first, Ne.symm mark]

/-- What has an equals sign is an assignment, cut at the first one. -/
theorem exists_assignment {part : List Char} (plain : ';' ∉ part) (equals : '=' ∈ part) :
    ∃ a beforeKey afterKey beforeText afterText,
      part = (Segment.assignment a beforeKey afterKey beforeText afterText).written := by
  obtain ⟨x, y, rfl, free⟩ := List.eq_append_cons_of_mem equals
  obtain ⟨beforeKey, afterKey, key⟩ := Text.exists_trim x
  obtain ⟨beforeText, afterText, value⟩ := Text.exists_trim y
  have apart : ';' ∉ x ∧ ';' ∉ y := by
    simp only [List.mem_append, List.mem_cons, not_or] at plain
    exact ⟨plain.1, plain.2.2⟩
  let a : Assignment := {
    key := String.ofList (Text.trim x)
    text := String.ofList (Text.trim y)
    key_plain := by
      rw [String.toList_ofList]
      exact ⟨mt Text.mem_of_mem_trim apart.1, mt Text.mem_of_mem_trim free⟩
    text_plain := by
      rw [String.toList_ofList]
      exact mt Text.mem_of_mem_trim apart.2
    key_trimmed := by
      rw [String.toList_ofList]
      exact Text.trimmed_trim x
    text_trimmed := by
      rw [String.toList_ofList]
      exact Text.trimmed_trim y }
  refine ⟨a, beforeKey, afterKey, beforeText, afterText, ?_⟩
  rw [Segment.written, String.toList_ofList, String.toList_ofList, ← key, ← value]

/-- A part with an equals sign is an assignment, and any other one is blank or stray. -/
theorem part_cases (decode : String → Except Json5.Fault Value) {part : List Char}
    (plain : ';' ∉ part) :
    (∃ segment : Segment, segment.written = part ∧ segment.Good decode) ∨
      ∃ f, Wrong decode part f := by
  by_cases equals : '=' ∈ part
  · obtain ⟨a, beforeKey, afterKey, beforeText, afterText, rfl⟩ := exists_assignment plain equals
    cases read : decode a.text with
    | ok v =>
        refine .inl ⟨_, rfl, ?_⟩
        rintro _ ⟨⟩
        exact ⟨v, read⟩
    | error fault => exact .inr ⟨_, .undecodable a _ _ _ _ fault read⟩
  · by_cases blank : Text.trim part = []
    · obtain ⟨a, b, whole⟩ := Text.exists_trim part
      have space : ∀ c ∈ part, Text.isBlank c = true := by
        intro c mem
        rw [whole, blank, List.append_nil] at mem
        exact (List.mem_append.mp mem).elim (a.blank c) (b.blank c)
      exact .inl ⟨.blank ⟨part, space⟩, rfl, nofun⟩
    · obtain ⟨before, after, whole⟩ := Text.exists_trim part
      have stray := @Wrong.stray decode before after (String.ofList (Text.trim part))
      simp only [String.toList_ofList, ← whole] at stray
      refine .inr ⟨_, stray ?_ ?_ (Text.trimmed_trim part)⟩
      · simpa using blank
      · exact ⟨mt Text.mem_of_mem_trim plain, mt Text.mem_of_mem_trim equals⟩

/-- A row of parts is one of good segments, or it has a first part that cannot be read. -/
theorem parts_cases (decode : String → Except Json5.Fault Value) {parts : List (List Char)}
    (plain : ∀ part ∈ parts, ';' ∉ part) :
    (∃ segments : List Segment, parts = segments.map Segment.written ∧
        ∀ segment ∈ segments, segment.Good decode) ∨
      ∃ (before : List Segment) (part : List Char) (after : List (List Char)) (f : Fault),
        parts = before.map Segment.written ++ part :: after ∧
          (∀ segment ∈ before, segment.Good decode) ∧ Wrong decode part f := by
  induction parts with
  | nil => exact .inl ⟨[], rfl, nofun⟩
  | cons part parts ih =>
      obtain ⟨first, rest⟩ := List.forall_mem_cons.mp plain
      rcases part_cases decode first with ⟨segment, rfl, good⟩ | ⟨f, wrong⟩
      · rcases ih rest with ⟨segments, rfl, goods⟩ | ⟨before, part, after, f, rfl, goods, wrong⟩
        · exact .inl ⟨segment :: segments, rfl, List.forall_mem_cons.mpr ⟨good, goods⟩⟩
        · exact .inr ⟨segment :: before, part, after, f, rfl,
            List.forall_mem_cons.mpr ⟨good, goods⟩, wrong⟩
      · exact .inr ⟨[], part, parts, f, rfl, nofun, wrong⟩

theorem exists_overrides {segments : List Segment}
    (good : ∀ segment ∈ segments, segment.Good decode) :
    ∃ overrides : List (String × Value),
      (segments.filterMap Segment.assignment?).map (fun a => (a.key, decode a.text)) =
        overrides.map fun o => (o.1, .ok o.2) := by
  induction segments with
  | nil => exact ⟨[], rfl⟩
  | cons segment segments ih =>
      obtain ⟨first, rest⟩ := List.forall_mem_cons.mp good
      obtain ⟨overrides, values⟩ := ih rest
      cases segment with
      | blank space => exact ⟨overrides, values⟩
      | assignment a =>
          obtain ⟨v, decodes⟩ := first a rfl
          exact ⟨(a.key, v) :: overrides, by simp [Segment.assignment?, decodes, values]⟩

/-- There is no third kind of text. -/
theorem written_or_miswritten (decode : String → Except Json5.Fault Value) (text : String) :
    (∃ overrides, Written decode text overrides) ∨ ∃ f, Miswritten decode text f := by
  obtain ⟨part, parts, whole, plain⟩ := exists_parts text.toList
  have joined : text = join (part :: parts) := by rw [join, ← whole, String.ofList_toList]
  rcases parts_cases decode plain with ⟨segments, row, good⟩ |
    ⟨before, wrongPart, after, f, row, good, wrong⟩
  · obtain ⟨overrides, values⟩ := exists_overrides good
    exact .inl ⟨overrides, segments, row ▸ joined, values⟩
  · exact .inr ⟨f, before, wrongPart, after, row ▸ joined, good, wrong⟩

/-! ### What is read of it -/

theorem readPart_wrong {part : List Char} (wrong : Wrong decode part f) :
    readPart decode part = .error f := by
  cases wrong with
  | undecodable a beforeKey afterKey beforeText afterText fault fails =>
      rw [readPart_assignment, Assignment.read, fails]
      rfl
  | stray before after segment nonempty plain trimmed =>
      have free (space : Space) : ';' ∉ space.chars ∧ '=' ∉ space.chars :=
        ⟨not_mem_space space blank_semicolon, not_mem_space space blank_equals⟩
      have solid : ∃ c ∈ before.chars ++ segment.toList ++ after.chars, Text.isBlank c = false := by
        cases first : segment.toList with
        | nil => exact absurd (String.toList_eq_nil_iff.mp first) nonempty
        | cons c rest => exact ⟨c, by simp, trimmed.front c (by rw [first]; rfl)⟩
      have read := @readPart_stray decode
        ⟨_, ⟨by simp [free, plain.1], by simp [free, plain.2]⟩, solid⟩
      rwa [Text.trim_around before after trimmed, String.ofList_toList] at read

theorem readPart_good {segment : Segment} (good : segment.Good decode) :
    ∃ given, readPart decode segment.written = .ok given := by
  cases segment with
  | blank space =>
      have plain := (Segment.blank space).plain
      have nothing : Text.trim (Segment.blank space).written = [] := Text.trim_space space
      exact ⟨[], by rw [readPart, segments_of_plain plain, if_pos nothing]; rfl⟩
  | assignment a =>
      obtain ⟨v, decodes⟩ := good a rfl
      exact ⟨[(a.key, v)], by rw [readPart_assignment, Assignment.read, decodes]; rfl⟩

theorem readOverridesWith_of_written {overrides : List (String × Value)}
    (written : Written decode text overrides) : readOverridesWith decode text = .ok overrides := by
  obtain ⟨segments, rfl, values⟩ := written
  have decoded := @readOverridesWith_segments decode segments
  cases read : readOverridesWith decode (join (segments.map Segment.written)) with
  | ok given =>
      rw [read] at decoded
      cases decoded with
      | all values' =>
          have same := values'.symm.trans values
          rw [List.map_inj_right (by simp)] at same
          rw [same]
  | error f =>
      rw [read] at decoded
      cases decoded with
      | @bad before after a fault place good wrong =>
          have among : (a.key, decode a.text) ∈ overrides.map fun o => (o.1, .ok o.2) := by
            rw [← values, place]
            simp
          simp [wrong] at among

theorem readOverridesWith_of_miswritten (miswritten : Miswritten decode text f) :
    readOverridesWith decode text = .error f := by
  obtain ⟨before, part, after, rfl, good, wrong⟩ := miswritten
  induction before with
  | nil =>
      rw [List.map_nil, List.nil_append, readOverridesWith_join_cons, readPart_wrong wrong]
      rfl
  | cons segment before ih =>
      obtain ⟨first, rest⟩ := List.forall_mem_cons.mp good
      obtain ⟨given, read⟩ := readPart_good first
      rw [List.map_cons, List.cons_append, readOverridesWith_join_cons, read, ih rest]
      rfl

theorem readOverridesWith_ok_iff {overrides : List (String × Value)} :
    readOverridesWith decode text = .ok overrides ↔ Written decode text overrides := by
  refine ⟨fun read => ?_, readOverridesWith_of_written⟩
  rcases written_or_miswritten decode text with ⟨other, written⟩ | ⟨f, miswritten⟩
  · cases read.symm.trans (readOverridesWith_of_written written)
    exact written
  · cases read.symm.trans (readOverridesWith_of_miswritten miswritten)

theorem readOverridesWith_error_iff :
    readOverridesWith decode text = .error f ↔ Miswritten decode text f := by
  refine ⟨fun read => ?_, readOverridesWith_of_miswritten⟩
  rcases written_or_miswritten decode text with ⟨other, written⟩ | ⟨f, miswritten⟩
  · cases read.symm.trans (readOverridesWith_of_written written)
  · cases read.symm.trans (readOverridesWith_of_miswritten miswritten)
    exact miswritten

end Config

end RosMiddleware
