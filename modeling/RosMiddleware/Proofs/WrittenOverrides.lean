import RosMiddleware.Config.Override

/-!
Overrides as they are written and as they are read. However much white space stands around keys,
values and segments, and however many segments are blank, the keys and the decoded values are
read in their order. The first segment that is bad decides the error, whether its value does not
decode or it has no equals sign at all.
-/
namespace RosMiddleware

namespace Text

structure Space where
  chars : List Char
  blank : ∀ c ∈ chars, isBlank c = true

structure Trimmed (s : List Char) : Prop where
  front : ∀ c, s.head? = some c → isBlank c = false
  back : ∀ c, s.getLast? = some c → isBlank c = false

def trimFront (s : List Char) : List Char := s.dropWhile isBlank

def trimBack (s : List Char) : List Char := (s.reverse.dropWhile isBlank).reverse

variable {s : List Char}

theorem trim_eq (s : List Char) : trim s = trimBack (trimFront s) := rfl

theorem exists_trimFront (s : List Char) : ∃ a : Space, s = a.chars ++ trimFront s := by
  refine ⟨⟨s.takeWhile isBlank, fun c mem => ?_⟩, List.takeWhile_append_dropWhile.symm⟩
  exact List.all_eq_true.mp List.all_takeWhile c mem

theorem exists_trimBack (s : List Char) : ∃ b : Space, s = trimBack s ++ b.chars := by
  obtain ⟨a, front⟩ := exists_trimFront s.reverse
  refine ⟨⟨a.chars.reverse, fun c mem => a.blank c (List.mem_reverse.mp mem)⟩, ?_⟩
  simpa [trimFront, trimBack] using congrArg List.reverse front

theorem trim_space_append (a : Space) (s : List Char) : trim (a.chars ++ s) = trim s := by
  rw [trim, List.dropWhile_append_of_pos a.blank, trim]

theorem trim_space (a : Space) : trim a.chars = [] := by
  have nothing := trim_space_append a []
  rwa [List.append_nil] at nothing

theorem trimBack_append_space (s : List Char) (a : Space) :
    trimBack (s ++ a.chars) = trimBack s := by
  have blank : ∀ c ∈ a.chars.reverse, isBlank c = true := by
    simpa using a.blank
  rw [trimBack, List.reverse_append, List.dropWhile_append_of_pos blank, trimBack]

theorem trim_append_space (s : List Char) (a : Space) : trim (s ++ a.chars) = trim s := by
  rw [trim_eq, trim_eq, trimFront, List.dropWhile_append]
  split
  · rename_i none
    rw [trimFront, List.isEmpty_iff.mp none]
    exact trim_space a
  · exact trimBack_append_space _ a

theorem trim_trimFront (s : List Char) : trim (trimFront s) = trim s := by
  obtain ⟨a, front⟩ := exists_trimFront s
  rw [congrArg trim front, trim_space_append]

theorem trim_trimBack (s : List Char) : trim (trimBack s) = trim s := by
  obtain ⟨b, back⟩ := exists_trimBack s
  rw [congrArg trim back, trim_append_space]

theorem trim_of_trimmed (trimmed : Trimmed s) : trim s = s := by
  cases s with
  | nil => rfl
  | cons c s =>
      have front : ¬ isBlank c = true := by simp [trimmed.front c rfl]
      rw [trim, List.dropWhile_cons_of_neg front]
      cases turned : (c :: s).reverse with
      | nil => simp at turned
      | cons d rest =>
          have last : (c :: s).getLast? = some d := by
            rw [← List.head?_reverse, turned]
            rfl
          have back : ¬ isBlank d = true := by simp [trimmed.back d last]
          rw [List.dropWhile_cons_of_neg back, ← turned, List.reverse_reverse]

/-- White space around a text does not count. -/
theorem trim_around (a b : Space) (trimmed : Trimmed s) : trim (a.chars ++ s ++ b.chars) = s := by
  rw [trim_append_space, trim_space_append, trim_of_trimmed trimmed]

theorem dropWhile_append_solid {c : Char} (solid : isBlank c = false) (x y : List Char) :
    (x ++ c :: y).dropWhile isBlank = x.dropWhile isBlank ++ c :: y := by
  rw [List.dropWhile_append]
  split
  · rename_i none
    rw [List.isEmpty_iff.mp none, List.dropWhile_cons_of_neg (by simp [solid])]
    rfl
  · rfl

/-- Around a character that is not white space, each side is trimmed at its own end. -/
theorem trim_append_solid {c : Char} (solid : isBlank c = false) (x y : List Char) :
    trim (x ++ c :: y) = trimFront x ++ c :: trimBack y := by
  rw [trim_eq, trimFront, dropWhile_append_solid solid, trimBack, List.reverse_append,
    List.reverse_cons, List.append_assoc, List.singleton_append, dropWhile_append_solid solid]
  simp [trimFront, trimBack]

/-- All that is taken off is white space. -/
theorem exists_trim (s : List Char) : ∃ a b : Space, s = a.chars ++ trim s ++ b.chars := by
  obtain ⟨a, front⟩ := exists_trimFront s
  obtain ⟨b, back⟩ := exists_trimBack (trimFront s)
  refine ⟨a, b, ?_⟩
  rw [List.append_assoc, trim_eq, ← back, ← front]

theorem mem_of_mem_trim {c : Char} (mem : c ∈ trim s) : c ∈ s := by
  obtain ⟨a, b, whole⟩ := exists_trim s
  rw [whole]
  simp [mem]

theorem trim_ne_nil {c : Char} (mem : c ∈ s) (solid : isBlank c = false) : trim s ≠ [] := by
  intro none
  obtain ⟨a, b, whole⟩ := exists_trim s
  rw [whole, none, List.append_nil] at mem
  rcases List.mem_append.mp mem with mem | mem
  · simp [a.blank c mem] at solid
  · simp [b.blank c mem] at solid

/-- A text is cut at the first of its marks. -/
theorem cutFirst?_first {mark : Char} {x : List Char} (free : mark ∉ x) (y : List Char) :
    cutFirst? [mark] (x ++ mark :: y) = some (x, y) := by
  induction x with
  | nil => simp [cutFirst?, dropFront?]
  | cons c x ih =>
      obtain ⟨apart, free⟩ := not_or.mp (mt List.mem_cons.mpr free)
      simp [cutFirst?, dropFront?, apart, ih free]

theorem cutFirst?_of_not_mem {mark : Char} (free : mark ∉ s) : cutFirst? [mark] s = none := by
  cases cut : cutFirst? [mark] s with
  | none => rfl
  | some parts =>
      obtain ⟨x, y⟩ := parts
      rw [append_of_cutFirst? cut] at free
      simp at free

theorem splitOn_append_cons (mark : Char) (x y : List Char) :
    (x ++ mark :: y).splitOn mark = x.splitOn mark ++ y.splitOn mark :=
  List.splitOnP_append_cons x y (beq_self_eq_true mark)

end Text

namespace Config

open Json (Value)
open Text (Space Trimmed)

variable {decode : String → Except Json5.Fault Value}

structure Assignment where
  key : String
  text : String
  key_plain : ';' ∉ key.toList ∧ '=' ∉ key.toList
  text_plain : ';' ∉ text.toList
  key_trimmed : Trimmed key.toList
  text_trimmed : Trimmed text.toList

inductive Segment
  | blank (space : Space)
  | assignment (a : Assignment) (beforeKey afterKey beforeText afterText : Space)

namespace Segment

def written : Segment → List Char
  | .blank space => space.chars
  | .assignment a beforeKey afterKey beforeText afterText =>
    beforeKey.chars ++ a.key.toList ++ afterKey.chars ++
      '=' :: (beforeText.chars ++ a.text.toList ++ afterText.chars)

def assignment? : Segment → Option Assignment
  | .blank _ => none
  | .assignment a .. => some a

end Segment

structure Stray where
  chars : List Char
  plain : ';' ∉ chars ∧ '=' ∉ chars
  solid : ∃ c ∈ chars, Text.isBlank c = false

def join (parts : List (List Char)) : String :=
  String.ofList ([';'].intercalate parts)

/-! ### One part after another -/

theorem segments_nil : segments [] = [] := rfl

theorem segments_join_cons (part : List Char) (parts : List (List Char)) :
    segments (join (part :: parts)).toList = segments part ++ segments (join parts).toList := by
  by_cases none : parts = []
  · subst none
    simp [join, segments_nil]
  · rw [join, join, List.intercalate_cons_of_ne_nil none, String.toList_ofList,
      String.toList_ofList, List.append_assoc, List.singleton_append]
    simp only [segments, Text.splitOn_append_cons, List.map_append, List.filter_append]

theorem segments_of_plain {part : List Char} (plain : ';' ∉ part) :
    segments part = if Text.trim part = [] then [] else [Text.trim part] := by
  have whole : part.splitOn ';' = [part] := by
    have free : ∀ l ∈ [part], ';' ∉ l := by
      simpa using plain
    simpa using List.splitOn_intercalate ';' free (by simp)
  rw [segments, whole]
  by_cases blank : Text.trim part = []
  · simp [blank]
  · simp [blank]

def readPart (decode : String → Except Json5.Fault Value) (part : List Char) :
    Except Fault (List (String × Value)) :=
  (segments part).mapM (readSegment decode)

/-- Parts are read one after another, up to the first that is bad. -/
theorem readOverridesWith_join_cons (part : List Char) (parts : List (List Char)) :
    readOverridesWith decode (join (part :: parts)) = do
      let first ← readPart decode part
      let rest ← readOverridesWith decode (join parts)
      return first ++ rest := by
  rw [readOverridesWith, segments_join_cons, List.mapM_append]
  rfl

theorem readOverridesWith_join_blank {part : List Char} (plain : ';' ∉ part)
    (blank : Text.trim part = []) (parts : List (List Char)) :
    readOverridesWith decode (join (part :: parts)) = readOverridesWith decode (join parts) := by
  rw [readOverridesWith_join_cons, readPart, segments_of_plain plain, if_pos blank]
  cases readOverridesWith decode (join parts) <;> rfl

theorem readPart_solid {part : List Char} (plain : ';' ∉ part) (solid : Text.trim part ≠ []) :
    readPart decode part = (readSegment decode (Text.trim part)).map ([·]) := by
  rw [readPart, segments_of_plain plain, if_neg solid, List.mapM_cons, List.mapM_nil]
  cases readSegment decode (Text.trim part) <;> rfl

/-! ### Segments as they are written -/

/-- A key under which the text decodes, or what is wrong with the text. -/
def Assignment.read (decode : String → Except Json5.Fault Value) (a : Assignment) :
    Except Fault (String × Value) :=
  match decode a.text with
  | .ok v => .ok (a.key, v)
  | .error fault => .error (.badText a.key a.text fault)

theorem not_mem_space (space : Space) {c : Char} (solid : Text.isBlank c = false) :
    c ∉ space.chars := by
  intro mem
  simp [space.blank c mem] at solid

theorem blank_semicolon : Text.isBlank ';' = false := by decide

theorem blank_equals : Text.isBlank '=' = false := by decide

theorem Segment.plain (segment : Segment) : ';' ∉ segment.written := by
  have apart (space : Space) : ';' ∉ space.chars := not_mem_space space blank_semicolon
  cases segment with
  | blank space => exact apart space
  | assignment a => simp [written, apart, a.key_plain.1, a.text_plain]

/-- White space around the key and around the value does not count. -/
theorem readPart_assignment (a : Assignment) (beforeKey afterKey beforeText afterText : Space) :
    readPart decode (Segment.assignment a beforeKey afterKey beforeText afterText).written =
      (a.read decode).map ([·]) := by
  -- the equals sign is not white space, so the segment is not blank and stays in two sides
  have plain := (Segment.assignment a beforeKey afterKey beforeText afterText).plain
  have solid := Text.trim_ne_nil (s := (Segment.assignment a beforeKey afterKey beforeText
    afterText).written) (by simp [Segment.written]) blank_equals
  rw [readPart_solid plain solid, Segment.written, Text.trim_append_solid blank_equals]
  have free : '=' ∉ Text.trimFront (beforeKey.chars ++ a.key.toList ++ afterKey.chars) := by
    intro mem
    have mem := List.dropWhile_subset _ mem
    simp [not_mem_space _ blank_equals, a.key_plain.2] at mem
  rw [readSegment, Text.cutFirst?_first free]
  dsimp only
  rw [Text.trim_trimFront, Text.trim_trimBack, Text.trim_around _ _ a.key_trimmed,
    Text.trim_around _ _ a.text_trimmed, String.ofList_toList, String.ofList_toList]
  rfl

/-- What comes of assignments: all of them, or what is wrong with the first that does not
decode. -/
inductive Decoded (decode : String → Except Json5.Fault Value) (assignments : List Assignment) :
    Except Fault (List (String × Value)) → Prop
  | all {overrides : List (String × Value)}
      (values : assignments.map (fun a => (a.key, decode a.text)) =
        overrides.map fun o => (o.1, .ok o.2)) :
      Decoded decode assignments (.ok overrides)
  | bad {before after : List Assignment} {a : Assignment} {fault : Json5.Fault}
      (place : assignments = before ++ a :: after)
      (good : ∀ a ∈ before, ∃ v, decode a.text = .ok v)
      (wrong : decode a.text = .error fault) :
      Decoded decode assignments (.error (.badText a.key a.text fault))

theorem decoded_cons {a : Assignment} {assignments : List Assignment}
    {rest : Except Fault (List (String × Value))} (decoded : Decoded decode assignments rest) :
    Decoded decode (a :: assignments) (do
      let first ← (a.read decode).map ([·])
      let rest ← rest
      return first ++ rest) := by
  rw [Assignment.read]
  cases read : decode a.text with
  | error fault =>
      have place : a :: assignments = [] ++ a :: assignments := rfl
      exact .bad place (by simp) read
  | ok v =>
      cases decoded with
      | all values => exact .all (by simp [read, values])
      | bad place good wrong =>
          exact .bad (congrArg (a :: ·) place) (List.forall_mem_cons.mpr ⟨⟨v, read⟩, good⟩) wrong

/-- Segments are read in their order up to the first that does not decode. -/
theorem readOverridesWith_segments (segments : List Segment) :
    Decoded decode (segments.filterMap Segment.assignment?)
      (readOverridesWith decode (join (segments.map Segment.written))) := by
  induction segments with
  | nil => exact .all rfl
  | cons segment segments ih =>
      rw [List.map_cons]
      cases segment with
      | blank space =>
          rw [readOverridesWith_join_blank (Segment.blank space).plain (Text.trim_space space)]
          exact ih
      | assignment a =>
          rw [readOverridesWith_join_cons, readPart_assignment]
          exact decoded_cons ih

theorem readPart_stray (stray : Stray) :
    readPart decode stray.chars =
      .error (.noEquals (String.ofList (Text.trim stray.chars))) := by
  obtain ⟨c, mem, solid⟩ := stray.solid
  have free : '=' ∉ Text.trim stray.chars := mt Text.mem_of_mem_trim stray.plain.2
  rw [readPart_solid stray.plain.1 (Text.trim_ne_nil mem solid), readSegment,
    Text.cutFirst?_of_not_mem free]
  rfl

/-- A stray segment is the fault that shows if there is none before it. -/
theorem readOverridesWith_stray (before after : List (List Char)) (stray : Stray) :
    readOverridesWith decode (join (before ++ stray.chars :: after)) =
      match readOverridesWith decode (join before) with
      | .ok _ => .error (.noEquals (String.ofList (Text.trim stray.chars)))
      | .error f => .error f := by
  induction before with
  | nil =>
      rw [List.nil_append, readOverridesWith_join_cons, readPart_stray]
      rfl
  | cons part before ih =>
      rw [List.cons_append, readOverridesWith_join_cons, readOverridesWith_join_cons, ih]
      cases readPart decode part with
      | error f => rfl
      | ok first => cases readOverridesWith decode (join before) <;> rfl

/-- Assignments are read as they were written, with any white space and any blank segments, and
a segment without an equals sign is an error unless there is one before it. -/
theorem readOverridesWith_written (decode : String → Except Json5.Fault Value) :
    (∀ segments : List Segment,
      Decoded decode (segments.filterMap Segment.assignment?)
        (readOverridesWith decode (join (segments.map Segment.written)))) ∧
      ∀ (before after : List (List Char)) (stray : Stray),
        readOverridesWith decode (join (before ++ stray.chars :: after)) =
          match readOverridesWith decode (join before) with
          | .ok _ => .error (.noEquals (String.ofList (Text.trim stray.chars)))
          | .error f => .error f :=
  ⟨readOverridesWith_segments, readOverridesWith_stray⟩

example : readOverridesWith (fun text => .ok (.text text)) " a = 1 ;; b=c=d ;" =
    .ok [("a", .text "1"), ("b", .text "c=d")] := by
  rfl

end Config

end RosMiddleware
