import RosMiddleware.Config.Sources
import RosMiddleware.Proofs.SettingChoices

/-!
Settings from several sources. They are loaded if and only if no source is bad, and the first bad
one decides the error. Each setting then comes from the strongest source that has a value for its
key: the overrides in the environment, those given to the builder, the switch for profiles from
XML, the file, the defaults.
-/
namespace RosMiddleware.Config

open Json (Value)
open Json5 (Document)
open Settings (Key)

/-- Bytes are a text in one way only. -/
theorem fromUTF8?_eq_some_iff {bytes : ByteArray} {text : String} :
    String.fromUTF8? bytes = some text ↔ bytes = text.toUTF8 := by
  unfold String.fromUTF8?
  constructor
  · intro decoded
    split at decoded
    · cases decoded
      rfl
    · cases decoded
  · rintro rfl
    exact dif_pos text.isValidUTF8

theorem fromUTF8?_eq_none_iff {bytes : ByteArray} :
    String.fromUTF8? bytes = none ↔ ∀ text : String, bytes ≠ text.toUTF8 := by
  simp only [Option.eq_none_iff_forall_ne_some, ne_eq, fromUTF8?_eq_some_iff]

theorem Environment.text?_eq_some_iff {bytes : Option ByteArray} {text : String} :
    text? bytes = some text ↔ bytes = some text.toUTF8 := by
  simp [text?, Option.bind_eq_some_iff, fromUTF8?_eq_some_iff]

namespace FileSystem

variable {files : FileSystem} {json5 : Json5.Reader} {path : Path}

theorem text_ok_iff {text : String} :
    files.text path = .ok text ↔ files.content path = .ok text.toUTF8 := by
  unfold FileSystem.text
  cases files.content path with
  | error fault => simp
  | ok bytes =>
      simp only [Except.ok.injEq, ← fromUTF8?_eq_some_iff]
      cases String.fromUTF8? bytes <;> simp

theorem text_error_iff {fault : ReadFault} :
    files.text path = .error fault ↔ files.content path = .error fault ∨
      ∃ bytes, files.content path = .ok bytes ∧ (∀ text : String, bytes ≠ text.toUTF8) ∧
        fault = .notText := by
  unfold FileSystem.text
  cases files.content path with
  | error fault => simp
  | ok bytes =>
      simp only [← fromUTF8?_eq_none_iff, Except.ok.injEq, exists_eq_left']
      cases String.fromUTF8? bytes <;> simp [eq_comm]

theorem settings_ok_iff {file : Settings} :
    files.settings json5 path = .ok file ↔ ∃ text document, files.text path = .ok text ∧
      json5.document text = .ok document ∧ ofDocument document = .ok file := by
  unfold settings ofTextWith
  cases files.text path with
  | error fault => simp
  | ok text =>
      cases read : json5.document text with
      | error fault => simp [read]
      | ok document => simp [read, mapError_eq_ok_iff]

theorem settings_error_iff {f : Fault} :
    files.settings json5 path = .error f ↔
      (∃ fault, files.text path = .error fault ∧ .unreadable path fault = f) ∨
      ∃ text, files.text path = .ok text ∧
        ((∃ fault, json5.document text = .error fault ∧ .document (.json5 fault) = f) ∨
          ∃ document fault, json5.document text = .ok document ∧
            ofDocument document = .error fault ∧ .document fault = f) := by
  unfold settings ofTextWith
  cases files.text path with
  | error fault => simp
  | ok text =>
      cases read : json5.document text with
      | error fault => simp [read]
      | ok document => simp [read, mapError_eq_error_iff]

end FileSystem

namespace Sources

def document? (s : Sources) : Option Document :=
  s.file?.bind fun path => (s.files.text path).toOption.bind fun text =>
    (s.json5.document text).toOption

def fileChoice? (s : Sources) (k : Key) : Option k.Choice :=
  (s.document?.bind (partOf? k)).bind fun d => (choiceIn k d).toOption

def switched? (s : Sources) : (k : Key) → Option k.Choice
  | .keepTransportPolicy => if s.qosFromXml then some true else none
  | .memoryPolicy | .createListeners => none

def environmentChoice? (s : Sources) (k : Key) : Option k.Choice :=
  s.environmentOverrides.toOption.bind (lastChoice? k)

def fileFaults (s : Sources) : List Fault :=
  match s.fromFile with
  | .error f => [f]
  | .ok _ => []

def environmentFaults (s : Sources) : List Fault :=
  match s.environmentOverrides with
  | .error f => [f]
  | .ok overrides => overrides.filterMap complaint?

/-- What is wrong with the sources, in the order in which they are looked at. -/
def faults (s : Sources) : List Fault :=
  s.fileFaults ++ (s.overrides.filterMap complaint? ++ s.environmentFaults)

theorem fileFaults_head?_iff {s : Sources} {f : Fault} :
    s.fileFaults.head? = some f ↔ s.fromFile = .error f := by
  unfold fileFaults
  cases s.fromFile <;> simp

theorem fileFaults_eq_nil_iff {s : Sources} :
    s.fileFaults = [] ↔ ∃ file, s.fromFile = .ok file := by
  unfold fileFaults
  cases s.fromFile <;> simp

theorem environmentFaults_head?_iff {s : Sources} {f : Fault} :
    s.environmentFaults.head? = some f ↔ s.environmentOverrides = .error f ∨
      ∃ overrides, s.environmentOverrides = .ok overrides ∧ FirstComplaint overrides f := by
  unfold environmentFaults
  cases s.environmentOverrides <;> simp [firstComplaint_iff]

theorem environmentFaults_eq_nil_iff {s : Sources} :
    s.environmentFaults = [] ↔ ∃ overrides, s.environmentOverrides = .ok overrides ∧
      ∀ o ∈ overrides, Accepted o.1 o.2 := by
  unfold environmentFaults
  cases s.environmentOverrides with
  | error f => simp
  | ok overrides => simp only [complaints_eq_nil_iff, accepted_iff, Except.ok.injEq,
      exists_eq_left']

/-- Without a file, or where the file says nothing, there is the default. -/
theorem get_of_fromFile {s : Sources} {file : Settings} (read : s.fromFile = .ok file) (k : Key) :
    file.get k = (s.fileChoice? k).getD k.initial := by
  unfold fromFile at read
  unfold fileChoice? document?
  cases named : s.file? with
  | none =>
      rw [named] at read
      cases read
      exact Settings.get_default k
  | some path =>
      rw [named] at read
      obtain ⟨text, document, content, parsed, made⟩ := FileSystem.settings_ok_iff.mp read
      rw [get_of_ofDocument made, Settings.get_default]
      simp [content, parsed, Except.toOption]

theorem get_switched (s : Sources) (file : Settings) (k : Key) :
    (if s.qosFromXml then { file with keepTransportPolicy := true } else file).get k =
      (s.switched? k).getD (file.get k) := by
  cases k <;> cases on : s.qosFromXml <;> simp [switched?, on, Settings.get]

/-- The text is read to its end before the first of its overrides is looked at. -/
theorem overrideEnvironment_outcome (s : Sources) (start : Settings) :
    match s.environmentOverrides >>= overrideAll start with
    | .error f => s.environmentFaults.head? = some f
    | .ok settings => s.environmentFaults = [] ∧
        ∀ k, settings.get k = (s.environmentChoice? k).getD (start.get k) := by
  unfold environmentFaults environmentChoice?
  cases s.environmentOverrides with
  | error f => rfl
  | ok overrides =>
      have outcome := overrideAll_outcome start overrides
      simp only [bind, Except.bind]
      split <;> rename_i done <;> rw [done] at outcome
      · exact outcome
      · exact ⟨complaints_eq_nil_iff.mpr outcome.1, outcome.2⟩

/-- The first source that is bad decides; otherwise the strongest with a choice counts. -/
theorem load_outcome (s : Sources) :
    match s.load with
    | .error f => s.faults.head? = some f
    | .ok settings => s.faults = [] ∧ ∀ k, settings.get k =
        (((s.environmentChoice? k).or (lastChoice? k s.overrides)).or
          ((s.switched? k).or (s.fileChoice? k))).getD k.initial := by
  unfold load faults fileFaults
  cases read : s.fromFile with
  | error f => rfl
  | ok file =>
      simp only [bind, Except.bind]
      have switched := s.get_switched file
      -- what the overrides start from counts only by its settings
      generalize (if s.qosFromXml then { file with keepTransportPolicy := true } else file) = start
        at switched ⊢
      have given := overrideAll_outcome start s.overrides
      cases applied : overrideAll start s.overrides with
      | error f =>
          rw [applied] at given
          simp only [List.nil_append, List.head?_append, given, Option.some_or]
      | ok s₁ =>
          rw [applied] at given
          obtain ⟨accepted, choices⟩ := given
          have last := s.overrideEnvironment_outcome s₁
          rw [complaints_eq_nil_iff.mpr accepted]
          simp only [bind, Except.bind] at last ⊢
          split <;> rename_i done <;> rw [done] at last
          · exact last
          · refine ⟨last.1, fun k => ?_⟩
            rw [last.2, choices, switched, get_of_fromFile read]
            simp only [Option.getD_or]

theorem load_ok_iff {s : Sources} : (∃ settings, s.load = .ok settings) ↔ s.faults = [] := by
  have outcome := s.load_outcome
  cases load : s.load with
  | error f =>
      rw [load] at outcome
      constructor
      · simp
      · intro none
        simp [none] at outcome
  | ok settings =>
      rw [load] at outcome
      simp [outcome.1]

theorem load_error_iff {s : Sources} {f : Fault} :
    s.load = .error f ↔ s.faults.head? = some f := by
  have outcome := s.load_outcome
  cases load : s.load with
  | error other =>
      rw [load] at outcome
      simp [outcome]
  | ok settings =>
      rw [load] at outcome
      simp [outcome.1]

end Sources

end RosMiddleware.Config
