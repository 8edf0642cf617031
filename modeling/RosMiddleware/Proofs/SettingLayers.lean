import RosMiddleware.Config.FileTree
import RosMiddleware.Domain
import RosMiddleware.Proofs.OverrideTexts
import RosMiddleware.Proofs.SettingSources

/-!
Contexts and the layers of their settings, told by what a builder is given and what it finds: the
bytes of variables, the bytes of files, and what JSON5 reads in a text. Nothing is supposed about
any of these. A context is built if and only if every layer is sound, the first one that is not
decides the error, and each setting has the value of the uppermost layer with one for its key.
-/
namespace RosMiddleware

namespace Config

open Json (Value)
open Json5 (Document)
open Settings (Key)

structure Builder where
  files : FileSystem
  json5 : Json5.Reader
  environment : Environment
  explicitFile : Option Path
  /-- A value that could not be made has the reason in its place. -/
  overrides : List (String × Except String Value)

namespace Builder

variable {b : Builder} {k : Key} {f : Fault} {path : Path}

def sources (b : Builder) : Sources :=
  b.overrides.foldl (fun s o => s.withOverride o.1 o.2)
    { files := b.files
      json5 := b.json5
      environment := b.environment
      explicitFile := b.explicitFile }

/-- The file that counts. A variable that is no text does not name one. -/
inductive Chosen (b : Builder) : Path → Prop
  | explicit {path : Path} (given : b.explicitFile = some path) : Chosen b path
  | named (path : String) (notGiven : b.explicitFile = none)
      (set : b.environment.configFile = some path.toUTF8) : Chosen b ⟨path.toUTF8⟩

/-- The file that counts holds the text, which is read as the document. -/
structure Holds (b : Builder) (path : Path) (text : String) (document : Document) : Prop where
  chosen : b.Chosen path
  content : b.files.content path = .ok text.toUTF8
  parsed : b.json5.document text = .ok document

def FileSound (b : Builder) : Prop :=
  ∀ path, b.Chosen path → ∃ text document, b.Holds path text document ∧ Fits document

def GivenSound (b : Builder) : Prop :=
  ∀ o ∈ b.overrides, ∃ v, o.2 = .ok v ∧ Accepted o.1 v

def EnvironmentSound (b : Builder) : Prop :=
  ∀ text : String, b.environment.overrides = some text.toUTF8 →
    ∃ overrides, Written b.json5.value text overrides ∧ ∀ o ∈ overrides, Accepted o.1 o.2

inductive FileFault (b : Builder) : Fault → Prop
  | unreadable (path : Path) (fault : ReadFault) (chosen : b.Chosen path)
      (fails : b.files.content path = .error fault) : FileFault b (.unreadable path fault)
  | notText (path : Path) (bytes : ByteArray) (chosen : b.Chosen path)
      (content : b.files.content path = .ok bytes) (other : ∀ text : String, bytes ≠ text.toUTF8) :
      FileFault b (.unreadable path .notText)
  | notJson5 (path : Path) (text : String) (fault : Json5.Fault) (chosen : b.Chosen path)
      (content : b.files.content path = .ok text.toUTF8)
      (fails : b.json5.document text = .error fault) : FileFault b (.document (.json5 fault))
  | misfit (path : Path) (text : String) (document : Document) (fault : DocumentFault)
      (holds : b.Holds path text document) (fails : ofDocument document = .error fault) :
      FileFault b (.document fault)

/-- What is wrong with the overrides in the environment. They are read to the end first. -/
inductive EnvironmentFault (b : Builder) (f : Fault) : Prop
  | miswritten (text : String) (set : b.environment.overrides = some text.toUTF8)
      (bad : Miswritten b.json5.value text f)
  | refused (text : String) (overrides : List (String × Value))
      (set : b.environment.overrides = some text.toUTF8)
      (written : Written b.json5.value text overrides) (bad : FirstComplaint overrides f)

/-- What is kept of a value; it may be one that could not be made. -/
def stored : Except String Value → Value
  | .ok v => v
  | .error reason => .text ("<unserializable: " ++ Position.normalize reason ++ ">")

inductive FirstBad (b : Builder) (f : Fault) : Prop
  | file (bad : b.FileFault f)
  | given (file : b.FileSound)
      (bad : FirstComplaint (b.overrides.map fun o => (o.1, stored o.2)) f)
  | environment (file : b.FileSound) (given : b.GivenSound) (bad : b.EnvironmentFault f)

inductive InEnvironment (b : Builder) (k : Key) : Option k.Choice → Prop
  | unset (unset : ∀ text : String, b.environment.overrides ≠ some text.toUTF8) :
      InEnvironment b k none
  | set (text : String) (overrides : List (String × Value)) (choice : Option k.Choice)
      (set : b.environment.overrides = some text.toUTF8)
      (written : Written b.json5.value text overrides) (last : Last k overrides choice) :
      InEnvironment b k choice

/-- The choice of the overrides that were given, all of which could be made. -/
def Given (b : Builder) (k : Key) (choice : Option k.Choice) : Prop :=
  ∃ values, b.overrides = values.map (fun o => (o.1, .ok o.2)) ∧ Last k values choice

/-- The switch is on for the text `1` and for nothing else, and it is for one key. -/
inductive Switched (b : Builder) : (k : Key) → Option k.Choice → Prop
  | on (set : b.environment.qosFromXml = some "1".toUTF8) :
      Switched b .keepTransportPolicy (some true)
  | off (k : Key)
      (off : k = .keepTransportPolicy → b.environment.qosFromXml ≠ some "1".toUTF8) :
      Switched b k none

inductive InFile (b : Builder) (k : Key) : Option k.Choice → Prop
  | absent (absent : ∀ path, ¬ b.Chosen path) : InFile b k none
  | unnamed (path : Path) (text : String) (document : Document) (holds : b.Holds path text document)
      (free : ∀ d, ¬ Part k document d) : InFile b k none
  | named (path : Path) (text : String) (document d : Document) (x : k.Choice)
      (holds : b.Holds path text document) (part : Part k document d) (choice : ChoosesIn k d x) :
      InFile b k (some x)

/-- The value of the uppermost layer that has one for the key. -/
def Layered (b : Builder) (k : Key) (x : k.Choice) : Prop :=
  ∃ environment given switch file, b.InEnvironment k environment ∧ b.Given k given ∧
    b.Switched k switch ∧ b.InFile k file ∧
    x = (environment.or (given.or (switch.or file))).getD k.initial

/-! ### Values that could not be made -/

/-- No name of a policy begins like the text that is kept instead. -/
theorem not_accepted_stored (key reason : String) : ¬ Accepted key (stored (.error reason)) := by
  rintro ⟨k, x, _, chooses⟩
  generalize written : stored (.error reason) = v at chooses
  cases chooses with
  | keep | create | field => cases written
  | name policy =>
      have head := congrArg (fun s => s.toList.head?) (Value.text.inj written)
      cases policy <;> simp [Transport.MemoryPolicy.name] at head

theorem sources_eq (b : Builder) : b.sources =
    ⟨b.files, b.json5, b.environment, b.explicitFile,
      b.overrides.map fun o => (o.1, stored o.2)⟩ := by
  have fold (given : List (String × Except String Value)) (s : Sources) :
      given.foldl (fun s o => s.withOverride o.1 o.2) s =
        { s with overrides := s.overrides ++ given.map fun o => (o.1, stored o.2) } := by
    induction given generalizing s with
    | nil => simp
    | cons o given ih =>
        have stores : s.withOverride o.1 o.2 =
            { s with overrides := s.overrides ++ [(o.1, stored o.2)] } := rfl
        rw [List.foldl_cons, ih, stores]
        simp
  exact fold b.overrides _

theorem givenSound_iff : b.GivenSound ↔ b.sources.overrides.filterMap complaint? = [] := by
  rw [sources_eq, complaints_eq_nil_iff]
  simp only [List.forall_mem_map, ← accepted_iff, GivenSound]
  refine forall_congr' fun o => imp_congr_right fun _ => ?_
  cases o.2 with
  | ok v => simp [stored]
  | error reason => simp [not_accepted_stored]

/-! ### The file -/

/-- A variable names a file exactly if its bytes are those of a text. -/
theorem chosen_iff : b.Chosen path ↔ b.sources.file? = some path := by
  rw [sources_eq, Sources.file?, Option.or_eq_some_iff, Option.map_eq_some_iff]
  simp only [Environment.text?_eq_some_iff]
  constructor
  · intro chosen
    cases chosen with
    | explicit given => exact .inl given
    | named path notGiven set => exact .inr ⟨notGiven, path, set, rfl⟩
  · rintro (given | ⟨notGiven, path, set, rfl⟩)
    · exact .explicit given
    · exact .named path notGiven set

theorem holds_iff {text : String} {document : Document} :
    b.Holds path text document ↔ b.sources.file? = some path ∧
      b.sources.files.text path = .ok text ∧ b.sources.json5.document text = .ok document := by
  rw [FileSystem.text_ok_iff, ← chosen_iff, sources_eq]
  exact ⟨fun holds => ⟨holds.chosen, holds.content, holds.parsed⟩,
    fun ⟨chosen, content, parsed⟩ => ⟨chosen, content, parsed⟩⟩

theorem fromFile_error_iff : b.sources.fromFile = .error f ↔
    ∃ path, b.Chosen path ∧ b.files.settings b.json5 path = .error f := by
  simp only [chosen_iff, sources_eq, Sources.fromFile]
  split <;> rename_i chosen <;> simp [chosen]

/-- A file is read, then decoded, then parsed, and only then are its settings looked at. -/
theorem fileFault_iff : b.FileFault f ↔ b.sources.fileFaults.head? = some f := by
  rw [Sources.fileFaults_head?_iff, fromFile_error_iff]
  simp only [FileSystem.settings_error_iff, FileSystem.text_error_iff, FileSystem.text_ok_iff]
  constructor
  · intro bad
    cases bad with
    | unreadable path fault chosen fails =>
        exact ⟨path, chosen, .inl ⟨fault, .inl fails, rfl⟩⟩
    | notText path bytes chosen content other =>
        exact ⟨path, chosen, .inl ⟨.notText, .inr ⟨bytes, content, other, rfl⟩, rfl⟩⟩
    | notJson5 path text fault chosen content fails =>
        exact ⟨path, chosen, .inr ⟨text, content, .inl ⟨fault, fails, rfl⟩⟩⟩
    | misfit path text document fault holds fails =>
        exact ⟨path, holds.chosen,
          .inr ⟨text, holds.content, .inr ⟨document, fault, holds.parsed, fails, rfl⟩⟩⟩
  · rintro ⟨path, chosen, ⟨fault, fails | ⟨bytes, content, other, rfl⟩, rfl⟩ |
      ⟨text, content, ⟨fault, fails, rfl⟩ | ⟨document, fault, parsed, fails, rfl⟩⟩⟩
    · exact .unreadable path fault chosen fails
    · exact .notText path bytes chosen content other
    · exact .notJson5 path text fault chosen content fails
    · exact .misfit path text document fault ⟨chosen, content, parsed⟩ fails

theorem fileSound_iff : b.FileSound ↔ b.sources.fileFaults = [] := by
  rw [Sources.fileFaults_eq_nil_iff, Sources.fromFile]
  simp only [FileSound, holds_iff, chosen_iff, fits_iff]
  cases b.sources.file? with
  | none => simp
  | some path =>
      simp only [Option.some.injEq, forall_eq', FileSystem.settings_ok_iff, true_and]
      constructor
      · rintro ⟨text, document, ⟨content, parsed⟩, file, made⟩
        exact ⟨file, text, document, content, parsed, made⟩
      · rintro ⟨file, text, document, content, parsed, made⟩
        exact ⟨text, document, ⟨content, parsed⟩, file, made⟩

theorem inFile_fileChoice? (sound : b.FileSound) (k : Key) :
    b.InFile k (b.sources.fileChoice? k) := by
  unfold Sources.fileChoice? Sources.document?
  cases named : b.sources.file? with
  | none =>
      refine .absent fun path chosen => ?_
      cases named.symm.trans (chosen_iff.mp chosen)
  | some path =>
      obtain ⟨text, document, holds, fits⟩ := sound path (chosen_iff.mpr named)
      obtain ⟨-, content, parsed⟩ := holds_iff.mp holds
      simp only [Option.bind_some, content, parsed, Except.toOption]
      cases part : partOf? k document with
      | none =>
          refine .unnamed path text document holds fun d stands => ?_
          cases part.symm.trans (partOf?_eq_some_iff.mpr stands)
      | some d =>
          have stands := partOf?_eq_some_iff.mp part
          obtain ⟨x, chooses⟩ := fits.chooses stands
          simp only [Option.bind_some, choosesIn_iff.mp chooses]
          exact .named path text document d x holds stands chooses

/-! ### The switch -/

theorem switched_switched? (b : Builder) (k : Key) : b.Switched k (b.sources.switched? k) := by
  have on : b.sources.qosFromXml = true ↔ b.environment.qosFromXml = some "1".toUTF8 := by
    rw [sources_eq, Sources.qosFromXml, beq_iff_eq, Environment.text?_eq_some_iff]
  cases k with
  | keepTransportPolicy =>
      unfold Sources.switched?
      split <;> rename_i switch
      · exact .on (on.mp switch)
      · exact .off _ fun _ => mt on.mpr switch
  | memoryPolicy | createListeners => exact .off _ nofun

/-! ### The environment -/

theorem environmentOverrides_ok_iff {overrides : List (String × Value)} :
    b.sources.environmentOverrides = .ok overrides ↔
      (overrides = [] ∧ ∀ text : String, b.environment.overrides ≠ some text.toUTF8) ∨
        ∃ text : String, b.environment.overrides = some text.toUTF8 ∧
          Written b.json5.value text overrides := by
  rw [sources_eq]
  simp only [Sources.environmentOverrides, ne_eq, ← Environment.text?_eq_some_iff,
    ← readOverridesWith_ok_iff]
  cases Environment.text? b.environment.overrides <;> simp [eq_comm]

theorem environmentOverrides_error_iff :
    b.sources.environmentOverrides = .error f ↔
      ∃ text : String, b.environment.overrides = some text.toUTF8 ∧
        Miswritten b.json5.value text f := by
  rw [sources_eq]
  simp only [Sources.environmentOverrides, ← Environment.text?_eq_some_iff]
  cases Environment.text? b.environment.overrides <;> simp [readOverridesWith_error_iff]

theorem environmentFault_iff :
    b.EnvironmentFault f ↔ b.sources.environmentFaults.head? = some f := by
  rw [Sources.environmentFaults_head?_iff, environmentOverrides_error_iff]
  simp only [environmentOverrides_ok_iff]
  constructor
  · intro bad
    cases bad with
    | miswritten text set bad => exact .inl ⟨text, set, bad⟩
    | refused text overrides set written bad =>
        exact .inr ⟨overrides, .inr ⟨text, set, written⟩, bad⟩
  · rintro (⟨text, set, bad⟩ | ⟨overrides, ⟨rfl, -⟩ | ⟨text, set, written⟩, bad⟩)
    · exact .miswritten text set bad
    · obtain ⟨before, key, v, after, place, -⟩ := bad
      simp at place
    · exact .refused text overrides set written bad

theorem environmentSound_iff : b.EnvironmentSound ↔ b.sources.environmentFaults = [] := by
  rw [Sources.environmentFaults_eq_nil_iff, sources_eq]
  simp only [EnvironmentSound, Sources.environmentOverrides, ← Environment.text?_eq_some_iff,
    ← readOverridesWith_ok_iff]
  cases Environment.text? b.environment.overrides <;> simp

theorem inEnvironment_environmentChoice? (sound : b.EnvironmentSound) (k : Key) :
    b.InEnvironment k (b.sources.environmentChoice? k) := by
  obtain ⟨overrides, read, accepted⟩ :=
    Sources.environmentFaults_eq_nil_iff.mp (environmentSound_iff.mp sound)
  rw [Sources.environmentChoice?, read, Except.toOption, Option.bind_some]
  obtain ⟨rfl, unset⟩ | ⟨text, set, written⟩ := environmentOverrides_ok_iff.mp read
  · exact .unset unset
  · have acceptable : ∀ o ∈ overrides, Acceptable o := fun o mem =>
      accepted_iff.mp (accepted o mem)
    exact .set text overrides _ set written (last_lastChoice? acceptable k)

/-! ### All layers -/

theorem given_lastChoice? (sound : b.GivenSound) (k : Key) :
    b.Given k (lastChoice? k b.sources.overrides) := by
  have acceptable := complaints_eq_nil_iff.mp (givenSound_iff.mp sound)
  refine ⟨b.sources.overrides, ?_, last_lastChoice? acceptable k⟩
  rw [sources_eq, List.map_map]
  refine (List.map_id' b.overrides).symm.trans (List.map_congr_left fun ⟨key, value⟩ mem => ?_)
  obtain ⟨v, rfl, -⟩ := sound (key, value) mem
  rfl

theorem faults_eq_nil_iff :
    b.sources.faults = [] ↔ b.FileSound ∧ b.GivenSound ∧ b.EnvironmentSound := by
  rw [Sources.faults, List.append_eq_nil_iff, List.append_eq_nil_iff, fileSound_iff,
    givenSound_iff, environmentSound_iff]

/-- The layers are looked at from the weakest to the strongest, but for the switch, which is never
bad. -/
theorem firstBad_iff : b.FirstBad f ↔ b.sources.faults.head? = some f := by
  rw [Sources.faults, List.head?_append, List.head?_append, Option.or_eq_some_iff,
    Option.or_eq_some_iff, List.head?_eq_none_iff, List.head?_eq_none_iff, ← fileFault_iff,
    ← fileSound_iff, ← firstComplaint_iff, ← givenSound_iff, ← environmentFault_iff]
  have given : b.sources.overrides = b.overrides.map fun o => (o.1, stored o.2) := by
    rw [sources_eq]
  rw [given]
  constructor
  · intro first
    cases first with
    | file bad => exact .inl bad
    | given file bad => exact .inr ⟨file, .inl bad⟩
    | environment file given bad => exact .inr ⟨file, .inr ⟨given, bad⟩⟩
  · rintro (bad | ⟨file, bad | ⟨given, bad⟩⟩)
    · exact .file bad
    · exact .given file bad
    · exact .environment file given bad

theorem layered_of_load {settings : Settings} (load : b.sources.load = .ok settings) (k : Key) :
    b.Layered k (settings.get k) := by
  have outcome := b.sources.load_outcome
  rw [load] at outcome
  obtain ⟨file, given, environment⟩ := faults_eq_nil_iff.mp outcome.1
  refine ⟨_, _, _, _, inEnvironment_environmentChoice? environment k, given_lastChoice? given k,
    b.switched_switched? k, inFile_fileChoice? file k, ?_⟩
  rw [outcome.2 k, Option.or_assoc]

/-- With an explicit file no other one counts, nor does the variable that may name one. -/
theorem load_of_explicit {path : Path} (explicit : b.explicitFile = some path)
    (other : Option ByteArray) {files : FileSystem}
    (same : files.content path = b.files.content path) :
    { b with
      files := files
      environment := { b.environment with configFile := other } }.sources.load =
    b.sources.load := by
  simp only [sources_eq, Sources.load, Sources.fromFile, Sources.file?, explicit, Option.some_or,
    FileSystem.settings, FileSystem.text, same]
  rfl

end Builder

end Config

namespace Domain

open Config

theorem fst_buildContext (d : Domain) (s : Sources) (graph : Option GraphId) :
    (d.buildContext s graph).1 = (s.load.mapError .config).map fun settings =>
      ⟨settings, graph.getD d.graphs.size⟩ := by
  unfold buildContext
  cases s.load with
  | error f => rfl
  | ok settings => cases graph <;> rfl

/-- What a context is built of: the file that counts, the values that were given, the switch and
the overrides in the environment. If a file is given, no other one is looked at. -/
theorem context_layers (d : Domain) (b : Builder) (graph : Option GraphId) :
    let outcome := (d.buildContext b.sources graph).1
    ((∃ c, outcome = .ok c) ↔ b.FileSound ∧ b.GivenSound ∧ b.EnvironmentSound) ∧
      (∀ e, outcome = .error e ↔ ∃ f, e = .config f ∧ b.FirstBad f) ∧
      (∀ c, outcome = .ok c → ∀ k, b.Layered k (c.settings.get k)) ∧
      ∀ path, b.explicitFile = some path → ∀ (other : Option ByteArray) (files : FileSystem),
        files.content path = b.files.content path →
          d.buildContext { b with
            files := files
            environment := { b.environment with configFile := other } }.sources graph =
          d.buildContext b.sources graph := by
  simp only [fst_buildContext]
  refine ⟨?_, fun e => ?_, fun c built k => ?_, fun path explicit other files same => ?_⟩
  · rw [← Builder.faults_eq_nil_iff, ← Sources.load_ok_iff]
    cases b.sources.load <;> simp [Except.map]
  · simp only [Builder.firstBad_iff, ← Sources.load_error_iff]
    cases b.sources.load <;> simp [Except.map, eq_comm]
  · simp only [map_eq_ok_iff, mapError_eq_ok_iff] at built
    obtain ⟨settings, load, rfl⟩ := built
    exact Builder.layered_of_load load k
  · rw [buildContext, buildContext, Builder.load_of_explicit explicit other same]

/-- The file is found from the root, whatever directory is worked in. The one that the variable
names is missing, and nothing comes of that. -/
theorem context_layers_absolute_file :
    let text := "\x7bcreate_listeners: false, history_memory_policy: 'Preallocated'\x7d"
    let tree : FileTree := { entries := [([[0x65, 0x74, 0x63], [0x72]], .file text.toUTF8)] }
    let b : Builder := {
      files := tree.fileSystem
      json5 := {}
      environment := {
        configFile := some "absent".toUTF8
        overrides := some "history_memory_policy = 'Dynamic'; ".toUTF8
        qosFromXml := some "1".toUTF8 }
      explicitFile := some (.ofText "/etc/r")
      overrides := [("history_memory_policy", .ok (.text "PreallocatedWithRealloc"))] }
    let elsewhere : FileTree := { tree with working := [[0x77]] }
    let settings : Settings := ⟨true, .dynamic, false⟩
    let outcome := (({} : Domain).buildContext b.sources none).1
    outcome = .ok ⟨settings, 0⟩ ∧ (b.FileSound ∧ b.GivenSound ∧ b.EnvironmentSound) ∧
      (∀ k, b.Layered k (settings.get k)) ∧
      ({} : Domain).buildContext { b with
        files := elsewhere.fileSystem
        environment := { b.environment with configFile := none } }.sources none =
      ({} : Domain).buildContext b.sources none := by
  intro text tree b elsewhere settings outcome
  have built : outcome = .ok ⟨settings, 0⟩ := toOption_eq_some_iff.mp (by decide +kernel)
  have held : b.files.content (.ofText "/etc/r") = .ok text.toUTF8 :=
    toOption_eq_some_iff.mp (by decide +kernel)
  have same : elsewhere.fileSystem.content (.ofText "/etc/r") = .ok text.toUTF8 :=
    toOption_eq_some_iff.mp (by decide +kernel)
  obtain ⟨sound, -, layered, only⟩ := context_layers {} b none
  exact ⟨built, sound.mp ⟨_, built⟩, layered _ built,
    only _ rfl none elsewhere.fileSystem (same.trans held.symm)⟩

end Domain

end RosMiddleware
