import RosMiddleware.Proofs.FeedbackTypes

/-!
Which texts pass for the types of messages and of services. In the grammar of type names the
marker is a part of its own, at the front or behind a pair of colons. The readers look for
the first marker wherever it stands, so they accept what the grammar accepts and, beyond it,
the names in which the marker is the end of a longer part.
-/
namespace RosMiddleware

namespace Demangler

/-- A type taken apart at its first marker: behind it there are a name and one of the
endings. -/
structure Marked (endings : List String) (type space name : String) : Prop where
  spelled : ∃ ending ∈ endings, type = space ++ marker ++ name ++ ending
  first : Text.contains marker space = false
  named : name ≠ ""

/-- What comes after the namespace is a part of its own. -/
def Separated (space : String) : Prop := space = "" ∨ "::".toList <:+ space.toList

instance (space : String) : Decidable (Separated space) :=
  inferInstanceAs (Decidable (_ ∨ _))

def Grammatical (endings : List String) (type : String) : Prop :=
  ∃ space name, Marked endings type space name ∧ Separated space

/-- The marker of the type is the end of a longer part. -/
def Astray (endings : List String) (type : String) : Prop :=
  ∃ space name, Marked endings type space name ∧ ¬ Separated space

section Endings

variable {endings : List String} {type space name : String}

theorem Marked.cut (marked : Marked endings type space name) :
    ∃ rest, Text.cutFirst? marker.toList type.toList = some (space.toList, rest) := by
  obtain ⟨ending, _, spelled⟩ := marked.spelled
  have free : Text.cutFirst? marker.toList space.toList = none := by
    simpa [Text.contains] using marked.first
  rw [spelled, String.append_assoc, String.toList_append, String.toList_append]
  exact ⟨_, cutFirst?_append_marker free (name ++ ending).toList⟩

theorem Marked.space_unique {space' name' : String} (marked : Marked endings type space name)
    (marked' : Marked endings type space' name') : space = space' := by
  obtain ⟨rest, cut⟩ := marked.cut
  obtain ⟨rest', cut'⟩ := marked'.cut
  have same := congrArg Prod.fst (Option.some.inj (cut.symm.trans cut'))
  exact String.toList_inj.mp same

end Endings

theorem typeStem?_eq_some_iff {stem ros : String} :
    typeStem? stem = some ros ↔
      ∃ space name, splitType? stem = some (space, name) ∧ name ≠ "" ∧ ros = space ++ name := by
  simp only [typeStem?, Option.bind_eq_some_iff, Prod.exists, Option.map_eq_some_iff,
    nonEmpty?_eq_some_iff]
  constructor
  · intro read
    obtain ⟨space, name, split, _, ⟨rfl, named⟩, rfl⟩ := read
    exact ⟨space, name, split, named, rfl⟩
  · intro written
    obtain ⟨space, name, split, named, rfl⟩ := written
    exact ⟨space, name, split, name, ⟨rfl, named⟩, rfl⟩

theorem serviceStem?_eq_some_iff {type stem : String} :
    serviceStem? type = some stem ↔ ∃ ending ∈ serviceEndings, type = stem ++ ending := by
  constructor
  · intro found
    obtain ⟨ending, known, stripped⟩ := List.exists_of_findSome?_eq_some found
    exact ⟨ending, known, Text.stripBack?_eq_some_iff.mp stripped⟩
  · intro spelled
    obtain ⟨ending, known, rfl⟩ := spelled
    exact serviceStem?_append stem known

/-- The demangler reads what comes before one of the endings. -/
def ReadsBefore (endings : List String) (d : Demangler) : Prop :=
  ∀ type ros, d.apply type = some ros ↔
    ∃ stem, (∃ ending ∈ endings, type = stem ++ ending) ∧ typeStem? stem = some ros

theorem messageType_readsBefore : ReadsBefore ["_"] messageType := by
  intro type ros
  simp only [messageType, messageTypeName?, Option.bind_eq_some_iff,
    Text.stripBack?_eq_some_iff, List.mem_singleton, exists_eq_left]

theorem serviceType_readsBefore : ReadsBefore serviceEndings serviceType := by
  intro type ros
  simp only [serviceType, serviceTypeName?]
  split
  · simp only [Option.bind_eq_some_iff, serviceStem?_eq_some_iff]
  · rename_i unmarked
    refine iff_of_false (Option.some_ne_none ros).symm fun read => ?_
    obtain ⟨stem, ⟨ending, _, rfl⟩, read⟩ := read
    obtain ⟨_, _, split, _, _⟩ := typeStem?_eq_some_iff.mp read
    exact absurd (contains_of_splitType? (splitType?_append split ending)) unmarked

section Readers

variable {endings : List String} {d : Demangler} {type : String}

/-- A type that is read is marked, and the namespace may be anything. -/
theorem ReadsBefore.apply_eq_some_iff (reads : ReadsBefore endings d) {ros : String} :
    d.apply type = some ros ↔ ∃ space name, Marked endings type space name ∧
      ros = String.ofList (Text.slashed space.toList) ++ name := by
  rw [reads type ros]
  constructor
  · intro read
    obtain ⟨stem, ⟨ending, known, rfl⟩, read⟩ := read
    obtain ⟨_, name, split, named, rfl⟩ := typeStem?_eq_some_iff.mp read
    obtain ⟨space, rfl, first, rfl⟩ := splitType?_eq_some_iff.mp split
    exact ⟨space, name, ⟨⟨ending, known, rfl⟩, first, named⟩, rfl⟩
  · intro written
    obtain ⟨space, name, ⟨⟨ending, known, rfl⟩, first, named⟩, rfl⟩ := written
    exact ⟨space ++ marker ++ name, ⟨ending, known, rfl⟩,
      typeStem?_eq_some_iff.mpr ⟨_, name, splitType?_of_unmarked first name, named, rfl⟩⟩

theorem ReadsBefore.isSome_iff (reads : ReadsBefore endings d) :
    (d.apply type).isSome = true ↔ ∃ space name, Marked endings type space name := by
  simp only [Option.isSome_iff_exists, reads.apply_eq_some_iff]
  constructor
  · intro read
    obtain ⟨_, space, name, marked, _⟩ := read
    exact ⟨space, name, marked⟩
  · intro written
    obtain ⟨space, name, marked⟩ := written
    exact ⟨_, space, name, marked, rfl⟩

theorem Grammatical.not_astray (grammatical : Grammatical endings type) :
    ¬ Astray endings type := by
  intro astray
  obtain ⟨space, name, marked, separated⟩ := grammatical
  obtain ⟨space', name', marked', apart⟩ := astray
  rw [marked.space_unique marked'] at separated
  exact apart separated

/-- The reader keeps to the grammar wherever the type has not gone astray. -/
theorem ReadsBefore.grammatical_iff (reads : ReadsBefore endings d) (type : String) :
    ((d.apply type).isSome = true ↔ Grammatical endings type) ↔ ¬ Astray endings type := by
  rw [reads.isSome_iff]
  constructor
  · intro keeps astray
    have ⟨space, name, marked, _⟩ := astray
    exact (keeps.mp ⟨space, name, marked⟩).not_astray astray
  · intro straight
    constructor
    · intro marked
      obtain ⟨space, name, marked⟩ := marked
      by_cases separated : Separated space
      · exact ⟨space, name, marked, separated⟩
      · exact absurd ⟨space, name, marked, separated⟩ straight
    · intro grammatical
      obtain ⟨space, name, marked, _⟩ := grammatical
      exact ⟨space, name, marked⟩

end Readers

/-- What is read off a type as the name of a message or of a service, and where that is in
keeping with the grammar: everywhere but where the marker ends a longer part. -/
theorem types_read_iff (type : String) :
    (∀ ros, messageType.apply type = some ros ↔
        ∃ space name, Marked ["_"] type space name ∧
          ros = String.ofList (Text.slashed space.toList) ++ name) ∧
      (∀ ros, serviceType.apply type = some ros ↔
        ∃ space name, Marked ["_Response_", "_Request_"] type space name ∧
          ros = String.ofList (Text.slashed space.toList) ++ name) ∧
      (((messageType.apply type).isSome = true ↔ Grammatical ["_"] type) ↔
        ¬ Astray ["_"] type) ∧
      (((serviceType.apply type).isSome = true ↔
          Grammatical ["_Response_", "_Request_"] type) ↔
        ¬ Astray ["_Response_", "_Request_"] type) :=
  ⟨fun _ => messageType_readsBefore.apply_eq_some_iff,
    fun _ => serviceType_readsBefore.apply_eq_some_iff,
    messageType_readsBefore.grammatical_iff type,
    serviceType_readsBefore.grammatical_iff type⟩

/-- A part that merely ends like the marker is taken for it, and what comes before is joined
to the name. -/
theorem types_read_astray :
    ¬ (∀ type, (messageType.apply type).isSome = true ↔ Grammatical ["_"] type) ∧
      ¬ (∀ type, (serviceType.apply type).isSome = true ↔
        Grammatical ["_Response_", "_Request_"] type) := by
  have sample : Astray ["_"] "sensors::raw_dds_::Sample_" :=
    ⟨"sensors::raw_", "Sample", ⟨⟨"_", by decide, by decide⟩, by decide, by decide⟩, by decide⟩
  have request : Astray serviceEndings "sensors::raw_dds_::Sample_Request_" :=
    ⟨"sensors::raw_", "Sample", ⟨⟨"_Request_", by decide, by decide⟩, by decide, by decide⟩,
      by decide⟩
  constructor
  · intro keeps
    exact (messageType_readsBefore.grammatical_iff _).mp (keeps _) sample
  · intro keeps
    exact (serviceType_readsBefore.grammatical_iff _).mp (keeps _) request

end Demangler

end RosMiddleware
