import RosMiddleware.Proofs.TypeGrammar
import RosMiddleware.Proofs.TypeNames

/-!
Names of types written for the transport and read back. In a namespace whose parts are in
order the marker that was written is the first one, whatever stands in the name, so the name
comes back whole; the messages of services and actions come back as what they belong to.
-/
namespace RosMiddleware

open Demangler (messageType serviceType actionType serviceEndings splitType?)

variable {type other : MessageType} {parts otherParts : List String}

theorem joined_append (parts : List String) (name : String) :
    "/".intercalate (parts ++ [""]) ++ name = "/".intercalate (parts ++ [name]) := by
  rw [intercalate_concat_append, String.empty_append]

/-- Parts without slashes can be told apart again. -/
theorem intercalate_slash_inj {parts others : List String} (filled : parts ≠ [])
    (others_filled : others ≠ []) (free : ∀ part ∈ parts, '/' ∉ part.toList)
    (others_free : ∀ part ∈ others, '/' ∉ part.toList)
    (same : "/".intercalate parts = "/".intercalate others) : parts = others := by
  have chars := congrArg (List.splitOn '/' ∘ String.toList) same
  have slash : "/".toList = ['/'] := by decide
  simp only [Function.comp, String.toList_intercalate, slash] at chars
  rw [List.splitOn_intercalate '/' (by simpa using free) (by simpa using filled),
    List.splitOn_intercalate '/' (by simpa using others_free) (by simpa using others_filled)]
    at chars
  exact (List.map_inj_right fun _ _ => String.toList_injective).mp chars

namespace MessageType

theorem typeName_renamed (spaced : Spaced type.space parts) (name : String) :
    { type with name := name }.typeName =
      "::".intercalate (parts ++ ["dds_::" ++ name]) ++ "_" :=
  typeName_eq spaced

/-- What is appended to the name comes before the low line at the end. -/
theorem typeName_append (spaced : Spaced type.space parts) (name suffix : String) :
    { type with name := name ++ suffix }.typeName =
      "::".intercalate (parts ++ ["dds_::" ++ name]) ++ (suffix ++ "_") := by
  have joined := intercalate_concat_append "::" parts ("dds_::" ++ name) suffix
  rw [String.append_assoc] at joined
  rw [typeName_renamed spaced, ← joined, String.append_assoc]

theorem serviceType_typeName_append (spaced : Spaced type.space parts) {name : String}
    (named : name ≠ "") {suffix : String} (known : suffix ++ "_" ∈ serviceEndings) :
    serviceType.apply { type with name := name ++ suffix }.typeName =
      some ("/".intercalate (parts ++ [name])) := by
  have split := Demangler.splitType?_intercalate spaced.components name
  rw [typeName_append spaced, Demangler.serviceType_append split known]
  simp only [nonEmpty?, named, if_false, Option.map_some, joined_append]

theorem actionType_typeName_append (spaced : Spaced type.space parts) {name : String}
    (named : name ≠ "") :
    actionType.apply { type with name := name ++ "_FeedbackMessage" }.typeName =
      some ("/".intercalate (parts ++ [name])) := by
  have split := Demangler.splitType?_intercalate spaced.components name
  have ending : "_FeedbackMessage" ++ "_" = "_FeedbackMessage_" := by decide
  have placed : "/".intercalate (parts ++ [name]) ≠ "" := by
    rw [← joined_append]
    simp [named]
  rw [typeName_append spaced, ending, Demangler.actionType_append split, joined_append,
    nonEmpty?, if_neg placed]

theorem suffix_of_serviceEnding {ending : String} (known : ending ∈ serviceEndings) :
    ∃ suffix, (suffix = "_Request" ∨ suffix = "_Response") ∧ ending = suffix ++ "_" := by
  simp only [serviceEndings, List.mem_cons, List.not_mem_nil, or_false] at known
  cases known with
  | inl response => exact ⟨"_Response", .inr rfl, response⟩
  | inr request => exact ⟨"_Request", .inl rfl, request⟩

/-- Only the messages of services are read as services. -/
theorem serviceType_typeName_iff (spaced : Spaced type.space parts) {name ros : String} :
    serviceType.apply { type with name := name }.typeName = some ros ↔
      ∃ service, service ≠ "" ∧ (name = service ++ "_Request" ∨ name = service ++ "_Response") ∧
        ros = "/".intercalate (parts ++ [service]) := by
  constructor
  · intro read
    obtain ⟨stem, ⟨ending, known, written⟩, read⟩ :=
      (Demangler.serviceType_readsBefore _ ros).mp read
    obtain ⟨suffix, request, rfl⟩ := suffix_of_serviceEnding known
    obtain ⟨space, service, split, named, rfl⟩ := Demangler.typeStem?_eq_some_iff.mp read
    have spelled := typeName_renamed spaced name
    rw [written, ← String.append_assoc, String.append_left_inj] at spelled
    -- the stem is cut where the whole name is, so what it leaves is the name but for the suffix
    have cut := Demangler.splitType?_append split suffix
    rw [spelled, Demangler.splitType?_intercalate spaced.components] at cut
    obtain ⟨rfl, rfl⟩ := Prod.mk.inj (Option.some.inj cut)
    refine ⟨service, named, ?_, joined_append parts service⟩
    cases request with
    | inl request => exact .inl (by rw [request])
    | inr response => exact .inr (by rw [response])
  · intro service
    obtain ⟨service, named, suffixed, rfl⟩ := service
    cases suffixed with
    | inl suffixed =>
        subst suffixed
        exact serviceType_typeName_append spaced named (by decide)
    | inr suffixed =>
        subst suffixed
        exact serviceType_typeName_append spaced named (by decide)

/-- The last slash comes before the name, so parts and name can be told apart. -/
theorem eq_of_ros_eq (spaced : Spaced type.space parts)
    (other_spaced : Spaced other.space otherParts) (free : '/' ∉ type.name.toList)
    (other_free : '/' ∉ other.name.toList)
    (same : "/".intercalate (parts ++ [type.name]) =
      "/".intercalate (otherParts ++ [other.name])) :
    type.space = other.space ∧ type.name = other.name := by
  have all_free (type : MessageType) (parts : List String) (spaced : Spaced type.space parts)
      (free : '/' ∉ type.name.toList) : ∀ part ∈ parts ++ [type.name], '/' ∉ part.toList := by
    intro part mem
    cases List.mem_append.mp mem with
    | inl mem => exact (spaced.components part mem).slashFree
    | inr mem => exact List.mem_singleton.mp mem ▸ free
  have parts_eq := intercalate_slash_inj (by simp) (by simp) (all_free type parts spaced free)
    (all_free other otherParts other_spaced other_free) same
  obtain ⟨spaces, names⟩ := List.append_inj' parts_eq rfl
  rw [spaced.joined, other_spaced.joined, spaces]
  exact ⟨rfl, List.singleton_inj.mp names⟩

/-- The name that a type is registered under is read back as its parts and its name with slashes
between them, by the demangler for what it carries; and two types whose names have no slash in them
are never read as the same one. -/
theorem typeName_read_back (type : MessageType) (parts : List String)
    (spaced : Spaced type.space parts) (named : type.name ≠ "") :
    let ros := "/".intercalate (parts ++ [type.name])
    let written (name : String) := { type with name := name }.typeName
    messageType.apply type.typeName = some ros ∧
      serviceType.apply (written (type.name ++ "_Request")) = some ros ∧
      serviceType.apply (written (type.name ++ "_Response")) = some ros ∧
      actionType.apply (written (type.name ++ "_FeedbackMessage")) = some ros ∧
      (∀ name ros', serviceType.apply (written name) = some ros' ↔
        ∃ service, service ≠ "" ∧
          (name = service ++ "_Request" ∨ name = service ++ "_Response") ∧
          ros' = "/".intercalate (parts ++ [service])) ∧
      ∀ (other : MessageType) (otherParts : List String), Spaced other.space otherParts →
        other.name ≠ "" → '/' ∉ type.name.toList → '/' ∉ other.name.toList →
        messageType.apply type.typeName = messageType.apply other.typeName →
          type.space = other.space ∧ type.name = other.name := by
  intro ros written
  have read : messageType.apply type.typeName = some ros :=
    Demangler.messageTypeName?_typeName spaced named
  refine ⟨read, serviceType_typeName_append spaced named (by decide),
    serviceType_typeName_append spaced named (by decide),
    actionType_typeName_append spaced named, fun _ _ => serviceType_typeName_iff spaced, ?_⟩
  intro other otherParts other_spaced other_named free other_free same
  have other_read : messageType.apply other.typeName =
      some ("/".intercalate (otherParts ++ [other.name])) :=
    Demangler.messageTypeName?_typeName other_spaced other_named
  rw [read, other_read, Option.some.injEq] at same
  exact eq_of_ros_eq spaced other_spaced free other_free same

/-- A name that has the marker and the suffix of a request in it, beside a namespace with one
part less. -/
theorem typeName_read_back_marker_inside :
    let type : MessageType := ⟨"pkg::dds_x", "dds_::Add_Request", 256⟩
    let other : MessageType := ⟨"pkg", "dds_x::dds_::Add_Request", 256⟩
    Spaced type.space ["pkg", "dds_x"] ∧ type.name ≠ "" ∧
      type.typeName = "pkg::dds_x::dds_::dds_::Add_Request_" ∧
      messageType.apply type.typeName = some "pkg/dds_x/dds_::Add_Request" ∧
      serviceType.apply type.typeName = some "pkg/dds_x/dds_::Add" ∧
      serviceType.apply "pkg::dds_x::dds_::dds_::Add_Request_Request_" =
        some "pkg/dds_x/dds_::Add_Request" ∧
      messageType.apply type.typeName ≠ messageType.apply other.typeName := by
  intro type other
  have package : Component "pkg" := ⟨by decide, by decide, by decide, by decide⟩
  have part : Component "dds_x" := ⟨by decide, by decide, by decide, by decide⟩
  have spaced : Spaced type.space ["pkg", "dds_x"] := ⟨by decide, by simp [package, part]⟩
  have other_spaced : Spaced other.space ["pkg"] := ⟨by decide, by simp [package]⟩
  have named : type.name ≠ "" := by decide
  obtain ⟨message, request, _, _, service, apart⟩ :=
    typeName_read_back type ["pkg", "dds_x"] spaced named
  refine ⟨spaced, named, by decide, message, ?_, request, fun same => ?_⟩
  · exact (service type.name _).mpr ⟨"dds_::Add", by decide, .inl (by decide), by decide⟩
  · have spaces := apart other ["pkg"] other_spaced (by decide) (by decide) (by decide) same
    exact absurd spaces.1 (by decide)

end MessageType

end RosMiddleware
