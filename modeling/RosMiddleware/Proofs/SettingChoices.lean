import RosMiddleware.Config.Document
import RosMiddleware.Proofs.Conditions
import RosMiddleware.Proofs.Overrides

/-!
Choices of settings as they are written, in values and in documents. A truth value chooses
itself, and a policy is chosen by its name. Of overrides the last one for a key counts; of a
document it is the field under the key, or the item in its place.
-/
namespace RosMiddleware

open Transport (MemoryPolicy)

theorem Transport.MemoryPolicy.ofName?_eq_some_iff {name : String} {policy : MemoryPolicy} :
    ofName? name = some policy ↔ policy.name = name := by
  constructor
  · intro found
    simpa using List.find?_some found
  · rintro rfl
    cases policy <;> rfl

namespace Settings

/-- What a setting is if no source has a value for it. -/
def Key.initial : (k : Key) → k.Choice
  | .keepTransportPolicy => false
  | .memoryPolicy => .preallocatedWithRealloc
  | .createListeners => true

def Key.index : Key → Nat
  | .keepTransportPolicy => 0
  | .memoryPolicy => 1
  | .createListeners => 2

theorem get_default (k : Key) : ({} : Settings).get k = k.initial := by
  cases k <;> rfl

end Settings

namespace Config

open Json (Value)
open Json5 (Document Piece decodeText)
open Settings (Key)

/-! ### Values -/

/-- What a value chooses under a key. -/
inductive Chooses : (k : Key) → Value → k.Choice → Prop
  | keep (b : Bool) : Chooses .keepTransportPolicy (.bool b) b
  | create (b : Bool) : Chooses .createListeners (.bool b) b
  | name (policy : MemoryPolicy) : Chooses .memoryPolicy (.text policy.name) policy
  | field (policy : MemoryPolicy) : Chooses .memoryPolicy (.object [(policy.name, .null)]) policy

theorem policyOfName_ok_iff {name : String} {policy : MemoryPolicy} :
    policyOfName name = .ok policy ↔ policy.name = name := by
  rw [← MemoryPolicy.ofName?_eq_some_iff, policyOfName]
  split <;> rename_i named <;> simp [named]

/-- An object may name a policy too, but only over nothing. -/
theorem chooses_iff {k : Key} {v : Value} {x : k.Choice} :
    Chooses k v x ↔ choiceOf k v = .ok x := by
  constructor
  · intro chooses
    cases chooses with
    | keep | create => rfl
    | name policy => exact policyOfName_ok_iff.mpr rfl
    | field policy =>
        simp only [choiceOf, policyOf, policyOfName_ok_iff.mpr rfl]
        rfl
  · intro chosen
    cases k with
    | keepTransportPolicy =>
        cases v <;> cases chosen
        exact .keep _
    | createListeners =>
        cases v <;> cases chosen
        exact .create _
    | memoryPolicy =>
        simp only [choiceOf] at chosen
        unfold policyOf at chosen
        split at chosen
        · obtain rfl := policyOfName_ok_iff.mp chosen
          exact .name x
        · obtain ⟨policy, named, chosen⟩ := bind_eq_ok_iff.mp chosen
          split at chosen
          · cases chosen
            obtain rfl := policyOfName_ok_iff.mp named
            exact .field x
          · cases chosen
        · cases chosen
        · cases chosen

def Accepted (key : String) (v : Value) : Prop := ∃ k x, k.name = key ∧ Chooses k v x

inductive Complaint (key : String) (v : Value) : Fault → Prop
  | key (unknown : ∀ k : Key, k.name ≠ key) : Complaint key v (.unknownKey key)
  | value (k : Key) (named : k.name = key) (mismatch : Mismatch)
      (refused : choiceOf k v = .error mismatch) : Complaint key v (.badValue key mismatch)

theorem accepted_iff {o : String × Value} : Accepted o.1 o.2 ↔ Acceptable o := by
  simp only [Accepted, Acceptable, Key.ofName?_eq_some_iff, chooses_iff]

/-- The key is looked at before the value. -/
theorem complaint_iff {o : String × Value} {f : Fault} :
    Complaint o.1 o.2 f ↔ complaint? o = some f := by
  unfold complaint?
  cases named : Key.ofName? o.1 with
  | none =>
      have unknown (k : Key) : k.name ≠ o.1 := by
        intro same
        cases named.symm.trans (Key.ofName?_eq_some_iff.mpr same)
      simp only [Option.some.injEq]
      constructor
      · intro complaint
        cases complaint with
        | key => rfl
        | value k same => exact absurd same (unknown k)
      · rintro rfl
        exact .key unknown
  | some k =>
      have name := Key.ofName?_eq_some_iff.mp named
      constructor
      · intro complaint
        cases complaint with
        | key unknown => exact absurd name (unknown k)
        | value other same mismatch refused =>
            obtain rfl := Key.name_injective (name.trans same.symm)
            simp only [refused]
      · intro wrong
        simp only at wrong
        split at wrong
        · cases wrong
        · rename_i mismatch refused
          cases wrong
          exact .value k name mismatch refused

def FirstComplaint (overrides : List (String × Value)) (f : Fault) : Prop :=
  ∃ before key v after, overrides = before ++ (key, v) :: after ∧
    (∀ o ∈ before, Accepted o.1 o.2) ∧ Complaint key v f

theorem firstComplaint_iff {overrides : List (String × Value)} {f : Fault} :
    FirstComplaint overrides f ↔ (overrides.filterMap complaint?).head? = some f := by
  rw [List.head?_filterMap, List.findSome?_eq_some_iff]
  simp only [FirstComplaint, accepted_iff, acceptable_iff]
  constructor
  · rintro ⟨before, key, v, after, place, good, bad⟩
    exact ⟨before, (key, v), after, place, complaint_iff.mp bad, good⟩
  · rintro ⟨before, o, after, place, bad, good⟩
    exact ⟨before, o.1, o.2, after, place, good, complaint_iff.mpr bad⟩

/-- The choice of the last override for a key, or none if no override is for it. -/
inductive Last (k : Key) (overrides : List (String × Value)) : Option k.Choice → Prop
  | unnamed (free : ∀ o ∈ overrides, o.1 ≠ k.name) : Last k overrides none
  | named (before after : List (String × Value)) (v : Value) (x : k.Choice)
      (place : overrides = before ++ (k.name, v) :: after)
      (last : ∀ o ∈ after, o.1 ≠ k.name) (choice : Chooses k v x) : Last k overrides (some x)

theorem last_lastChoice? {overrides : List (String × Value)}
    (accepted : ∀ o ∈ overrides, Acceptable o) (k : Key) :
    Last k overrides (lastChoice? k overrides) := by
  unfold lastChoice?
  cases found : overrides.reverse.lookup k.name with
  | none =>
      refine .unnamed fun o mem same => ?_
      have free := List.lookup_eq_none_iff.mp found o (List.mem_reverse.mpr mem)
      simp [same] at free
  | some v =>
      obtain ⟨after, before, place, free⟩ := List.lookup_eq_some_iff.mp found
      have place : overrides = before.reverse ++ (k.name, v) :: after.reverse := by
        rw [← List.reverse_inj, place]
        simp
      obtain ⟨other, x, named, chosen⟩ := accepted (k.name, v) (by simp [place])
      obtain rfl := Key.name_injective (Key.ofName?_eq_some_iff.mp named)
      simp only [Option.bind_some, chosen, Except.toOption]
      refine .named before.reverse after.reverse v x place ?_ (chooses_iff.mpr chosen)
      intro o mem same
      simpa [same] using free o (List.mem_reverse.mp mem)

/-! ### Documents -/

def choiceIn : (k : Key) → Document → Except DocumentFault k.Choice
  | .keepTransportPolicy | .createListeners => boolIn
  | .memoryPolicy => policyIn

theorem writeDocument_eq (s : Settings) (d : Document) (k : Key) :
    writeDocument s d k = (choiceIn k d).map (s.set k) := by
  cases k with
  | keepTransportPolicy | createListeners =>
      simp only [writeDocument, choiceIn]
      cases boolIn d <;> rfl
  | memoryPolicy =>
      simp only [writeDocument, choiceIn]
      cases policyIn d <;> rfl

/-- The choice that a document is under a key. An object may hold anything under its first name
and anything after it. -/
inductive ChoosesIn : (k : Key) → Document → k.Choice → Prop
  | keep (b : Bool) : ChoosesIn .keepTransportPolicy (.bool b) b
  | create (b : Bool) : ChoosesIn .createListeners (.bool b) b
  | name (pieces : List Piece) (policy : MemoryPolicy) (named : decodeText pieces = .ok policy.name) :
      ChoosesIn .memoryPolicy (.text pieces) policy
  | field (pieces : List Piece) (d : Document) (rest : List (List Piece × Document))
      (policy : MemoryPolicy) (named : decodeText pieces = .ok policy.name) :
      ChoosesIn .memoryPolicy (.object ((pieces, d) :: rest)) policy

theorem unwanted_ne_ok {α : Type} (d : Document) (wanted : Wanted) (x : α) :
    unwanted d wanted ≠ .ok x := by
  rw [unwanted]
  cases foundIn d <;> nofun

theorem boolIn_ok_iff {d : Document} {b : Bool} : boolIn d = .ok b ↔ d = .bool b := by
  constructor
  · intro chosen
    unfold boolIn at chosen
    split at chosen
    · cases chosen
      rfl
    · exact absurd chosen (unwanted_ne_ok _ _ _)
  · rintro rfl
    rfl

theorem textOf_ok_iff {pieces : List Piece} {text : String} :
    textOf pieces = .ok text ↔ decodeText pieces = .ok text :=
  mapError_eq_ok_iff

theorem policyNamed_ok_iff {pieces : List Piece} {policy : MemoryPolicy} :
    policyNamed pieces = .ok policy ↔ decodeText pieces = .ok policy.name := by
  simp only [policyNamed, bind_eq_ok_iff, textOf_ok_iff]
  constructor
  · rintro ⟨name, decoded, found⟩
    split at found
    · rename_i named
      cases found
      rw [decoded, MemoryPolicy.ofName?_eq_some_iff.mp named]
    · cases found
  · intro decoded
    refine ⟨policy.name, decoded, ?_⟩
    rw [MemoryPolicy.ofName?_eq_some_iff.mpr rfl]
    rfl

theorem choosesIn_iff {k : Key} {d : Document} {x : k.Choice} :
    ChoosesIn k d x ↔ choiceIn k d = .ok x := by
  constructor
  · intro chooses
    cases chooses with
    | keep | create => rfl
    | name _ _ named | field _ _ _ _ named => exact policyNamed_ok_iff.mpr named
  · intro chosen
    cases k with
    | keepTransportPolicy =>
        obtain rfl := boolIn_ok_iff.mp chosen
        exact .keep x
    | createListeners =>
        obtain rfl := boolIn_ok_iff.mp chosen
        exact .create x
    | memoryPolicy =>
        simp only [choiceIn] at chosen
        unfold policyIn at chosen
        split at chosen
        · exact .name _ _ (policyNamed_ok_iff.mp chosen)
        · cases chosen
        · exact .field _ _ _ _ (policyNamed_ok_iff.mp chosen)
        · cases chosen

variable {s s' : Settings} {k : Key}

/-- A field is written if it is under a key that was not seen before and chooses something. -/
theorem writeFields_cons_ok_iff {name : List Piece} {d : Document}
    {fields : List (List Piece × Document)} {seen : List Key} :
    writeFields ((name, d) :: fields) seen s = .ok s' ↔ ∃ k x, decodeText name = .ok k.name ∧
      k ∉ seen ∧ choiceIn k d = .ok x ∧ writeFields fields (k :: seen) (s.set k x) = .ok s' := by
  simp only [writeFields, writeDocument_eq, bind_eq_ok_iff, textOf_ok_iff]
  constructor
  · rintro ⟨text, decoded, written⟩
    split at written
    · cases written
    rename_i key named
    split at written
    · cases written
    rename_i fresh
    simp only [bind_eq_ok_iff, map_eq_ok_iff] at written
    obtain ⟨_, ⟨x, chosen, rfl⟩, written⟩ := written
    exact ⟨key, x, Key.ofName?_eq_some_iff.mp named ▸ decoded, fresh, chosen, written⟩
  · rintro ⟨key, x, decoded, fresh, chosen, written⟩
    refine ⟨key.name, decoded, ?_⟩
    simp only [Key.ofName?_eq_some_iff.mpr rfl, fresh, if_false, chosen]
    exact written

theorem writeItems_cons_ok_iff {d : Document} {items : List (Document × Key)} :
    writeItems ((d, k) :: items) s = .ok s' ↔
      ∃ x, choiceIn k d = .ok x ∧ writeItems items (s.set k x) = .ok s' := by
  simp only [writeItems, writeDocument_eq, bind_eq_ok_iff, map_eq_ok_iff]
  constructor
  · rintro ⟨_, ⟨x, chosen, rfl⟩, written⟩
    exact ⟨x, chosen, written⟩
  · rintro ⟨x, chosen, written⟩
    exact ⟨_, ⟨x, chosen, rfl⟩, written⟩

def fieldOf? (k : Key) (fields : List (List Piece × Document)) : Option Document :=
  (fields.find? fun field => (decodeText field.1).toOption == some k.name).map Prod.snd

def itemOf? (k : Key) (items : List (Document × Key)) : Option Document :=
  (items.find? fun item => item.2 == k).map Prod.fst

def partOf? (k : Key) : Document → Option Document
  | .object fields => fieldOf? k fields
  | .array items => itemOf? k (items.zip Key.all)
  | _ => none

/-- A part of a document, for a key: the first field under it, or the item in its place. -/
inductive Part (k : Key) : Document → Document → Prop
  | field (before after : List (List Piece × Document)) (pieces : List Piece) (d : Document)
      (named : decodeText pieces = .ok k.name) (first : ∀ f ∈ before, decodeText f.1 ≠ .ok k.name) :
      Part k (.object (before ++ (pieces, d) :: after)) d
  | item (items : List Document) (d : Document) (place : items[k.index]? = some d) :
      Part k (.array items) d

/-- The document is one of settings. Its fields are under keys, each under a key of its own, or
its items are in the places of keys, and each of them is a choice. -/
inductive Fits : Document → Prop
  | object (fields : List (List Piece × Document))
      (chosen : ∀ f ∈ fields, ∃ k x, decodeText f.1 = .ok (Key.name k) ∧ ChoosesIn k f.2 x)
      (once : fields.Pairwise fun f g => decodeText f.1 ≠ decodeText g.1) : Fits (.object fields)
  | array (items : List Document)
      (chosen : ∀ (k : Key) d, items[k.index]? = some d → ∃ x, ChoosesIn k d x) :
      Fits (.array items)

/-- Keys that were seen before are as bad as unknown ones. -/
theorem exists_writeFields_iff {fields : List (List Piece × Document)} {seen : List Key} :
    (∃ s', writeFields fields seen s = .ok s') ↔
      (∀ f ∈ fields, ∃ k x, decodeText f.1 = .ok (Key.name k) ∧ k ∉ seen ∧ ChoosesIn k f.2 x) ∧
        fields.Pairwise fun f g => decodeText f.1 ≠ decodeText g.1 := by
  induction fields generalizing seen s with
  | nil => exact iff_of_true ⟨s, rfl⟩ ⟨nofun, .nil⟩
  | cons field fields ih =>
      obtain ⟨name, d⟩ := field
      rw [List.forall_mem_cons, List.pairwise_cons]
      constructor
      · rintro ⟨s', written⟩
        obtain ⟨k, x, decoded, fresh, chosen, written⟩ := writeFields_cons_ok_iff.mp written
        obtain ⟨rest, once⟩ := ih.mp ⟨s', written⟩
        refine ⟨⟨⟨k, x, decoded, fresh, choosesIn_iff.mpr chosen⟩, fun f mem => ?_⟩, ?_, once⟩
        · obtain ⟨other, y, named, unseen, chooses⟩ := rest f mem
          exact ⟨other, y, named, fun seen => unseen (List.mem_cons_of_mem _ seen), chooses⟩
        · intro f mem same
          obtain ⟨other, _, named, unseen, _⟩ := rest f mem
          have again := Except.ok.inj (decoded.symm.trans (same.trans named))
          exact unseen (Key.name_injective again ▸ List.mem_cons_self)
      · rintro ⟨⟨⟨k, x, decoded, fresh, chooses⟩, rest⟩, apart, once⟩
        -- what is seen from here on is the key of this field, and no later field has it
        have later : ∀ f ∈ fields, ∃ other y, decodeText f.1 = .ok (Key.name other) ∧
            other ∉ k :: seen ∧ ChoosesIn other f.2 y := by
          intro f mem
          obtain ⟨other, y, named, unseen, chooses⟩ := rest f mem
          refine ⟨other, y, named, ?_, chooses⟩
          rw [List.mem_cons, not_or]
          refine ⟨?_, unseen⟩
          rintro rfl
          exact apart f mem (decoded.trans named.symm)
        obtain ⟨s', written⟩ := (ih (s := s.set k x)).mpr ⟨later, once⟩
        exact ⟨s', writeFields_cons_ok_iff.mpr
          ⟨k, x, decoded, fresh, choosesIn_iff.mp chooses, written⟩⟩

theorem exists_writeItems_iff {items : List (Document × Key)} :
    (∃ s', writeItems items s = .ok s') ↔ ∀ item ∈ items, ∃ x, ChoosesIn item.2 item.1 x := by
  induction items generalizing s with
  | nil => exact iff_of_true ⟨s, rfl⟩ nofun
  | cons item items ih =>
      obtain ⟨d, key⟩ := item
      simp only [writeItems_cons_ok_iff, List.forall_mem_cons]
      constructor
      · rintro ⟨s', x, chosen, written⟩
        exact ⟨⟨x, choosesIn_iff.mpr chosen⟩, ih.mp ⟨s', written⟩⟩
      · rintro ⟨⟨x, chooses⟩, rest⟩
        obtain ⟨s', written⟩ := (ih (s := s.set key x)).mpr rest
        exact ⟨s', x, choosesIn_iff.mp chooses, written⟩

theorem mem_zip_all_iff {items : List Document} {d : Document} :
    (d, k) ∈ items.zip Key.all ↔ items[k.index]? = some d := by
  obtain _ | ⟨a, _ | ⟨b, _ | ⟨c, rest⟩⟩⟩ := items <;> cases k <;>
    simp [Key.all, Key.index, eq_comm]

/-- Any items beyond the keys are passed over, and missing fields are no fault. -/
theorem fits_iff {d : Document} : Fits d ↔ ∃ s, ofDocument d = .ok s := by
  constructor
  · intro fits
    cases fits with
    | object fields chosen once =>
        refine exists_writeFields_iff.mpr ⟨fun f mem => ?_, once⟩
        obtain ⟨k, x, named, chooses⟩ := chosen f mem
        exact ⟨k, x, named, List.not_mem_nil, chooses⟩
    | array items chosen =>
        refine exists_writeItems_iff.mpr fun item mem => ?_
        exact chosen item.2 item.1 (mem_zip_all_iff.mp mem)
  · rintro ⟨s, read⟩
    cases d with
    | object fields =>
        obtain ⟨chosen, once⟩ := exists_writeFields_iff.mp ⟨s, read⟩
        refine .object fields (fun f mem => ?_) once
        obtain ⟨k, x, named, _, chooses⟩ := chosen f mem
        exact ⟨k, x, named, chooses⟩
    | array items =>
        refine .array items fun k d place => ?_
        exact exists_writeItems_iff.mp ⟨s, read⟩ (d, k) (mem_zip_all_iff.mpr place)
    | null | bool | number | text => exact absurd read (unwanted_ne_ok _ _ _)

theorem fieldOf?_eq_some_iff {fields : List (List Piece × Document)} {d : Document} :
    fieldOf? k fields = some d ↔ ∃ before pieces after, fields = before ++ (pieces, d) :: after ∧
      decodeText pieces = .ok k.name ∧ ∀ f ∈ before, decodeText f.1 ≠ .ok k.name := by
  simp only [fieldOf?, Option.map_eq_some_iff, List.find?_eq_some_iff_append, beq_iff_eq,
    toOption_eq_some_iff, Bool.not_eq_true', beq_eq_false_iff_ne, ne_eq]
  constructor
  · rintro ⟨⟨pieces, _⟩, ⟨named, before, after, place, first⟩, rfl⟩
    exact ⟨before, pieces, after, place, named, first⟩
  · rintro ⟨before, pieces, after, place, named, first⟩
    exact ⟨(pieces, d), ⟨named, before, after, place, first⟩, rfl⟩

theorem itemOf?_zip_all (k : Key) (items : List Document) :
    itemOf? k (items.zip Key.all) = items[k.index]? := by
  obtain _ | ⟨a, _ | ⟨b, _ | ⟨c, rest⟩⟩⟩ := items <;> cases k <;> rfl

theorem partOf?_eq_some_iff {document d : Document} :
    partOf? k document = some d ↔ Part k document d := by
  constructor
  · intro found
    cases document with
    | object fields =>
        obtain ⟨before, pieces, after, rfl, named, first⟩ := fieldOf?_eq_some_iff.mp found
        exact .field before after pieces d named first
    | array items =>
        rw [partOf?, itemOf?_zip_all] at found
        exact .item items d found
    | null | bool | number | text => cases found
  · intro part
    cases part with
    | field before after pieces _ named first =>
        exact fieldOf?_eq_some_iff.mpr ⟨before, pieces, after, rfl, named, first⟩
    | item items _ place => rw [partOf?, itemOf?_zip_all, place]

/-- In a document that fits, whatever stands for a key makes a choice under it. -/
theorem Fits.chooses {document d : Document} (fits : Fits document) (part : Part k document d) :
    ∃ x, ChoosesIn k d x := by
  cases fits with
  | object fields chosen once =>
      cases part with
      | field before after pieces d named first =>
          obtain ⟨other, x, named', chooses⟩ := chosen (pieces, d) (by simp)
          obtain rfl := Key.name_injective (Except.ok.inj (named.symm.trans named'))
          exact ⟨x, chooses⟩
  | array items chosen =>
      cases part with
      | item items d place => exact chosen k d place

/-- A key that was seen is not written again, and one that was not has its field. -/
theorem writeFields_get {fields : List (List Piece × Document)} {seen : List Key}
    (written : writeFields fields seen s = .ok s') (k : Key) :
    s'.get k = if k ∈ seen then s.get k else
      ((fieldOf? k fields).bind fun d => (choiceIn k d).toOption).getD (s.get k) := by
  induction fields generalizing seen s with
  | nil =>
      cases written
      simp [fieldOf?]
  | cons field fields ih =>
      obtain ⟨name, d⟩ := field
      -- the key is seen from here on, so no later field writes it again
      obtain ⟨key, x, decoded, fresh, chosen, written⟩ := writeFields_cons_ok_iff.mp written
      have decodes := toOption_eq_some_iff.mpr decoded
      have choice := toOption_eq_some_iff.mpr chosen
      rw [ih written]
      by_cases same : key = k
      · subst same
        simp [fresh, fieldOf?, decodes, choice]
      · have name : key.name ≠ k.name := fun h => same (Key.name_injective h)
        simp [fieldOf?, decodes, name, same, Ne.symm same]

theorem writeItems_get {items : List (Document × Key)} (once : (items.map Prod.snd).Nodup)
    (written : writeItems items s = .ok s') (k : Key) :
    s'.get k = ((itemOf? k items).bind fun d => (choiceIn k d).toOption).getD (s.get k) := by
  induction items generalizing s with
  | nil =>
      cases written
      rfl
  | cons item items ih =>
      obtain ⟨d, key⟩ := item
      obtain ⟨x, chosen, written⟩ := writeItems_cons_ok_iff.mp written
      obtain ⟨new, once⟩ := List.nodup_cons.mp once
      rw [ih once written]
      have choice := toOption_eq_some_iff.mpr chosen
      by_cases same : key = k
      · subst same
        have absent : itemOf? key items = none := by
          simp only [itemOf?, Option.map_eq_none_iff, List.find?_eq_none, beq_iff_eq]
          intro item among same
          exact new (List.mem_map.mpr ⟨item, among, same⟩)
        rw [absent]
        simp [itemOf?, choice]
      · simp [itemOf?, same]

/-- A key that nothing stands for keeps its default. -/
theorem get_of_ofDocument {d : Document} (read : ofDocument d = .ok s) (k : Key) :
    s.get k =
      ((partOf? k d).bind fun d => (choiceIn k d).toOption).getD (({} : Settings).get k) := by
  cases d with
  | object fields => exact (writeFields_get read k).trans (if_neg List.not_mem_nil)
  | array items =>
      have once : ((items.zip Key.all).map Prod.snd).Nodup := by
        obtain _ | ⟨_, _ | ⟨_, _ | ⟨_, _⟩⟩⟩ := items <;> simp [Key.all]
      exact writeItems_get once read k
  | null | bool | number | text =>
      simp only [ofDocument, unwanted, bind_eq_ok_iff] at read
      obtain ⟨_, _, read⟩ := read
      cases read

end Config

end RosMiddleware
