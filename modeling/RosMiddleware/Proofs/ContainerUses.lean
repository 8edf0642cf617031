import RosMiddleware.Proofs.QueryOutcomes

/-!
Containers in use. Room is made in a container, it is filled from tables and by queries, and it
is finished, in any order. Room and contents are only had by a container that is not in use, so
what it holds is what the last operation put in that succeeded since it was finished; an
operation that fails leaves no trace, also where memory for the one half was had already.
-/
namespace RosMiddleware

namespace Graph

inductive Query
  | ofNode (handle : NodeHandle) (queried : NodeKey) (category : Category) (raw : Bool)
  | allTopics (handle : NodeHandle) (raw : Bool)
  | allServices (handle : NodeHandle)

namespace Query

def ask (q : Inquiry) : Query → Except Error Unit × Inquiry
  | .ofNode handle queried category raw => q.ofNode handle queried category raw
  | .allTopics handle raw => q.allTopics handle raw
  | .allServices handle => q.allServices handle

def scope : Query → Scope
  | .ofNode _ queried category raw => .node (category.routeWith raw).side queried
  | .allTopics _ _ | .allServices _ => .everything

def name : Query → Demangler
  | .ofNode _ _ category raw => (category.routeWith raw).name
  | .allTopics _ raw => (Category.topicSubscribers.routeWith raw).name
  | .allServices _ => .serviceTopic

def type : Query → Demangler
  | .ofNode _ _ category raw => (category.routeWith raw).type
  | .allTopics _ raw => (Category.topicSubscribers.routeWith raw).type
  | .allServices _ => .serviceType

def table? (query : Query) (i : Index) : Option TypesByName :=
  (i.endpoints query.scope).toOption.map (Index.collect query.name query.type)

theorem ask_eq (query : Query) (q : Inquiry) :
    ∃ arguments, query.ask q = q.ask arguments query.scope query.name query.type := by
  cases query <;> exact ⟨_, rfl⟩

end Query

/-- A query either fails and leaves the container, or fills it with what was found. -/
theorem Inquiry.result_ask_cases (q : Inquiry) (arguments : Except Error Unit) (scope : Scope)
    (name type : Demangler) :
    (∃ e, result (q.ask arguments scope name type) = (.error e, q.out)) ∨
      ∃ endpoints out, q.index.endpoints scope = .ok endpoints ∧
        q.out.fill (Index.collect name type endpoints) = .ok out ∧
        result (q.ask arguments scope name type) = (.ok (), out) := by
  cases arguments with
  | error e => exact .inl ⟨e, rfl⟩
  | ok _ =>
      simp only [result, ask, settle, consult, Index.answer]
      cases q.index.fault with
      | some e => exact .inl ⟨e, rfl⟩
      | none =>
          cases q.index.endpoints scope with
          | error e => exact .inl ⟨e, rfl⟩
          | ok endpoints =>
              dsimp only
              cases filled : q.out.fill (Index.collect name type endpoints) with
              | error e => exact .inl ⟨e, rfl⟩
              | ok out => exact .inr ⟨endpoints, out, rfl, filled, rfl⟩

end Graph

namespace NamesAndTypes

/-! ### Operations -/

/-- Whether there is memory for the names, and then for the types. -/
structure Memory where
  names : Bool
  types : Bool

/-- Room for nothing needs no memory, and what is too much is not there. -/
def granted (free : Bool) (size : Nat) : Bool :=
  size == 0 || (decide (entrySize * size ≤ largestRequest) && free)

def Memory.grants (memory : Memory) (size : Nat) : Bool :=
  granted memory.names size && granted memory.types size

/-- Room for the names and then for the types. If either cannot be had, both are given back. -/
def makeRoom (c : NamesAndTypes) (memory : Memory) (size : Nat) :
    Except Error Unit × NamesAndTypes :=
  match c.checkZero with
  | .error e => (.error e, c)
  | .ok () =>
    if granted memory.names size then
      let c := { c with storage := size }
      if granted memory.types size then (.ok (), c) else (.error .outputTooLarge, c.finish)
    else (.error .outputTooLarge, c.finish)

def fillIn (c : NamesAndTypes) (memory : Memory) (m : TypesByName) :
    Except Error Unit × NamesAndTypes :=
  match c.makeRoom memory m.size with
  | (.error e, c) => (.error e, c)
  | (.ok (), c) => (.ok (), m.toList.foldl (fun c entry => c.push entry.1 entry.2.toList) c)

/-- The library's own operations return what they leave; one that fails leaves the container. -/
def orKept (c : NamesAndTypes) : Except Error NamesAndTypes → Except Error Unit × NamesAndTypes
  | .ok left => (.ok (), left)
  | .error e => (.error e, c)

def provided (c : NamesAndTypes) (memory : Bool) (left : NamesAndTypes) :
    Except Error Unit × NamesAndTypes :=
  if c = {} then if memory then (.ok (), left) else (.error .outputTooLarge, c)
  else (.error .outputInUse, c)

theorem provided_zero (memory : Bool) (left : NamesAndTypes) :
    provided {} memory left =
      if memory then (.ok (), left) else (.error .outputTooLarge, {}) :=
  if_pos rfl

theorem provided_of_ne {c : NamesAndTypes} (used : c ≠ {}) (memory : Bool) (left : NamesAndTypes) :
    c.provided memory left = (.error .outputInUse, c) :=
  if_neg used

theorem provided_ok_iff {c : NamesAndTypes} {memory : Bool} {left : NamesAndTypes} :
    (c.provided memory left).1 = .ok () ↔ c.isZero = true ∧ memory = true := by
  rw [isZero_iff]
  by_cases unused : c = {}
  · rw [unused, provided_zero]
    cases memory <;> simp
  · simp [provided_of_ne unused, unused]

theorem checkZero_zero : checkZero {} = .ok () := rfl

theorem checkZero_of_ne {c : NamesAndTypes} (used : c ≠ {}) : c.checkZero = .error .outputInUse := by
  rw [checkZero, if_neg (mt isZero_iff.mp used)]

theorem makeRoom_eq (c : NamesAndTypes) (memory : Memory) (size : Nat) :
    c.makeRoom memory size = c.provided (memory.grants size) { storage := size } := by
  by_cases unused : c = {}
  · rw [unused, provided_zero, makeRoom, checkZero_zero, Memory.grants]
    cases granted memory.names size <;> cases granted memory.types size <;> rfl
  · rw [provided_of_ne unused, makeRoom, checkZero_of_ne unused]

/-- Entries that there is room for take no more storage. -/
theorem foldl_push (entries : List (String × Std.ExtTreeSet String)) (c : NamesAndTypes)
    (room : c.names.length + entries.length ≤ c.storage) :
    entries.foldl (fun c entry => c.push entry.1 entry.2.toList) c =
      { names := c.names ++ entries.map fun entry => entry.1
        types := c.types ++ entries.map fun entry => entry.2.toList
        storage := c.storage } := by
  induction entries generalizing c with
  | nil => simp
  | cons entry entries ih =>
      -- the room is for the entries still to come and for those that are in
      rw [List.length_cons] at room
      have enough : max c.storage (c.names.length + 1) = c.storage := by omega
      have rest : (c.push entry.1 entry.2.toList).names.length + entries.length ≤
          (c.push entry.1 entry.2.toList).storage := by
        simp only [push, List.length_append, List.length_singleton]
        omega
      rw [List.foldl_cons, ih _ rest]
      simp [push, enough]

theorem fillIn_eq (c : NamesAndTypes) (memory : Memory) (m : TypesByName) :
    c.fillIn memory m = c.provided (memory.grants m.size) (ofTable m) := by
  rw [fillIn, makeRoom_eq]
  by_cases unused : c = {}
  · rw [unused, provided_zero, provided_zero]
    cases memory.grants m.size with
    | false => rfl
    | true =>
        have pushed := foldl_push m.toList { storage := m.size } (by simp)
        simpa [ofTable] using pushed
  · rw [provided_of_ne unused, provided_of_ne unused]

theorem grants_ample (size : Nat) :
    Memory.grants ⟨true, true⟩ size = decide (entrySize * size ≤ largestRequest) := by
  by_cases none : size = 0
  · subst none
    rfl
  · simp [Memory.grants, granted, none]

theorem grants_of_excess (memory : Memory) {size : Nat}
    (excess : largestRequest < entrySize * size) : memory.grants size = false := by
  have some : size ≠ 0 := by
    rintro rfl
    exact Nat.not_lt_zero _ excess
  simp [Memory.grants, granted, some, Nat.not_le.mpr excess]

/-- With memory at hand, room is made as the library makes it. -/
theorem makeRoom_ample (c : NamesAndTypes) (size : Nat) :
    c.makeRoom ⟨true, true⟩ size = c.orKept (c.reserve size) := by
  rw [makeRoom_eq, grants_ample]
  by_cases unused : c = {}
  · rw [unused, provided_zero, reserve, checkZero_zero]
    by_cases fits : entrySize * size ≤ largestRequest
    · simp [fits, orKept, Nat.not_lt.mpr fits]
    · simp [fits, orKept, Nat.lt_of_not_le fits]
  · rw [provided_of_ne unused, reserve, checkZero_of_ne unused]
    rfl

theorem fill_of_ne {c : NamesAndTypes} (used : c ≠ {}) (m : TypesByName) :
    c.fill m = .error .outputInUse := by
  rw [fill, reserve, checkZero_of_ne used]

theorem fillIn_ample (c : NamesAndTypes) (m : TypesByName) :
    c.fillIn ⟨true, true⟩ m = c.orKept (c.fill m) := by
  rw [fillIn_eq, grants_ample]
  by_cases unused : c = {}
  · rw [unused, provided_zero, fill_zero]
    by_cases fits : entrySize * m.size ≤ largestRequest
    · simp [fits, orKept, mt mostEntries_lt_iff.mp (Nat.not_lt.mpr fits)]
    · simp [fits, orKept, mostEntries_lt_iff.mpr (Nat.lt_of_not_le fits)]
  · rw [provided_of_ne unused, fill_of_ne unused]
    rfl

theorem ofTable_ne {m : TypesByName} (stocked : m ≠ ∅) : ofTable m ≠ {} := by
  intro same
  have size : m.size = 0 := congrArg NamesAndTypes.storage same
  exact stocked (Std.ExtTreeMap.eq_empty_iff_size_eq_zero.mpr size)

theorem ofTable_empty : ofTable ∅ = {} := by
  simp [ofTable]

/-- What can be done with a container. Queries are asked of any index in any state. -/
inductive Action
  | reserve (memory : Memory) (size : Nat)
  | fill (memory : Memory) (entries : TypesByName)
  | ask (query : Graph.Query) (index : Graph.Index) (journal : Journal)
  | finish

def act (c : NamesAndTypes) : Action → Except Error Unit × NamesAndTypes
  | .reserve memory size => c.makeRoom memory size
  | .fill memory entries => c.fillIn memory entries
  | .ask query index journal => Graph.Inquiry.result (query.ask ⟨index, c, journal⟩)
  | .finish => (.ok (), c.finish)

namespace Action

def table? : Action → Option TypesByName
  | .fill _ entries => some entries
  | .ask query index _ => query.table? index
  | .reserve _ _ | .finish => none

/-- Room for nothing, or a table without entries. -/
inductive Empty : Action → Prop
  | room (memory : Memory) : Empty (.reserve memory 0)
  | table {a : Action} (nothing : a.table? = some ∅) : Empty a

end Action

inductive Effect (c : NamesAndTypes) : Action → Except Error Unit × NamesAndTypes → Prop
  | failed (a : Action) (e : Error) : Effect c a (.error e, c)
  | reserved (memory : Memory) (size : Nat) (unused : c = {}) :
      Effect c (.reserve memory size) (.ok (), { storage := size })
  | filled (a : Action) (m : TypesByName) (unused : c = {}) (table : a.table? = some m) :
      Effect c a (.ok (), ofTable m)
  | finished : Effect c .finish (.ok (), {})

theorem effect_provided {c : NamesAndTypes} {a : Action} (memory : Bool) {left : NamesAndTypes}
    (done : c = {} → Effect c a (.ok (), left)) : Effect c a (c.provided memory left) := by
  unfold provided
  split
  · split
    · exact done ‹_›
    · exact .failed a _
  · exact .failed a _

/-- An action fails and leaves the container, or it does the one thing that it is for. -/
theorem act_effect (c : NamesAndTypes) (a : Action) : Effect c a (c.act a) := by
  cases a with
  | reserve memory size =>
      rw [act, makeRoom_eq]
      exact effect_provided _ fun unused => .reserved memory size unused
  | fill memory m =>
      rw [act, fillIn_eq]
      exact effect_provided _ fun unused => .filled _ m unused rfl
  | ask query index journal =>
      obtain ⟨arguments, asked⟩ := query.ask_eq ⟨index, c, journal⟩
      rw [act, asked]
      obtain ⟨e, failed⟩ | ⟨endpoints, out, found, filled, answered⟩ :=
        Graph.Inquiry.result_ask_cases ⟨index, c, journal⟩ arguments query.scope query.name
          query.type
      · rw [failed]
        exact .failed _ e
      · rw [answered]
        by_cases unused : c = {}
        · subst unused
          rw [fill_zero] at filled
          split at filled
          · cases filled
          · cases filled
            refine .filled _ _ rfl ?_
            simp only [Action.table?, Graph.Query.table?, found, Except.toOption, Option.map_some]
        · cases (fill_of_ne unused _).symm.trans filled
  | finish => exact .finished

/-! ### Uses -/

structure Use where
  container : NamesAndTypes := {}
  /-- What succeeded since the container was last finished, the latest first. -/
  done : List Action := []

def Action.after : Action → List Action → List Action
  | .finish, _ => []
  | a, done => a :: done

namespace Use

def act (u : Use) (a : Action) : Use where
  container := (u.container.act a).2
  done :=
    match (u.container.act a).1 with
    | .ok () => a.after u.done
    | .error _ => u.done

def run (u : Use) (actions : List Action) : Use := actions.foldl act u

/-- At most one thing is in the container, and before it there was nothing. -/
inductive Stage : Use → Prop
  | unused {done : List Action} (empty : ∀ a ∈ done, a.Empty) : Stage ⟨{}, done⟩
  | reserved {done : List Action} (memory : Memory) {size : Nat} (roomy : size ≠ 0)
      (empty : ∀ a ∈ done, a.Empty) : Stage ⟨{ storage := size }, .reserve memory size :: done⟩
  | filled {done : List Action} {a : Action} {m : TypesByName} (stocked : m ≠ ∅)
      (table : a.table? = some m) (empty : ∀ a ∈ done, a.Empty) : Stage ⟨ofTable m, a :: done⟩

variable {u : Use}

/-- In a container that is not in use nothing has left a trace. -/
theorem Stage.empty (stage : Stage u) (unused : u.container = {}) : ∀ a ∈ u.done, a.Empty := by
  cases stage with
  | unused empty => exact empty
  | reserved memory roomy empty => exact absurd (congrArg NamesAndTypes.storage unused) roomy
  | filled stocked table empty => exact absurd unused (ofTable_ne stocked)

/-- Room and tables are only put into a container that is not in use, and finishing takes them out.
-/
theorem stage_act (stage : Stage u) (a : Action) : Stage (u.act a) := by
  obtain ⟨c, done⟩ := u
  have effect := c.act_effect a
  rw [act]
  dsimp only
  -- only what the effect says of the outcome counts from here on
  generalize c.act a = outcome at effect ⊢
  cases effect with
  | failed a e => exact stage
  | finished => exact .unused (by simp [Action.after])
  | reserved memory size unused =>
      have empty := stage.empty unused
      by_cases none : size = 0
      · subst none
        exact .unused (List.forall_mem_cons.mpr ⟨.room memory, empty⟩)
      · exact .reserved memory none empty
  | filled a m unused table =>
      have empty := stage.empty unused
      have kept : a.after done = a :: done := by
        cases a with
        | finish => cases table
        | reserve | fill | ask => rfl
      dsimp only
      rw [kept]
      by_cases none : m = ∅
      · subst none
        rw [ofTable_empty]
        exact .unused (List.forall_mem_cons.mpr ⟨.table table, empty⟩)
      · exact .filled none table empty

theorem stage_run (stage : Stage u) (actions : List Action) : Stage (u.run actions) := by
  induction actions generalizing u with
  | nil => exact stage
  | cons a actions ih => exact ih (stage_act stage a)

theorem Stage.paired (stage : Stage u) :
    u.container.names.length = u.container.types.length := by
  cases stage with
  | unused | reserved => rfl
  | filled stocked table empty => exact (holds_ofTable _).paired

theorem not_empty_reserve {memory : Memory} {size : Nat} (roomy : size ≠ 0) :
    ¬ (Action.reserve memory size).Empty := by
  rintro (_ | nothing)
  · exact roomy rfl
  · cases nothing

theorem not_empty_of_table {a : Action} {m : TypesByName} (stocked : m ≠ ∅)
    (table : a.table? = some m) : ¬ a.Empty := by
  rintro (_ | nothing)
  · cases table
  · exact stocked (Option.some.inj (table.symm.trans nothing))

theorem Stage.isZero_iff (stage : Stage u) :
    u.container.isZero = true ↔ ∀ a ∈ u.done, a.Empty := by
  rw [NamesAndTypes.isZero_iff]
  refine ⟨stage.empty, fun empty => ?_⟩
  cases stage with
  | unused => rfl
  | reserved memory roomy =>
      exact absurd (empty _ List.mem_cons_self) (not_empty_reserve roomy)
  | filled stocked table =>
      exact absurd (empty _ List.mem_cons_self) (not_empty_of_table stocked table)

def filled? (u : Use) : Option TypesByName := u.done.findSome? Action.table?

/-- Room for nothing and a table without entries hold no names. -/
theorem lookup_of_empty {done : List Action} (empty : ∀ a ∈ done, a.Empty) (name : String) :
    (done.findSome? Action.table?).bind (·[name]?) = none := by
  rw [Option.bind_eq_none_iff]
  intro m found
  obtain ⟨a, mem, table⟩ := List.exists_of_findSome?_eq_some found
  cases empty a mem with
  | room memory => cases table
  | table nothing =>
      obtain rfl : ∅ = m := Option.some.inj (nothing.symm.trans table)
      exact Std.ExtTreeMap.getElem?_empty

theorem Stage.get?_eq (stage : Stage u) (name : String) :
    u.container.get? name = (u.filled?.bind (·[name]?)).map fun types => types.toList := by
  cases stage with
  | unused empty =>
      rw [filled?, lookup_of_empty empty]
      rfl
  | reserved memory roomy empty =>
      rw [filled?, List.findSome?_cons_of_isNone rfl, lookup_of_empty empty]
      rfl
  | filled stocked table empty =>
      rw [filled?, List.findSome?_cons, table, get?_ofTable]
      rfl

end Use

/-- What any operation does to a container, whatever it holds. -/
structure Governed (c : NamesAndTypes) : Prop where
  /-- With memory at hand these are the operations of containers as they are. -/
  reserve : ∀ size, c.act (.reserve ⟨true, true⟩ size) = c.orKept (c.reserve size)
  fill : ∀ m, c.act (.fill ⟨true, true⟩ m) = c.orKept (c.fill m)
  failed : ∀ a e, (c.act a).1 = .error e → (c.act a).2 = c
  reserved : ∀ memory size, (c.act (.reserve memory size)).1 = .ok () ↔
    c.isZero = true ∧ memory.grants size = true
  tooLarge : ∀ memory size, largestRequest < entrySize * size → c.isZero = true →
    c.act (.reserve memory size) = (.error .outputTooLarge, c)
  filled : ∀ memory m, (c.act (.fill memory m)).1 = .ok () ↔
    c.isZero = true ∧ memory.grants m.size = true
  answered : ∀ query index journal, (c.act (.ask query index journal)).1 = .ok () →
    ∃ m, query.table? index = some m
  contents : ∀ a m, a.table? = some m → (c.act a).1 = .ok () →
    c.isZero = true ∧ (c.act a).2.Holds m

/-- No container is an exception, also one that no run leads to. -/
theorem governed (c : NamesAndTypes) : c.Governed where
  reserve := c.makeRoom_ample
  fill := c.fillIn_ample
  failed a e failed := by
    have effect := c.act_effect a
    generalize c.act a = outcome at effect failed ⊢
    cases effect with
    | failed a e => rfl
    | reserved | filled | finished => cases failed
  reserved memory size := by
    rw [act, makeRoom_eq]
    exact provided_ok_iff
  tooLarge memory size excess unused := by
    rw [act, makeRoom_eq, grants_of_excess memory excess, isZero_iff.mp unused]
    rfl
  filled memory m := by
    rw [act, fillIn_eq]
    exact provided_ok_iff
  answered query index journal ok := by
    have effect := c.act_effect (.ask query index journal)
    generalize c.act (.ask query index journal) = outcome at effect ok
    cases effect with
    | failed a e => cases ok
    | filled a m unused table => exact ⟨m, table⟩
  contents a m table ok := by
    have effect := c.act_effect a
    generalize c.act a = outcome at effect ok ⊢
    cases effect with
    | failed a e => cases ok
    | reserved | finished => cases table
    | filled a m' unused table' =>
        obtain rfl : m' = m := Option.some.inj (table'.symm.trans table)
        exact ⟨isZero_iff.mpr unused, holds_ofTable m'⟩

/-- After any use a container holds what was put in last since it was finished, and it is free
exactly if nothing was. -/
theorem contents_since_finished (actions : List Action) :
    let u := Use.run {} actions
    u.container.names.length = u.container.types.length ∧
      (u.container.isZero = true ↔ ∀ a ∈ u.done, a.Empty) ∧
      (∀ name, u.container.get? name =
        (u.filled?.bind (·[name]?)).map fun types => types.toList) ∧
      u.container.Governed := by
  intro u
  have stage : u.Stage := Use.stage_run (.unused (by simp)) actions
  exact ⟨stage.paired, stage.isZero_iff, stage.get?_eq, u.container.governed⟩

end NamesAndTypes

end RosMiddleware
