import RosMiddleware.Proofs.Conditions
import RosMiddleware.Proofs.GlobalQueries

/-!
What becomes of a query. Its arguments are looked at first, and a query that is refused for
them has not consulted the index; any other one consults it once. Over a graph it then fails
for a node that is not there and for nothing else. A query that fails leaves the container as
it was, storage included, and no query changes the graph.
-/
namespace RosMiddleware.Graph

def Scope.Known (c : Cache) : Scope → Prop
  | .node _ queried => queried ∈ c.nodes
  | .everything => True

/-- What comes of a consultation of a graph. The last case is that of a graph with more
endpoints than a container has room for. -/
inductive Consulted (c : Cache) : Scope → Except Error Unit → Prop
  | answered {scope : Scope} (known : scope.Known c) : Consulted c scope (.ok ())
  | unknown {side : Side} {node : NodeKey} (missing : node ∉ c.nodes) :
      Consulted c (.node side node) (.error (.unknownNode node.space node.name))
  | tooMany {scope : Scope} (known : scope.Known c)
      (excess : NamesAndTypes.mostEntries < c.endpointCount) :
      Consulted c scope (.error .outputTooLarge)

/-- Only the arguments of a query can be invalid. -/
theorem Consulted.kind_ne {c : Cache} {scope : Scope} {e : Error}
    (consulted : Consulted c scope (.error e)) : e.kind ≠ .invalidArgument := by
  cases consulted <;> nofun

theorem Consulted.failed_iff {c : Cache} {scope : Scope} {outcome : Except Error Unit}
    (consulted : Consulted c scope outcome) :
    (∃ e, outcome = .error e ∧ e.kind = .backendFailure) ↔ ¬ scope.Known c := by
  cases consulted with
  | answered known => simp [known]
  | unknown missing => exact iff_of_true ⟨_, rfl, rfl⟩ missing
  | tooMany known excess => simp [known, Error.kind]

theorem Consulted.ok {c : Cache} {scope : Scope} {outcome : Except Error Unit}
    (consulted : Consulted c scope outcome) (known : scope.Known c)
    (room : c.endpointCount ≤ NamesAndTypes.mostEntries) : outcome = .ok () := by
  cases consulted with
  | answered _ => rfl
  | unknown missing => exact absurd known missing
  | tooMany _ excess => exact absurd excess (Nat.not_lt.mpr room)

namespace Inquiry

def nodeDemands (handle : NodeHandle) (queried : NodeKey) (out : NamesAndTypes) :
    List Condition :=
  [⟨handle.implementation = implementationTag, .foreignNode handle.implementation⟩,
    ⟨queried.name ≠ "", .emptyNodeName⟩,
    ⟨queried.space ≠ "", .emptyNodeNamespace⟩,
    ⟨out = {}, .outputInUse⟩]

def graphDemands (handle : NodeHandle) (out : NamesAndTypes) : List Condition :=
  [⟨handle.implementation = implementationTag, .foreignNode handle.implementation⟩,
    ⟨out = {}, .outputInUse⟩]

theorem checkNode_decided (handle : NodeHandle) (queried : NodeKey) (out : NamesAndTypes) :
    Condition.Decide (nodeDemands handle queried out) (checkNode handle queried out) := by
  rw [checkNode_eq]
  exact .guard fun _ => .guard fun _ => .guard fun _ => .guard fun _ => ⟨(), rfl⟩

theorem checkGraph_decided (handle : NodeHandle) (out : NamesAndTypes) :
    Condition.Decide (graphDemands handle out) (checkGraph handle out) := by
  rw [checkGraph_eq]
  exact .guard fun _ => .guard fun _ => ⟨(), rfl⟩

/-! ### Consultations -/

section Consult

variable {q : Inquiry} {scope : Scope} {name type : Demangler}

theorem consult_outcome :
    (q.consult scope name type).1 =
      (q.index.answer scope name type q.out).1.map fun _ => () := by
  unfold consult
  rcases q.index.answer scope name type q.out with ⟨answer, events⟩
  cases answer <;> rfl

theorem index_consult : (q.consult scope name type).2.index = q.index.consult scope := by
  unfold consult
  rcases q.index.answer scope name type q.out with ⟨answer, events⟩
  cases answer <;> rfl

theorem out_consult {e : Error} (failed : (q.consult scope name type).1 = .error e) :
    (q.consult scope name type).2.out = q.out := by
  revert failed
  unfold consult
  rcases q.index.answer scope name type q.out with ⟨answer, events⟩
  cases answer with
  | ok out => exact nofun
  | error e => exact fun _ => rfl

/-- The endpoints in a scope are there if there is something to look at. -/
theorem endpoints_cases (i : Index) (scope : Scope) :
    (scope.Known i.cache ∧ ∃ endpoints, i.endpoints scope = .ok endpoints ∧
      ∀ e ∈ endpoints, e ∈ i.cache.all) ∨
    ∃ side node, scope = .node side node ∧ node ∉ i.cache.nodes ∧
      i.endpoints scope = .error (.unknownNode node.space node.name) := by
  cases scope with
  | everything => exact .inl ⟨trivial, _, rfl, fun _ mem => mem⟩
  | node side node =>
      simp only [Index.endpoints]
      cases asked : i.cache.ofNode? side node with
      | some endpoints =>
          obtain ⟨gids, listed, _⟩ := Option.map_eq_some_iff.mp asked
          exact .inl ⟨table_mem_of_some _ listed, endpoints, rfl,
            fun _ => Cache.mem_all_of_ofNode? asked⟩
      | none =>
          have missing := table_not_mem_of_none _ (Option.map_eq_none_iff.mp asked)
          exact .inr ⟨side, node, rfl, missing, rfl⟩

theorem consulted_consult (sound : q.index.fault = none) (unused : q.out = {}) :
    Consulted q.index.cache scope (q.consult scope name type).1 := by
  rw [consult_outcome, Index.answer, sound, unused]
  obtain ⟨known, endpoints, asked, stored⟩ | ⟨side, node, rfl, missing, asked⟩ :=
    endpoints_cases q.index scope
  · have size : (Index.collect name type endpoints).size ≤ q.index.cache.endpointCount :=
      Nat.le_trans (Index.size_collect_le_of_subset stored) q.index.cache.size_collect_all_le
    simp only [asked, NamesAndTypes.fill_zero]
    split
    · rename_i excess
      exact .tooMany known (Nat.lt_of_lt_of_le excess size)
    · exact .answered known
  · simp only [asked]
    exact .unknown missing

end Consult

/-- What a query with such demands on its arguments and such a scope comes to. -/
structure Conducted (demands : List Condition) (scope : Scope) (q : Inquiry)
    (r : Except Error Unit × Inquiry) : Prop where
  refused : ∀ e, Condition.FirstFailing demands e →
    r.1 = .error e ∧ e.kind = .invalidArgument ∧ r.2.index = q.index
  consulted : (∀ d ∈ demands, d.holds) → r.2.index.consulted = q.index.consulted ++ [scope]
  /-- An index that fails decides the error. -/
  faulty : (∀ d ∈ demands, d.holds) → ∀ e, q.index.fault = some e → r.1 = .error e
  invalid : q.index.fault = none →
    ∀ e, r.1 = .error e ∧ e.kind = .invalidArgument ↔ Condition.FirstFailing demands e
  failed : q.index.fault = none → (∀ d ∈ demands, d.holds) →
    ((∃ e, r.1 = .error e ∧ e.kind = .backendFailure) ↔ ¬ scope.Known q.index.cache)
  answered : q.index.fault = none → (∀ d ∈ demands, d.holds) → scope.Known q.index.cache →
    q.index.cache.endpointCount ≤ NamesAndTypes.mostEntries → r.1 = .ok ()
  outcome : q.index.fault = none → (∀ d ∈ demands, d.holds) → Consulted q.index.cache scope r.1
  kept : ∀ e, r.1 = .error e → r.2.out = q.out
  unchanged : r.2.index.cache = q.index.cache

variable {q : Inquiry} {demands : List Condition} {arguments : Except Error Unit} {scope : Scope}
  {name type : Demangler}

/-- Neither the graph nor the container is touched before the arguments are in order. -/
theorem conducted_of_refused {e : Error}
    (decided : Condition.Decide demands (.error e : Except Error Unit))
    (invalid : ∀ d ∈ demands, d.error.kind = .invalidArgument) :
    Conducted demands scope q (q.ask (.error e) scope name type) := by
  have kind {e' : Error} (failing : Condition.FirstFailing demands e') :
      e'.kind = .invalidArgument := by
    obtain ⟨d, mem, rfl⟩ := failing.mem
    exact invalid d mem
  have first (e' : Error) : (.error e : Except Error Unit) = .error e' ↔
      Condition.FirstFailing demands e' := decided.error_iff e'
  have broken : ¬ ∀ d ∈ demands, d.holds := by
    intro given
    obtain ⟨_, ok⟩ := decided.ok_iff.mpr given
    cases ok
  constructor
  case refused => exact fun e' failing => ⟨(first e').mpr failing, kind failing, rfl⟩
  case consulted | faulty => exact fun given => absurd given broken
  case invalid =>
    intro _ e'
    rw [← first]
    exact and_iff_left_of_imp fun same => kind ((first e').mp same)
  case failed | answered | outcome => exact fun _ given => absurd given broken
  case kept => exact fun _ _ => rfl
  case unchanged => rfl

/-- The graph is consulted once, and its failure is passed on as it is. -/
theorem conducted_of_granted (decided : Condition.Decide demands (.ok ())) (unused : q.out = {}) :
    Conducted demands scope q (q.ask (.ok ()) scope name type) := by
  have passed (e : Error) : ¬ Condition.FirstFailing demands e := by
    intro failing
    cases (decided.error_iff e).mpr failing
  have index : (q.ask (.ok ()) scope name type).2.index = q.index.consult scope := index_consult
  have consulted (sound : q.index.fault = none) :
      Consulted q.index.cache scope (q.ask (.ok ()) scope name type).1 :=
    consulted_consult sound unused
  constructor
  case refused => exact fun e failing => absurd failing (passed e)
  case consulted => exact fun _ => congrArg Index.consulted index
  case faulty =>
    intro _ e fault
    refine consult_outcome.trans ?_
    rw [Index.answer, fault]
    rfl
  case invalid =>
    refine fun sound e => iff_of_false (fun failed => ?_) (passed e)
    have outcome := consulted sound
    rw [failed.1] at outcome
    exact outcome.kind_ne failed.2
  case failed => exact fun sound _ => (consulted sound).failed_iff
  case answered => exact fun sound _ => (consulted sound).ok
  case outcome => exact fun sound _ => consulted sound
  case kept => exact fun e failed => out_consult failed
  case unchanged => rw [index, Index.consult]

theorem conducted_ask (decided : Condition.Decide demands arguments)
    (invalid : ∀ d ∈ demands, d.error.kind = .invalidArgument)
    (unused : ⟨q.out = {}, .outputInUse⟩ ∈ demands) :
    Conducted demands scope q (q.ask arguments scope name type) := by
  cases arguments with
  | error e => exact conducted_of_refused decided invalid
  | ok _ =>
      have given := decided.ok_iff.mp ⟨(), rfl⟩
      exact conducted_of_granted decided (given _ unused)

/-- A query about a node and the two queries about the whole graph go by their arguments, then
by one consultation, and leave nothing behind when they fail. -/
theorem queries_conducted (q : Inquiry) (handle : NodeHandle) :
    (∀ queried category raw,
      Conducted (nodeDemands handle queried q.out) (.node category.route.side queried) q
        (q.ofNode handle queried category raw)) ∧
      (∀ raw, Conducted (graphDemands handle q.out) .everything q (q.allTopics handle raw)) ∧
      Conducted (graphDemands handle q.out) .everything q (q.allServices handle) := by
  have ofGraph (name type : Demangler) : Conducted (graphDemands handle q.out) .everything q
      (q.ask (checkGraph handle q.out) .everything name type) :=
    conducted_ask (checkGraph_decided handle q.out) (by simp [graphDemands, Error.kind])
      (by simp [graphDemands])
  refine ⟨fun queried category raw => ?_, fun raw => ofGraph _ _, ofGraph _ _⟩
  rw [ofNode, Category.side_routeWith]
  exact conducted_ask (checkNode_decided handle queried q.out)
    (by simp [nodeDemands, Error.kind]) (by simp [nodeDemands])

end Inquiry

end RosMiddleware.Graph
