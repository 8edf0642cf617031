import RosMiddleware.Graph.Query
import RosMiddleware.Proofs.GraphReference
import RosMiddleware.Proofs.ReportedNames

/-!
Queries of the graph into a container that is not in use. What a query about a node reports
is read off the stored endpoints: they belong to the node, stand on the side of the category,
and the demanglers of its route take their topic and type for the name and the type.
-/
namespace RosMiddleware.Graph

namespace Index

variable {name type : Demangler} {endpoints : List Endpoint}

theorem under_collect {x y : String} :
    (collect name type endpoints).Under x y ↔
      ∃ e ∈ endpoints, name.apply e.topic = some x ∧ type.apply e.typeName = some y := by
  rw [collect, TypesByName.under_foldl_add, List.mem_filterMap,
    or_iff_left (TypesByName.not_under_empty x y)]
  refine exists_congr fun e => and_congr_right fun _ => ?_
  simp only [named?, Option.bind_eq_some_iff, Option.map_eq_some_iff, Prod.mk.injEq]
  constructor
  · rintro ⟨_, apart, _, apart', rfl, rfl⟩
    exact ⟨apart, apart'⟩
  · rintro ⟨apart, apart'⟩
    exact ⟨x, apart, y, apart', rfl, rfl⟩

theorem populated_collect : (collect name type endpoints).Populated :=
  TypesByName.populated_foldl_add _ TypesByName.populated_empty

theorem size_collect_le : (collect name type endpoints).size ≤ endpoints.length := by
  have added := TypesByName.size_foldl_add_le (endpoints.filterMap (named? name type)) ∅
  have kept := List.length_filterMap_le (named? name type) endpoints
  rw [Std.ExtTreeMap.size_empty, Nat.zero_add] at added
  exact Nat.le_trans added kept

theorem size_collect_le_of_subset {endpoints' : List Endpoint}
    (sub : ∀ e ∈ endpoints, e ∈ endpoints') :
    (collect name type endpoints).size ≤ (collect name type endpoints').size := by
  refine TypesByName.size_le_of_under populated_collect fun x y => ?_
  simp only [under_collect]
  rintro ⟨e, mem, reads⟩
  exact ⟨e, sub e mem, reads⟩

end Index

namespace Cache

theorem mem_all {c : Cache} {e : Endpoint} :
    e ∈ c.all ↔ ∃ gid : Gid, c.endpoints[gid]? = some e := by
  simp [all, Std.ExtTreeMap.mem_toList_iff_getElem?_eq_some]

theorem node_mem_of_mem_all {c : Cache} (indexed : c.Indexed) {e : Endpoint} (stored : e ∈ c.all) :
    e.node ∈ c.nodes := by
  obtain ⟨gid, entry⟩ := mem_all.mp stored
  obtain ⟨gids, listed, _⟩ := indexed.listed gid e entry
  exact table_mem_of_some _ listed

theorem length_all (c : Cache) : c.all.length = c.endpointCount := by
  rw [all, List.length_map, Std.ExtTreeMap.length_toList, endpointCount]

theorem size_collect_all_le (c : Cache) {name type : Demangler} :
    (Index.collect name type c.all).size ≤ c.endpointCount :=
  c.length_all ▸ Index.size_collect_le

/-- The lists under the nodes can be trusted. -/
theorem mem_ofNode? {c : Cache} {node : NodeKey} (indexed : c.Indexed) (known : node ∈ c.nodes)
    (side : Side) :
    ∃ endpoints, c.ofNode? side node = some endpoints ∧
      ∀ e, e ∈ endpoints ↔ e ∈ c.all ∧ e.node = node ∧ e.side = side := by
  have listed := Std.ExtTreeMap.getElem?_eq_some_getElem known
  refine ⟨_, by rw [ofNode?, listed, Option.map_some], fun e => ?_⟩
  simp only [List.mem_filter, List.mem_filterMap, Std.ExtTreeSet.mem_toList, beq_iff_eq,
    ← lists_of_some _ listed, indexed_iff.mp indexed, mem_all]
  constructor
  · rintro ⟨⟨gid, owns, stored⟩, side⟩
    exact ⟨⟨gid, stored⟩, (owns_of_some node stored).mp owns, side⟩
  · rintro ⟨⟨gid, stored⟩, own, side⟩
    exact ⟨⟨gid, (owns_of_some node stored).mpr own, stored⟩, side⟩

/-- A query of the graph into a container that is not in use. -/
def inquiry (c : Cache) (consulted : List Scope) (journal : Journal) : Inquiry :=
  ⟨⟨c, consulted, none⟩, {}, journal⟩

end Cache

namespace Inquiry

def result (r : Except Error Unit × Inquiry) : Except Error Unit × NamesAndTypes :=
  (r.1, r.2.out)

def found (m : TypesByName) : Except Error Unit × NamesAndTypes :=
  match NamesAndTypes.fill {} m with
  | .ok out => (.ok (), out)
  | .error e => (.error e, {})

theorem found_of_le {m : TypesByName} (room : m.size ≤ NamesAndTypes.mostEntries) :
    found m = (.ok (), .ofTable m) := by
  rw [found, NamesAndTypes.fill_zero, if_neg (Nat.not_lt.mpr room)]

theorem found_of_lt {m : TypesByName} (excess : NamesAndTypes.mostEntries < m.size) :
    found m = (.error .outputTooLarge, {}) := by
  rw [found, NamesAndTypes.fill_zero, if_pos excess]

/-- A query that fails leaves its container empty. -/
theorem result_ask (c : Cache) (consulted : List Scope) (journal : Journal)
    (arguments : Except Error Unit) (scope : Scope) (name type : Demangler) :
    result ((c.inquiry consulted journal).ask arguments scope name type) =
      match arguments, (c.inquiry consulted journal).index.endpoints scope with
      | .error e, _ => (.error e, {})
      | .ok (), .error e => (.error e, {})
      | .ok (), .ok endpoints => found (Index.collect name type endpoints) := by
  cases arguments with
  | error e => rfl
  | ok _ =>
      simp only [result, ask, settle, consult, Index.answer, Cache.inquiry, found]
      cases (Index.mk c consulted none).endpoints scope with
      | error e => rfl
      | ok endpoints =>
          dsimp only
          cases NamesAndTypes.fill {} (Index.collect name type endpoints) <;> rfl

theorem checkNode_eq (handle : NodeHandle) (queried : NodeKey) (out : NamesAndTypes) :
    checkNode handle queried out =
      if handle.implementation = implementationTag then
        if queried.name ≠ "" then
          if queried.space ≠ "" then
            if out = {} then .ok () else .error .outputInUse
          else .error .emptyNodeNamespace
        else .error .emptyNodeName
      else .error (.foreignNode handle.implementation) := by
  simp only [checkNode, NodeHandle.check, NamesAndTypes.checkZero, NamesAndTypes.isZero_iff]
  by_cases own : handle.implementation = implementationTag <;>
    by_cases name : queried.name = "" <;> by_cases space : queried.space = "" <;>
      simp only [own, name, space, ne_eq, not_true_eq_false, not_false_eq_true, if_true,
        if_false] <;> rfl

theorem checkNode_of_named {handle : NodeHandle} {node : NodeKey}
    (own : handle.implementation = implementationTag) (named : node.name ≠ "")
    (placed : node.space ≠ "") : checkNode handle node {} = .ok () := by
  rw [checkNode_eq, if_pos own, if_pos named, if_pos placed, if_pos rfl]

/-- The table that a query about a node goes through. -/
theorem result_ofNode {c : Cache} {node : NodeKey} {handle : NodeHandle} (indexed : c.Indexed)
    (known : node ∈ c.nodes) (own : handle.implementation = implementationTag)
    (named : node.name ≠ "") (placed : node.space ≠ "") (consulted : List Scope)
    (journal : Journal) (category : Category) (raw : Bool) :
    ∃ endpoints,
      result ((c.inquiry consulted journal).ofNode handle node category raw) =
          found (Index.collect (category.routeWith raw).name (category.routeWith raw).type
            endpoints) ∧
        ∀ e, e ∈ endpoints ↔ e ∈ c.all ∧ e.node = node ∧
          e.side = (category.routeWith raw).side := by
  obtain ⟨endpoints, asked, mem⟩ := c.mem_ofNode? indexed known (category.routeWith raw).side
  refine ⟨endpoints, ?_, mem⟩
  have checked : checkNode handle node (c.inquiry consulted journal).out = .ok () :=
    checkNode_of_named own named placed
  rw [ofNode, result_ask, checked]
  simp only [Cache.inquiry, Index.endpoints, asked]

end Inquiry

theorem Category.side_routeWith (category : Category) (raw : Bool) :
    (category.routeWith raw).side = category.route.side := by
  cases raw <;> rfl

/-- The endpoint has the name and the type, as they are or by the demanglers of the route. -/
def Category.Reads (category : Category) (raw : Bool) (e : Endpoint) (name type : String) :
    Prop :=
  if raw then e.topic = name ∧ e.typeName = type
  else category.route.name.apply e.topic = some name ∧
    category.route.type.apply e.typeName = some type

theorem Category.reads_iff {category : Category} {raw : Bool} {e : Endpoint}
    {name type : String} :
    category.Reads raw e name type ↔
      (category.routeWith raw).name.apply e.topic = some name ∧
        (category.routeWith raw).type.apply e.typeName = some type := by
  cases raw <;> simp [Reads, routeWith, Demangler.identity]

/-- The query succeeds with such a container, unless the graph has more endpoints than a
container has room for. -/
inductive Answered (c : Cache) (r : Except Error Unit × NamesAndTypes)
    (holds : NamesAndTypes → Prop) : Prop
  | filled (ok : r.1 = .ok ()) (out : holds r.2)
  | tooMany (excess : NamesAndTypes.mostEntries < c.endpointCount)
      (failed : r = (.error .outputTooLarge, {}))

theorem answered_found {c : Cache} {m : TypesByName} {holds : NamesAndTypes → Prop}
    (size : m.size ≤ c.endpointCount)
    (out : m.size ≤ NamesAndTypes.mostEntries → holds (.ofTable m)) :
    Answered c (Inquiry.found m) holds := by
  by_cases room : m.size ≤ NamesAndTypes.mostEntries
  · have ok := Inquiry.found_of_le room
    exact .filled (by rw [ok]) (by rw [ok]; exact out room)
  · have excess := Nat.lt_of_not_le room
    exact .tooMany (Nat.lt_of_lt_of_le excess size) (Inquiry.found_of_lt excess)

/-- Whatever updates came before, a query about a node that is present reports the names and types
of the node's own endpoints on its side that the route reads, in order, and nothing else. -/
theorem reports_ofNode_iff (updates : List Update) (consulted : List Scope) (journal : Journal)
    (handle : NodeHandle) (node : NodeKey) (category : Category) (raw : Bool)
    (own : handle.implementation = implementationTag)
    (present : (Cache.run {} updates).2.nodeExists node = true)
    (named : node.name ≠ "") (placed : node.space ≠ "") :
    let c := (Cache.run {} updates).2
    let answer := (c.inquiry consulted journal).ofNode handle node category raw
    Answered c (Inquiry.result answer) fun out =>
      out.Ordered ∧ ∀ name type, out.Reports name type ↔
        ∃ (gid : Gid) (e : Endpoint), c.endpoints[gid]? = some e ∧ e.node = node ∧
          e.side = category.route.side ∧ category.Reads raw e name type := by
  intro c answer
  have indexed : c.Indexed := (represents_empty.run updates).1.indexed
  have known : node ∈ c.nodes := present
  obtain ⟨endpoints, result, mem⟩ :=
    Inquiry.result_ofNode indexed known own named placed consulted journal category raw
  rw [result]
  refine answered_found ?_ fun _ => ⟨NamesAndTypes.ordered_ofTable Index.populated_collect, ?_⟩
  · have stored : ∀ e ∈ endpoints, e ∈ c.all := fun e asked => ((mem e).mp asked).1
    exact Nat.le_trans (Index.size_collect_le_of_subset stored) c.size_collect_all_le
  · intro x y
    simp only [NamesAndTypes.reports_ofTable, Index.under_collect, mem, Cache.mem_all,
      Category.side_routeWith, Category.reads_iff]
    constructor
    · rintro ⟨e, ⟨⟨gid, stored⟩, own, side⟩, reads⟩
      exact ⟨gid, e, stored, own, side, reads⟩
    · rintro ⟨gid, e, stored, own, side, reads⟩
      exact ⟨e, ⟨⟨gid, stored⟩, own, side⟩, reads⟩

/-- A reader that has moved from one node to another is reported by the latter. -/
theorem reports_ofNode_iff_moved :
    let talker : NodeKey := ⟨"/", "talker"⟩
    let listener : NodeKey := ⟨"/demo", "listener"⟩
    let gid : Gid := ⟨implementationTag, 1⟩
    let reader : Endpoint := ⟨.reader, "rt/chatter", "std_msgs::msg::dds_::String_", listener⟩
    let c := (Cache.run {} [.addNode talker, .addNode listener,
      .addEndpoint gid { reader with node := talker }, .addEndpoint gid reader]).2
    let r := Inquiry.result <|
      (c.inquiry [] {}).ofNode ⟨implementationTag, talker⟩ listener .topicSubscribers false
    c.nodeExists listener = true ∧ listener.name ≠ "" ∧ listener.space ≠ "" ∧
      r.1 = .ok () ∧ r.2.Reports "chatter" "std_msgs/msg/String" := by
  intro talker listener gid reader c r
  have present : c.nodeExists listener = true := by decide
  have named : listener.name ≠ "" := by decide
  have placed : listener.space ≠ "" := by decide
  have stored : c.endpoints[gid]? = some reader := by decide +kernel
  have reads : Category.topicSubscribers.Reads false reader "chatter" "std_msgs/msg/String" :=
    Category.reads_iff.mpr (by decide +kernel)
  refine ⟨present, named, placed, ?_⟩
  rcases reports_ofNode_iff _ [] {} ⟨implementationTag, talker⟩ listener .topicSubscribers false
    rfl present named placed with ⟨ok, _, reported⟩ | ⟨excess, _⟩
  · exact ⟨ok, (reported _ _).mpr ⟨gid, reader, stored, rfl, rfl, reads⟩⟩
  · have few : c.endpointCount ≤ NamesAndTypes.mostEntries := by decide +kernel
    exact absurd few (Nat.not_le.mpr excess)

end RosMiddleware.Graph
