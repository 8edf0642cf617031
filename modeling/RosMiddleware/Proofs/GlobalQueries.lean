import RosMiddleware.Proofs.NodeQueries
import RosMiddleware.Proofs.TopicNames

/-!
Queries about the whole graph beside queries about its nodes. The former go through the
endpoints and the latter through the lists under the nodes; the topics of the graph are
those of its nodes taken together, and its services contain those that its nodes serve or
call. Beyond that, what a global query leaves its caller with depends on nothing but the
topics and types that are stored.
-/
namespace RosMiddleware

namespace Graph

def Endpoint.labels (e : Endpoint) : String × String := (e.topic, e.typeName)

/-- What is collected does not depend on the order in which endpoints are visited, nor on their
nodes and identifiers. -/
theorem Index.collect_congr (name type : Demangler) {endpoints endpoints' : List Endpoint}
    (same : (endpoints.map Endpoint.labels).Perm (endpoints'.map Endpoint.labels)) :
    collect name type endpoints = collect name type endpoints' := by
  have labelled : ∀ (es : List Endpoint) (x y : String),
      (collect name type es).Under x y ↔
        ∃ l ∈ es.map Endpoint.labels, name.apply l.1 = some x ∧ type.apply l.2 = some y := by
    intro es x y
    rw [under_collect]
    constructor
    · rintro ⟨e, mem, reads⟩
      exact ⟨e.labels, List.mem_map_of_mem mem, reads⟩
    · rintro ⟨_, labels, reads⟩
      obtain ⟨e, mem, rfl⟩ := List.mem_map.mp labels
      exact ⟨e, mem, reads⟩
  refine TypesByName.eq_of_under populated_collect populated_collect fun x y => ?_
  simp only [labelled, same.mem_iff]

namespace Reference

variable {r : Reference} {node : NodeKey}

theorem mem_nodes_act {u : Update} (present : node ∈ (r.act u).2.nodes) :
    node ∈ r.nodes ∨ u = .addNode node := by
  cases u with
  | addNode other =>
      simp only [act, Std.ExtTreeSet.mem_insert, Std.LawfulEqCmp.compare_eq_iff_eq] at present
      exact present.symm.imp_right (congrArg _)
  | removeNode other =>
      simp only [act] at present
      split at present
      · exact .inl (Std.ExtTreeSet.mem_of_mem_erase present)
      · exact .inl present
  | addEndpoint gid e | removeEndpoint gid =>
      simp only [act] at present
      split at present <;> exact .inl present

/-- The nodes that are there have all been added. -/
theorem mem_nodes_run {updates : List Update} (present : node ∈ (r.run updates).2.nodes) :
    node ∈ r.nodes ∨ .addNode node ∈ updates := by
  induction updates generalizing r with
  | nil => exact .inl present
  | cons u updates ih =>
      obtain before | later := ih present
      · refine (mem_nodes_act before).imp_right ?_
        rintro rfl
        exact List.mem_cons_self
      · exact .inr (List.mem_cons_of_mem u later)

end Reference

namespace Cache

theorem mem_all_of_ofNode? {c : Cache} {side : Side} {node : NodeKey}
    {endpoints : List Endpoint} (asked : c.ofNode? side node = some endpoints) {e : Endpoint}
    (mem : e ∈ endpoints) : e ∈ c.all := by
  obtain ⟨gids, _, rfl⟩ := Option.map_eq_some_iff.mp asked
  obtain ⟨gid, _, stored⟩ := List.mem_filterMap.mp (List.mem_filter.mp mem).1
  exact mem_all.mpr ⟨gid, stored⟩

end Cache

namespace Inquiry

variable {c : Cache} {handle : NodeHandle} {x y : String}

theorem reports_found {m : TypesByName} :
    (found m).2.Reports x y ↔ m.size ≤ NamesAndTypes.mostEntries ∧ m.Under x y := by
  by_cases room : m.size ≤ NamesAndTypes.mostEntries
  · simp [found_of_le room, room, NamesAndTypes.reports_ofTable]
  · simp [found_of_lt (Nat.lt_of_not_le room), room, NamesAndTypes.Reports,
      NamesAndTypes.entries]

theorem checkGraph_eq (handle : NodeHandle) (out : NamesAndTypes) :
    checkGraph handle out =
      if handle.implementation = implementationTag then
        if out = {} then .ok () else .error .outputInUse
      else .error (.foreignNode handle.implementation) := by
  simp only [checkGraph, NodeHandle.check, NamesAndTypes.checkZero, NamesAndTypes.isZero_iff]
  by_cases own : handle.implementation = implementationTag <;>
    simp only [own, if_true, if_false] <;> rfl

theorem checkGraph_of_own (own : handle.implementation = implementationTag) :
    checkGraph handle {} = .ok () := by
  rw [checkGraph_eq, if_pos own, if_pos rfl]

theorem result_allTopics (own : handle.implementation = implementationTag)
    (consulted : List Scope) (journal : Journal) (raw : Bool) :
    result ((c.inquiry consulted journal).allTopics handle raw) =
      found (Index.collect (Category.topicSubscribers.routeWith raw).name
        (Category.topicSubscribers.routeWith raw).type c.all) := by
  rw [allTopics, result_ask]
  simp only [Cache.inquiry, checkGraph_of_own own, Index.endpoints]

theorem result_allServices (own : handle.implementation = implementationTag)
    (consulted : List Scope) (journal : Journal) :
    result ((c.inquiry consulted journal).allServices handle) =
      found (Index.collect .serviceTopic .serviceType c.all) := by
  rw [allServices, result_ask]
  simp only [Cache.inquiry, checkGraph_of_own own, Index.endpoints]

/-- Whatever comes of a query about a node, it reports nothing that is not stored. -/
theorem stored_of_reports_ofNode {consulted : List Scope} {journal : Journal} {node : NodeKey}
    {category : Category} {raw : Bool}
    (reports : (result
      ((c.inquiry consulted journal).ofNode handle node category raw)).2.Reports x y) :
    ∃ e ∈ c.all, (category.routeWith raw).name.apply e.topic = some x ∧
      (category.routeWith raw).type.apply e.typeName = some y := by
  have nothing : ¬ NamesAndTypes.Reports {} x y := by
    simp [NamesAndTypes.Reports, NamesAndTypes.entries]
  rw [ofNode, result_ask] at reports
  split at reports
  · exact absurd reports nothing
  · exact absurd reports nothing
  · rename_i endpoints asked
    obtain ⟨e, mem, reads⟩ := Index.under_collect.mp (reports_found.mp reports).2
    refine ⟨e, ?_, reads⟩
    simp only [Cache.inquiry, Index.endpoints] at asked
    split at asked
    · rename_i listed
      cases asked
      exact Cache.mem_all_of_ofNode? listed mem
    · cases asked

/-- An endpoint is found by the query about its own node. -/
theorem reports_ofNode_of_stored {e : Endpoint} (indexed : c.Indexed)
    (own : handle.implementation = implementationTag) (stored : e ∈ c.all)
    (named : e.node.name ≠ "" ∧ e.node.space ≠ "") (consulted : List Scope) (journal : Journal)
    (raw : Bool) (category : Category) {name type : String}
    (side : category.route.side = e.side)
    (room : (Index.collect (category.routeWith raw).name (category.routeWith raw).type
      c.all).size ≤ NamesAndTypes.mostEntries)
    (reads : (category.routeWith raw).name.apply e.topic = some name ∧
      (category.routeWith raw).type.apply e.typeName = some type) :
    (result ((c.inquiry consulted journal).ofNode handle e.node category raw)).2.Reports
      name type := by
  have known := Cache.node_mem_of_mem_all indexed stored
  obtain ⟨endpoints, answered, mem⟩ :=
    result_ofNode indexed known own named.1 named.2 consulted journal category raw
  rw [answered, reports_found]
  constructor
  · have sub : ∀ other ∈ endpoints, other ∈ c.all := fun other asked => ((mem other).mp asked).1
    exact Nat.le_trans (Index.size_collect_le_of_subset sub) room
  · rw [Index.under_collect]
    exact ⟨e, (mem e).mpr ⟨stored, rfl, by rw [Category.side_routeWith, side]⟩, reads⟩

end Inquiry

/-- The container reports what queries about the nodes report that read or write topics. -/
def Inquiry.UnitesTopics (q : Inquiry) (handle : NodeHandle) (raw : Bool)
    (out : NamesAndTypes) : Prop :=
  ∀ name type, out.Reports name type ↔
    ∃ node, q.index.cache.nodeExists node = true ∧
      ((result (q.answer handle node (.subscribers raw))).2.Reports name type ∨
        (result (q.answer handle node (.publishers raw))).2.Reports name type)

/-- The container reports at least the services that nodes serve or call. -/
def Inquiry.CoversServices (q : Inquiry) (handle : NodeHandle) (out : NamesAndTypes) : Prop :=
  ∀ node name type,
    (result (q.answer handle node .services)).2.Reports name type ∨
      (result (q.answer handle node .clients)).2.Reports name type →
    out.Reports name type

theorem Inquiry.unitesTopics_allTopics {c : Cache} {handle : NodeHandle} (indexed : c.Indexed)
    (own : handle.implementation = implementationTag)
    (named : ∀ node ∈ c.nodes, node.name ≠ "" ∧ node.space ≠ "") (consulted : List Scope)
    (journal : Journal) (raw : Bool) :
    let q := c.inquiry consulted journal
    Answered c (result (q.allTopics handle raw)) fun out =>
      out.Ordered ∧ q.UnitesTopics handle raw out := by
  intro q
  rw [result_allTopics own]
  refine answered_found c.size_collect_all_le fun room =>
    ⟨NamesAndTypes.ordered_ofTable Index.populated_collect, fun name type => ?_⟩
  rw [NamesAndTypes.reports_ofTable, Index.under_collect]
  constructor
  · rintro ⟨e, stored, reads⟩
    have known := Cache.node_mem_of_mem_all indexed stored
    have reports := reports_ofNode_of_stored indexed own stored (named e.node known) consulted
      journal raw
    refine ⟨e.node, known, ?_⟩
    -- the two categories differ in their side alone
    cases side : e.side with
    | reader => exact .inl (reports .topicSubscribers side.symm room reads)
    | writer =>
        exact .inr (reports .topicPublishers side.symm (by cases raw <;> exact room)
          (by cases raw <;> exact reads))
  · rintro ⟨node, _, reports | reports⟩
    · exact stored_of_reports_ofNode reports
    · have reads := stored_of_reports_ofNode reports
      cases raw <;> exact reads

theorem Inquiry.coversServices_allServices {c : Cache} {handle : NodeHandle}
    (own : handle.implementation = implementationTag) (consulted : List Scope)
    (journal : Journal) :
    let q := c.inquiry consulted journal
    Answered c (result (q.allServices handle)) fun out =>
      out.Ordered ∧ q.CoversServices handle out := by
  intro q
  rw [result_allServices own]
  refine answered_found c.size_collect_all_le fun _ =>
    ⟨NamesAndTypes.ordered_ofTable Index.populated_collect, fun node name type => ?_⟩
  rw [NamesAndTypes.reports_ofTable, Index.under_collect]
  rintro (reports | reports)
  · obtain ⟨e, stored, request, known⟩ := stored_of_reports_ofNode reports
    exact ⟨e, stored, Demangler.serviceTopic_of_requestTopic request, known⟩
  · obtain ⟨e, stored, reply, known⟩ := stored_of_reports_ofNode reports
    exact ⟨e, stored, Demangler.serviceTopic_of_replyTopic reply, known⟩

/-- Whatever updates came before, the topics of the whole graph are those that queries about its
nodes report, and its services cover theirs. Two graphs with the same endpoints give the same
answers, however they came about and in whatever order they are visited. -/
theorem global_queries_agree (updates : List Update) (consulted : List Scope)
    (journal : Journal) (handle : NodeHandle)
    (own : handle.implementation = implementationTag)
    (named : ∀ node, .addNode node ∈ updates → node.name ≠ "" ∧ node.space ≠ "") :
    let c := (Cache.run {} updates).2
    let q := c.inquiry consulted journal
    (∀ raw, Answered c (Inquiry.result (q.allTopics handle raw)) fun out =>
        out.Ordered ∧ q.UnitesTopics handle raw out) ∧
      (Answered c (Inquiry.result (q.allServices handle)) fun out =>
        out.Ordered ∧ q.CoversServices handle out) ∧
      (∀ visited : List Endpoint,
        (visited.map Endpoint.labels).Perm (c.all.map Endpoint.labels) →
          (∀ raw, Inquiry.result (q.allTopics handle raw) =
            Inquiry.found (Index.collect (Category.topicSubscribers.routeWith raw).name
              (Category.topicSubscribers.routeWith raw).type visited)) ∧
          Inquiry.result (q.allServices handle) =
            Inquiry.found (Index.collect .serviceTopic .serviceType visited)) ∧
      ∀ (updates' : List Update) (consulted' : List Scope) (journal' : Journal),
        let c' := (Cache.run {} updates').2
        let q' := c'.inquiry consulted' journal'
        (c'.all.map Endpoint.labels).Perm (c.all.map Endpoint.labels) →
          (∀ raw, Inquiry.result (q'.allTopics handle raw) =
            Inquiry.result (q.allTopics handle raw)) ∧
          Inquiry.result (q'.allServices handle) = Inquiry.result (q.allServices handle) := by
  intro c q
  have represents := (represents_empty.run updates).1
  have names : ∀ node ∈ c.nodes, node.name ≠ "" ∧ node.space ≠ "" := by
    intro node present
    obtain before | added := Reference.mem_nodes_run ((represents.nodes node).mp present)
    · exact absurd before Std.ExtTreeSet.not_mem_empty
    · exact named node added
  refine ⟨Inquiry.unitesTopics_allTopics represents.indexed own names consulted journal,
    Inquiry.coversServices_allServices own consulted journal, ?_, ?_⟩
  · intro visited same
    refine ⟨fun raw => ?_, ?_⟩
    · rw [Inquiry.result_allTopics own, Index.collect_congr _ _ same]
    · rw [Inquiry.result_allServices own, Index.collect_congr _ _ same]
  · intro updates' consulted' journal' c' q' same
    refine ⟨fun raw => ?_, ?_⟩
    · rw [Inquiry.result_allTopics own, Inquiry.result_allTopics own,
        Index.collect_congr _ _ same]
    · rw [Inquiry.result_allServices own, Inquiry.result_allServices own,
        Index.collect_congr _ _ same]

/-- Another history with the same topics and types, under other identifiers. -/
theorem global_queries_agree_moved :
    let server : NodeKey := ⟨"/", "server"⟩
    let talker : NodeKey := ⟨"/demo", "talker"⟩
    let gid (n : BitVec 192) : Gid := ⟨implementationTag, n⟩
    let requests : Endpoint := ⟨.reader, "rq/add_two_intsRequest",
      "example_interfaces::srv::dds_::AddTwoInts_Request_", server⟩
    let chatter : Endpoint := ⟨.writer, "rt/demo/chatter", "std_msgs::msg::dds_::String_", talker⟩
    let updates := [.addNode server, .addNode talker, .addEndpoint (gid 1) requests,
      .addEndpoint (gid 2) chatter]
    let updates' := [.addNode talker, .addEndpoint (gid 1) { chatter with side := .reader },
      .addNode server, .addEndpoint (gid 3) { requests with node := talker },
      .addEndpoint (gid 3) requests]
    let q := (Cache.run {} updates).2.inquiry [] {}
    let q' := (Cache.run {} updates').2.inquiry [] {}
    let handle : NodeHandle := ⟨implementationTag, talker⟩
    let topics := Inquiry.result (q.allTopics handle false)
    let services := Inquiry.result (q.allServices handle)
    (∀ node, .addNode node ∈ updates → node.name ≠ "" ∧ node.space ≠ "") ∧
      topics.1 = .ok () ∧ topics.2.Reports "demo/chatter" "std_msgs/msg/String" ∧
      services.1 = .ok () ∧
      services.2.Reports "add_two_ints" "example_interfaces/srv/AddTwoInts" ∧
      Inquiry.result (q'.allTopics handle false) = topics ∧
      Inquiry.result (q'.allServices handle) = services := by
  intro server talker gid requests chatter updates updates' q q' handle topics services
  have named : ∀ node, .addNode node ∈ updates → node.name ≠ "" ∧ node.space ≠ "" := by
    simp [updates, server, talker]
  have few : (Cache.run {} updates).2.endpointCount ≤ NamesAndTypes.mostEntries := by
    decide +kernel
  have published : (Inquiry.result (q.answer handle talker (.publishers false))).2.Reports
      "demo/chatter" "std_msgs/msg/String" :=
    ⟨["std_msgs/msg/String"], by decide +kernel, by decide⟩
  have served : (Inquiry.result (q.answer handle server .services)).2.Reports
      "add_two_ints" "example_interfaces/srv/AddTwoInts" :=
    ⟨["example_interfaces/srv/AddTwoInts"], by decide +kernel, by decide⟩
  obtain ⟨united, covered, _, others⟩ := global_queries_agree updates [] {} handle rfl named
  obtain ⟨sameTopics, sameServices⟩ := others updates' [] {} (by decide +kernel)
  rcases united false with ⟨ok, _, united⟩ | ⟨excess, _⟩
  · rcases covered with ⟨ok', _, covered⟩ | ⟨excess, _⟩
    · exact ⟨named, ok, (united _ _).mpr ⟨talker, by decide, .inr published⟩, ok',
        covered _ _ _ (.inl served), sameTopics false, sameServices⟩
    · exact absurd few (Nat.not_le.mpr excess)
  · exact absurd few (Nat.not_le.mpr excess)

end Graph

end RosMiddleware
