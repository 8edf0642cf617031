import RosMiddleware.Proofs.CreationRollback
import RosMiddleware.Proofs.GlobalQueries
import RosMiddleware.Proofs.TypeNames
import RosMiddleware.Proofs.WrittenProfiles

/-!
Subscriptions put into the graph. The reader of a subscription is found there under the
topic and the type that were asked for, beside whatever else its node subscribes to; no
other node and no other category but that of actions called shows a trace of it, and when it
is taken out again the graph is the one from before.
-/
namespace RosMiddleware

open Subscription (Request)

namespace Subscription

/-- The labels by which the graph knows the reader of a subscription. -/
structure Labelled (r : Request) (type : MessageType) (sub : Subscription) : Prop where
  topic : sub.ddsTopicName = TopicName.build r.qos Channel.message.mark r.topic ""
  type : sub.typeName = type.typeName

theorem labelled_of_create {s : Site} {r : Request} {support : TypeSupport}
    {sub : Subscription} (preferred : TypeSupport.Preferred r.offered support)
    (created : (s.create r).1 = .ok sub) : Labelled r support.type sub := by
  obtain ⟨other, _, _, _, checked, established, _⟩ := Site.create_ok created
  obtain rfl : support = other :=
    preferred.unique (Request.preferred_of_check checked)
  have fulfilled := Registrar.establish_fulfilled established
  obtain ⟨defaults, written⟩ := fulfilled.attributes
  exact ⟨(Request.sameTopic_attributes written).topicName, fulfilled.typed⟩

end Subscription

namespace Graph

namespace Cache

variable {c c' : Cache} {gid : Gid} {e : Endpoint}

structure Extended (c : Cache) (e : Endpoint) (c' : Cache) : Prop where
  indexed : c'.Indexed
  nodes : ∀ node, node ∈ c'.nodes ↔ node ∈ c.nodes
  all : ∀ other, other ∈ c'.all ↔ other = e ∨ other ∈ c.all

/-- The identifier is new, so nothing is replaced. -/
theorem mem_all_of_insert (endpoints : c'.endpoints = c.endpoints.insert gid e)
    (new : c.endpoints[gid]? = none) (other : Endpoint) :
    other ∈ c'.all ↔ other = e ∨ other ∈ c.all := by
  simp only [mem_all, endpoints, Std.ExtTreeMap.getElem?_insert,
    Std.LawfulEqCmp.compare_eq_iff_eq]
  constructor
  · rintro ⟨key, stored⟩
    split at stored
    · exact .inl (Option.some.inj stored).symm
    · exact .inr ⟨key, stored⟩
  · rintro (rfl | ⟨key, stored⟩)
    · exact ⟨gid, if_pos rfl⟩
    · have apart : gid ≠ key := by
        rintro rfl
        cases new.symm.trans stored
      exact ⟨key, by rw [if_neg apart, stored]⟩

/-- What was put in under an identifier that was not in use can be taken out without a
trace. -/
theorem addEndpoint_of_new (indexed : c.Indexed) (known : e.node ∈ c.nodes)
    (new : c.endpoints[gid]? = none) :
    ∃ c', c.addEndpoint gid e = .ok c' ∧ Extended c e c' ∧
      c'.removeEndpoint gid = (true, c) := by
  obtain ⟨c', added, endpoints, nodes, _⟩ := addEndpoint_of_known indexed known gid
  refine ⟨c', added, ⟨indexed_addEndpoint indexed added, nodes,
    mem_all_of_insert endpoints new⟩, ?_⟩
  have listed := Std.ExtTreeMap.getElem?_eq_some_getElem known
  have unlisted : gid ∉ c.nodes[e.node] := by
    rw [← lists_of_some gid listed, indexed_iff.mp indexed]
    exact not_owns_of_none e.node new
  have gids : (c.nodes[e.node].insert gid).erase gid = c.nodes[e.node] := by
    refine Std.ExtTreeSet.ext_mem fun other => ?_
    simp only [Std.ExtTreeSet.mem_erase, Std.ExtTreeSet.mem_insert, ne_eq,
      Std.LawfulEqCmp.compare_eq_iff_eq]
    constructor
    · rintro ⟨apart, inside⟩
      exact inside.resolve_left apart
    · intro inside
      refine ⟨?_, .inr inside⟩
      rintro rfl
      exact unlisted inside
  simp only [addEndpoint, listed, new, Except.ok.injEq] at added
  subst added
  simp only [removeEndpoint, unlist, Std.ExtTreeMap.getElem?_insert_self, gids,
    table_erase_insert, table_erase_of_none _ new, table_insert_insert,
    table_insert_of_some _ listed]

end Cache

namespace Inquiry

variable {c c' : Cache}

/-- A query about a node depends on the endpoints that it reads, and on nothing else. -/
theorem result_ofNode_congr (indexed : c.Indexed) (indexed' : c'.Indexed)
    (nodes : ∀ node, node ∈ c'.nodes ↔ node ∈ c.nodes) {queried : NodeKey}
    {category : Category} {raw : Bool}
    (same : ∀ x y,
      (∃ e ∈ c'.all, e.node = queried ∧ e.side = category.route.side ∧
          category.Reads raw e x y) ↔
        ∃ e ∈ c.all, e.node = queried ∧ e.side = category.route.side ∧
          category.Reads raw e x y)
    (handle : NodeHandle) (consulted : List Scope) (journal : Journal) :
    result ((c'.inquiry consulted journal).ofNode handle queried category raw) =
      result ((c.inquiry consulted journal).ofNode handle queried category raw) := by
  rw [ofNode, ofNode, result_ask, result_ask]
  by_cases known : queried ∈ c.nodes
  · obtain ⟨endpoints, asked, mem⟩ := c.mem_ofNode? indexed known (category.routeWith raw).side
    obtain ⟨endpoints', asked', mem'⟩ :=
      c'.mem_ofNode? indexed' ((nodes queried).mpr known) (category.routeWith raw).side
    have table :
        Index.collect (category.routeWith raw).name (category.routeWith raw).type endpoints' =
          Index.collect (category.routeWith raw).name (category.routeWith raw).type
            endpoints := by
      refine TypesByName.eq_of_under Index.populated_collect Index.populated_collect
        fun x y => ?_
      simp only [Index.under_collect, mem, mem', ← Category.reads_iff, and_assoc,
        Category.side_routeWith]
      exact same x y
    simp only [Cache.inquiry, Index.endpoints, asked, asked']
    cases checkNode handle queried {} with
    | error e => rfl
    | ok _ => exact congrArg found table
  · have unknown := mt (nodes queried).mp known
    simp only [Cache.inquiry, Index.endpoints, Cache.ofNode?,
      Std.ExtTreeMap.getElem?_eq_none known, Std.ExtTreeMap.getElem?_eq_none unknown,
      Option.map_none]

/-- An endpoint that a query does not read makes no difference to it. -/
theorem result_ofNode_of_unread {e : Endpoint} (extended : c.Extended e c')
    (indexed : c.Indexed) {queried : NodeKey} {category : Category} {raw : Bool}
    (unread : ∀ x y, e.node = queried → e.side = category.route.side →
      ¬ category.Reads raw e x y)
    (handle : NodeHandle) (consulted : List Scope) (journal : Journal) :
    result ((c'.inquiry consulted journal).ofNode handle queried category raw) =
      result ((c.inquiry consulted journal).ofNode handle queried category raw) := by
  refine result_ofNode_congr indexed extended.indexed extended.nodes (fun x y => ?_) handle
    consulted journal
  constructor
  · rintro ⟨other, mem, own, side, reads⟩
    rcases (extended.all other).mp mem with rfl | before
    · exact absurd reads (unread x y own side)
    · exact ⟨other, before, own, side, reads⟩
  · rintro ⟨other, mem, reads⟩
    exact ⟨other, (extended.all other).mpr (.inr mem), reads⟩

/-- One that it reads adds a name and a type. -/
theorem answered_ofNode_of_read {e : Endpoint} (extended : c.Extended e c')
    (indexed : c.Indexed) {category : Category} {raw : Bool} {handle : NodeHandle}
    {name type : String} (known : e.node ∈ c.nodes)
    (own : handle.implementation = implementationTag) (named : e.node.name ≠ "")
    (placed : e.node.space ≠ "") (side : e.side = category.route.side)
    (reads : ∀ x y, category.Reads raw e x y ↔ x = name ∧ y = type)
    (consulted : List Scope) (journal : Journal) :
    Answered c' (result ((c'.inquiry consulted journal).ofNode handle e.node category raw))
      fun out =>
        (result ((c.inquiry consulted journal).ofNode handle e.node category raw)).1 = .ok () ∧
          out.Ordered ∧ ∀ x y, out.Reports x y ↔
            (result ((c.inquiry consulted journal).ofNode handle e.node category raw)).2.Reports
              x y ∨ x = name ∧ y = type := by
  obtain ⟨endpoints, before, mem⟩ :=
    result_ofNode indexed known own named placed consulted journal category raw
  obtain ⟨endpoints', after, mem'⟩ := result_ofNode extended.indexed
    ((extended.nodes e.node).mpr known) own named placed consulted journal category raw
  have under (x y : String) :
      (Index.collect (category.routeWith raw).name (category.routeWith raw).type
          endpoints').Under x y ↔
        (Index.collect (category.routeWith raw).name (category.routeWith raw).type
          endpoints).Under x y ∨ x = name ∧ y = type := by
    simp only [Index.under_collect, mem, mem', ← Category.reads_iff, ← reads,
      Category.side_routeWith]
    constructor
    · rintro ⟨other, ⟨stored, own, side⟩, read⟩
      rcases (extended.all other).mp stored with rfl | stored
      · exact .inr read
      · exact .inl ⟨other, ⟨stored, own, side⟩, read⟩
    · rintro (⟨other, ⟨stored, own, side⟩, read⟩ | read)
      · exact ⟨other, ⟨(extended.all other).mpr (.inr stored), own, side⟩, read⟩
      · exact ⟨e, ⟨(extended.all e).mpr (.inl rfl), rfl, side⟩, read⟩
  have grown := TypesByName.size_le_of_under Index.populated_collect
    fun x y found => (under x y).mpr (.inl found)
  have stored : ∀ other ∈ endpoints', other ∈ c'.all :=
    fun other asked => ((mem' other).mp asked).1
  rw [after, before]
  refine answered_found
    (Nat.le_trans (Index.size_collect_le_of_subset stored) c'.size_collect_all_le) fun room => ?_
  rw [found_of_le (Nat.le_trans grown room)]
  refine ⟨rfl, NamesAndTypes.ordered_ofTable Index.populated_collect, fun x y => ?_⟩
  rw [NamesAndTypes.reports_ofTable, NamesAndTypes.reports_ofTable, under]

end Inquiry

end Graph

namespace Graph

variable {r : Request} {type : MessageType} {sub : Subscription} {parts : List String}
  {body : String}

/-- The reader of a subscription, as it is put into the graph. -/
def Endpoint.ofSubscription (sub : Subscription) (node : NodeKey) : Endpoint where
  side := .reader
  topic := sub.ddsTopicName
  typeName := sub.typeName
  node := node

theorem topic_ofSubscription (labelled : sub.Labelled r type)
    (conventional : r.qos.rawNames = false) (bodied : TopicName.Body r.topic body)
    (node : NodeKey) :
    (Endpoint.ofSubscription sub node).topic = Channel.message.mark ++ "/" ++ body := by
  rw [Endpoint.ofSubscription, labelled.topic, TopicName.build, conventional,
    TopicName.withoutSlash_eq_iff.mpr bodied]
  simp only [Bool.false_eq_true, if_false, String.append_empty]

/-- By the route of subscribers the reader has just the name and the type that the subscription was
created with. -/
theorem reads_subscribers (labelled : sub.Labelled r type)
    (conventional : r.qos.rawNames = false) (bodied : TopicName.Body r.topic body)
    (spaced : Spaced type.space parts) (named : type.name ≠ "") (node : NodeKey) (x y : String) :
    Category.topicSubscribers.Reads false (.ofSubscription sub node) x y ↔
      x = body ∧ y = "/".intercalate (parts ++ [type.name]) := by
  have topic : Demangler.topic.apply (Endpoint.ofSubscription sub node).topic = some body :=
    TopicName.unmarked?_eq_some_iff.mpr (topic_ofSubscription labelled conventional bodied node)
  have name : Demangler.messageType.apply (Endpoint.ofSubscription sub node).typeName =
      some ("/".intercalate (parts ++ [type.name])) := by
    rw [Endpoint.ofSubscription, labelled.type]
    exact Demangler.messageTypeName?_typeName spaced named
  simp only [Category.Reads, Bool.false_eq_true, if_false, Category.route, topic, name,
    Option.some.injEq]
  exact and_congr eq_comm eq_comm

/-- A reader of messages is on the other side or carries another mark. -/
theorem not_reads_others (labelled : sub.Labelled r type)
    (conventional : r.qos.rawNames = false) (bodied : TopicName.Body r.topic body)
    {node : NodeKey} {category : Category}
    (other : category ∈ [.topicPublishers, .services, .clients, .actionServers])
    {x y : String} (side : Side.reader = category.route.side) :
    ¬ category.Reads false (.ofSubscription sub node) x y := by
  intro reads
  simp only [Category.Reads, Bool.false_eq_true, if_false,
    topic_ofSubscription labelled conventional bodied] at reads
  simp only [List.mem_cons, List.not_mem_nil, or_false] at other
  rcases other with rfl | rfl | rfl | rfl
  · cases side
  · have none := Demangler.serviceTopicName?_of_ne (c := .request) (d := .message) (by decide) body
    cases none.symm.trans reads.1
  · have none := Demangler.serviceTopicName?_of_ne (c := .reply) (d := .message) (by decide) body
    cases none.symm.trans reads.1
  · cases side

/-- A subscription that was created shows up in the graph among what its node subscribes to,
under its topic and with its type, and nowhere else; taking it out undoes that. -/
theorem subscription_in_graph (s : Site) (r : Request) (support : TypeSupport)
    (sub : Subscription) (body : String) (parts : List String) (updates : List Update)
    (node : NodeKey) (consulted : List Scope) (journal : Journal)
    (created : (s.create r).1 = .ok sub) (conventional : r.qos.rawNames = false)
    (bodied : TopicName.Body r.topic body)
    (preferred : TypeSupport.Preferred r.offered support)
    (spaced : Spaced support.type.space parts) (titled : support.type.name ≠ "")
    (present : (Cache.run {} updates).2.nodeExists node = true)
    (named : node.name ≠ "") (placed : node.space ≠ "")
    (new : sub.gid ∉ (Cache.run {} updates).2.endpoints) :
    let c := (Cache.run {} updates).2
    let answer (c : Cache) (handle : NodeHandle) (queried : NodeKey) (category : Category)
        (raw : Bool) :=
      Inquiry.result ((c.inquiry consulted journal).ofNode handle queried category raw)
    ∃ c', c.addEndpoint sub.gid ⟨.reader, sub.ddsTopicName, sub.typeName, node⟩ = .ok c' ∧
      (∀ handle : NodeHandle, handle.implementation = implementationTag →
        Answered c' (answer c' handle node .topicSubscribers false) fun out =>
          (answer c handle node .topicSubscribers false).1 = .ok () ∧ out.Ordered ∧
            ∀ name type, out.Reports name type ↔
              (answer c handle node .topicSubscribers false).2.Reports name type ∨
                name = body ∧ type = "/".intercalate (parts ++ [support.type.name])) ∧
      (∀ handle other category raw, other ≠ node →
        answer c' handle other category raw = answer c handle other category raw) ∧
      (∀ handle, ∀ category ∈ [.topicPublishers, .services, .clients, .actionServers],
        answer c' handle node category false = answer c handle node category false) ∧
      c'.removeEndpoint sub.gid = (true, c) := by
  intro c answer
  have labelled := Subscription.labelled_of_create preferred created
  have indexed : c.Indexed := (represents_empty.run updates).1.indexed
  have known : node ∈ c.nodes := present
  obtain ⟨c', added, extended, removed⟩ := Cache.addEndpoint_of_new
    (e := .ofSubscription sub node) indexed known (Std.ExtTreeMap.getElem?_eq_none new)
  refine ⟨c', added, ?_, ?_, ?_, removed⟩
  · intro handle own
    exact Inquiry.answered_ofNode_of_read extended indexed known own named placed rfl
      (reads_subscribers labelled conventional bodied spaced titled node) consulted journal
  · intro handle other category raw apart
    refine Inquiry.result_ofNode_of_unread extended indexed (fun x y same => ?_) handle
      consulted journal
    exact absurd same.symm apart
  · intro handle category others
    refine Inquiry.result_ofNode_of_unread extended indexed (fun x y _ side => ?_) handle
      consulted journal
    exact not_reads_others labelled conventional bodied others side

/-- The node has a reader of its own before, on the same topic; its report stays. -/
theorem subscription_in_graph_beside_another :
    let string : MessageType := ⟨"std_msgs::msg", "String", 256⟩
    let r : Request := ⟨[⟨TypeSupport.conventionCpp, string⟩], "/chatter", {}, false, false, true⟩
    let node : NodeKey := ⟨"/", "listener"⟩
    let c := (Cache.run {} [.addNode node, .addEndpoint ⟨"another", 1⟩
      ⟨.reader, "rt/chatter", "std_msgs::msg::dds_::Header_", node⟩]).2
    let subscribers (c : Cache) := Inquiry.result <|
      (c.inquiry [] {}).ofNode ⟨implementationTag, node⟩ node .topicSubscribers false
    TypeSupport.Preferred r.offered ⟨TypeSupport.conventionCpp, string⟩ ∧
      ∃ sub, ((Site.fresh {} 1).create r).1 = .ok sub ∧ sub.gid ∉ c.endpoints ∧
        ∃ c', c.addEndpoint sub.gid ⟨.reader, sub.ddsTopicName, sub.typeName, node⟩ = .ok c' ∧
          Answered c' (subscribers c') (fun out => ∀ name type, out.Reports name type ↔
            (subscribers c).2.Reports name type ∨
              name = "chatter" ∧ type = "std_msgs/msg/String") ∧
          c'.removeEndpoint sub.gid = (true, c) := by
  intro string r node c subscribers
  let gid : Gid := ⟨implementationTag,
    (⟨Transport.Guid.hostOf 1, Transport.Guid.readerOf 1⟩ : Transport.Guid).bits ++ 0#64⟩
  have made : ((Site.fresh {} 1).create r).1.toOption.map Subscription.gid = some gid := by
    decide +kernel
  obtain ⟨sub, created, same⟩ := Option.map_eq_some_iff.mp made
  have created : ((Site.fresh {} 1).create r).1 = .ok sub := by
    cases outcome : ((Site.fresh {} 1).create r).1 with
    | error e =>
        rw [outcome] at created
        cases created
    | ok other =>
        rw [outcome] at created
        exact congrArg Except.ok (Option.some.inj created)
  have spaced : Spaced string.space ["std_msgs", "msg"] :=
    ⟨by decide, fun part mem => by
      simp only [List.mem_cons, List.not_mem_nil, or_false] at mem
      rcases mem with rfl | rfl <;> exact ⟨by decide, by decide, by decide, by decide⟩⟩
  have new : sub.gid ∉ c.endpoints := by
    rw [same]
    decide +kernel
  have preferred : TypeSupport.Preferred r.offered ⟨TypeSupport.conventionCpp, string⟩ :=
    .cpp (by decide) [] [] rfl rfl nofun
  obtain ⟨c', added, subscribed, _, _, removed⟩ := subscription_in_graph (Site.fresh {} 1) r
    ⟨TypeSupport.conventionCpp, string⟩ sub "chatter" ["std_msgs", "msg"] _ node [] {} created rfl
    (.slashed "chatter") preferred spaced (by decide) (by decide) (by decide) (by decide) new
  have joined : "/".intercalate (["std_msgs", "msg"] ++ [string.name]) = "std_msgs/msg/String" := by
    decide
  refine ⟨preferred, sub, created, new, c', added, ?_, removed⟩
  cases subscribed ⟨implementationTag, node⟩ rfl with
  | filled ok out =>
      refine .filled ok fun name type => ?_
      have reported := out.2.2 name type
      rw [joined] at reported
      exact reported
  | tooMany excess failed => exact .tooMany excess failed

end Graph

end RosMiddleware
