import RosMiddleware.Graph.Cache
import RosMiddleware.Proofs.Tables

/-!
Runs of updates of the graph, against a reference that keeps the nodes as a set and the
endpoints as a map in which the last write counts. The reference has no index: what a node
owns is read off the endpoints. The lists that the graph keeps under its nodes agree with
that after every run, and a caller cannot tell the two apart.
-/
namespace RosMiddleware.Graph

inductive Update
  | addNode (node : NodeKey)
  | removeNode (node : NodeKey)
  /-- A reader or a writer, whichever the endpoint is. -/
  | addEndpoint (gid : Gid) (e : Endpoint)
  | removeEndpoint (gid : Gid)
deriving DecidableEq

inductive Reply
  | done
  | removed (existed : Bool)
  | refused (e : Error)
deriving DecidableEq

def Lists (nodes : Std.ExtTreeMap NodeKey (Std.ExtTreeSet Gid)) (node : NodeKey) (gid : Gid) :
    Prop :=
  ∃ gids, nodes[node]? = some gids ∧ gid ∈ gids

def Owns (endpoints : Std.ExtTreeMap Gid Endpoint) (node : NodeKey) (gid : Gid) : Prop :=
  ∃ e, endpoints[gid]? = some e ∧ e.node = node

namespace Cache

def act (c : Cache) : Update → Reply × Cache
  | .addNode node => (.done, c.addNode node)
  | .removeNode node => (.removed (c.removeNode node).1, (c.removeNode node).2)
  | .addEndpoint gid e =>
      match c.addEndpoint gid e with
      | .ok c => (.done, c)
      | .error e => (.refused e, c)
  | .removeEndpoint gid => (.removed (c.removeEndpoint gid).1, (c.removeEndpoint gid).2)

/-- The replies come in the order of the updates. -/
def run (c : Cache) : List Update → List Reply × Cache
  | [] => ([], c)
  | u :: updates =>
      ((c.act u).1 :: ((c.act u).2.run updates).1, ((c.act u).2.run updates).2)

/-- The lists under the nodes are those of the stored endpoints. -/
structure Indexed (c : Cache) : Prop where
  listed : ∀ gid e, c.endpoints[gid]? = some e → Lists c.nodes e.node gid
  stored : ∀ node gid, Lists c.nodes node gid → Owns c.endpoints node gid

end Cache

structure Reference where
  nodes : Std.ExtTreeSet NodeKey := ∅
  endpoints : Std.ExtTreeMap Gid Endpoint := ∅

namespace Reference

def act (r : Reference) : Update → Reply × Reference
  | .addNode node => (.done, { r with nodes := r.nodes.insert node })
  | .removeNode node =>
      if node ∈ r.nodes then
        (.removed true,
          { nodes := r.nodes.erase node
            endpoints := r.endpoints.filter fun _ e => e.node ≠ node })
      else (.removed false, r)
  | .addEndpoint gid e =>
      if e.node ∈ r.nodes then (.done, { r with endpoints := r.endpoints.insert gid e })
      else (.refused (.unknownNode e.node.space e.node.name), r)
  | .removeEndpoint gid =>
      if gid ∈ r.endpoints then (.removed true, { r with endpoints := r.endpoints.erase gid })
      else (.removed false, r)

def run (r : Reference) : List Update → List Reply × Reference
  | [] => ([], r)
  | u :: updates =>
      ((r.act u).1 :: ((r.act u).2.run updates).1, ((r.act u).2.run updates).2)

end Reference

/-- The two hold the same graph, and the index is in order. -/
structure Represents (c : Cache) (r : Reference) : Prop where
  nodes : ∀ node, node ∈ c.nodes ↔ node ∈ r.nodes
  endpoints : c.endpoints = r.endpoints
  indexed : c.Indexed

section Owns

variable (endpoints : Std.ExtTreeMap Gid Endpoint) (node : NodeKey) (gid other : Gid)

theorem owns_insert (e : Endpoint) :
    Owns (endpoints.insert gid e) node other ↔
      if gid = other then e.node = node else Owns endpoints node other := by
  by_cases h : gid = other <;> simp [Owns, Std.ExtTreeMap.getElem?_insert, h]

theorem owns_erase :
    Owns (endpoints.erase gid) node other ↔ Owns endpoints node other ∧ gid ≠ other := by
  by_cases h : gid = other <;> simp [Owns, Std.ExtTreeMap.getElem?_erase, h]

theorem owns_filter (gone : NodeKey) :
    Owns (endpoints.filter fun _ e => e.node ≠ gone) node gid ↔
      Owns endpoints node gid ∧ gone ≠ node := by
  simp only [Owns, Std.ExtTreeMap.getElem?_filter', Option.filter_eq_some_iff, decide_eq_true_eq]
  constructor
  · rintro ⟨e, ⟨stored, apart⟩, rfl⟩
    exact ⟨⟨e, stored, rfl⟩, Ne.symm apart⟩
  · rintro ⟨⟨e, stored, rfl⟩, apart⟩
    exact ⟨e, ⟨stored, Ne.symm apart⟩, rfl⟩

variable {endpoints gid}

theorem owns_of_some {e : Endpoint} (h : endpoints[gid]? = some e) :
    Owns endpoints node gid ↔ e.node = node := by
  simp [Owns, h]

theorem not_owns_of_none (h : endpoints[gid]? = none) : ¬ Owns endpoints node gid := by
  simp [Owns, h]

end Owns

section Lists

variable {nodes : Std.ExtTreeMap NodeKey (Std.ExtTreeSet Gid)} {owner : NodeKey}
  {gids : Std.ExtTreeSet Gid} (node : NodeKey) (gid other : Gid)

theorem lists_of_some (h : nodes[owner]? = some gids) : Lists nodes owner gid ↔ gid ∈ gids := by
  simp [Lists, h]

theorem not_lists_of_none (h : nodes[owner]? = none) : ¬ Lists nodes owner gid := by
  simp [Lists, h]

theorem lists_insert :
    Lists (nodes.insert owner gids) node gid ↔
      if owner = node then gid ∈ gids else Lists nodes node gid := by
  by_cases h : owner = node <;> simp [Lists, Std.ExtTreeMap.getElem?_insert, h]

theorem lists_insert_insert (h : nodes[owner]? = some gids) :
    Lists (nodes.insert owner (gids.insert gid)) node other ↔
      owner = node ∧ gid = other ∨ Lists nodes node other := by
  rw [lists_insert]
  by_cases same : owner = node
  · subst same
    simp [lists_of_some _ h]
  · simp [same]

theorem lists_insert_erase (h : nodes[owner]? = some gids) :
    Lists (nodes.insert owner (gids.erase gid)) node other ↔
      Lists nodes node other ∧ ¬ (owner = node ∧ gid = other) := by
  rw [lists_insert]
  by_cases same : owner = node
  · subst same
    simp [lists_of_some _ h, and_comm]
  · simp [same]

theorem lists_insertIfNew :
    Lists (nodes.insertIfNew owner ∅) node gid ↔ Lists nodes node gid := by
  simp only [Lists, Std.ExtTreeMap.getElem?_insertIfNew, Std.LawfulEqCmp.compare_eq_iff_eq]
  split
  · rename_i new
    obtain ⟨rfl, absent⟩ := new
    simp [Std.ExtTreeMap.getElem?_eq_none absent]
  · rfl

theorem lists_erase :
    Lists (nodes.erase owner) node gid ↔ Lists nodes node gid ∧ owner ≠ node := by
  by_cases h : owner = node <;> simp [Lists, Std.ExtTreeMap.getElem?_erase, h]

theorem mem_insert_of_some {gids' : Std.ExtTreeSet Gid} (h : nodes[owner]? = some gids') :
    node ∈ nodes.insert owner gids ↔ node ∈ nodes := by
  have present := table_mem_of_some _ h
  simp only [Std.ExtTreeMap.mem_insert, Std.LawfulEqCmp.compare_eq_iff_eq]
  exact or_iff_right_of_imp fun same => same ▸ present

end Lists

namespace Cache

theorem indexed_iff {c : Cache} :
    c.Indexed ↔ ∀ node gid, Lists c.nodes node gid ↔ Owns c.endpoints node gid := by
  constructor
  · intro indexed node gid
    refine ⟨indexed.stored node gid, ?_⟩
    rintro ⟨e, stored, rfl⟩
    exact indexed.listed gid e stored
  · intro same
    exact ⟨fun gid e stored => (same e.node gid).mpr ⟨e, stored, rfl⟩,
      fun node gid => (same node gid).mp⟩

/-- One identifier goes, from the list of one node. -/
theorem lists_unlist (c : Cache) (owner node : NodeKey) (gid other : Gid) :
    Lists (c.unlist owner gid).nodes node other ↔
      Lists c.nodes node other ∧ ¬ (owner = node ∧ gid = other) := by
  unfold unlist
  split
  · rename_i absent
    refine (and_iff_left_of_imp fun lists => ?_).symm
    rintro ⟨rfl, _⟩
    exact not_lists_of_none other absent lists
  · rename_i gids known
    exact lists_insert_erase node gid other known

@[simp] theorem endpoints_unlist (c : Cache) (node : NodeKey) (gid : Gid) :
    (c.unlist node gid).endpoints = c.endpoints := by
  unfold unlist
  split <;> rfl

theorem mem_nodes_unlist (c : Cache) (owner node : NodeKey) (gid : Gid) :
    node ∈ (c.unlist owner gid).nodes ↔ node ∈ c.nodes := by
  unfold unlist
  split
  · rfl
  · rename_i gids known
    exact mem_insert_of_some node known

/-- An identifier moves to the node of its new endpoint, wherever it was listed before. -/
theorem addEndpoint_of_known {c : Cache} {e : Endpoint} (indexed : c.Indexed)
    (known : e.node ∈ c.nodes) (gid : Gid) :
    ∃ c', c.addEndpoint gid e = .ok c' ∧ c'.endpoints = c.endpoints.insert gid e ∧
      (∀ node, node ∈ c'.nodes ↔ node ∈ c.nodes) ∧
      (∀ node, Lists c'.nodes node gid ↔ e.node = node) ∧
      ∀ node other, gid ≠ other → (Lists c'.nodes node other ↔ Lists c.nodes node other) := by
  have listed := Std.ExtTreeMap.getElem?_eq_some_getElem known
  have entered := fun node other => lists_insert_insert node gid other listed
  have present : ∀ node,
      node ∈ c.nodes.insert e.node (c.nodes[e.node].insert gid) ↔ node ∈ c.nodes :=
    fun node => mem_insert_of_some node listed
  have before := fun node => indexed_iff.mp indexed node gid
  simp only [addEndpoint, listed]
  cases stored : c.endpoints[gid]? with
  | none =>
      refine ⟨_, rfl, rfl, present, fun node => ?_, fun node other apart => ?_⟩
      · rw [entered, before]
        simp [not_owns_of_none node stored]
      · rw [entered]
        simp [apart]
  | some previous =>
      simp only [owns_of_some _ stored] at before
      -- only an endpoint that changes its node has to be taken off a list
      by_cases stays : previous.node = e.node
      · simp only [if_pos stays]
        refine ⟨_, rfl, rfl, present, fun node => ?_, fun node other apart => ?_⟩
        · rw [entered, before, stays]
          simp
        · rw [entered]
          simp [apart]
      · simp only [if_neg stays]
        refine ⟨_, rfl, endpoints_unlist _ _ _,
          fun node => (mem_nodes_unlist _ _ _ _).trans (present node), fun node => ?_,
          fun node other apart => ?_⟩
        · rw [lists_unlist, entered, before]
          grind
        · rw [lists_unlist, entered]
          simp [apart]

theorem addEndpoint_of_unknown {c : Cache} {e : Endpoint} (unknown : e.node ∉ c.nodes)
    (gid : Gid) : c.addEndpoint gid e = .error (.unknownNode e.node.space e.node.name) := by
  simp only [addEndpoint, Std.ExtTreeMap.getElem?_eq_none unknown]

/-- An endpoint that replaces another one leaves the list of its former node. -/
theorem indexed_addEndpoint {c c' : Cache} {gid : Gid} {e : Endpoint} (indexed : c.Indexed)
    (added : c.addEndpoint gid e = .ok c') : c'.Indexed := by
  by_cases known : e.node ∈ c.nodes
  · obtain ⟨left, same, endpoints, _, own, others⟩ := addEndpoint_of_known indexed known gid
    obtain rfl : c' = left := Except.ok.inj (added.symm.trans same)
    refine indexed_iff.mpr fun node other => ?_
    rw [endpoints, owns_insert]
    by_cases same : gid = other
    · subst same
      simpa using own node
    · rw [others node other same, if_neg same, indexed_iff.mp indexed]
  · cases (addEndpoint_of_unknown known gid).symm.trans added

/-- The identifiers under a node are those of the endpoints that belong to it. -/
theorem foldl_erase_eq_filter {c : Cache} {node : NodeKey} {gids : Std.ExtTreeSet Gid}
    (indexed : c.Indexed) (listed : c.nodes[node]? = some gids) :
    gids.toList.foldl (fun m gid => m.erase gid) c.endpoints =
      c.endpoints.filter fun _ e => e.node ≠ node := by
  ext1 gid
  have owned := indexed_iff.mp indexed node gid
  rw [lists_of_some gid listed] at owned
  simp only [getElem?_foldl_erase, Std.ExtTreeSet.mem_toList, Std.ExtTreeMap.getElem?_filter']
  cases stored : c.endpoints[gid]? with
  | none => simp
  | some e =>
      rw [owns_of_some node stored] at owned
      by_cases h : e.node = node <;> simp [owned, h, Option.filter]

end Cache

namespace Represents

variable {c : Cache} {r : Reference}

theorem addNode (h : Represents c r) (node : NodeKey) :
    Represents (c.addNode node) { r with nodes := r.nodes.insert node } := by
  refine ⟨fun other => ?_, h.endpoints, Cache.indexed_iff.mpr fun other gid => ?_⟩
  · simp [Cache.addNode, h.nodes]
  · exact (lists_insertIfNew other gid).trans (Cache.indexed_iff.mp h.indexed other gid)

/-- With a node go its endpoints. -/
theorem removeNode (h : Represents c r) (node : NodeKey) :
    Represents (c.act (.removeNode node)).2 (r.act (.removeNode node)).2 ∧
      (c.act (.removeNode node)).1 = (r.act (.removeNode node)).1 := by
  by_cases known : node ∈ c.nodes
  · have listed := Std.ExtTreeMap.getElem?_eq_some_getElem known
    simp only [Cache.act, Cache.removeNode, listed, Cache.foldl_erase_eq_filter h.indexed listed,
      Reference.act, if_pos ((h.nodes node).mp known)]
    refine ⟨⟨fun other => ?_, by rw [h.endpoints],
      Cache.indexed_iff.mpr fun other gid => ?_⟩, trivial⟩
    · simp [h.nodes]
    · rw [lists_erase, owns_filter, Cache.indexed_iff.mp h.indexed]
  · simp only [Cache.act, Cache.removeNode, Std.ExtTreeMap.getElem?_eq_none known,
      Reference.act, if_neg (mt (h.nodes node).mpr known)]
    exact ⟨h, trivial⟩

/-- The last one to be written under an identifier counts, whosoever it was before. -/
theorem addEndpoint (h : Represents c r) (gid : Gid) (e : Endpoint) :
    Represents (c.act (.addEndpoint gid e)).2 (r.act (.addEndpoint gid e)).2 ∧
      (c.act (.addEndpoint gid e)).1 = (r.act (.addEndpoint gid e)).1 := by
  by_cases known : e.node ∈ c.nodes
  · obtain ⟨c', added, endpoints, nodes, _⟩ :=
      Cache.addEndpoint_of_known h.indexed known gid
    simp only [Cache.act, added, Reference.act, if_pos ((h.nodes e.node).mp known)]
    refine ⟨⟨fun node => ?_, by rw [endpoints, h.endpoints],
      Cache.indexed_addEndpoint h.indexed added⟩, trivial⟩
    rw [nodes, h.nodes]
  · simp only [Cache.act, Cache.addEndpoint_of_unknown known, Reference.act,
      if_neg (mt (h.nodes e.node).mpr known)]
    exact ⟨h, trivial⟩

/-- The identifier alone says which endpoint goes, and whose it was. -/
theorem removeEndpoint (h : Represents c r) (gid : Gid) :
    Represents (c.act (.removeEndpoint gid)).2 (r.act (.removeEndpoint gid)).2 ∧
      (c.act (.removeEndpoint gid)).1 = (r.act (.removeEndpoint gid)).1 := by
  cases stored : c.endpoints[gid]? with
  | none =>
      have absent : gid ∉ r.endpoints := by
        rw [← h.endpoints, Std.ExtTreeMap.mem_iff_isSome_getElem?, stored]
        simp
      simp only [Cache.act, Cache.removeEndpoint, stored, Reference.act, if_neg absent]
      exact ⟨h, trivial⟩
  | some e =>
      have present : gid ∈ r.endpoints := by
        rw [← h.endpoints, Std.ExtTreeMap.mem_iff_isSome_getElem?, stored]
        rfl
      simp only [Cache.act, Cache.removeEndpoint, stored, Reference.act, if_pos present]
      refine ⟨⟨fun node => ?_, ?_, Cache.indexed_iff.mpr fun node other => ?_⟩, trivial⟩
      · rw [Cache.mem_nodes_unlist, h.nodes]
      · rw [Cache.endpoints_unlist, h.endpoints]
      · rw [Cache.lists_unlist, Cache.endpoints_unlist, owns_erase,
          Cache.indexed_iff.mp h.indexed]
        refine and_congr_right fun owns => not_congr ⟨And.right, ?_⟩
        rintro rfl
        exact ⟨(owns_of_some node stored).mp owns, rfl⟩

/-- An update is answered alike on both sides, and they go on together. -/
theorem act (h : Represents c r) (u : Update) :
    Represents (c.act u).2 (r.act u).2 ∧ (c.act u).1 = (r.act u).1 := by
  cases u with
  | addNode node => exact ⟨h.addNode node, rfl⟩
  | removeNode node => exact h.removeNode node
  | addEndpoint gid e => exact h.addEndpoint gid e
  | removeEndpoint gid => exact h.removeEndpoint gid

theorem run (h : Represents c r) (updates : List Update) :
    Represents (c.run updates).2 (r.run updates).2 ∧ (c.run updates).1 = (r.run updates).1 := by
  induction updates generalizing c r with
  | nil => exact ⟨h, rfl⟩
  | cons u updates ih =>
      obtain ⟨next, told⟩ := h.act u
      obtain ⟨later, rest⟩ := ih next
      exact ⟨later, by simp only [Cache.run, Reference.run, told, rest]⟩

end Represents

theorem represents_empty : Represents {} {} := by
  refine ⟨fun node => ?_, rfl, Cache.indexed_iff.mpr fun node gid => ?_⟩
  · simp
  · simp [Lists, Owns]

/-- After any updates the cache holds the same nodes and the same endpoints as the reference, which
has no index, and it gave the same replies. -/
theorem updates_follow_reference (updates : List Update) :
    let c := (Cache.run {} updates).2
    let r := (Reference.run {} updates).2
    Represents c r ∧ (Cache.run {} updates).1 = (Reference.run {} updates).1 ∧
      (∀ node, c.nodeExists node = decide (node ∈ r.nodes)) ∧
      c.endpointCount = r.endpoints.size := by
  intro c r
  obtain ⟨h, told⟩ := represents_empty.run updates
  refine ⟨h, told, fun node => ?_, ?_⟩
  · rw [Cache.nodeExists, Bool.eq_iff_iff, decide_eq_true_iff]
    exact Std.ExtTreeMap.contains_iff_mem.trans (h.nodes node)
  · rw [Cache.endpointCount, h.endpoints]

end RosMiddleware.Graph
