import Std.Data.ExtTreeMap
import Std.Data.ExtTreeSet
import RosMiddleware.Gid

/-!
The graph as it is known here: nodes, and the readers and writers that belong to them. The
endpoints are kept under their identifiers, and under each node the identifiers of its
endpoints.
-/
namespace RosMiddleware.Graph

structure NodeKey where
  space : String
  name : String
deriving DecidableEq, Repr, Inhabited

namespace NodeKey

instance : Ord NodeKey := ⟨compareLex (compareOn NodeKey.space) (compareOn NodeKey.name)⟩

instance : Std.TransOrd NodeKey :=
  inferInstanceAs (Std.TransCmp (compareLex (compareOn NodeKey.space) (compareOn NodeKey.name)))

instance : Std.LawfulEqOrd NodeKey where
  eq_of_compare {a b} h := by
    have h : compareLex (compareOn NodeKey.space) (compareOn NodeKey.name) a b = .eq := h
    rw [compareLex_eq_eq] at h
    obtain ⟨hs, hn⟩ := h
    cases a; cases b
    simp only [compareOn, Std.LawfulEqCmp.compare_eq_iff_eq] at hs hn
    simp_all

end NodeKey

inductive Side
  | reader
  | writer
deriving DecidableEq, Repr, Inhabited

def Side.name : Side → String
  | .reader => "Reader"
  | .writer => "Writer"

structure Endpoint where
  side : Side
  topic : String
  typeName : String
  node : NodeKey
deriving DecidableEq, Repr, Inhabited

structure Cache where
  endpoints : Std.ExtTreeMap Gid Endpoint := ∅
  nodes : Std.ExtTreeMap NodeKey (Std.ExtTreeSet Gid) := ∅

namespace Cache

instance : Inhabited Cache := ⟨{}⟩

/-- A node that is there already stays as it is. -/
def addNode (c : Cache) (node : NodeKey) : Cache :=
  { c with nodes := c.nodes.insertIfNew node ∅ }

/-- A node goes together with its endpoints. The answer is whether it was there. -/
def removeNode (c : Cache) (node : NodeKey) : Bool × Cache :=
  match c.nodes[node]? with
  | none => (false, c)
  | some gids =>
    (true,
      { endpoints := gids.toList.foldl (fun endpoints gid => endpoints.erase gid) c.endpoints
        nodes := c.nodes.erase node })

/-- The node no longer lists the identifier. -/
def unlist (c : Cache) (node : NodeKey) (gid : Gid) : Cache :=
  match c.nodes[node]? with
  | none => c
  | some gids => { c with nodes := c.nodes.insert node (gids.erase gid) }

/-- An endpoint is put in, or takes the place of the one with its identifier, which may
have belonged to another node. -/
def addEndpoint (c : Cache) (gid : Gid) (e : Endpoint) : Except Error Cache :=
  match c.nodes[e.node]? with
  | none => .error (.unknownNode e.node.space e.node.name)
  | some gids =>
    let added : Cache :=
      { endpoints := c.endpoints.insert gid e
        nodes := c.nodes.insert e.node (gids.insert gid) }
    match c.endpoints[gid]? with
    | none => .ok added
    | some previous =>
      .ok (if previous.node = e.node then added else added.unlist previous.node gid)

/-- The answer is whether the endpoint was there. -/
def removeEndpoint (c : Cache) (gid : Gid) : Bool × Cache :=
  match c.endpoints[gid]? with
  | none => (false, c)
  | some e => (true, { c with endpoints := c.endpoints.erase gid }.unlist e.node gid)

def nodeExists (c : Cache) (node : NodeKey) : Bool := c.nodes.contains node

def endpointCount (c : Cache) : Nat := c.endpoints.size

def ofNode? (c : Cache) (side : Side) (node : NodeKey) : Option (List Endpoint) :=
  (c.nodes[node]?).map fun gids =>
    (gids.toList.filterMap fun gid => c.endpoints[gid]?).filter fun e => e.side == side

def all (c : Cache) : List Endpoint := c.endpoints.toList.map Prod.snd

end Cache

end RosMiddleware.Graph
