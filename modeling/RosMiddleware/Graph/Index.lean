import RosMiddleware.Demangler
import RosMiddleware.Graph.Cache
import RosMiddleware.Journal
import RosMiddleware.NamesAndTypes

/-!
The index that queries consult: the graph, a record of what it was asked for, and an error
that it can be made to fail with. Endpoints whose topic or type is not of the kind asked for
are left out of its answers.
-/
namespace RosMiddleware.Graph

inductive Scope
  | node (side : Side) (node : NodeKey)
  | everything
deriving DecidableEq, Repr, Inhabited

structure Index where
  cache : Cache := {}
  consulted : List Scope := []
  fault : Option Error := none

namespace Index

instance : Inhabited Index := ⟨{}⟩

/-- The name and the type of an endpoint, if both are of the kind asked for. -/
def named? (name type : Demangler) (e : Endpoint) : Option (String × String) :=
  (name.apply e.topic).bind fun n => (type.apply e.typeName).map fun t => (n, t)

def collect (name type : Demangler) (endpoints : List Endpoint) : TypesByName :=
  (endpoints.filterMap (named? name type)).foldl (fun m (n, t) => m.add n t) ∅

/-- The warnings that come with it; the type is looked at only if the name is of the kind. -/
def warnings (name type : Demangler) (endpoints : List Endpoint) : List Event :=
  endpoints.flatMap fun e =>
    (name.warnings e.topic ++
      if (name.apply e.topic).isSome then type.warnings e.typeName else []).map .warning

def endpoints (i : Index) : Scope → Except Error (List Endpoint)
  | .everything => .ok i.cache.all
  | .node side node =>
    match i.cache.ofNode? side node with
    | some endpoints => .ok endpoints
    | none => .error (.unknownNode node.space node.name)

/-- What a consultation puts into the container, and the warnings that come with it. -/
def answer (i : Index) (scope : Scope) (name type : Demangler) (out : NamesAndTypes) :
    Except Error NamesAndTypes × List Event :=
  match i.fault with
  | some e => (.error e, [])
  | none =>
    match i.endpoints scope with
    | .error e => (.error e, [])
    | .ok endpoints =>
      (out.fill (collect name type endpoints), warnings name type endpoints)

/-- A consultation is on record whatever comes of it. -/
def consult (i : Index) (scope : Scope) : Index :=
  { i with consulted := i.consulted ++ [scope] }

end Index

end RosMiddleware.Graph
