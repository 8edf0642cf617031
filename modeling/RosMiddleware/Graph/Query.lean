import RosMiddleware.Graph.Index
import RosMiddleware.Text.Record

/-!
Queries of the graph by a node. The category of a query alone decides which side of the
queried node is looked at and what its topics and types are taken for; without demangling
the side stays and the names are given as they are.
-/
namespace RosMiddleware.Graph

inductive Category
  | topicSubscribers
  | topicPublishers
  /-- The services that a node serves: it reads their requests. -/
  | services
  /-- The services that a node calls: it reads their replies. -/
  | clients
  /-- The actions that a node serves: it writes their feedback. -/
  | actionServers
  /-- The actions that a node calls: it reads their feedback. -/
  | actionClients
deriving DecidableEq, Repr, Inhabited

def Category.all : List Category :=
  [.topicSubscribers, .topicPublishers, .services, .clients, .actionServers, .actionClients]

def Category.name : Category → String
  | .topicSubscribers => "TopicSubscribers"
  | .topicPublishers => "TopicPublishers"
  | .services => "Services"
  | .clients => "Clients"
  | .actionServers => "ActionServers"
  | .actionClients => "ActionClients"

/-- Where a category is looked up, and what its topics and types are taken for. -/
structure Route where
  side : Side
  name : Demangler
  type : Demangler

def Category.route : Category → Route
  | .topicSubscribers => ⟨.reader, .topic, .messageType⟩
  | .topicPublishers => ⟨.writer, .topic, .messageType⟩
  | .services => ⟨.reader, .requestTopic, .serviceType⟩
  | .clients => ⟨.reader, .replyTopic, .serviceType⟩
  | .actionServers => ⟨.writer, .feedbackTopic, .actionType⟩
  | .actionClients => ⟨.reader, .feedbackTopic, .actionType⟩

/-- The same route, with the names as they are if they are wanted raw. -/
def Category.routeWith (c : Category) (raw : Bool) : Route :=
  if raw then { c.route with name := .identity, type := .identity } else c.route

/-- A node as it is handed to queries. -/
structure NodeHandle where
  implementation : String
  key : NodeKey
deriving DecidableEq, Repr, Inhabited

namespace NodeHandle

def create (key : NodeKey) : Except Error NodeHandle :=
  if key.name = "" then .error .emptyNodeName
  else if key.space = "" then .error .emptyNodeNamespace
  else .ok ⟨implementationTag, key⟩

def diagnostic (n : NodeHandle) : String :=
  Text.record "NodeHandle"
    [("implementation_identifier", Text.quoted n.implementation),
      ("name", Text.quoted n.key.name), ("namespace", Text.quoted n.key.space)]

def check (n : NodeHandle) : Except Error Unit :=
  if n.implementation = implementationTag then .ok ()
  else .error (.foreignNode n.implementation)

end NodeHandle

/-- A query under way: the index, the container for the results, and the journal. -/
structure Inquiry where
  index : Index
  out : NamesAndTypes
  journal : Journal := {}

namespace Inquiry

/-- The index is consulted. Its answer goes to the container; if it fails, the container
stays as it is. -/
def consult (q : Inquiry) (scope : Scope) (name type : Demangler) :
    Except Error Unit × Inquiry :=
  let (answer, events) := q.index.answer scope name type q.out
  let q := { q with index := q.index.consult scope, journal := q.journal.log events }
  match answer with
  | .ok out => (.ok (), { q with out := out })
  | .error e => (.error e, q)

/-- An outcome whose error, if it is one, is recorded. -/
def settle (r : Except Error Unit × Inquiry) : Except Error Unit × Inquiry :=
  (r.1, { r.2 with journal := r.2.journal.settle r.1 })

/-- Consults the index if the arguments are in order. Errors are recorded. -/
def ask (q : Inquiry) (arguments : Except Error Unit) (scope : Scope)
    (name type : Demangler) : Except Error Unit × Inquiry :=
  settle <|
    match arguments with
    | .error e => (.error e, q)
    | .ok () => q.consult scope name type

def checkNode (node : NodeHandle) (queried : NodeKey) (out : NamesAndTypes) :
    Except Error Unit := do
  node.check
  if queried.name = "" then throw .emptyNodeName
  if queried.space = "" then throw .emptyNodeNamespace
  out.checkZero

def checkGraph (node : NodeHandle) (out : NamesAndTypes) : Except Error Unit := do
  node.check
  out.checkZero

def ofNode (q : Inquiry) (node : NodeHandle) (queried : NodeKey) (category : Category)
    (raw : Bool) : Except Error Unit × Inquiry :=
  let route := category.routeWith raw
  q.ask (checkNode node queried q.out) (.node route.side queried) route.name route.type

/-- Every topic of the graph, of readers and writers alike. -/
def allTopics (q : Inquiry) (node : NodeHandle) (raw : Bool) : Except Error Unit × Inquiry :=
  let route := Category.topicSubscribers.routeWith raw
  q.ask (checkGraph node q.out) .everything route.name route.type

/-- Every service of the graph, seen from its requests or from its replies. -/
def allServices (q : Inquiry) (node : NodeHandle) : Except Error Unit × Inquiry :=
  q.ask (checkGraph node q.out) .everything .serviceTopic .serviceType

end Inquiry

/-- The questions that a node can ask about another; names are given raw only where
subscribers and publishers are asked for. -/
inductive Question
  | subscribers (raw : Bool)
  | publishers (raw : Bool)
  | services
  | clients
  | actionServers
  | actionClients
deriving DecidableEq, Repr, Inhabited

def Question.category : Question → Category
  | .subscribers _ => .topicSubscribers
  | .publishers _ => .topicPublishers
  | .services => .services
  | .clients => .clients
  | .actionServers => .actionServers
  | .actionClients => .actionClients

def Question.raw : Question → Bool
  | .subscribers raw | .publishers raw => raw
  | _ => false

def Inquiry.answer (q : Inquiry) (node : NodeHandle) (queried : NodeKey)
    (question : Question) : Except Error Unit × Inquiry :=
  q.ofNode node queried question.category question.raw

end RosMiddleware.Graph
