import RosMiddleware.Config.Sources
import RosMiddleware.Delivery
import RosMiddleware.Graph.Query
import RosMiddleware.Participant

/-!
All that one process keeps: transports, registries, participants, listeners and graphs, each
named by the place at which it was put, and one journal. Operations take the parts they are
about out of the domain and put them back changed.
-/
namespace RosMiddleware

abbrev TransportId := Nat

abbrev RegistryId := Nat

abbrev ParticipantId := Nat

abbrev GraphId := Nat

/-- A participant with the places of its transport and its registry. -/
structure Member where
  participant : Participant
  transport : TransportId
  registry : RegistryId
deriving DecidableEq, Repr, Inhabited

/-- The settings and the graph that nodes and participants share. -/
structure Context where
  settings : Settings
  graph : GraphId
deriving DecidableEq, Repr, Inhabited

/-- A node and the graph that its queries go to. -/
structure Node where
  handle : Graph.NodeHandle
  graph : GraphId
deriving DecidableEq, Repr, Inhabited

structure Domain where
  transports : Array Transport := #[]
  registries : Array TypeRegistry := #[]
  members : Array Member := #[]
  listeners : Listeners := #[]
  graphs : Array Graph.Index := #[]
  /-- How many adapters were asked for. -/
  built : Nat := 0
  journal : Journal := {}

namespace Domain

def transport (d : Domain) (t : TransportId) : Transport := d.transports.getD t default

def registry (d : Domain) (r : RegistryId) : TypeRegistry := d.registries.getD r default

def member (d : Domain) (p : ParticipantId) : Member := d.members.getD p default

def graph (d : Domain) (g : GraphId) : Graph.Index := d.graphs.getD g default

def putTransport (d : Domain) (t : TransportId) (transport : Transport) : Domain :=
  { d with transports := d.transports.setIfInBounds t transport }

def putGraph (d : Domain) (g : GraphId) (index : Graph.Index) : Domain :=
  { d with graphs := d.graphs.setIfInBounds g index }

/-- Participants of the transport are numbered from one. -/
def addTransport (d : Domain) : TransportId × Domain :=
  (d.transports.size,
    { d with transports := d.transports.push (.ofNumber (d.transports.size + 1)) })

def addRegistry (d : Domain) : RegistryId × Domain :=
  (d.registries.size, { d with registries := d.registries.push {} })

def addListener (d : Domain) : ListenerId × Domain :=
  (d.listeners.size, { d with listeners := d.listeners.push {} })

def addGraph (d : Domain) : GraphId × Domain :=
  (d.graphs.size, { d with graphs := d.graphs.push {} })

/-- A participant over a transport, with a registry of its own. -/
def addParticipant (d : Domain) (t : TransportId) (settings : Settings) :
    ParticipantId × Domain :=
  let (r, d) := d.addRegistry
  (d.members.size, { d with members := d.members.push ⟨{ settings := settings }, t, r⟩ })

def registrar (d : Domain) (r : RegistryId) (t : TransportId) : Registrar :=
  ⟨d.registry r, d.transport t, d.built⟩

def putRegistrar (d : Domain) (r : RegistryId) (t : TransportId) (s : Registrar) : Domain :=
  { d with
    registries := d.registries.setIfInBounds r s.registry
    transports := d.transports.setIfInBounds t s.transport
    built := s.built }

def log (d : Domain) (events : List Event) : Domain :=
  { d with journal := d.journal.log events }

def site (d : Domain) (p : ParticipantId) : Site :=
  let m := d.member p
  ⟨m.participant, d.registrar m.registry m.transport, d.listeners, d.journal⟩

def putSite (d : Domain) (p : ParticipantId) (s : Site) : Domain :=
  let m := d.member p
  { d.putRegistrar m.registry m.transport s.registrar with
    members := d.members.setIfInBounds p { m with participant := s.participant }
    listeners := s.listeners
    journal := s.journal }

def atSite {α : Type} (d : Domain) (p : ParticipantId) (f : Site → α × Site) : α × Domain :=
  let (a, s) := f (d.site p)
  (a, d.putSite p s)

def atRegistrar {α : Type} (d : Domain) (r : RegistryId) (t : TransportId)
    (f : Registrar → α × Registrar) : α × Domain :=
  let (a, s) := f (d.registrar r t)
  (a, d.putRegistrar r t s)

/-- A type registered with the transport, past every registry. -/
def registerType (d : Domain) (t : TransportId) (type : MessageType) :
    Except Transport.Refusal Unit × Domain :=
  match (d.transport t).registerType ⟨d.built, type⟩ with
  | .ok transport => (.ok (), { d.putTransport t transport with built := d.built + 1 })
  | .error refusal => (.error refusal, { d with built := d.built + 1 })

def unregisterType (d : Domain) (t : TransportId) (typeName : String) :
    Except Transport.Refusal Unit × Domain :=
  match (d.transport t).unregisterType typeName with
  | .ok transport => (.ok (), d.putTransport t transport)
  | .error refusal => (.error refusal, d)

/-- A reader of the transport, past every participant. -/
def createReader (d : Domain) (t : TransportId) (attributes : Transport.ReaderAttributes)
    (listener : Option ListenerId) : Except Transport.Refusal Transport.Reader × Domain :=
  match (d.transport t).createReader attributes listener with
  | .ok (reader, transport) => (.ok reader, d.putTransport t transport)
  | .error refusal => (.error refusal, d)

def dropReader (d : Domain) (t : TransportId) (reader : Transport.Reader) : Domain :=
  d.putTransport t ((d.transport t).dropReader reader)

def deliver (d : Domain) (t : TransportId) (topic : String) : (Nat × List Notice) × Domain :=
  let (count, listeners, notices) := (d.transport t).deliver topic d.listeners
  ((count, notices), { d with listeners := listeners })

def matchPublishers (d : Domain) (t : TransportId) (topic : String) (change : Int32) : Domain :=
  { d with listeners := (d.transport t).matchPublishers topic change d.listeners }

/-- One listener changes, and its callback hears of it. -/
def atListener (d : Domain) (l : ListenerId) (f : Listener → Listener × Option Notice) :
    List Notice × Domain :=
  let (listeners, notices) := d.listeners.change l f
  (notices, { d with listeners := listeners })

def arrivals (d : Domain) (l : ListenerId) : Nat → List Notice × Domain
  | 0 => ([], d)
  | n + 1 =>
    let (notices, d) := d.atListener l Listener.arrive
    let (later, d) := d.arrivals l n
    (notices ++ later, d)

def takeOne (d : Domain) (l : ListenerId) : Bool × Domain :=
  let (taken, listener) := (d.listeners.find l).takeOne
  (taken, { d with listeners := d.listeners.setIfInBounds l listener })

/-- A hold that nobody wants any more. -/
def dropHold (d : Domain) (r : RegistryId) (t : TransportId) (hold : TypeHold) : Domain :=
  let (events, d) := d.atRegistrar r t fun s =>
    let (s, events) := s.dropHold hold
    (events, s)
  d.log events

def unregisterAll (d : Domain) (r : RegistryId) (t : TransportId) :
    Except Error Unit × Domain :=
  let ((outcome, events), d) := d.atRegistrar r t fun s =>
    let (outcome, s, events) := s.unregisterAll
    ((outcome, events), s)
  (outcome, d.log events)

/-- A context from its sources; without a graph it gets a new one. Errors are recorded. -/
def buildContext (d : Domain) (sources : Config.Sources) (graph : Option GraphId) :
    Except Error Context × Domain :=
  match sources.load with
  | .error fault =>
    (.error (.config fault), { d with journal := d.journal.record (.config fault) })
  | .ok settings =>
    match graph with
    | some g => (.ok ⟨settings, g⟩, d)
    | none =>
      let (g, d) := d.addGraph
      (.ok ⟨settings, g⟩, d)

/-- A node of a context. Errors are recorded. -/
def createNode (d : Domain) (c : Context) (key : Graph.NodeKey) : Except Error Node × Domain :=
  match Graph.NodeHandle.create key with
  | .ok handle => (.ok ⟨handle, c.graph⟩, d)
  | .error e => (.error e, { d with journal := d.journal.record e })

def inquire (d : Domain) (g : GraphId) (out : NamesAndTypes)
    (f : Graph.Inquiry → Except Error Unit × Graph.Inquiry) :
    Except Error Unit × NamesAndTypes × Domain :=
  let (outcome, q) := f ⟨d.graph g, out, d.journal⟩
  (outcome, q.out, { d.putGraph g q.index with journal := q.journal })

def atGraph {α : Type} (d : Domain) (g : GraphId) (f : Graph.Cache → α × Graph.Cache) :
    α × Domain :=
  let index := d.graph g
  let (a, cache) := f index.cache
  (a, d.putGraph g { index with cache := cache })

end Domain

end RosMiddleware
