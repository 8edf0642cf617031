import RosMiddleware.Journal
import RosMiddleware.Transport.Basic

/-!
The types that a participant has registered with its transport, each with the number of its
holders. A type is registered by its first holder and unregistered with its last; one that
the transport does not let go stays, with no holders, until it is wanted again.
-/
namespace RosMiddleware

namespace TypeRegistry

structure Entry where
  adapter : Adapter
  holders : Nat
deriving DecidableEq, Repr, Inhabited

end TypeRegistry

structure TypeRegistry where
  entries : Std.ExtTreeMap String TypeRegistry.Entry := ∅

instance : Inhabited TypeRegistry := ⟨{}⟩

namespace TypeRegistry

def lookup (r : TypeRegistry) (typeName : String) : Option Adapter :=
  r.entries[typeName]?.map Entry.adapter

/-- A name that is not cached has no holders. -/
def holders (r : TypeRegistry) (typeName : String) : Nat :=
  match r.entries[typeName]? with
  | some entry => entry.holders
  | none => 0

def size (r : TypeRegistry) : Nat := r.entries.size

def insert (r : TypeRegistry) (typeName : String) (entry : Entry) : TypeRegistry :=
  { entries := r.entries.insert typeName entry }

def erase (r : TypeRegistry) (typeName : String) : TypeRegistry :=
  { entries := r.entries.erase typeName }

end TypeRegistry

/-- What a holder gets: the adapter, and whether it was registered for this very holder. -/
structure Registration where
  adapter : Adapter
  fresh : Bool
deriving DecidableEq, Repr, Inhabited

def Registration.diagnostic (r : Registration) : String :=
  Text.record "TypeRegistration"
    [("type_support", r.adapter.diagnostic), ("fresh", Text.truth r.fresh)]

/-- What is built when a type is wanted for the first time. It is given the number of
adapters built before, for an identity. -/
abbrev Factory := Nat → Except Error Adapter

structure Registrar where
  registry : TypeRegistry := {}
  transport : Transport
  /-- How often a factory was asked. -/
  built : Nat := 0

namespace Registrar

instance : Inhabited Registrar := ⟨{ transport := default }⟩

/-- One more holder for the type; the factory is asked only if the name is not cached. -/
def getOrRegister (s : Registrar) (typeName : String) (factory : Factory) :
    Except Error Registration × Registrar :=
  match s.registry.entries[typeName]? with
  | some entry =>
    (.ok ⟨entry.adapter, false⟩,
      { s with registry :=
          s.registry.insert typeName { entry with holders := entry.holders + 1 } })
  | none =>
    let asked := { s with built := s.built + 1 }
    match factory s.built with
    | .error e => (.error e, asked)
    | .ok adapter =>
      match s.transport.registerType adapter with
      | .error refusal => (.error (.transport refusal), asked)
      | .ok transport =>
        (.ok ⟨adapter, true⟩,
          { asked with
            registry := s.registry.insert typeName ⟨adapter, 1⟩
            transport := transport })

/-- One holder less. With the last one the type is unregistered; if the transport refuses,
the name stays cached without holders. A name that is not cached has nothing to release. -/
def release (s : Registrar) (typeName : String) : Except Error Unit × Registrar :=
  match s.registry.entries[typeName]? with
  | none => (.ok (), s)
  | some entry =>
    let left := { entry with holders := entry.holders - 1 }
    if 0 < left.holders then (.ok (), { s with registry := s.registry.insert typeName left })
    else
      match s.transport.unregisterType typeName with
      | .error refusal =>
        (.error (.transport refusal), { s with registry := s.registry.insert typeName left })
      | .ok transport =>
        (.ok (), { s with registry := s.registry.erase typeName, transport := transport })

/-- The names are unregistered one after another, whether held or not; those that the
transport refuses to let go stay and are reported. -/
def unregisterEach : List String → Registrar → List (String × Transport.Refusal) × Registrar
  | [], s => ([], s)
  | typeName :: names, s =>
    match s.transport.unregisterType typeName with
    | .error refusal =>
      let (refusals, s) := unregisterEach names s
      ((typeName, refusal) :: refusals, s)
    | .ok transport =>
      unregisterEach names
        { s with registry := s.registry.erase typeName, transport := transport }

/-- The event for a type that the transport did not let go. -/
def refusalEvent (typeName : String) (refusal : Transport.Refusal) : Event :=
  .error ("failed to unregister type '" ++ typeName ++ "': " ++ refusal.message)

/-- Every cached type is unregistered. Each refusal is logged, and the first is returned. -/
def unregisterAll (s : Registrar) : Except Error Unit × Registrar × List Event :=
  let (refusals, s) := unregisterEach s.registry.entries.keys s
  (match refusals with
    | [] => .ok ()
    | (_, refusal) :: _ => .error (.transport refusal),
    s, refusals.map fun (typeName, refusal) => refusalEvent typeName refusal)

end Registrar

structure TypeHold where
  typeName : String
  registration : Registration
deriving DecidableEq, Repr, Inhabited

namespace Registrar

/-- One more holder, as a hold to be given back. -/
def acquire (s : Registrar) (typeName : String) (factory : Factory) :
    Except Error TypeHold × Registrar :=
  match s.getOrRegister typeName factory with
  | (.ok registration, s) => (.ok ⟨typeName, registration⟩, s)
  | (.error e, s) => (.error e, s)

/-- The hold is given back, and a refusal is returned. -/
def releaseHold (s : Registrar) (hold : TypeHold) : Except Error Unit × Registrar :=
  s.release hold.typeName

/-- The hold is given back, and a refusal goes to the log. -/
def dropHold (s : Registrar) (hold : TypeHold) : Registrar × List Event :=
  match s.release hold.typeName with
  | (.ok (), s) => (s, [])
  | (.error e, s) =>
    (s, [.error ("failed to release type '" ++ hold.typeName ++ "': " ++ e.display)])

end Registrar

end RosMiddleware
