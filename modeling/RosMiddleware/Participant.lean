import RosMiddleware.Subscription

/-!
A participant at its place: its settings, the registry and the transport it works with, the
listeners of the process, and the journal. Until it is shut down it creates subscriptions;
they outlive it, and their teardown then leaves the registered types alone.
-/
namespace RosMiddleware

structure Participant where
  settings : Settings
  isOpen : Bool := true
deriving DecidableEq, Repr, Inhabited

structure Site where
  participant : Participant
  registrar : Registrar
  listeners : Array Listener := #[]
  journal : Journal := {}

namespace Site

open Subscription (Request)

/-- A fresh participant over a fresh transport. -/
def fresh (settings : Settings) (number : Nat) : Site where
  participant := { settings := settings }
  registrar := { transport := .ofNumber number }

/-- The error of a call that failed is recorded. -/
def fail {α : Type} (s : Site) (e : Error) : Except Error α × Site :=
  (.error e, { s with journal := s.journal.record e })

/-- A subscription that is asked for. Its listener, if it wants one, has a place of its own,
which is not used again if the creation fails. -/
def create (s : Site) (r : Request) : Except Error Subscription × Site :=
  match r.check s.participant.isOpen with
  | .error e => s.fail e
  | .ok support =>
    let (outcome, registrar, events) :=
      s.registrar.establish s.participant.settings s.listeners.size r support
    let s := { s with
      registrar := registrar
      listeners := if r.wantsListener then s.listeners.push {} else s.listeners
      journal := s.journal.log events }
    match outcome with
    | .error e => s.fail e
    | .ok sub => (.ok sub, s)

def drop (s : Site) (sub : Subscription) : Site :=
  let (registrar, events) := s.registrar.drop sub
  { s with registrar := registrar, journal := s.journal.log events }

/-- A subscription that is given back. A handle with another tag is refused, but what it
holds is let go all the same. -/
def destroy (s : Site) (sub : Subscription) : Except Error Unit × Site :=
  if sub.implementation ≠ implementationTag then
    let e := Error.foreignSubscription sub.implementation
    (.error e, { s with journal := s.journal.record e }.drop sub)
  else
    match s.registrar.tearDown sub with
    | (.ok (), registrar) => (.ok (), { s with registrar := registrar })
    | (.error e, registrar) => { s with registrar := registrar }.fail e

/-- The participant is shut down for good, even when some of its types cannot be
unregistered; doing it again does nothing. -/
def shutdown (s : Site) : Except Error Unit × Site :=
  if ¬ s.participant.isOpen then (.ok (), s)
  else
    let closed := { s with participant := { s.participant with isOpen := false } }
    match s.registrar.unregisterAll with
    | (.ok (), registrar, events) =>
      (.ok (), { closed with registrar := registrar, journal := s.journal.log events })
    | (.error e, registrar, events) =>
      { closed with registrar := registrar, journal := s.journal.log events }.fail e

def diagnostic (s : Site) : String :=
  Text.record "ParticipantInfo"
    [("shutdown", Text.truth (!s.participant.isOpen)),
      ("registered_types", toString s.registrar.registry.size),
      ("leave_middleware_default_qos", Text.truth s.participant.settings.keepTransportPolicy)]

end Site

end RosMiddleware
