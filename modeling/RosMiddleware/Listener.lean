/-!
Listeners of readers: the samples that nobody has taken yet, the arrivals that nobody has
been told of, and the publishers that match. A callback is told of each arrival, and when
it is installed of all the arrivals that came while there was none, in one notice.
-/
namespace RosMiddleware

/-- What a callback does with the listener when it gets a notice. -/
inductive Reaction
  | record
  /-- It takes as many samples as the notice counts. -/
  | take
  /-- It removes itself. -/
  | clear
deriving DecidableEq, Repr, Inhabited

structure Callback where
  tag : String
  reaction : Reaction
deriving DecidableEq, Repr, Inhabited

/-- A call of a callback with the number of arrivals it is told of. -/
structure Notice where
  callback : Callback
  count : Nat
deriving DecidableEq, Repr, Inhabited

structure Listener where
  unread : Nat := 0
  unnotified : Nat := 0
  matched : Int32 := 0
  callback : Option Callback := none
deriving DecidableEq, Repr, Inhabited

namespace Listener

def hasData (l : Listener) : Bool := decide (0 < l.unread)

def takeOne (l : Listener) : Bool × Listener :=
  if l.unread = 0 then (false, l) else (true, { l with unread := l.unread - 1 })

def arrive (l : Listener) : Listener × Option Notice :=
  match l.callback with
  | none => ({ l with unread := l.unread + 1, unnotified := l.unnotified + 1 }, none)
  | some callback => ({ l with unread := l.unread + 1 }, some ⟨callback, 1⟩)

/-- A callback takes the place of the one before, or none does. -/
def install (l : Listener) (callback : Option Callback) : Listener × Option Notice :=
  match callback with
  | none => ({ l with callback := none }, none)
  | some callback =>
    if l.unnotified = 0 then ({ l with callback := some callback }, none)
    else
      ({ l with callback := some callback, unnotified := 0 }, some ⟨callback, l.unnotified⟩)

def takeMany (l : Listener) : Nat → Listener
  | 0 => l
  | n + 1 => l.takeOne.2.takeMany n

/-- What the callback does when it gets the notice. -/
def react (l : Listener) (n : Notice) : Listener :=
  match n.callback.reaction with
  | .record => l
  | .take => l.takeMany n.count
  | .clear => (l.install none).1

/-- A change of the listener and the notice that it gives rise to, with what the callback
then does. -/
def settle : Listener × Option Notice → Listener × Option Notice
  | (l, none) => (l, none)
  | (l, some n) => (l.react n, some n)

/-- The number of matching publishers changes; it is never less than none. A sum that 32 bits do
not hold wraps around. -/
def matchPublishers (l : Listener) (change : Int32) : Listener :=
  { l with matched := max 0 (l.matched + change) }

/-- The outcome of waiting for data, or none if the wait does not end by itself. Only a
wait with a limit ends without data. -/
def wait? (l : Listener) (limited : Bool) : Option Bool :=
  if l.hasData then some true else if limited then some false else none

end Listener

end RosMiddleware
