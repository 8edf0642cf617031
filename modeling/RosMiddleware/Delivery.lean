import RosMiddleware.Listener
import RosMiddleware.Transport.Basic

/-!
Signals of the transport to the listeners on a topic. The listeners are found first; then
each hears of the signal in turn.
-/
namespace RosMiddleware

/-- The listeners of a process; those of readers are named by their places. -/
abbrev Listeners := Array Listener

namespace Listeners

/-- The listener at a place; there is an unused one at every place beyond the end. -/
def find (ls : Listeners) (l : ListenerId) : Listener := ls.getD l {}

/-- One listener changes, and its callback hears of it. -/
def change (ls : Listeners) (l : ListenerId) (f : Listener → Listener × Option Notice) :
    Listeners × List Notice :=
  let (listener, notice) := Listener.settle (f (ls.find l))
  (ls.setIfInBounds l listener, notice.toList)

/-- A sample arrives at each of the listeners in turn. -/
def arriveAt : List ListenerId → Listeners → Listeners × List Notice
  | [], ls => (ls, [])
  | l :: targets, ls =>
    let (ls, notices) := ls.change l Listener.arrive
    let (ls, later) := arriveAt targets ls
    (ls, notices ++ later)

/-- The matching publishers of each of the listeners change in turn. -/
def matchAt (change : Int32) : List ListenerId → Listeners → Listeners
  | [], ls => ls
  | l :: targets, ls =>
    matchAt change targets (ls.change l fun listener =>
      (listener.matchPublishers change, none)).1

end Listeners

namespace Transport

/-- A sample on a topic: how many listeners hear of it, and the notices it gives rise to. -/
def deliver (t : Transport) (topic : String) (ls : Listeners) :
    Nat × Listeners × List Notice :=
  let targets := t.listenersOn topic
  (targets.length, Listeners.arriveAt targets ls)

def matchPublishers (t : Transport) (topic : String) (change : Int32) (ls : Listeners) :
    Listeners :=
  Listeners.matchAt change (t.listenersOn topic) ls

end Transport

end RosMiddleware
