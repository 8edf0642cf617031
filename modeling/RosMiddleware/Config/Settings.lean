import RosMiddleware.Transport.Attributes

/-!
The settings of the middleware and the keys they are written under.
-/
namespace RosMiddleware

open Transport (MemoryPolicy)

structure Settings where
  /-- Readers keep the transport's memory policy instead of `memoryPolicy`. -/
  keepTransportPolicy : Bool := false
  memoryPolicy : MemoryPolicy := .preallocatedWithRealloc
  /-- Subscriptions get a listener unless they are asked not to. -/
  createListeners : Bool := true
deriving DecidableEq, Repr

instance : Inhabited Settings := ⟨{}⟩

namespace Settings

inductive Key
  | keepTransportPolicy
  | memoryPolicy
  | createListeners
deriving DecidableEq, Repr

def Key.name : Key → String
  | .keepTransportPolicy => "leave_middleware_default_qos"
  | .memoryPolicy => "history_memory_policy"
  | .createListeners => "create_listeners"

/-- The keys in the order of the settings. -/
def Key.all : List Key := [.keepTransportPolicy, .memoryPolicy, .createListeners]

def Key.ofName? (name : String) : Option Key :=
  Key.all.find? fun key => key.name == name

end Settings

end RosMiddleware
