/-!
Durations of a profile, in seconds and nanoseconds. Neither part is bounded by the other.
-/
namespace RosMiddleware.Qos

structure Duration where
  sec : UInt64
  nsec : UInt64
deriving DecidableEq, Repr

namespace Duration

/-- The longest time of signed 64-bit nanoseconds stands for no bound. -/
def infinite : Duration := ⟨9223372036, 854775807⟩

def zero : Duration := ⟨0, 0⟩

instance : Inhabited Duration := ⟨infinite⟩

/-- Zero and infinite both mean that nothing is asked for. -/
def isUnspecified (d : Duration) : Bool := d == infinite || d == zero

def total (d : Duration) : Nat := d.sec.toNat * 1000000000 + d.nsec.toNat

def text (d : Duration) : String :=
  if d = infinite then "Infinite"
  else if d.nsec = 0 then toString d.sec.toNat ++ "s"
  else toString d.sec.toNat ++ "s " ++ toString d.nsec.toNat ++ "ns"

end Duration

end RosMiddleware.Qos
