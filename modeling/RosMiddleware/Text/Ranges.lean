/-!
Character classes given as ranges of code points.
-/
namespace RosMiddleware.Text

def within (ranges : List (Nat × Nat)) (c : Char) : Bool :=
  ranges.any fun range => decide (range.1 ≤ c.toNat ∧ c.toNat ≤ range.2)

end RosMiddleware.Text
