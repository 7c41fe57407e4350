/-!
# Tables of code points

A property of characters is a list of closed ranges in increasing order.
-/

namespace TextureGraph

/-- Whether a code point lies in one of the closed ranges, which stand in increasing order. -/
def inRanges : (ranges : List (Nat × Nat)) → (code : Nat) → Bool
  | [], _ => false
  | (first, last) :: ranges, code =>
      if code < first then false
      else if code ≤ last then true
      else inRanges ranges code

end TextureGraph
