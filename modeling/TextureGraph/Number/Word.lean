/-!
# Integers of fixed width

An integer fits a width or it does not; nothing wraps around.
-/

namespace TextureGraph
namespace Word

/-- The unsigned 32-bit integer of a value. -/
def uint32? (value : Int) : Option UInt32 :=
  if 0 ≤ value ∧ value < 0x100000000 then some (UInt32.ofNat value.toNat) else none

/-- The unsigned 64-bit integer of a value. -/
def uint64? (value : Int) : Option UInt64 :=
  if 0 ≤ value ∧ value < 0x10000000000000000 then some (UInt64.ofNat value.toNat) else none

/-- The signed 32-bit integer of a value. -/
def int32? (value : Int) : Option Int32 :=
  if -0x80000000 ≤ value ∧ value < 0x80000000 then some (Int32.ofInt value) else none

/-- The decimal digits of an integer after its sign. -/
def digits (value : Int) : List Char :=
  if value < 0 then '-' :: Nat.toDigits 10 value.natAbs else Nat.toDigits 10 value.natAbs

end Word
end TextureGraph
