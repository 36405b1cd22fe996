import RegisterMap.Text.Basic

/-!
# Bit spans

An inclusive range of bits of a register, most significant bit first.
-/

namespace RegisterMap

structure BitSpan where
  msb : UInt8
  lsb : UInt8
  deriving DecidableEq, Repr

namespace BitSpan

/-- The highest bit of a register. -/
def top : UInt8 := 7

/-- The span from `start` down to `stop`, if the register has it. -/
def ofBits? (start stop : UInt8) : Option BitSpan :=
  if start < stop ∨ top < start then none else some ⟨start, stop⟩

def width (r : BitSpan) : Nat := r.msb.toNat - r.lsb.toNat + 1

/-- A single bit is `7`, several are `7, 4`. -/
def render (r : BitSpan) : Text :=
  if r.width = 1 then Text.decimal r.msb.toNat
  else Text.decimal r.msb.toNat ++ ", ".toList ++ Text.decimal r.lsb.toNat

end BitSpan

end RegisterMap
