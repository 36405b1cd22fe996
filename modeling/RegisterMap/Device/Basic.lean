import RegisterMap.Text.Basic

/-!
# Devices

What a register-definition document says: a device has registers, a register
has bitfields, a bitfield has documented values. All texts are as written.
-/

namespace RegisterMap

structure Value where
  /-- Bit pattern, such as `01`. -/
  number : Text
  /-- Meaning of the bit pattern. -/
  brief : Text
  deriving DecidableEq, Repr

/-- A named range of bits of a register. -/
structure Bitfield where
  name : Text
  /-- Most significant bit. -/
  start : UInt8
  /-- Least significant bit. -/
  stop : UInt8
  access : Text
  reset : Text
  description : Option Text
  values : List Value
  deriving DecidableEq, Repr

/-- An 8-bit register at an address. -/
structure Register where
  name : Text
  address : Text
  description : Option Text
  /-- Hexadecimal, such as `0x06`. -/
  reset : Text
  bitfields : List Bitfield
  deriving DecidableEq, Repr

structure Device where
  name : Text
  /-- In document order. -/
  registers : List Register
  deriving DecidableEq, Repr

/-- What software may do with a bitfield. -/
inductive Access where
  | readWrite
  | readOnly
  deriving DecidableEq, Repr

/-- Only `R/W` grants writing. -/
def Access.ofText (s : Text) : Access :=
  if s = "R/W".toList then .readWrite else .readOnly

def Bitfield.isWritable (f : Bitfield) : Bool := Access.ofText f.access = .readWrite

end RegisterMap
