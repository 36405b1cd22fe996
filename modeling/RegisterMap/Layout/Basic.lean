import RegisterMap.Device.Basic
import RegisterMap.Layout.BitSpan

/-!
# Layouts

What is written for a device: a block for each register, an accessor for each
bitfield.
-/

namespace RegisterMap

/-- The getter and setter of a bitfield. -/
structure Accessor where
  getter : Text
  /-- A read-only bitfield has `_` here. -/
  setter : Text
  span : BitSpan
  /-- Documentation lines. -/
  description : List Text
  values : List Value
  /-- As the document writes it. -/
  reset : Text
  deriving DecidableEq, Repr

/-- The type of a register. -/
structure Block where
  typeName : Text
  /-- As the document writes it. -/
  address : Text
  /-- Documentation lines. -/
  description : List Text
  /-- A literal, such as `0x06`. -/
  reset : Text
  accessors : List Accessor
  deriving DecidableEq, Repr

structure Layout where
  name : Text
  /-- In document order. -/
  blocks : List Block
  deriving DecidableEq, Repr

end RegisterMap
