import RegisterMap.Layout.BitSpan
import RegisterMap.Text.Quoted

/-!
# Faults of a layout

Why a device has no layout. A message names the register and the bitfield
before the cause.
-/

namespace RegisterMap

inductive AccessorFault where
  | emptyName
  /-- The start bit is past the top of the register. -/
  | pastTop (start : UInt8)
  /-- The start bit is below the stop bit. -/
  | inverted (start stop : UInt8)
  deriving DecidableEq, Repr

inductive BlockFault where
  | noIdentifier (name : Text)
  | badReset (reset : Text)
  | accessor (name : Text) (fault : AccessorFault)
  | repeatedGetter (name getter : Text)
  deriving DecidableEq, Repr

inductive LayoutFault where
  | block (name : Text) (fault : BlockFault)
  | sameType (first second typeName : Text)
  deriving DecidableEq, Repr

def AccessorFault.message : AccessorFault → Text
  | emptyName => "Bitfield has an empty name".toList
  | pastTop start =>
    "Start bit ".toList ++ Text.decimal start.toNat ++ " is past bit ".toList ++
      Text.decimal BitSpan.top.toNat ++ " of the register".toList
  | inverted start stop =>
    "Start bit ".toList ++ Text.decimal start.toNat ++ " is below stop bit ".toList ++
      Text.decimal stop.toNat

def BlockFault.message : BlockFault → Text
  | noIdentifier name =>
    "Register name ".toList ++ Text.quoted name ++ " has no identifier characters".toList
  | badReset reset => "Invalid reset value ".toList ++ Text.quoted reset
  | accessor name fault => "Invalid bitfield ".toList ++ name ++ ": ".toList ++ fault.message
  | repeatedGetter name getter =>
    "Bitfield ".toList ++ name ++ " repeats the accessor ".toList ++ getter

def LayoutFault.message : LayoutFault → Text
  | block name fault => "Failed to derive register ".toList ++ name ++ ": ".toList ++ fault.message
  | sameType first second typeName =>
    "Registers ".toList ++ first ++ " and ".toList ++ second ++
      " both derive the type name ".toList ++ typeName

end RegisterMap
