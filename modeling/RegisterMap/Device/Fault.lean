import RegisterMap.Record.Fault

/-!
# Faults of a document

Why a document gives no device. A message names the register and the bitfield
before the cause.
-/

namespace RegisterMap

inductive RegisterFault where
  | record (fault : Record.Fault)
  | bitfield (label : Text) (fault : Record.Fault)
  deriving DecidableEq, Repr

inductive DocumentFault where
  | malformed (fault : Markup.Fault)
  | noRoot
  | wrongRoot (name : Text)
  | deviceName (fault : Markup.ReferenceFault)
  | register (label : Text) (fault : RegisterFault)
  | noDeviceName
  deriving DecidableEq, Repr

def RegisterFault.chain : RegisterFault → List Text
  | record f => f.chain
  | bitfield label f => ("Invalid bitfield ".toList ++ label) :: f.chain

/-- The fault and its causes, outermost first. -/
def DocumentFault.chain : DocumentFault → List Text
  | malformed f => "Malformed XML".toList :: f.chain
  | noRoot => ["Document has no <registerdefinition> element".toList]
  | wrongRoot name =>
    ["Unexpected root element <".toList ++ name ++ ">, expected <registerdefinition>".toList]
  | deviceName f => "Invalid <devicename>".toList :: f.chain
  | register label f => ("Failed to load register ".toList ++ label) :: f.chain
  | noDeviceName => ["Missing <devicename> element".toList]

def DocumentFault.message (f : DocumentFault) : Text := Text.join ": ".toList f.chain

end RegisterMap
