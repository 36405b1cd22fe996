import RegisterMap.Code.Render
import RegisterMap.Device.Document
import RegisterMap.Layout.Derive

/-!
# Generating code

A document is loaded, its device laid out and the layout rendered under a
header.
-/

namespace RegisterMap

inductive GenerateFault where
  | document (fault : DocumentFault)
  | layout (fault : LayoutFault)
  deriving DecidableEq, Repr

def GenerateFault.message : GenerateFault → Text
  | document f => f.message
  | layout f => f.message

def generate (header : Header) (document : Text) : Except GenerateFault Text := do
  let device ← (Device.load document).mapError .document
  let layout ← device.layout.mapError .layout
  return layout.render header

end RegisterMap
