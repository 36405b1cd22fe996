import RegisterMap.Device.Basic
import RegisterMap.Record.Read

/-!
# Registers, bitfields and values as records

A register lists bitfields and a bitfield lists values. Fields that are missing
are reported in the order of the shape, after all children are read.
-/

namespace RegisterMap

open Markup Record

def Value.shape : Shape where
  fields := [("Number".toList, .text), ("Brief".toList, .text)]
  item := none

def Bitfield.shape : Shape where
  fields := [("Name".toList, .text), ("Start".toList, .byte), ("Stop".toList, .byte),
    ("Access".toList, .text), ("Reset".toList, .text), ("Description".toList, .remark)]
  item := some "Value".toList

def Register.shape : Shape where
  fields := [("Name".toList, .text), ("Address".toList, .text), ("Description".toList, .remark),
    ("Reset".toList, .text)]
  item := some "Bitfield".toList

def Value.ofSheet (sheet : Sheet Unit) : Except Record.Fault Value := do
  let number ← sheet.text "Number".toList
  let brief ← sheet.text "Brief".toList
  return { number, brief }

def Bitfield.ofSheet (sheet : Sheet Value) : Except Record.Fault Bitfield := do
  let name ← sheet.text "Name".toList
  let start ← sheet.byte "Start".toList
  let stop ← sheet.byte "Stop".toList
  let access ← sheet.text "Access".toList
  let reset ← sheet.text "Reset".toList
  return { name, start, stop, access, reset, description := sheet.text? "Description".toList,
           values := sheet.list }

def Register.ofSheet (sheet : Sheet Bitfield) : Except Record.Fault Register := do
  let name ← sheet.text "Name".toList
  let address ← sheet.text "Address".toList
  let reset ← sheet.text "Reset".toList
  return { name, address, description := sheet.text? "Description".toList, reset,
           bitfields := sheet.list }

/-- Reads the items of a record that lists none. -/
def noItem : ItemReader Unit := fun σ _ _ _ => .ok ((), σ)

def Value.item : ItemReader Value := fun σ tag inner following => do
  let (sheet, σ) ← read Value.shape noItem σ tag inner following
  return (← Value.ofSheet sheet, σ)

def Bitfield.item : ItemReader Bitfield := fun σ tag inner following => do
  let (sheet, σ) ← read Bitfield.shape Value.item σ tag inner following
  return (← Bitfield.ofSheet sheet, σ)

def Register.item : ItemReader Register := fun σ tag inner following => do
  let (sheet, σ) ← read Register.shape Bitfield.item σ tag inner following
  return (← Register.ofSheet sheet, σ)

/-- Reads a record from its content alone, as that of an element without attributes. The element need
not be written out around it: no content of a document ends it early. -/
def readAlone {ι : Type} (item : ItemReader ι) (content : Text) : Except Record.Fault ι :=
  match Content.parse content with
  | .error e => .error (.badMarkup e)
  | .ok c => (item [] [] c.outline .nil).map Prod.fst

end RegisterMap
