import RegisterMap.Layout.Basic
import RegisterMap.Layout.Fault
import RegisterMap.Layout.Names
import RegisterMap.Layout.Reset
import RegisterMap.Prose.Lines

/-!
# Layout of a device

A register becomes a block, a bitfield an accessor. A register needs a type
name, a reset value and accessors of distinct getters; a bitfield needs a name
and a span inside the register; no two registers share a type name. The first
register that breaks a rule is the fault.
-/

namespace RegisterMap

/-- A value as it is documented: its brief on one line. -/
def Value.documented (v : Value) : Value :=
  ⟨Text.trim v.number, Text.join [' '] (Prose.docLines v.brief)⟩

/-- Documentation lines of a description, if there is one. -/
def describe (description : Option Text) : List Text :=
  (description.map Prose.docLines).getD []

def Bitfield.accessor (f : Bitfield) : Except AccessorFault Accessor :=
  let name := Text.trim f.name
  if name = [] then .error .emptyName
  else
    match BitSpan.ofBits? f.start f.stop with
    | none =>
      .error (if BitSpan.top < f.start then .pastTop f.start else .inverted f.start f.stop)
    | some span =>
      .ok {
        getter := Names.getter name
        setter := Names.setter name (Access.ofText f.access)
        span
        description := describe f.description
        values := f.values.map Value.documented
        reset := Text.trim f.reset }

/-- The accessors of a register whose bitfields so far have the getters `taken`. -/
def Bitfield.accessors (taken : List Text) : List Bitfield → Except BlockFault (List Accessor)
  | [] => .ok []
  | f :: fs =>
    match f.accessor with
    | .error e => .error (.accessor f.name e)
    | .ok a =>
      if taken.contains a.getter then .error (.repeatedGetter f.name a.getter)
      else (accessors (a.getter :: taken) fs).map (a :: ·)

def Register.block (r : Register) : Except BlockFault Block :=
  let typeName := Names.typeName (Text.trim r.name)
  if typeName = [] then .error (.noIdentifier r.name)
  else
    match Reset.parse? r.reset with
    | none => .error (.badReset r.reset)
    | some b =>
      (Bitfield.accessors [] r.bitfields).map fun accessors => {
        typeName
        address := Text.trim r.address
        description := describe r.description
        reset := Reset.literal b
        accessors }

/-- The blocks up to the first fault. -/
structure Derivation where
  blocks : List Block
  fault : Option LayoutFault
  deriving DecidableEq, Repr

/-- Derives the registers after some whose type names are `taken`, each with the register's name. -/
def Register.derive (taken : List (Text × Text)) : List Register → Derivation
  | [] => ⟨[], none⟩
  | r :: rs =>
    match r.block with
    | .error e => ⟨[], some (.block r.name e)⟩
    | .ok b =>
      match taken.lookup b.typeName with
      | some first => ⟨[], some (.sameType first r.name b.typeName)⟩
      | none =>
        let d := derive ((b.typeName, r.name) :: taken) rs
        ⟨b :: d.blocks, d.fault⟩

def Device.derivation (d : Device) : Derivation := Register.derive [] d.registers

def Device.layout (d : Device) : Except LayoutFault Layout :=
  match d.derivation.fault with
  | none => .ok ⟨Text.trim d.name, d.derivation.blocks⟩
  | some e => .error e

end RegisterMap
