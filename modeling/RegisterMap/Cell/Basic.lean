import RegisterMap.Text.Basic

/-!
# Register cells

A cell is the byte of a register. Its fields are spans of bits: reading one
gives its bits as a number, writing one keeps the low bits of the value and all
bits outside the span.
-/

namespace RegisterMap

/-- A span of bits with a getter, and a setter if it is writable. -/
structure Field where
  getter : Text
  msb : Nat
  lsb : Nat
  writable : Bool
  deriving DecidableEq, Repr

namespace Field

def width (f : Field) : Nat := f.msb + 1 - f.lsb

/-- The bits of the span as a number. -/
def read (f : Field) (raw : UInt8) : Nat := raw.toNat / Nat.pow 2 f.lsb % Nat.pow 2 f.width

/-- The byte with the low bits of a value in the span. -/
def write (f : Field) (raw : UInt8) (value : Nat) : UInt8 :=
  let below := Nat.pow 2 f.lsb
  UInt8.ofNat (raw.toNat - f.read raw * below + value % Nat.pow 2 f.width * below)

end Field

/-- What a getter gives: a flag where the span is one bit, else a number. -/
inductive Reading where
  | flag (b : Bool)
  | number (n : Nat)
  deriving DecidableEq, Repr

def Reading.toNat : Reading → Nat
  | flag b => b.toNat
  | number n => n

def Field.reading (f : Field) (raw : UInt8) : Reading :=
  if f.width = 1 then .flag (f.read raw = 1) else .number (f.read raw)

/-- A type of cell: its value after reset, and its fields. -/
structure CellType where
  name : Text
  reset : UInt8
  fields : List Field
  deriving DecidableEq, Repr

def CellType.field? (t : CellType) (getter : Text) : Option Field :=
  t.fields.find? (·.getter = getter)

/-- What is done to a cell. A setter is named by its getter. -/
inductive CellStep where
  | get (getter : Text)
  | set (getter : Text) (value : Reading)
  | replace (raw : UInt8)
  deriving DecidableEq, Repr

inductive CellAnswer where
  | value (reading : Reading)
  | raw (byte : UInt8)
  | noAccessor
  deriving DecidableEq, Repr

/-- The byte after a step, and the answer. -/
def CellType.step (t : CellType) (raw : UInt8) : CellStep → UInt8 × CellAnswer
  | .get getter =>
    match t.field? getter with
    | some f => (raw, .value (f.reading raw))
    | none => (raw, .noAccessor)
  | .set getter value =>
    match t.field? getter with
    | some f =>
      if f.writable then (f.write raw value.toNat, .raw (f.write raw value.toNat))
      else (raw, .noAccessor)
    | none => (raw, .noAccessor)
  | .replace byte => (byte, .raw byte)

def CellType.run (t : CellType) (raw : UInt8) : List CellStep → UInt8 × List CellAnswer
  | [] => (raw, [])
  | s :: ss =>
    let (raw, answer) := t.step raw s
    let (raw, answers) := t.run raw ss
    (raw, answer :: answers)

end RegisterMap
