import RegisterMap.Record.Fault

/-!
# Sheets

A record is an element whose children are its fields and, for some, a list of
items. A `Shape` names them; a `Sheet` holds what has been read.
-/

namespace RegisterMap.Record

inductive Kind where
  | text
  | byte
  /-- Text that may be nil. -/
  | remark
  deriving DecidableEq, Repr

/-- The children that a record knows. -/
structure Shape where
  fields : List (Text × Kind)
  /-- The name of the items of its list. -/
  item : Option Text

inductive Role where
  | field (kind : Kind)
  | item
  | unknown
  deriving DecidableEq, Repr

def Shape.role (shape : Shape) (name : Text) : Role :=
  if shape.item = some name then .item
  else
    match shape.fields.lookup name with
    | some kind => .field kind
    | none => .unknown

inductive Entry where
  | text (s : Text)
  | byte (b : UInt8)
  | nothing
  deriving DecidableEq, Repr

structure Sheet (ι : Type) where
  entries : List (Text × Entry)
  /-- The list, once an item has been met. -/
  items : Option (List ι)

namespace Sheet

variable {ι : Type}

def blank : Sheet ι := ⟨[], none⟩

def has (sheet : Sheet ι) (field : Text) : Bool := (sheet.entries.lookup field).isSome

def put (sheet : Sheet ι) (field : Text) (entry : Entry) : Sheet ι :=
  { sheet with entries := (field, entry) :: sheet.entries }

/-- The text of a field that must be there. -/
def text (sheet : Sheet ι) (field : Text) : Except Fault Text :=
  match sheet.entries.lookup field with
  | some (.text s) => .ok s
  | _ => .error (.missing field)

/-- The byte of a field that must be there. -/
def byte (sheet : Sheet ι) (field : Text) : Except Fault UInt8 :=
  match sheet.entries.lookup field with
  | some (.byte b) => .ok b
  | _ => .error (.missing field)

/-- The text of a field that may be absent. -/
def text? (sheet : Sheet ι) (field : Text) : Option Text :=
  match sheet.entries.lookup field with
  | some (.text s) => some s
  | _ => none

def list (sheet : Sheet ι) : List ι := sheet.items.getD []

end Sheet

end RegisterMap.Record
