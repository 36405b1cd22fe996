import RegisterMap.Markup.Outline
import RegisterMap.Record.Sheet

/-!
# Reading records

Children are read in order. A field may stand once; an unknown child is passed
over unread. From the first item on, the elements of the item's name make the
list, text is a fault, and all other children are set aside and taken after the
end of the record.

Namespaces follow the reader, which is one step ahead: what it meets first in
an element is already in scope. An element passed over unread leaves its scope
open, unless it holds nothing.
-/

namespace RegisterMap.Record

open Markup

/-- Opens an element whose bindings are sound. -/
def enter (σ : Scopes) (tag : Text) : Except Fault Scopes :=
  match bindingFault? tag with
  | some e => .error (.badBinding e)
  | none => .ok (σ.enter tag)

/-- The text of a run, if it has any. -/
def run (afterTag : Bool) (ps : List Passage) : Except Fault (Option Text) :=
  match readRun afterTag ps with
  | .ok t => .ok t
  | .error e => .error (.badReference e)

/-- The text that goes on after some of it. Texts that a document type declaration parts are read as
one: what the program does with a second text of one element is not modelled. -/
def scalarAfter (text : Text) : Outline → Except Fault Text
  | .nil => .ok text
  | .run ps rest => do
    let t ← run true ps
    scalarAfter (text ++ t.getD []) rest
  | .doctype rest => scalarAfter text rest
  | .element tag _ _ => do
    let _ ← enter [] tag
    throw (.unexpectedElement (tagName tag))

/-- The text of an element that holds nothing else. -/
def scalar (inner : Outline) : Except Fault Text := scalarAfter [] inner

/-- The value of decimal digits after some of value `n`, while it fits a byte. -/
def byteAfter? (n : Nat) : Text → Option UInt8
  | [] => some (UInt8.ofNat n)
  | c :: s =>
    if '0' ≤ c ∧ c ≤ '9' then
      let m := 10 * n + (c.toNat - '0'.toNat)
      if m < 256 then byteAfter? m s else none
    else none

/-- The byte that one or more decimal digits write, after a plus sign or none. -/
def byte? (s : Text) : Option UInt8 :=
  let digits := match s with
    | '+' :: rest => rest
    | s => s
  if digits = [] then none else byteAfter? 0 digits

/-- The scopes when the reader has met the front of what lies ahead. -/
def ahead (σ : Scopes) : Front → Scopes
  | .element tag => σ.enter tag
  | _ => σ

/-- Passes over an element just entered. The flag tells whether text after it stands beside a
tag. -/
def skip (σ : Scopes) (inner : Outline) : Except Fault (Scopes × Bool) :=
  match inner.front with
  | .nothing => .ok (σ.leave, true)
  | .text => .ok (σ, false)
  | .doctype => .ok (σ, true)
  | .element tag => do
    let σ ← enter σ tag
    return (σ, true)

/-- Checks what is set aside: its references and its bindings. -/
def checkAside : Outline → Except Fault Unit
  | .nil => .ok ()
  | .run ps rest => do
    let _ ← run true ps
    checkAside rest
  | .doctype rest => checkAside rest
  | .element tag inner rest => do
    let _ ← enter [] tag
    checkAside inner
    checkAside rest

/-- The content of a field that is not nil. -/
def entry (kind : Kind) (inner : Outline) : Except Fault Entry := do
  let s ← scalar inner
  match kind with
  | .text => return .text s
  | .remark => return .text s
  | .byte =>
    match byte? s with
    | some b => return .byte b
    | none => throw (.notByte s)

/-- An element: its tag and its content. -/
abbrev Child := Text × Outline

/-- Takes the children set aside. `σ` are the scopes after the end of the record `own`. -/
def takeAside {ι : Type} (shape : Shape) (own : Text) (σ : Scopes) (sheet : Sheet ι) :
    List Child → Except Fault (Sheet ι)
  | [] => .ok sheet
  | (tag, inner) :: rest =>
    let name := localName (tagName tag)
    match shape.role name with
    | .unknown => takeAside shape own σ sheet rest
    | .item => .error (.duplicate name)
    | .field kind =>
      if sheet.has name then .error (.duplicate name)
      else if kind = .remark ∧ (σ.isNil own || σ.isNil tag) then
        takeAside shape own σ (sheet.put name .nothing) rest
      else do
        let e ← entry kind inner
        takeAside shape own σ (sheet.put name e) rest

/-- Reads an item: the scopes outside it, its tag, its content, and what follows it. -/
abbrev ItemReader (ι : Type) := Scopes → Text → Outline → Outline → Except Fault (ι × Scopes)

/-- Reads children from the second item on, where `item` is the full name of the items. `following`
is what follows the record. -/
def readItems {ι : Type} (shape : Shape) (reader : ItemReader ι) (own item : Text)
    (following : Outline) (σ : Scopes) (sheet : Sheet ι) (items : List ι) (aside : List Child) :
    Outline → Except Fault (Sheet ι × Scopes)
  | .nil => do
    let sheet ← takeAside shape own (ahead σ.leave following.front)
      { sheet with items := some items.reverse } aside.reverse
    return (sheet, σ)
  | .run ps rest => do
    match ← run true ps with
    | none => readItems shape reader own item following σ sheet items aside rest
    | some s => throw (.notItem s (localName item))
  | .doctype rest => readItems shape reader own item following σ sheet items aside rest
  | .element tag inner rest => do
    let _ ← enter [] tag
    if tagName tag = item then
      let (x, σ) ← reader σ tag inner rest
      readItems shape reader own item following σ sheet (x :: items) aside rest
    else
      checkAside inner
      readItems shape reader own item following σ sheet items ((tag, inner) :: aside) rest

def readFields {ι : Type} (shape : Shape) (reader : ItemReader ι) (own : Text) (following : Outline)
    (σ : Scopes) (afterTag : Bool) (sheet : Sheet ι) : Outline → Except Fault (Sheet ι × Scopes)
  | .nil => .ok (sheet, σ)
  | .run ps rest => do
    let _ ← run afterTag ps
    readFields shape reader own following σ true sheet rest
  | .doctype rest => readFields shape reader own following σ true sheet rest
  | .element tag inner rest => do
    let inside ← enter σ tag
    let name := localName (tagName tag)
    match shape.role name with
    | .unknown =>
      let (σ, afterTag) ← skip inside inner
      readFields shape reader own following σ afterTag sheet rest
    | .item =>
      let (x, σ) ← reader σ tag inner rest
      readItems shape reader own (tagName tag) following σ sheet [x] [] rest
    | .field kind =>
      if sheet.has name then throw (.duplicate name)
      let met := ahead inside inner.front
      if kind = .remark ∧ (met.isNil own || met.isNil tag) then
        let (σ, afterTag) ← skip inside inner
        readFields shape reader own following σ afterTag (sheet.put name .nothing) rest
      else
        let e ← entry kind inner
        readFields shape reader own following σ true (sheet.put name e) rest

/-- Reads a record of a tag whose attributes are sound. `σ` are the scopes outside it. -/
def read {ι : Type} (shape : Shape) (reader : ItemReader ι) (σ : Scopes) (tag : Text)
    (inner following : Outline) : Except Fault (Sheet ι × Scopes) := do
  match attributeFault? tag with
  | some e => throw (.badAttribute e)
  | none =>
    let (sheet, σ) ← readFields shape reader tag following (σ.enter tag) true .blank inner
    return (sheet, σ.leave)

end RegisterMap.Record
