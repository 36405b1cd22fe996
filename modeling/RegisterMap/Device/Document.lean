import RegisterMap.Device.Fault
import RegisterMap.Device.Record
import RegisterMap.Text.Blank

/-!
# Documents

A document is a `registerdefinition` element. Its `devicename` children name
the device, the last of them for good; its `Register` children are the
registers. The first child that fails is the fault, and nothing after the root
is read.
-/

namespace RegisterMap

open Markup

namespace Document

def rootName : Text := "registerdefinition".toList

/-- The tokens of an element after its opening tag, and whether its closing tag is among them.
`depth` elements stand open inside it. -/
def ownTokens (depth : Nat) : List Token → List Token × Bool
  | [] => ([], false)
  | .closing tag :: ts =>
    match depth with
    | 0 => ([.closing tag], true)
    | depth + 1 =>
      let (own, closed) := ownTokens depth ts
      (.closing tag :: own, closed)
  | .opening tag :: ts =>
    let (own, closed) := ownTokens (depth + 1) ts
    (.opening tag :: own, closed)
  | t :: ts =>
    let (own, closed) := ownTokens depth ts
    (t :: own, closed)

/-- The content of the element that a tag opens. -/
def contentOf (tag : Text) (ts : List Token) (stop : Option Markup.Fault) :
    Except Markup.Fault Text :=
  let (own, closed) := ownTokens 0 ts
  match nest (if closed then none else stop) [tagName tag] own with
  | .error e => .error e
  | .ok (inner, _) => .ok inner.render

/-- The content of the root of a stream. What stands before it is passed over. -/
def rootOf (stop : Option Markup.Fault) : List Token → Except DocumentFault Text
  | [] =>
    match stop with
    | some e => .error (.malformed e)
    | none => .error .noRoot
  | .piece _ :: ts => rootOf stop ts
  | .closing tag :: _ => .error (.malformed (.nest (.unmatched (closingName tag))))
  | .empty tag :: _ =>
    if tagName tag = rootName then .ok [] else .error (.wrongRoot (tagName tag))
  | .opening tag :: ts =>
    if tagName tag = rootName then (contentOf tag ts stop).mapError .malformed
    else .error (.wrongRoot (tagName tag))

/-- The content of the root element, as written. -/
def rootContent (s : Text) : Except DocumentFault Text :=
  let r := stream s
  rootOf r.fault r.tokens

/-- The text of the first `Name` child, if its references resolve. -/
def childName? (content : Text) : Option Text :=
  match childElements content with
  | .error _ => none
  | .ok es =>
    match es.find? (·.name = "Name".toList) with
    | none => none
    | some e =>
      match resolve e.content with
      | .error _ => none
      | .ok name => some (Text.trim name)

/-- The name of a record, or else its place among its kind. -/
def label (content : Text) (index : Nat) : Text :=
  (childName? content).getD ('#' :: Text.decimal (index + 1))

/-- The first of the contents that is no bitfield on its own, by its label. -/
def firstBadBitfield (index : Nat) : List Text → Option RegisterFault
  | [] => none
  | content :: rest =>
    match readAlone Bitfield.item content with
    | .ok _ => firstBadBitfield (index + 1) rest
    | .error e => some (.bitfield (label content index) e)

/-- The bitfield that keeps a register from loading, if it fails on its own. -/
def bitfieldFault? (content : Text) : Option RegisterFault :=
  match childElements content with
  | .error _ => none
  | .ok es =>
    firstBadBitfield 0 ((es.filter (·.name = "Bitfield".toList)).map (·.content))

/-- The register of a `Register` child's content. -/
def register (content : Text) : Except RegisterFault Register :=
  match readAlone Register.item content with
  | .ok r => .ok r
  | .error e => .error ((bitfieldFault? content).getD (.record e))

/-- The name and the registers that children give, after `name` and `index` registers. -/
def takeChildren (name : Option Text) (index : Nat) :
    List Element → Except DocumentFault (Option Text × List Register)
  | [] => .ok (name, [])
  | e :: es =>
    if e.name = "devicename".toList then
      match resolve e.content with
      | .error f => .error (.deviceName f)
      | .ok s => takeChildren (some (Text.trim s)) index es
    else if e.name = "Register".toList then
      match register e.content with
      | .error f => .error (.register (label e.content index) f)
      | .ok r => (takeChildren name (index + 1) es).map fun (name, rs) => (name, r :: rs)
    else takeChildren name index es

end Document

/-- The device that a document describes. -/
def Device.load (document : Text) : Except DocumentFault Device := do
  let root ← Document.rootContent document
  let children ← (childElements root).mapError .malformed
  match ← Document.takeChildren none 0 children with
  | (some name, registers) => return { name, registers }
  | (none, _) => throw .noDeviceName

end RegisterMap
