import RegisterMap.Markup.Attribute
import RegisterMap.Text.Quoted

/-!
# Namespaces

An attribute `xmlns:p` binds the label `p` to a namespace for the element it
stands in. The labels `xml` and `xmlns` and their namespaces belong to each
other. An element is nil when an attribute `nil` of the schema-instance
namespace is `true` or `1`.
-/

namespace RegisterMap.Markup

structure Binding where
  label : Text
  uri : Text
  deriving DecidableEq, Repr

inductive NamespaceFault where
  /-- The label `xml` is bound to a namespace that is not its own. -/
  | xmlLabel (uri : Text)
  | xmlnsLabel (uri : Text)
  /-- A label is bound to the namespace of `xml`. -/
  | xmlSpace (label : Text)
  /-- A label is bound to the namespace of `xmlns`. -/
  | xmlnsSpace (label : Text)
  deriving DecidableEq, Repr

def xmlUri : Text := "http://www.w3.org/XML/1998/namespace".toList

def xmlnsUri : Text := "http://www.w3.org/2000/xmlns/".toList

def instanceUri : Text := "http://www.w3.org/2001/XMLSchema-instance".toList

def NamespaceFault.message : NamespaceFault → Text
  | xmlLabel uri => bound "'xml'".toList (Text.quotedBytes uri)
  | xmlnsLabel uri => bound "'xmlns'".toList (Text.quotedBytes uri)
  | xmlSpace label => bound (['\x27'] ++ Text.quotedBytes label ++ ['\x27']) xmlUri
  | xmlnsSpace label => bound (['\x27'] ++ Text.quotedBytes label ++ ['\x27']) xmlnsUri
where
  bound (label uri : Text) : Text :=
    "the namespace prefix ".toList ++ label ++ " cannot be bound to '".toList ++ uri ++ "'".toList

/-- What an attribute binds, if it binds a label. -/
def Attribute.binding? (a : Attribute) : Except NamespaceFault (Option Binding) :=
  match Text.after? "xmlns:".toList a.key with
  | none => .ok none
  | some label =>
    if label = "xml".toList then
      if a.value = xmlUri then .ok none else .error (.xmlLabel a.value)
    else if label = "xmlns".toList then .error (.xmlnsLabel a.value)
    else if a.value = xmlUri then .error (.xmlSpace label)
    else if a.value = xmlnsUri then .error (.xmlnsSpace label)
    else .ok (if label = [] then none else some ⟨label, a.value⟩)

/-- Adds the bindings of attributes up to the first fault of either kind, the latest first. -/
def bindAll (bs : List Binding) :
    List (Except AttributeFault Attribute) → List Binding × Option NamespaceFault
  | [] => (bs, none)
  | .error _ :: _ => (bs, none)
  | .ok a :: as =>
    match a.binding? with
    | .error e => (bs, some e)
    | .ok none => bindAll bs as
    | .ok (some b) => bindAll (b :: bs) as

def bindingFault? (tag : Text) : Option NamespaceFault := (bindAll [] (attributes false tag)).2

/-- The bindings of the elements that stand open, innermost first. -/
abbrev Scopes := List (List Binding)

def Scopes.enter (σ : Scopes) (tag : Text) : Scopes :=
  (bindAll [] (attributes false tag)).1 :: σ

def Scopes.leave (σ : Scopes) : Scopes := σ.tail

/-- The namespace of a label. An empty one unbinds it. -/
def Scopes.uri? (σ : Scopes) (label : Text) : Option Text :=
  match σ.flatten.find? (·.label = label) with
  | some b => if b.uri = [] then none else some b.uri
  | none => none

/-- The label and the local name of a qualified name. -/
def splitName (name : Text) : Option Text × Text :=
  match Text.cut [':'] name with
  | some (label, rest) => (some label, rest)
  | none => (none, name)

/-- A name less its label. -/
def localName (name : Text) : Text := (splitName name).2

def Scopes.saysNil (σ : Scopes) (a : Attribute) : Bool :=
  match splitName a.key with
  | (some label, name) =>
    decide (σ.uri? label = some instanceUri) && decide (name = "nil".toList) &&
      decide (a.value = "true".toList ∨ a.value = ['1'])
  | (none, _) => false

def Scopes.isNil (σ : Scopes) (tag : Text) : Bool :=
  (attributes true tag).any fun
    | .ok a => σ.saysNil a
    | .error _ => false

end RegisterMap.Markup
