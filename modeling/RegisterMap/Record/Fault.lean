import RegisterMap.Markup.Namespace
import RegisterMap.Markup.Reference

/-!
# Faults of a record

Why the content of an element is no record: its markup, an attribute, a
reference or a namespace is at fault, a child stands where text is wanted, or a
child is missing, repeated or of the wrong type.
-/

namespace RegisterMap.Record

open Markup

inductive Fault where
  | badMarkup (fault : Markup.Fault)
  | badAttribute (fault : AttributeFault)
  | badReference (fault : ReferenceFault)
  | badBinding (fault : NamespaceFault)
  /-- An element inside a child that holds text. -/
  | unexpectedElement (name : Text)
  | missing (field : Text)
  | duplicate (field : Text)
  | notByte (text : Text)
  /-- Text among the items of a list. -/
  | notItem (text item : Text)
  deriving DecidableEq, Repr

/-- The fault and its causes, outermost first. A fault of the reader is its own first cause. -/
def Fault.chain : Fault → List Text
  | badMarkup f => f.chain.take 1 ++ f.chain
  | badAttribute f =>
    let outer := "error while parsing attribute: ".toList ++ f.message
    [outer, outer, f.message]
  | badReference f => [f.message, f.message] ++ f.chain
  | badBinding f => [f.message, f.message, f.message]
  | unexpectedElement name =>
    ["unexpected `Event::Start(".toList ++ Text.quotedBytes name ++ ")`".toList]
  | missing field => ["missing field `".toList ++ field ++ "`".toList]
  | duplicate field => ["duplicate field `".toList ++ field ++ "`".toList]
  | notByte text => [wrongType text "u8".toList]
  | notItem text item => [wrongType text ("struct ".toList ++ item)]
where
  wrongType (text wanted : Text) : Text :=
    "invalid type: string ".toList ++ Text.quoted text ++ ", expected ".toList ++ wanted

end RegisterMap.Record
