import RegisterMap.Text.Basic

/-!
# Faults of markup

A scanning fault is a token that never ends or is of no known kind. A nesting
fault is a tag that does not match, or a declaration that lacks its name.
-/

namespace RegisterMap.Markup

inductive ScanFault where
  | tag
  | comment
  | cdata
  | doctype
  | instruction
  /-- Nothing known follows `<!`. -/
  | unknown
  deriving DecidableEq, Repr

inductive NestFault where
  /-- A closing tag names another element than the open one. -/
  | mismatched (expected found : Text)
  /-- A closing tag where no element is open. -/
  | unmatched (found : Text)
  /-- The text ends inside an element. -/
  | unclosed (name : Text)
  /-- A document type declaration without a name. -/
  | unnamedDoctype
  deriving DecidableEq, Repr

inductive Fault where
  | scan (fault : ScanFault)
  | nest (fault : NestFault)
  deriving DecidableEq, Repr

def ScanFault.message : ScanFault → Text
  | tag => "tag not closed: `>` not found before end of input".toList
  | comment => "comment not closed: `-->` not found before end of input".toList
  | cdata => "CDATA not closed: `]]>` not found before end of input".toList
  | doctype => "DOCTYPE not closed: `>` not found before end of input".toList
  | instruction =>
    "processing instruction or xml declaration not closed: ".toList ++
      "`?>` not found before end of input".toList
  | unknown => "unknown or missed symbol in markup".toList

def NestFault.message : NestFault → Text
  | mismatched expected found =>
    "expected `</".toList ++ expected ++ ">`, but `</".toList ++ found ++ ">` was found".toList
  | unmatched found =>
    "close tag `</".toList ++ found ++ ">` does not match any open tag".toList
  | unclosed name =>
    "start tag not closed: `</".toList ++ name ++ ">` not found before end of input".toList
  | unnamedDoctype => "`<!DOCTYPE>` declaration does not contain a name of a document type".toList

/-- The fault and its causes, outermost first. -/
def Fault.chain : Fault → List Text
  | scan f => ["syntax error: ".toList ++ f.message, f.message]
  | nest f => ["ill-formed document: ".toList ++ f.message, f.message]

end RegisterMap.Markup
