import RegisterMap.Markup.Stream

/-!
# Content

The content of an element is a forest: pieces, and elements with content of
their own. It keeps its tags as written, so that `render` gives back the text.
-/

namespace RegisterMap.Markup

inductive Content where
  | nil
  | piece (p : Piece) (rest : Content)
  | empty (tag : Text) (rest : Content)
  | element (tag : Text) (inner : Content) (closing : Text) (rest : Content)
  deriving DecidableEq, Repr

def Content.render : Content → Text
  | nil => []
  | piece p rest => p.render ++ rest.render
  | empty tag rest => emptyTag tag ++ rest.render
  | element tag inner closing rest =>
    openingTag tag ++ inner.render ++ closingTag closing ++ rest.render

/-- An element: the name in its tag, and its content as written. -/
structure Element where
  name : Text
  content : Text
  deriving DecidableEq, Repr

/-- The elements at the top, in order. -/
def Content.elements : Content → List Element
  | nil => []
  | piece _ rest => rest.elements
  | empty tag rest => ⟨tagName tag, []⟩ :: rest.elements
  | element tag inner _ rest => ⟨tagName tag, inner.render⟩ :: rest.elements

/-- Content up to the closing tag of the element it stands in, and each such
tag with the content after it, innermost first. -/
abbrev Nested := Content × List (Text × Content)

/-- Nests tokens inside elements of the names `opened`, innermost first. -/
def nest (stop : Option Fault) (opened : List Text) : List Token → Except Fault Nested
  | [] =>
    match stop, opened.getLast? with
    | some e, _ => .error e
    | none, some name => .error (.nest (.unclosed name))
    | none, none => .ok (.nil, [])
  | .piece p :: ts => do
    let (rest, outer) ← nest stop opened ts
    return (.piece p rest, outer)
  | .empty tag :: ts => do
    let (rest, outer) ← nest stop opened ts
    return (.empty tag rest, outer)
  | .opening tag :: ts => do
    match ← nest stop (tagName tag :: opened) ts with
    | (inner, (closing, rest) :: outer) => return (.element tag inner closing rest, outer)
    | (_, []) => throw (.nest (.unclosed (tagName tag)))
  | .closing tag :: ts =>
    match opened with
    | [] => .error (.nest (.unmatched (closingName tag)))
    | name :: opened =>
      if closingName tag = name then do
        let (rest, outer) ← nest stop opened ts
        return (.nil, (tag, rest) :: outer)
      else .error (.nest (.mismatched name (closingName tag)))

/-- The forest that a text writes. -/
def Content.parse (s : Text) : Except Fault Content := do
  let r := stream s
  let (c, _) ← nest r.fault [] r.tokens
  return c

/-- The elements at the top of a text. -/
def childElements (s : Text) : Except Fault (List Element) := do
  let c ← Content.parse s
  return c.elements

end RegisterMap.Markup
