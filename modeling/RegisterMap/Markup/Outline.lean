import RegisterMap.Markup.Content
import RegisterMap.Markup.Reference

/-!
# Outlines

An outline is content without comments and instructions. Text and CDATA that
touch form one run; a document type declaration parts runs. The text of a run
has its references resolved. White space is trimmed where a plain passage
stands beside a tag, before references are resolved; a run of nothing but
trimmed passages is no text at all.
-/

namespace RegisterMap.Markup

inductive Passage where
  | plain (s : Text)
  /-- The inside of a CDATA section. -/
  | verbatim (s : Text)
  deriving DecidableEq, Repr

inductive Outline where
  | nil
  | run (passages : List Passage) (rest : Outline)
  | doctype (rest : Outline)
  | element (tag : Text) (inner : Outline) (rest : Outline)
  deriving DecidableEq, Repr

/-- Puts a passage in front. -/
def Outline.prepend (p : Passage) : Outline → Outline
  | run ps rest => run (p :: ps) rest
  | o => run [p] o

def Content.outline : Content → Outline
  | nil => .nil
  | piece p rest =>
    match p with
    | .text s => rest.outline.prepend (.plain s)
    | .cdata s => rest.outline.prepend (.verbatim s)
    | .doctype _ => .doctype rest.outline
    | .comment _ => rest.outline
    | .instruction _ => rest.outline
  | empty tag rest => .element tag .nil rest.outline
  | element tag inner _ rest => .element tag inner.outline rest.outline

/-- Trims the white space after a tag. Passages of nothing else vanish. -/
def trimLeading : List Passage → List Passage
  | .plain s :: ps =>
    match s.dropWhile isBlank with
    | [] => trimLeading ps
    | c :: s => .plain (c :: s) :: ps
  | ps => ps

/-- Trims the white space before a tag. -/
def trimTrailing : List Passage → List Passage
  | [] => []
  | [.plain s] => [.plain (Text.trimEndBy isBlank s)]
  | p :: ps => p :: trimTrailing ps

/-- The text of passages, references resolved. -/
def resolveAll : List Passage → Except ReferenceFault Text
  | [] => .ok []
  | .plain s :: ps => do return (← resolve s) ++ (← resolveAll ps)
  | .verbatim s :: ps => do return s ++ (← resolveAll ps)

/-- The text of a run, if it has any. `afterTag` tells whether a tag stands before it. -/
def readRun (afterTag : Bool) (ps : List Passage) : Except ReferenceFault (Option Text) :=
  match trimTrailing (if afterTag then trimLeading ps else ps) with
  | [] => .ok none
  | [.plain []] => .ok none
  | ps => (resolveAll ps).map some

/-- What is met first in an outline. -/
inductive Front where
  | nothing
  | text
  | doctype
  | element (tag : Text)
  deriving DecidableEq, Repr

def Outline.front : Outline → Front
  | nil => .nothing
  | run ps rest => if trimLeading ps = [] then rest.front else .text
  | doctype _ => .doctype
  | element tag _ _ => .element tag

end RegisterMap.Markup
