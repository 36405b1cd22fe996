import RegisterMap.Prose.Tables

/-!
# Documentation lines

A description becomes documentation lines: line ends are made line feeds,
tables are dropped, the text is trimmed, and every line loses the white space
at its end.
-/

namespace RegisterMap.Prose

/-- Every line end (CR LF, CR, LF) as a line feed. -/
def unifyLineEnds : Text → Text
  | [] => []
  | '\r' :: '\n' :: s => '\n' :: unifyLineEnds s
  | c :: s => (if c = '\r' then '\n' else c) :: unifyLineEnds s

/-- The documentation lines of a description. None are left of one that is blank. -/
def docLines (s : Text) : List Text :=
  (Text.lines (Text.trim (dropTables (unifyLineEnds s)))).map Text.trimEnd

end RegisterMap.Prose
