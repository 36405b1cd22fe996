import RegisterMap.Text.Basic

/-!
# Lines of generated code

A line is code, or documentation of what follows it inside a block.
-/

namespace RegisterMap

inductive Line where
  | code (s : Text)
  | doc (s : Text)
  deriving DecidableEq, Repr

namespace Line

/-- The line and its end. Empty documentation has no blank after the slashes. -/
def render : Line → Text
  | code s => s ++ ['\n']
  | doc [] => "    ///\n".toList
  | doc (c :: s) => "    /// ".toList ++ (c :: s) ++ ['\n']

def renderAll (ls : List Line) : Text := ls.flatMap render

end Line

end RegisterMap
