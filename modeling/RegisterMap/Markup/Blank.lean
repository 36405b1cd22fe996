import RegisterMap.Text.Basic

/-!
# White space in markup

Space, tab, carriage return and line feed.
-/

namespace RegisterMap.Markup

def isBlank (c : Char) : Bool :=
  c == ' ' || c == '\t' || c == '\r' || c == '\n'

end RegisterMap.Markup
