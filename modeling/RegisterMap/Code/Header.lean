import RegisterMap.Text.Basic

/-!
# Header of the generated code

Lines written before the first block, and a blank line after them. No lines,
no header.
-/

namespace RegisterMap

structure Header where
  lines : List Text
  deriving DecidableEq, Repr

namespace Header

def none : Header := ⟨[]⟩

/-- The licence line, the notice and the import of a module of its own. -/
def standard : Header :=
  ⟨["// Licensed under the Apache-2.0 license".toList,
    "// Generated by xtask reg-gen. Do not edit.".toList,
    [],
    "use bitfield::bitfield;".toList]⟩

def add (h : Header) (line : Text) : Header := ⟨h.lines ++ [line]⟩

def render (h : Header) : Text :=
  if h.lines = [] then [] else h.lines.flatMap (· ++ ['\n']) ++ ['\n']

end Header

end RegisterMap
