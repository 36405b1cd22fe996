import RegisterMap.Code.Header
import RegisterMap.Code.Line
import RegisterMap.Layout.Basic

/-!
# Rendering

The code of a layout: for each register a `bitfield!` block and an
implementation of `Default`, with a blank line between registers.
-/

namespace RegisterMap

def Value.line (v : Value) : Line :=
  .doc ("- ".toList ++ v.number ++ "b: ".toList ++ v.brief)

/-- The values of an accessor and its default. -/
def Accessor.valueLines (a : Accessor) : List Line :=
  if a.values = [] then []
  else
    (if a.description = [] then [] else [.doc []]) ++
      [.doc "# Values".toList, .doc []] ++ a.values.map Value.line ++
      [.doc [], .doc ("The default value is ".toList ++ a.reset)]

def Accessor.declaration (a : Accessor) : Line :=
  .code ("    pub ".toList ++ a.getter ++ ", ".toList ++ a.setter ++ ": ".toList ++
    a.span.render ++ ";".toList)

def Accessor.lines (a : Accessor) : List Line :=
  a.description.map .doc ++ a.valueLines ++ [a.declaration]

def Accessor.render (a : Accessor) : Text := Line.renderAll a.lines

/-- The `bitfield!` block of a register. -/
def Block.typeLines (b : Block) : List Line :=
  [.code "bitfield! \x7b".toList] ++ b.description.map .doc ++
    [.doc [], .doc "# Address".toList, .doc [],
     .doc ("The address of this register is ".toList ++ b.address),
     .code "    #[derive(Clone, Copy)]".toList,
     .code ("    pub struct ".toList ++ b.typeName ++ "(u8);".toList)] ++
    b.accessors.flatMap (fun a => .code [] :: a.lines) ++
    [.code "\x7d".toList]

/-- The `Default` of a register. -/
def Block.defaultLines (b : Block) : List Line :=
  [.code ("impl Default for ".toList ++ b.typeName ++ " \x7b".toList),
   .code "    fn default() -> Self \x7b".toList,
   .code ("        Self(".toList ++ b.reset ++ ")".toList),
   .code "    \x7d".toList,
   .code "\x7d".toList]

def Block.lines (b : Block) : List Line :=
  b.typeLines ++ [.code []] ++ b.defaultLines

def Block.render (b : Block) : Text := Line.renderAll b.lines

/-- The lines of all blocks, with an empty one between two blocks. -/
def Layout.blockLines : List Block → List Line
  | [] => []
  | [b] => b.lines
  | b :: c :: bs => b.lines ++ [.code []] ++ blockLines (c :: bs)

def Layout.render (h : Header) (l : Layout) : Text :=
  h.render ++ Line.renderAll (blockLines l.blocks)

end RegisterMap
