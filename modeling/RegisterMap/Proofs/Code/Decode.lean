import RegisterMap.Code.Render
import RegisterMap.Proofs.Code.Lines
import RegisterMap.Proofs.Layout.Plain
import RegisterMap.Proofs.Record.Read

/-!
# Layouts that are read back

The signature of a layout is what its code means to the compiler: for each block
its type name, its reset literal and its accessors. `Layout.read` decodes it
from the lines that are no documentation, and gives the signature of every plain
layout (`Layout.Plain.read_render`).
-/

namespace RegisterMap

/-! ## Signatures -/

structure Accessor.Signature where
  getter : Text
  setter : Text
  span : BitSpan
  deriving DecidableEq, Repr

structure Block.Signature where
  typeName : Text
  reset : Text
  accessors : List Accessor.Signature
  deriving DecidableEq, Repr

def Accessor.signature (a : Accessor) : Accessor.Signature := ⟨a.getter, a.setter, a.span⟩

def Block.signature (b : Block) : Block.Signature :=
  ⟨b.typeName, b.reset, b.accessors.map Accessor.signature⟩

def Layout.signature (l : Layout) : List Block.Signature := l.blocks.map Block.signature

/-! ## Decoding -/

namespace Decode

/-- The text between a beginning and the first mark after it. -/
def between (beginning mark s : Text) : Option Text := do
  let s ← Text.after? beginning s
  let (inside, _) ← Text.cut mark s
  return inside

/-- The span that `7, 4` or `7` writes. -/
def span (s : Text) : Option BitSpan :=
  match Text.cut ", ".toList s with
  | some (msb, lsb) => do return ⟨← Record.byte? msb, ← Record.byte? lsb⟩
  | none => (Record.byte? s).map fun b => ⟨b, b⟩

def accessor (line : Text) : Option Accessor.Signature := do
  let s ← Text.after? "    pub ".toList line
  let (getter, s) ← Text.cut ", ".toList s
  let (setter, s) ← Text.cut ": ".toList s
  let (bits, _) ← Text.cut ";".toList s
  return { getter, setter, span := ← span bits }

/-- The accessors up to a closing brace, each after an empty line, and the lines after it. -/
def accessors : List Text → Option (List Accessor.Signature × List Text)
  | [] :: declaration :: ls => do
    let a ← accessor declaration
    let (as, rest) ← accessors ls
    return (a :: as, rest)
  | ['\x7d'] :: rest => some ([], rest)
  | _ => none

def block : List Text → Option (Block.Signature × List Text)
  | _ :: _ :: struct :: ls => do
    let typeName ← between "    pub struct ".toList "(u8);".toList struct
    match ← accessors ls with
    | (as, _ :: _ :: _ :: self :: _ :: _ :: rest) => do
      let reset ← between "        Self(".toList ")".toList self
      return (⟨typeName, reset, as⟩, rest)
    | _ => none
  | _ => none

theorem accessors_length {ls rest : List Text} {as : List Accessor.Signature}
    (h : accessors ls = some (as, rest)) : rest.length ≤ ls.length := by
  fun_induction accessors ls generalizing as with
  | case1 declaration ls ih =>
    simp only [Option.bind_eq_bind, Option.bind_eq_some_iff, Prod.exists] at h
    obtain ⟨a, -, as', r, hr, he⟩ := h
    cases he
    have := ih hr
    simp only [List.length_cons]
    omega
  | case2 rest => cases h; simp
  | case3 => cases h

theorem block_length {ls rest : List Text} {b : Block.Signature}
    (h : block ls = some (b, rest)) : rest.length < ls.length := by
  unfold block at h
  split at h
  · simp only [Option.bind_eq_bind, Option.bind_eq_some_iff] at h
    obtain ⟨typeName, -, ⟨as, ls'⟩, hr, h⟩ := h
    have := accessors_length hr
    split at h
    · next he =>
      simp only [Option.bind_eq_some_iff] at h
      obtain ⟨reset, -, h⟩ := h
      cases h
      cases he
      simp only [List.length_cons] at this ⊢
      omega
    · cases h
  · cases h

/-- The blocks, with a line between two of them. -/
def blocks (ls : List Text) : Option (List Block.Signature) :=
  match ls with
  | [] => some []
  | l :: ls =>
    match _h : block (l :: ls) with
    | none => none
    | some (b, rest) => (blocks rest.tail).map (b :: ·)
termination_by ls.length
decreasing_by
  have := block_length _h
  simp only [List.length_tail, List.length_cons] at this ⊢
  omega

end Decode

/-- The signature that code under a header has. -/
def Layout.read (h : Header) (code : Text) : Option (List Block.Signature) := do
  let s ← Text.after? h.render code
  Decode.blocks (codeLines s)

end RegisterMap
