import Mathlib.Data.List.Basic
import RegisterMap.Code.Line
import RegisterMap.Proofs.Text.Basic

/-!
# Lines that are read back

Documentation begins with four blanks and `///`, whatever its text. So the code
among some lines is what is left of their rendering without documentation
(`codeLines_renderAll`), when no line breaks and no code looks like
documentation. Of documentation that breaks only the first line is read back as
documentation; the others are its `overflow`.
-/

namespace RegisterMap

namespace Line

def mark : Text := "    ///".toList

def isDocumentation (s : Text) : Bool := (Text.after? mark s).isSome

def body : Line → Text
  | code s => s
  | doc [] => mark
  | doc (c :: s) => mark ++ ' ' :: c :: s

def code? : Line → Option Text
  | code s => some s
  | doc _ => none

/-- The line does not break, and is no documentation if it is code. -/
def Single : Line → Prop
  | code s => '\n' ∉ s ∧ isDocumentation s = false
  | doc s => '\n' ∉ s

theorem render_eq (l : Line) : l.render = l.body ++ ['\n'] := by
  rcases l with s | _ | ⟨c, s⟩ <;> rfl

theorem Single.not_mem {l : Line} (h : l.Single) : '\n' ∉ l.body := by
  have hmark : '\n' ∉ mark := by decide
  rcases l with s | _ | ⟨c, s⟩
  · exact h.1
  · exact hmark
  · rw [body, List.mem_append, List.mem_cons, not_or, not_or]
    exact ⟨hmark, by decide, h⟩

theorem isDocumentation_append (t : Text) : isDocumentation (mark ++ t) = true := by
  rw [isDocumentation, Text.after?_append]
  rfl

theorem Single.isDocumentation_body {l : Line} (h : l.Single) :
    isDocumentation l.body = l.code?.isNone := by
  rcases l with s | _ | ⟨c, s⟩
  · exact h.2
  · rfl
  · exact isDocumentation_append _

/-- What a line is read back as. -/
def pieces (l : Line) : List Text := Text.pieces '\n' l.body

theorem Single.pieces {l : Line} (h : l.Single) : l.pieces = [l.body] :=
  Text.pieces_of_not_mem h.not_mem

theorem lines_renderAll (ls : List Line) : Text.lines (renderAll ls) = ls.flatMap pieces := by
  have hrender : renderAll ls = (ls.map body).flatMap (· ++ ['\n']) := by
    rw [renderAll, List.flatMap_map]
    exact List.flatMap_congr fun l _ => l.render_eq
  rw [hrender, Text.lines_flatMap, List.flatMap_map]
  rfl

/-- Documentation is read back as documentation, and what does not stay on its line. -/
theorem pieces_doc (s : Text) : ∃ t, (doc s).pieces = (mark ++ t) :: Text.overflow s := by
  have hmark : '\n' ∉ mark := by decide
  cases s with
  | nil => exact ⟨[], Text.pieces_of_not_mem hmark⟩
  | cons c s =>
    have hblank : '\n' ∉ mark ++ [' '] := by decide
    obtain ⟨t, ht⟩ := Text.pieces_append_left (c :: s) hblank
    rw [List.append_assoc, List.append_assoc, List.singleton_append] at ht
    exact ⟨[' '] ++ t, ht⟩

/-- What of a line's documentation does not stay on the line. -/
def overflow : Line → List Text
  | code _ => []
  | doc s => Text.overflow s

theorem overflow_code (s : Text) : (code s).overflow = [] := rfl

/-- Of lines whose code does not break nothing is read back but documentation, their code and what
runs over. -/
theorem mem_of_mem_lines {ls : List Line} (h : ∀ s ∈ ls.filterMap code?, '\n' ∉ s) {t : Text}
    (ht : t ∈ Text.lines (renderAll ls)) :
    isDocumentation t = true ∨ t ∈ ls.filterMap code? ∨ t ∈ ls.flatMap overflow := by
  rw [lines_renderAll] at ht
  obtain ⟨l, hl, ht⟩ := List.mem_flatMap.mp ht
  cases l with
  | code s =>
    have hs : s ∈ ls.filterMap code? := List.mem_filterMap.mpr ⟨_, hl, rfl⟩
    rw [pieces, body, Text.pieces_of_not_mem (h s hs), List.mem_singleton] at ht
    exact .inr (.inl (ht ▸ hs))
  | doc s =>
    obtain ⟨u, hu⟩ := pieces_doc s
    rw [hu, List.mem_cons] at ht
    rcases ht with rfl | ht
    · exact .inl (isDocumentation_append u)
    · exact .inr (.inr (List.mem_flatMap.mpr ⟨_, hl, ht⟩))

theorem mem_lines_of_mem {ls : List Line} (h : ∀ s ∈ ls.filterMap code?, '\n' ∉ s) {t : Text}
    (ht : t ∈ ls.filterMap code? ∨ t ∈ ls.flatMap overflow) : t ∈ Text.lines (renderAll ls) := by
  rw [lines_renderAll, List.mem_flatMap]
  rcases ht with ht | ht
  · obtain ⟨l, hl, hs⟩ := List.mem_filterMap.mp ht
    cases l with
    | code s =>
      cases hs
      refine ⟨_, hl, ?_⟩
      rw [pieces, body, Text.pieces_of_not_mem (h t ht)]
      exact List.mem_singleton_self t
    | doc s => cases hs
  · obtain ⟨l, hl, hs⟩ := List.mem_flatMap.mp ht
    cases l with
    | code s => cases hs
    | doc s =>
      obtain ⟨u, hu⟩ := pieces_doc s
      exact ⟨_, hl, hu ▸ List.mem_cons_of_mem _ hs⟩

theorem single_of_overflow {ls : List Line}
    (h : ∀ s ∈ ls.filterMap code?, '\n' ∉ s ∧ isDocumentation s = false)
    (ho : ls.flatMap overflow = []) : ∀ l ∈ ls, l.Single := by
  intro l hl
  cases l with
  | code s => exact h s (List.mem_filterMap.mpr ⟨_, hl, rfl⟩)
  | doc s => exact Text.overflow_eq_nil.mp (List.flatMap_eq_nil_iff.mp ho _ hl)

/-- The code that a line is read back as. -/
def shown (l : Line) : List Text := l.pieces.filter (!isDocumentation ·)

theorem shown_doc (s : Text) :
    (doc s).shown = (Text.overflow s).filter (!isDocumentation ·) := by
  obtain ⟨t, ht⟩ := pieces_doc s
  rw [shown, ht, List.filter_cons_of_neg (by rw [isDocumentation_append]; decide)]

theorem Single.shown {l : Line} (h : l.Single) : l.shown = l.code?.toList := by
  rw [Line.shown, h.pieces, List.filter_singleton, h.isDocumentation_body]
  cases l with
  | code s => rfl
  | doc s => rfl

end Line

/-- The lines of a text that are no documentation. -/
def codeLines (s : Text) : List Text := (Text.lines s).filter (!Line.isDocumentation ·)

theorem codeLines_eq_shown (ls : List Line) :
    codeLines (Line.renderAll ls) = ls.flatMap Line.shown := by
  rw [codeLines, Line.lines_renderAll, List.filter_flatMap]
  rfl

theorem codeLines_renderAll {ls : List Line} (h : ∀ l ∈ ls, l.Single) :
    codeLines (Line.renderAll ls) = ls.filterMap Line.code? := by
  rw [codeLines_eq_shown, List.filterMap_eq_flatMap_toList]
  exact List.flatMap_congr fun l hl => (h l hl).shown

end RegisterMap
