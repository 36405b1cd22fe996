import RegisterMap.Proofs.Markup.Forest
import RegisterMap.Proofs.Markup.Reference

/-!
# Written markup

Text is written escaped (`Content.ofText`), and elements without attributes side
by side (`Content.siblings`). Both are sound, so they are read back from what
they render.
-/

namespace RegisterMap.Markup

variable {s name : Text} {es : List (Text × Content)}

/-- An element without attributes around some markup. -/
def wrap (name inner : Text) : Text := openingTag name ++ inner ++ closingTag name

namespace Content

/-- Text as content. No text is no piece. -/
def ofText (s : Text) : Content := if s = [] then nil else piece (.text (escape s)) nil

/-- Elements side by side, each a name and a content. -/
def siblings : List (Text × Content) → Content
  | [] => nil
  | (name, inner) :: es => element name inner name (siblings es)

theorem render_ofText (s : Text) : (ofText s).render = escape s := by
  unfold ofText
  split
  · next h => rw [h]; rfl
  · rw [render, Piece.render_text, render, List.append_nil]

theorem render_siblings (es : List (Text × Content)) :
    (siblings es).render = es.flatMap fun e => wrap e.1 e.2.render := by
  induction es with
  | nil => rfl
  | cons e es ih => rw [siblings, render, ih, List.flatMap_cons, wrap]

theorem sound_ofText (s : Text) : (ofText s).Sound := by
  unfold ofText
  split
  · exact .nil
  · next h => exact .text (mt escape_eq_nil.mp h) (not_mem_escape rfl (by decide)) rfl .nil

theorem closingName_of_unmarked (h : Unmarked name) : closingName name = name := by
  unfold closingName
  rw [Text.trimEndBy_eq_self fun c hc => h.not_blank (List.mem_of_getLast? hc)]
  split <;> rfl

theorem closingName_of_isName (h : IsName name) : closingName name = name :=
  closingName_of_unmarked h.unmarked

theorem sound_siblings (h : ∀ e ∈ es, IsName e.1 ∧ e.2.Sound) : (siblings es).Sound := by
  induction es with
  | nil => exact .nil
  | cons e es ih =>
    obtain ⟨hn, hs⟩ := h e (List.mem_cons_self ..)
    refine .element (sealed_opening hn.unmarked) (sealed_closing hn.unmarked) ?_ hs
      (ih fun e he => h e (List.mem_cons_of_mem _ he))
    rw [closingName_of_isName hn, tagName_of_isName hn]

theorem elements_siblings (h : ∀ e ∈ es, IsName e.1) :
    (siblings es).elements = es.map fun e => ⟨e.1, e.2.render⟩ := by
  induction es with
  | nil => rfl
  | cons e es ih =>
    rw [siblings, elements, tagName_of_isName (h e (List.mem_cons_self ..)),
      ih fun e he => h e (List.mem_cons_of_mem _ he), List.map_cons]

/-- Elements side by side are the children of what they render. -/
theorem childElements_siblings (h : ∀ e ∈ es, IsName e.1 ∧ e.2.Sound) :
    childElements (es.flatMap fun e => wrap e.1 e.2.render) =
      .ok (es.map fun e => ⟨e.1, e.2.render⟩) := by
  rw [← render_siblings, childElements_render (sound_siblings h),
    elements_siblings fun e he => (h e he).1]

end Content

end RegisterMap.Markup
