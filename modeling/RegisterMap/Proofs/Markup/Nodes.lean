import RegisterMap.Proofs.Markup.Written

/-!
# Forests of nodes

A node is a text, a comment, a CDATA section or an element, and nodes in an
element are a forest again. No node holds what would end it early. The children
of what a forest renders are its own elements, in order, each with what the
forest in it renders (`childElements_nodes`). What looks like a tag inside a
comment, a CDATA section or an element is none of them.

Names are of any characters that mark nothing in a tag: letters and digits in
every script (`unmarked_of_letters`), `_` and `-`.
-/

namespace RegisterMap.Markup

inductive Node where
  | text (s : Text) (h : '<' ∉ s := by decide)
  | comment (s : Text) (h : ¬ ['-', '-'] <:+: s := by decide)
  | cdata (s : Text) (h : ¬ [']', ']'] <:+: s := by decide)
  /-- An element with nothing in it, as one tag. -/
  | empty (name : Text) (h : Unmarked name := by decide)
  | element (name : Text) (children : List Node) (h : Unmarked name := by decide)

mutual
def Node.render : Node → Text
  | .text s _ => s
  | .comment s _ => (Piece.comment s).render
  | .cdata s _ => (Piece.cdata s).render
  | .empty name _ => emptyTag name
  | .element name children _ => wrap name (renderNodes children)

def renderNodes : List Node → Text
  | [] => []
  | n :: f => n.render ++ renderNodes f
end

def Node.element? : Node → Option Element
  | text _ _ | comment _ _ | cdata _ _ => none
  | empty name _ => some ⟨name, []⟩
  | element name children _ => some ⟨name, renderNodes children⟩

variable {s before : Text} {c : Content} {f : List Node}

namespace Content

/-! ## The content of a forest -/

/-- Text in front of content. No text is no piece. -/
def afterText (s : Text) (c : Content) : Content := if s = [] then c else piece (.text s) c

/-- The content of a forest after some text. Texts side by side are one piece. -/
def ofNodes (before : Text) : List Node → Content
  | [] => afterText before nil
  | .text s _ :: f => ofNodes (before ++ s) f
  | .comment s _ :: f => afterText before (piece (.comment s) (ofNodes [] f))
  | .cdata s _ :: f => afterText before (piece (.cdata s) (ofNodes [] f))
  | .empty name _ :: f => afterText before (empty name (ofNodes [] f))
  | .element name children _ :: f =>
    afterText before (element name (ofNodes [] children) name (ofNodes [] f))

theorem render_afterText (s : Text) (c : Content) : (afterText s c).render = s ++ c.render := by
  unfold afterText
  split
  · next h => rw [h, List.nil_append]
  · rw [render, Piece.render_text]

theorem elements_afterText (s : Text) (c : Content) : (afterText s c).elements = c.elements := by
  unfold afterText
  split
  · rfl
  · rfl

theorem sound_afterText (hs : '<' ∉ s) (hc : c.startsText = false) (h : c.Sound) :
    (afterText s c).Sound := by
  unfold afterText
  split
  · exact h
  · next hne => exact .text hne hs hc h

theorem render_ofNodes (before : Text) (f : List Node) :
    (ofNodes before f).render = before ++ renderNodes f := by
  fun_induction ofNodes before f with
  | case1 before => rw [render_afterText, render, renderNodes]
  | case2 before s _ f ih => rw [ih, renderNodes, Node.render, List.append_assoc]
  | case3 before s _ f ih | case4 before s _ f ih | case5 before name _ f ih =>
    rw [render_afterText, render, ih, List.nil_append, renderNodes, Node.render]
  | case6 before name children _ f ihc ihf =>
    rw [render_afterText, render, ihc, ihf, List.nil_append, List.nil_append, renderNodes,
      Node.render, wrap]

theorem elements_ofNodes (before : Text) (f : List Node) :
    (ofNodes before f).elements = f.filterMap Node.element? := by
  fun_induction ofNodes before f with
  | case1 before => rw [elements_afterText]; rfl
  | case2 before s _ f ih => rw [ih]; rfl
  | case3 before s _ f ih | case4 before s _ f ih => rw [elements_afterText, elements, ih]; rfl
  | case5 before name h f ih =>
    rw [elements_afterText, elements, ih, tagName_of_unmarked h]
    rfl
  | case6 before name children h f ihc ihf =>
    rw [elements_afterText, elements, render_ofNodes, ihf, tagName_of_unmarked h]
    rfl

/-- The content of a forest is scanned back, for every node ends itself. -/
theorem sound_ofNodes (hb : '<' ∉ before) : (ofNodes before f).Sound := by
  fun_induction ofNodes before f with
  | case1 before => exact sound_afterText hb rfl .nil
  | case2 before s hs f ih =>
    exact ih fun hm => (List.mem_append.mp hm).elim hb hs
  | case3 before s hs f ih =>
    exact sound_afterText hb rfl (.piece (sealed_comment hs) (ih List.not_mem_nil))
  | case4 before s hs f ih =>
    exact sound_afterText hb rfl (.piece (sealed_cdata hs) (ih List.not_mem_nil))
  | case5 before name hn f ih =>
    exact sound_afterText hb rfl (.empty (sealed_empty hn) (ih List.not_mem_nil))
  | case6 before name children hn f ihc ihf =>
    have hname : closingName name = tagName name := by
      rw [closingName_of_unmarked hn, tagName_of_unmarked hn]
    exact sound_afterText hb rfl (.element (sealed_opening hn) (sealed_closing hn) hname
      (ihc List.not_mem_nil) (ihf List.not_mem_nil))

end Content

/-- The children of a forest are its own elements, and no other tag in it. -/
theorem childElements_nodes (f : List Node) :
    childElements (renderNodes f) = .ok (f.filterMap Node.element?) := by
  have hsound : (Content.ofNodes [] f).Sound := Content.sound_ofNodes List.not_mem_nil
  have h := childElements_render hsound
  rwa [Content.render_ofNodes, List.nil_append, Content.elements_ofNodes] at h

/-- An element in one of its own name, and tags of that name that close and open nothing. -/
def tangled : List Node :=
  [.element "A".toList [.empty "A".toList, .comment "</A>".toList], .text "]]>".toList,
    .cdata "<A>".toList, .element "B".toList []]

theorem childElements_nodes_tangled :
    childElements "<A><A/><!--</A>--></A>]]><![CDATA[<A>]]><B></B>".toList =
      .ok [⟨"A".toList, "<A/><!--</A>-->".toList⟩, ⟨"B".toList, []⟩] := by
  have hr : renderNodes tangled = "<A><A/><!--</A>--></A>]]><![CDATA[<A>]]><B></B>".toList := by
    decide +kernel
  have he : tangled.filterMap Node.element? =
      [⟨"A".toList, "<A/><!--</A>-->".toList⟩, ⟨"B".toList, []⟩] := by
    decide +kernel
  rw [← hr, childElements_nodes, he]

end RegisterMap.Markup
