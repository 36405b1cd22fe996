import RegisterMap.Proofs.Device.Written

/-!
# Written devices are read back

The content of a root is what stands between its tags, its children are the name
of the device and its registers, and each register is read alone. So loading the
canonical document of a device gives the device (`load_written`).
-/

namespace RegisterMap

open Markup

variable {c : Content} {rs : List Register}

namespace Document

/-! ## The root -/

/-- Content stays within the element it stands in. -/
theorem ownTokens_tokens (c : Content) (depth : Nat) (ts : List Token) :
    ownTokens depth (c.tokens ++ ts) =
      (c.tokens ++ (ownTokens depth ts).1, (ownTokens depth ts).2) := by
  induction c generalizing depth ts with
  | nil => rfl
  | piece p rest ih => simp only [Content.tokens, List.cons_append, ownTokens, ih]
  | empty tag rest ih => simp only [Content.tokens, List.cons_append, ownTokens, ih]
  | element tag inner closing rest ihi ihr =>
    simp only [Content.tokens, List.cons_append, List.append_assoc, ownTokens, ihi, ihr]

/-- The content of an element ends at its closing tag, whatever follows that. -/
theorem contentOf_element {tag closing : Text} (hc : c.Sound)
    (hn : closingName closing = tagName tag) (ts : List Token) (stop : Option Fault) :
    contentOf tag (c.tokens ++ .closing closing :: ts) stop = .ok c.render := by
  have hnest : nest none [tagName tag] [.closing closing] = .ok (.nil, [(closing, .nil)]) := by
    rw [nest, if_pos hn]
    rfl
  have hown : ownTokens 0 (c.tokens ++ .closing closing :: ts) =
      (c.tokens ++ [.closing closing], true) := ownTokens_tokens c 0 _
  simp only [contentOf, hown, ↓reduceIte, Content.nest_tokens hc, hnest, Except.map,
    Content.append_nil]

theorem rootContent_wrap (hc : c.Sound) : rootContent (wrap rootName c.render) = .ok c.render := by
  have hn : IsName rootName := by decide
  have hclosing : closingName rootName = tagName rootName := by
    rw [Content.closingName_of_isName hn, tagName_of_isName hn]
  have hroot : (Content.siblings [(rootName, c)]).Sound :=
    Content.sound_siblings fun e he => by
      cases List.mem_singleton.mp he
      exact ⟨hn, hc⟩
  have hs := Content.stream_render hroot (t := []) fun e he => by cases he
  rw [Content.render_siblings, List.flatMap_singleton, List.append_nil, stream_nil,
    List.append_nil] at hs
  simp only [rootContent, hs, Content.siblings, Content.tokens, rootOf, tagName_of_isName hn,
    ↓reduceIte, contentOf_element hc hclosing, Except.mapError]

/-! ## The children -/

theorem register_children (r : Register) :
    register (Content.siblings r.children).render = .ok r := by
  rw [register, r.readAlone_children]

theorem takeChildren_registers (name : Option Text) (index : Nat) :
    takeChildren name index
        (rs.map fun r => ⟨"Register".toList, (Content.siblings r.children).render⟩) =
      .ok (name, rs) := by
  induction rs generalizing index with
  | nil => rfl
  | cons r rs ih =>
    have hne : "Register".toList ≠ "devicename".toList := by decide
    simp only [List.map_cons, takeChildren, hne, ↓reduceIte, register_children, ih, Except.map]

end Document

namespace Device

/-- The children of the root of a device's document. -/
def children (d : Device) : List (Text × Content) :=
  ("devicename".toList, Content.ofText d.name) ::
    d.registers.map fun r => ("Register".toList, Content.siblings r.children)

theorem children_sound (d : Device) : ∀ e ∈ d.children, IsName e.1 ∧ e.2.Sound := by
  have hname : IsName "devicename".toList := by decide
  have hregister : IsName "Register".toList := by decide
  rw [children, List.forall_mem_cons, List.forall_mem_map]
  exact ⟨⟨hname, Content.sound_ofText d.name⟩, fun r _ => ⟨hregister, r.sound_children⟩⟩

theorem written_eq (d : Device) :
    d.written = wrap Document.rootName (Content.siblings d.children).render := by
  rw [Content.render_siblings, children, List.flatMap_cons, List.flatMap_map,
    Content.render_ofText, List.flatMap_congr fun r _ => (Register.written_eq r).symm]
  rfl

/-- The name is unescaped, and has no blank ends to trim. -/
theorem takeChildren_children (d : Device)
    (hfirst : ∀ c, d.name.head? = some c → Text.isBlank c = false)
    (hlast : ∀ c, d.name.getLast? = some c → Text.isBlank c = false) :
    Document.takeChildren none 0 (d.children.map fun e => ⟨e.1, e.2.render⟩) =
      .ok (some d.name, d.registers) := by
  have htrim : Text.trim d.name = d.name := Text.trimBy_eq_self hfirst hlast
  simp only [children, List.map_cons, List.map_map, Content.render_ofText, Document.takeChildren,
    ↓reduceIte, resolve_escape, htrim]
  exact Document.takeChildren_registers (some d.name) 0

/-- Loading undoes writing. The name of a device is read trimmed, so it must have no blank
ends. -/
theorem load_written (d : Device)
    (hfirst : ∀ c, d.name.head? = some c → Text.isBlank c = false)
    (hlast : ∀ c, d.name.getLast? = some c → Text.isBlank c = false) :
    Device.load d.written = .ok d := by
  have hroot : Document.rootContent d.written = .ok (Content.siblings d.children).render := by
    rw [d.written_eq, Document.rootContent_wrap (Content.sound_siblings d.children_sound)]
  have hchildren : childElements (Content.siblings d.children).render =
      .ok (d.children.map fun e => ⟨e.1, e.2.render⟩) := by
    rw [Content.render_siblings, Content.childElements_siblings d.children_sound]
  simp only [Device.load, hroot, hchildren, d.takeChildren_children hfirst hlast, Except.mapError,
    bind, Except.bind, pure, Except.pure]

/-- A device with markup and blanks in its text, and a description that is there but empty. -/
def awkward : Device where
  name := "A & <B>".toList
  registers :=
    [{ name := " R\n".toList, address := [], description := some [], reset := "0x0".toList,
       bitfields :=
         [{ name := "F".toList, start := 7, stop := 0, access := "R/W".toList,
            reset := "&amp;".toList, description := none,
            values := [{ number := "\t".toList, brief := "]]>".toList }] }] },
     { name := [], address := "1".toList, description := none, reset := [], bitfields := [] }]

theorem load_written_awkward : Device.load awkward.written = .ok awkward :=
  load_written awkward (by rintro c ⟨⟩; rfl) (by rintro c ⟨⟩; rfl)

end Device

end RegisterMap
