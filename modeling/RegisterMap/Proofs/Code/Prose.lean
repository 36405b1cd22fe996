import RegisterMap.Proofs.Code.Template
import RegisterMap.Proofs.Layout.Prose

/-!
# Prose in generated code

Descriptions and briefs are folded into lines of documentation. But a brief
follows its number, and a number is documented as it is written: a brief is
`exposed` when its number has a line feed inside and what follows the last one
does not begin like documentation. Devices that differ in their prose have the
same code exactly when they have the same exposed briefs (`Device.prose_apart`),
and no brief is exposed when no number has a line feed inside.
-/

namespace RegisterMap

/-! ## Tied lists -/

/-- Two lists of one length are equal exactly when two others of one length are. -/
structure Tied {α β : Type} (xs ys : List α) (us vs : List β) : Prop where
  length : xs.length = ys.length
  length_tied : us.length = vs.length
  eq_iff : xs = ys ↔ us = vs

namespace Tied

variable {α β γ κ : Type} {xs ys xs' ys' : List α} {us vs us' vs' : List β}

/-- What both lists have in common decides nothing. -/
theorem same (xs : List α) : Tied xs xs ([] : List β) [] := ⟨rfl, rfl, fun _ => rfl, fun _ => rfl⟩

theorem append (h : Tied xs ys us vs) (h' : Tied xs' ys' us' vs') :
    Tied (xs ++ xs') (ys ++ ys') (us ++ us') (vs ++ vs') := by
  refine ⟨?_, ?_, ?_⟩
  · rw [List.length_append, List.length_append, h.length, h'.length]
  · rw [List.length_append, List.length_append, h.length_tied, h'.length_tied]
  · constructor
    · intro he
      obtain ⟨hl, hr⟩ := List.append_inj he h.length
      rw [h.eq_iff.mp hl, h'.eq_iff.mp hr]
    · intro he
      obtain ⟨hl, hr⟩ := List.append_inj he h.length_tied
      rw [h.eq_iff.mpr hl, h'.eq_iff.mpr hr]

theorem append_left (zs : List α) (h : Tied xs ys us vs) : Tied (zs ++ xs) (zs ++ ys) us vs := by
  have hz : Tied zs zs ([] : List β) [] := same zs
  exact hz.append h

theorem append_right (zs : List α) (h : Tied xs ys us vs) : Tied (xs ++ zs) (ys ++ zs) us vs := by
  have hz : Tied zs zs ([] : List β) [] := same zs
  simpa using h.append hz

/-- Entries that agree on what `key` keeps of them are tied, so lists of them are. -/
theorem flatMap {key : γ → κ} {f : γ → List α} {g : γ → List β} {as bs : List γ}
    (h : ∀ a ∈ as, ∀ b ∈ bs, key a = key b → Tied (f a) (f b) (g a) (g b))
    (he : as.map key = bs.map key) :
    Tied (as.flatMap f) (bs.flatMap f) (as.flatMap g) (bs.flatMap g) := by
  induction as generalizing bs with
  | nil =>
    cases bs with
    | nil => exact same []
    | cons b bs => cases he
  | cons a as ih =>
    cases bs with
    | nil => cases he
    | cons b bs =>
      rw [List.map_cons, List.map_cons, List.cons.injEq] at he
      refine append (h a (List.mem_cons_self ..) b (List.mem_cons_self ..) he.1) (ih ?_ he.2)
      exact fun x hx y hy => h x (List.mem_cons_of_mem _ hx) y (List.mem_cons_of_mem _ hy)

end Tied

/-! ## Exposed briefs -/

/-- The brief, if it stands on a line of code. -/
def Value.exposed (v : Value) : List Text :=
  match (Text.overflow v.number).getLast? with
  | none => []
  | some s => if Line.isDocumentation s then [] else [v.brief]

def Accessor.exposed (a : Accessor) : List Text := a.values.flatMap Value.exposed

def Block.exposed (b : Block) : List Text := b.accessors.flatMap Accessor.exposed

def Layout.exposed (l : Layout) : List Text := l.blocks.flatMap Block.exposed

theorem Value.exposed_of_nil (v : Value) (h : Text.overflow v.number = []) : v.exposed = [] := by
  rw [exposed, h]
  rfl

theorem Value.exposed_of_last (v : Value) {init : List Text} {last : Text}
    (h : Text.overflow v.number = init ++ [last]) :
    v.exposed = if Line.isDocumentation last then [] else [v.brief] := by
  rw [exposed, h, List.getLast?_concat]

/-! ## Two values, accessors, blocks -/

theorem Line.flatMap_shown_of_doc {ls : List Line} (h : ∀ l ∈ ls, l.code? = none) :
    ls.flatMap shown = (ls.flatMap overflow).filter (!isDocumentation ·) := by
  rw [List.filter_flatMap]
  refine List.flatMap_congr fun l hl => ?_
  cases l with
  | code s => cases h _ hl
  | doc s => exact shown_doc s

theorem Value.shown_line (v : Value) :
    v.line.shown = v.line.overflow.filter (!Line.isDocumentation ·) := Line.shown_doc _

theorem Value.tied {v w : Value} (hv : '\n' ∉ v.brief) (hw : '\n' ∉ w.brief)
    (h : v.withoutProse = w.withoutProse) :
    Tied v.line.shown w.line.shown v.exposed w.exposed := by
  have hb : '\n' ∉ "b: ".toList := by decide
  have hcolon (s t : Text) : Line.isDocumentation (s ++ ("b: ".toList ++ t)) =
      Line.isDocumentation s :=
    Text.after?_append_cons_isSome (c := 'b') (by decide) s (": ".toList ++ t)
  have hn : w.number = v.number := (Value.mk.inj h).1.symm
  rw [v.shown_line, w.shown_line, v.overflow_line, w.overflow_line, hn, List.append_assoc,
    List.append_assoc]
  rcases Text.overflow_append_right v.number with ⟨hnil, hline⟩ | ⟨init, last, hlast, hline⟩
  · rw [v.exposed_of_nil hnil, w.exposed_of_nil (hn ▸ hnil), hline _ (List.not_mem_append hb hv),
      hline _ (List.not_mem_append hb hw)]
    exact Tied.same []
  · rw [v.exposed_of_last hlast, w.exposed_of_last (hn ▸ hlast),
      hline _ (List.not_mem_append hb hv), hline _ (List.not_mem_append hb hw),
      List.filter_append, List.filter_append]
    refine Tied.append_left _ ?_
    -- the number alone decides whether the line of the brief is code
    by_cases hd : Line.isDocumentation last = true
    · have hhidden (t : Text) :
          [last ++ ("b: ".toList ++ t)].filter (!Line.isDocumentation ·) = [] :=
        List.filter_cons_of_neg (by rw [hcolon, hd]; decide)
      rw [hhidden, hhidden, if_pos hd, if_pos hd]
      exact Tied.same []
    · have hcode (t : Text) : [last ++ ("b: ".toList ++ t)].filter (!Line.isDocumentation ·) =
          [last ++ ("b: ".toList ++ t)] :=
        List.filter_cons_of_pos (by rw [hcolon]; simpa using hd)
      rw [hcode, hcode, if_neg hd, if_neg hd]
      refine ⟨rfl, rfl, ?_⟩
      rw [List.singleton_inj, List.singleton_inj, List.append_right_inj, List.append_right_inj]

/-- Prose is folded into lines. -/
structure Accessor.Folded (a : Accessor) : Prop where
  description : ∀ s ∈ a.description, '\n' ∉ s
  briefs : ∀ v ∈ a.values, '\n' ∉ v.brief

structure Block.Folded (b : Block) : Prop where
  description : ∀ s ∈ b.description, '\n' ∉ s
  accessors : ∀ a ∈ b.accessors, a.Folded

theorem Accessor.Of.folded {f : Bitfield} {a : Accessor} (h : a.Of f) : a.Folded := by
  refine ⟨h.description ▸ fun _ => not_mem_describe, fun v hv => ?_⟩
  rw [h.values] at hv
  obtain ⟨w, -, rfl⟩ := List.mem_map.mp hv
  exact w.not_mem_documented_brief

theorem Block.Of.folded {r : Register} {b : Block} (h : b.Of r) : b.Folded := by
  refine ⟨h.description ▸ fun _ => not_mem_describe, fun a ha => ?_⟩
  obtain ⟨f, -, hf⟩ := exists_of_forall₂ h.accessors ha
  exact hf.folded

theorem Line.shown_map_doc {ls : List Text} (h : ∀ s ∈ ls, '\n' ∉ s) :
    (ls.map doc).flatMap shown = [] := by
  have hdoc : ∀ l ∈ ls.map doc, l.code? = none := by simp [code?]
  rw [flatMap_shown_of_doc hdoc, overflow_map_doc h]
  rfl

/-- The code of an accessor: what its values run over to, and its declaration. -/
theorem Accessor.Folded.shown_lines {a : Accessor} (h : a.Folded) :
    a.lines.flatMap Line.shown =
      a.valueLines.flatMap Line.shown ++ a.declaration.shown := by
  rw [lines, List.flatMap_append, List.flatMap_append, Line.shown_map_doc h.description,
    List.flatMap_singleton]
  rfl

theorem Accessor.shown_valueLines (a : Accessor) :
    a.valueLines.flatMap Line.shown = if a.values = [] then [] else
      a.values.flatMap (·.line.shown) ++
        (Text.overflow a.reset).filter (!Line.isDocumentation ·) := by
  have hdoc : ∀ l ∈ a.valueLines, l.code? = none :=
    List.filterMap_eq_nil_iff.mp a.filterMap_valueLines
  rw [Line.flatMap_shown_of_doc hdoc, a.overflow_valueLines]
  split
  · rfl
  · rw [List.filter_append, List.filter_flatMap]
    exact congrArg (· ++ _) (List.flatMap_congr fun v _ => v.shown_line.symm)

theorem Accessor.tied {a c : Accessor} (ha : a.Folded) (hc : c.Folded)
    (h : a.withoutProse = c.withoutProse) :
    Tied (a.lines.flatMap Line.shown) (c.lines.flatMap Line.shown) a.exposed c.exposed := by
  obtain ⟨hgetter, hsetter, hspan, -, hvalues, hreset⟩ := Accessor.mk.inj h
  have hdeclaration : a.declaration = c.declaration := by
    rw [declaration, declaration, hgetter, hsetter, hspan]
  rw [ha.shown_lines, hc.shown_lines, hdeclaration, a.shown_valueLines, c.shown_valueLines, hreset]
  refine Tied.append_right _ ?_
  by_cases hv : a.values = []
  · have hw : c.values = [] := by
      rw [hv] at hvalues
      exact List.map_eq_nil_iff.mp hvalues.symm
    rw [if_pos hv, if_pos hw, exposed, exposed, hv, hw]
    exact Tied.same []
  · have hw : c.values ≠ [] := by
      intro hw
      rw [hw] at hvalues
      exact hv (List.map_eq_nil_iff.mp hvalues)
    rw [if_neg hv, if_neg hw]
    refine Tied.append_right _ (Tied.flatMap (fun v hv w hw => ?_) hvalues)
    exact Value.tied (ha.briefs v hv) (hc.briefs w hw)

theorem Block.Folded.shown_lines {b : Block} (h : b.Folded) :
    b.lines.flatMap Line.shown =
      [.code "bitfield! \x7b".toList, .doc [], .doc "# Address".toList, .doc [],
        .doc ("The address of this register is ".toList ++ b.address),
        .code "    #[derive(Clone, Copy)]".toList,
        .code ("    pub struct ".toList ++ b.typeName ++ "(u8);".toList)].flatMap Line.shown ++
      b.accessors.flatMap (fun a => Line.shown (.code []) ++ a.lines.flatMap Line.shown) ++
      (Line.code "\x7d".toList :: .code [] :: b.defaultLines).flatMap Line.shown := by
  rw [lines, typeLines]
  simp only [List.flatMap_append, Line.shown_map_doc h.description, List.append_nil,
    List.flatMap_assoc, List.flatMap_cons, List.append_assoc, List.flatMap_nil, List.nil_append]

theorem Block.tied {b c : Block} (hb : b.Folded) (hc : c.Folded)
    (h : b.withoutProse = c.withoutProse) :
    Tied (b.lines.flatMap Line.shown) (c.lines.flatMap Line.shown) b.exposed c.exposed := by
  obtain ⟨htype, haddress, -, hreset, haccessors⟩ := Block.mk.inj h
  rw [hb.shown_lines, hc.shown_lines, htype, haddress, defaultLines, defaultLines, htype, hreset]
  refine Tied.append_right _ (Tied.append_left _ (Tied.flatMap (fun x hx y hy => ?_) haccessors))
  exact fun he => Tied.append_left _ (Accessor.tied (hb.accessors x hx) (hc.accessors y hy) he)

/-! ## Two layouts -/

theorem Layout.shown_blockLines (b : Block) (bs : List Block) :
    (blockLines (b :: bs)).flatMap Line.shown = b.lines.flatMap Line.shown ++
      bs.flatMap (fun c => Line.shown (.code []) ++ c.lines.flatMap Line.shown) := by
  induction bs generalizing b with
  | nil => rw [blockLines, List.flatMap_nil, List.append_nil]
  | cons c bs ih =>
    rw [blockLines, List.flatMap_append, List.flatMap_append, ih, List.flatMap_singleton,
      List.flatMap_cons, List.append_assoc, List.append_assoc]

theorem Layout.tied {l m : Layout} (hl : ∀ b ∈ l.blocks, b.Folded) (hm : ∀ c ∈ m.blocks, c.Folded)
    (h : l.withoutProse = m.withoutProse) :
    Tied ((blockLines l.blocks).flatMap Line.shown) ((blockLines m.blocks).flatMap Line.shown)
      l.exposed m.exposed := by
  obtain ⟨-, hblocks⟩ := Layout.mk.inj h
  rw [exposed, exposed]
  cases hbs : l.blocks with
  | nil =>
    rw [hbs] at hblocks
    rw [List.map_eq_nil_iff.mp hblocks.symm]
    exact Tied.same []
  | cons b bs =>
    cases hcs : m.blocks with
    | nil =>
      rw [hcs, List.map_nil, List.map_eq_nil_iff, hbs] at hblocks
      cases hblocks
    | cons c cs =>
      rw [hbs, List.forall_mem_cons] at hl
      rw [hcs, List.forall_mem_cons] at hm
      rw [hbs, hcs, List.map_cons, List.map_cons, List.cons.injEq] at hblocks
      rw [shown_blockLines, shown_blockLines, List.flatMap_cons, List.flatMap_cons]
      refine (Block.tied hl.1 hm.1 hblocks.1).append (Tied.flatMap (fun x hx y hy he => ?_) hblocks.2)
      exact (Block.tied (hl.2 x hx) (hm.2 y hy) he).append_left _

theorem Header.render_eq (h : Header) : ∃ ls, h.render = Line.renderAll ls := by
  unfold render
  split
  · exact ⟨[], rfl⟩
  · refine ⟨(h.lines ++ [[]]).map Line.code, ?_⟩
    rw [Line.renderAll, List.flatMap_map, List.flatMap_append]
    rfl

theorem Layout.codeLines_render (h : Header) : ∃ before : List Text, ∀ l : Layout,
    codeLines (l.render h) = before ++ (blockLines l.blocks).flatMap Line.shown := by
  obtain ⟨ls, hls⟩ := h.render_eq
  refine ⟨ls.flatMap Line.shown, fun l => ?_⟩
  rw [render, hls, ← List.flatMap_append, ← codeLines_eq_shown, Line.renderAll, Line.renderAll,
    Line.renderAll, List.flatMap_append]

theorem Device.folded {d : Device} {l : Layout} (hl : d.layout = .ok l) :
    ∀ b ∈ l.blocks, b.Folded := by
  intro b hb
  obtain ⟨r, -, hr⟩ := exists_of_forall₂ (of_layout hl) hb
  exact hr.folded

def Device.NumbersInline (d : Device) : Prop :=
  ∀ r ∈ d.registers, ∀ f ∈ r.bitfields, ∀ v ∈ f.values, '\n' ∉ Text.trim v.number

theorem Device.NumbersInline.exposed {d : Device} {l : Layout} (h : d.NumbersInline)
    (hl : d.layout = .ok l) : l.exposed = [] := by
  refine List.flatMap_eq_nil_iff.mpr fun b hb => List.flatMap_eq_nil_iff.mpr fun a ha =>
    List.flatMap_eq_nil_iff.mpr fun v hv => ?_
  obtain ⟨r, hr, hrb⟩ := exists_of_forall₂ (of_layout hl) hb
  obtain ⟨f, hf, hfa⟩ := exists_of_forall₂ hrb.accessors ha
  rw [hfa.values] at hv
  obtain ⟨w, hw, rfl⟩ := List.mem_map.mp hv
  exact Value.exposed_of_nil _ (Text.overflow_of_not_mem (h r hr f hf w hw))

/-- Devices that differ in their prose have the same fault, or code that is the same exactly when
the same briefs are exposed. Without line feeds in the numbers it is the same. -/
theorem Device.prose_apart {d e : Device} (h : Header) (hp : d.withoutProse = e.withoutProse) :
    (∃ f, d.layout = .error f ∧ e.layout = .error f) ∨
      ∃ l m, d.layout = .ok l ∧ e.layout = .ok m ∧
        (codeLines (l.render h) = codeLines (m.render h) ↔ l.exposed = m.exposed) ∧
        (d.NumbersInline → codeLines (l.render h) = codeLines (m.render h)) := by
  rcases Device.layout_of_withoutProse hp with hf | ⟨l, m, hl, hm, hlm⟩
  · exact .inl hf
  obtain ⟨before, hcode⟩ := Layout.codeLines_render h
  have htied := (Layout.tied (folded hl) (folded hm) hlm).append_left before
  rw [← hcode l, ← hcode m] at htied
  refine .inr ⟨l, m, hl, hm, htied.eq_iff, fun hn => ?_⟩
  -- as many briefs are exposed of the one as of the other
  have hmn : m.exposed = [] := by
    rw [← List.length_eq_zero_iff, ← htied.length_tied, hn.exposed hl, List.length_nil]
  exact htied.eq_iff.mpr ((hn.exposed hl).trans hmn.symm)

/-- A device with a value that has a line feed in its number. -/
def Device.leaky (description : Option Text) (brief : Text) : Device where
  name := []
  registers :=
    [{ name := ['R'], address := [], description, reset := ['0'],
       bitfields := [⟨['A'], 0, 0, [], [], description, [⟨['0', '\n', 'x'], brief⟩]⟩] }]

def Device.leakyLayout (description : List Text) (brief : Text) : Layout where
  name := []
  blocks :=
    [{ typeName := ['R'], address := [], description, reset := "0x00".toList,
       accessors := [⟨['a'], ['_'], ⟨0, 0⟩, description, [⟨['0', '\n', 'x'], brief⟩], []⟩] }]

theorem Device.leaky_withoutProse (description : Option Text) (brief : Text) :
    (leaky description brief).withoutProse = leaky none [] := rfl

/-- Its brief is on a line of code. -/
theorem Device.leaky_brief :
    (leaky none ['B']).withoutProse = (leaky none ['C']).withoutProse ∧
      (leaky none ['B']).layout = .ok (leakyLayout [] ['B']) ∧
      (leaky none ['C']).layout = .ok (leakyLayout [] ['C']) ∧
      codeLines ((leakyLayout [] ['B']).render .none) ≠
        codeLines ((leakyLayout [] ['C']).render .none) := by
  refine ⟨?_, by decide +kernel, by decide +kernel, by decide +kernel⟩
  rw [leaky_withoutProse, leaky_withoutProse]

theorem Device.prose_apart_leaky :
    (leaky none ['B']).withoutProse = (leaky (some ['D', '\n', 'E']) ['C']).withoutProse ∧
      ((∃ f, (leaky none ['B']).layout = .error f ∧
          (leaky (some ['D', '\n', 'E']) ['C']).layout = .error f) ∨
        ∃ l m, (leaky none ['B']).layout = .ok l ∧
          (leaky (some ['D', '\n', 'E']) ['C']).layout = .ok m ∧
          (codeLines (l.render .standard) = codeLines (m.render .standard) ↔
            l.exposed = m.exposed) ∧
          ((leaky none ['B']).NumbersInline →
            codeLines (l.render .standard) = codeLines (m.render .standard))) := by
  have h : (leaky none ['B']).withoutProse = (leaky (some ['D', '\n', 'E']) ['C']).withoutProse := by
    rw [leaky_withoutProse, leaky_withoutProse]
  exact ⟨h, prose_apart .standard h⟩

end RegisterMap
