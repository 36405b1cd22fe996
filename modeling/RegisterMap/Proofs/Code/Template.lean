import RegisterMap.Proofs.Code.Read
import RegisterMap.Proofs.Layout.Declared

/-!
# The template of generated code

Of a register with plain names the code is its `template`: fixed text around
names, spans and the literal of the reset value. Addresses, numbers and
bitfield resets are documented as they are written, so one with a line feed
inside is `spilled`: what follows the line feed stands on lines of its own.
Every line that is generated is documentation, of the template or spilled
(`generate_lines`), and without such line feeds the template is all there is
besides the documentation.
-/

namespace RegisterMap

namespace Bitfield

def template (f : Bitfield) : Text :=
  "    pub ".toList ++ f.getter ++ ", ".toList ++
    (if f.isWritable then f.setter else Names.noSetter) ++ ": ".toList ++
    (BitSpan.mk f.start f.stop).render ++ ";".toList

/-- What runs over from the documentation of the values. The reset is documented with them. -/
def spilled (f : Bitfield) : List Text :=
  if f.values = [] then []
  else
    f.values.flatMap (fun v =>
      Text.overflow (v.documented.number ++ "b: ".toList ++ v.documented.brief)) ++
      Text.overflow (Text.trim f.reset)

def Inline (f : Bitfield) : Prop :=
  f.values ≠ [] →
    '\n' ∉ Text.trim f.reset ∧ ∀ v ∈ f.values, '\n' ∉ Text.trim v.number

theorem spilled_eq_nil {f : Bitfield} : f.spilled = [] ↔ f.Inline := by
  have hvalue (v : Value) : Text.overflow
      (v.documented.number ++ "b: ".toList ++ v.documented.brief) = [] ↔
      '\n' ∉ Text.trim v.number := by
    have hb : '\n' ∉ "b: ".toList := by decide
    rw [Text.overflow_eq_nil, List.mem_append, List.mem_append, or_assoc, not_or, not_or]
    exact ⟨fun h => h.1, fun h => ⟨h, hb, v.not_mem_documented_brief⟩⟩
  unfold spilled Inline
  split
  · next h => exact ⟨fun _ hne => absurd h hne, fun _ => rfl⟩
  · next h =>
    rw [List.append_eq_nil_iff, List.flatMap_eq_nil_iff, Text.overflow_eq_nil]
    simp only [hvalue]
    exact ⟨fun ⟨hv, hr⟩ _ => ⟨hr, hv⟩, fun hi => ⟨(hi h).2, (hi h).1⟩⟩

end Bitfield

namespace Register

def template (r : Register) : List Text :=
  "bitfield! \x7b".toList :: "    #[derive(Clone, Copy)]".toList ::
    ("    pub struct ".toList ++ r.typeName ++ "(u8);".toList) ::
    (r.bitfields.flatMap (fun f => [[], f.template]) ++
      ["\x7d".toList, [],
       "impl Default for ".toList ++ r.typeName ++ " \x7b".toList,
       "    fn default() -> Self \x7b".toList,
       "        Self(".toList ++ ((Reset.parse? r.reset).map Reset.literal).getD [] ++ ")".toList,
       "    \x7d".toList,
       "\x7d".toList])

def spilled (r : Register) : List Text :=
  Text.overflow (Text.trim r.address) ++ r.bitfields.flatMap Bitfield.spilled

def Inline (r : Register) : Prop :=
  '\n' ∉ Text.trim r.address ∧ ∀ f ∈ r.bitfields, f.Inline

theorem spilled_eq_nil {r : Register} : r.spilled = [] ↔ r.Inline := by
  rw [spilled, List.append_eq_nil_iff, Text.overflow_eq_nil, List.flatMap_eq_nil_iff]
  simp only [Bitfield.spilled_eq_nil]
  rfl

/-- The names have only ASCII letters, digits and `_`. -/
def Named (r : Register) : Prop :=
  Text.Plain (Text.trim r.name) ∧ ∀ f ∈ r.bitfields, Text.Plain (Text.trim f.name)

instance (r : Register) : Decidable r.Named :=
  inferInstanceAs (Decidable (_ ∧ ∀ f ∈ r.bitfields, Text.Plain (Text.trim f.name)))

end Register

namespace Device

/-- The code of the registers, with an empty line between two. -/
def template (d : Device) : List Text := [[]].intercalate (d.registers.map Register.template)

def spilled (d : Device) : List Text := d.registers.flatMap Register.spilled

def Inline (d : Device) : Prop := ∀ r ∈ d.registers, r.Inline

def Named (d : Device) : Prop := ∀ r ∈ d.registers, r.Named

instance (d : Device) : Decidable d.Named :=
  inferInstanceAs (Decidable (∀ r ∈ d.registers, r.Named))

theorem spilled_eq_nil {d : Device} : d.spilled = [] ↔ d.Inline := by
  rw [spilled, List.flatMap_eq_nil_iff]
  simp only [Register.spilled_eq_nil]
  rfl

end Device

/-! ## The code of a layout is the template -/

theorem Accessor.Of.setter_eq {f : Bitfield} {a : Accessor} (h : a.Of f) :
    a.setter = if f.isWritable then f.setter else Names.noSetter := by
  split
  · next hw => rw [h.writable.mpr (Bitfield.isWritable_iff.mp hw), h.getter, Bitfield.setter]
  · next hw => exact h.readOnly.mpr (mt Bitfield.isWritable_iff.mpr hw)

theorem Accessor.Of.template {f : Bitfield} {a : Accessor} (h : a.Of f) :
    a.declaration.body = f.template := by
  have hbody : a.declaration.body = "    pub ".toList ++ a.getter ++ ", ".toList ++ a.setter ++
      ": ".toList ++ a.span.render ++ ";".toList := rfl
  rw [hbody, h.setter_eq, h.getter, h.span]
  rfl

theorem Block.Of.template {r : Register} {b : Block} (h : b.Of r) : b.code = r.template := by
  obtain ⟨v, hv, hreset, -⟩ := h.reset
  have haccessors : b.accessors.flatMap (fun a => [[], a.declaration.body]) =
      r.bitfields.flatMap fun f => [[], f.template] :=
    flatMap_eq_of_forall₂ (fun f a ha => by rw [Accessor.Of.template ha]) h.accessors
  rw [Block.code, Register.template, haccessors, h.typeName,
    Block.defaultLines, hreset, h.typeName, hv]
  rfl

theorem Layout.filterMap_blockLines (bs : List Block) :
    (blockLines bs).filterMap Line.code? = [[]].intercalate (bs.map Block.code) := by
  fun_induction blockLines bs with
  | case1 => rfl
  | case2 b => rw [b.filterMap_lines, List.map_singleton, List.intercalate_singleton]
  | case3 b c bs ih =>
    rw [List.filterMap_append, List.filterMap_append, b.filterMap_lines, ih, List.map_cons,
      List.map_cons, List.map_cons, List.intercalate_cons_cons]
    rfl

/-! ## What runs over -/

theorem Line.overflow_map_doc {ls : List Text} (h : ∀ s ∈ ls, '\n' ∉ s) :
    (ls.map Line.doc).flatMap Line.overflow = [] := by
  rw [List.flatMap_map, List.flatMap_eq_nil_iff]
  exact fun s hs => Text.overflow_of_not_mem (h s hs)

theorem Value.overflow_line (v : Value) :
    v.line.overflow = Text.overflow (v.number ++ "b: ".toList ++ v.brief) := by
  have hdash : '\n' ∉ "- ".toList := by decide
  rw [Value.line, Line.overflow, List.append_assoc, List.append_assoc,
    Text.overflow_append_left _ hdash, List.append_assoc]

theorem Accessor.overflow_valueLines (a : Accessor) :
    a.valueLines.flatMap Line.overflow = if a.values = [] then [] else
      a.values.flatMap (·.line.overflow) ++ Text.overflow a.reset := by
  have hseparator : (if a.description = [] then [] else [Line.doc []]).flatMap Line.overflow = [] := by
    split
    · rfl
    · rfl
  have htitle : [Line.doc "# Values".toList, .doc []].flatMap Line.overflow = [] := by decide
  have hreset : [Line.doc [], .doc ("The default value is ".toList ++ a.reset)].flatMap
      Line.overflow = Text.overflow a.reset := by
    have hd : '\n' ∉ "The default value is ".toList := by decide
    rw [← Text.overflow_append_left a.reset hd, List.flatMap_cons, List.flatMap_singleton]
    rfl
  unfold valueLines
  split
  · rfl
  · rw [List.flatMap_append, List.flatMap_append, List.flatMap_append, hseparator, htitle,
      List.flatMap_map, hreset]
    rfl

theorem Accessor.Of.spilled {f : Bitfield} {a : Accessor} (h : a.Of f) :
    a.lines.flatMap Line.overflow = f.spilled := by
  have hdescription : (a.description.map Line.doc).flatMap Line.overflow = [] :=
    Line.overflow_map_doc fun _ hl => not_mem_describe (h.description ▸ hl)
  have hdeclaration : [a.declaration].flatMap Line.overflow = [] := rfl
  rw [Accessor.lines, List.flatMap_append, List.flatMap_append, hdescription, hdeclaration,
    Accessor.overflow_valueLines, h.values, h.reset, List.append_nil, List.nil_append,
    List.flatMap_map]
  simp only [List.map_eq_nil_iff, Value.overflow_line]
  rfl

theorem Block.Of.spilled {r : Register} {b : Block} (h : b.Of r) :
    b.lines.flatMap Line.overflow = r.spilled := by
  have hdescription : (b.description.map Line.doc).flatMap Line.overflow = [] :=
    Line.overflow_map_doc fun _ hl => not_mem_describe (h.description ▸ hl)
  have haddress : Line.overflow (.doc ("The address of this register is ".toList ++ b.address)) =
      Text.overflow (Text.trim r.address) := by
    have hd : '\n' ∉ "The address of this register is ".toList := by decide
    rw [Line.overflow, Text.overflow_append_left _ hd, h.address]
  have htitle : Line.overflow (.doc "# Address".toList) = [] := by decide
  have hempty : Line.overflow (.doc []) = [] := rfl
  have haccessors : (b.accessors.flatMap fun a => .code [] :: a.lines).flatMap Line.overflow =
      r.bitfields.flatMap Bitfield.spilled := by
    rw [List.flatMap_assoc]
    exact flatMap_eq_of_forall₂ (fun f a ha => Accessor.Of.spilled ha) h.accessors
  simp only [Block.lines, Block.typeLines, Block.defaultLines, List.flatMap_append,
    List.flatMap_cons, List.flatMap_nil, hdescription, haddress, htitle, hempty,
    haccessors, Line.overflow_code, List.append_nil, List.nil_append]
  rfl

theorem Layout.overflow_blockLines (bs : List Block) :
    (blockLines bs).flatMap Line.overflow = bs.flatMap fun b => b.lines.flatMap Line.overflow := by
  fun_induction blockLines bs with
  | case1 => rfl
  | case2 b => rw [List.flatMap_singleton]
  | case3 b c bs ih =>
    have hbetween : [Line.code []].flatMap Line.overflow = [] := rfl
    rw [List.flatMap_append, List.flatMap_append, ih, hbetween, List.append_nil]
    rfl

/-! ## Plain names -/

namespace Bitfield

theorem plain_getter {f : Bitfield} (h : Text.Plain (Text.trim f.name)) : Text.Plain f.getter :=
  Names.plain_getter h

theorem template_single {f : Bitfield} (h : Text.Plain (Text.trim f.name)) :
    (Line.code f.template).Single := by
  have hg : '\n' ∉ f.getter := (plain_getter h).not_mem rfl
  have hs : '\n' ∉ if f.isWritable then f.setter else Names.noSetter := by
    split
    · exact List.not_mem_append (by decide) hg
    · decide
  refine ⟨?_, rfl⟩
  unfold template
  simp only [List.mem_append, not_or]
  exact ⟨⟨⟨⟨⟨⟨by decide, hg⟩, by decide⟩, hs⟩, by decide⟩, BitSpan.not_mem_render rfl (by decide)⟩,
    by decide⟩

end Bitfield

/-- The template of plain names has one line for each of its texts. -/
theorem Register.Named.template_single {r : Register} (h : r.Named) :
    ∀ s ∈ r.template, (Line.code s).Single := by
  have htype : '\n' ∉ r.typeName := (Names.plain_typeName h.1).not_mem rfl
  have hstruct : (Line.code ("    pub struct ".toList ++ r.typeName ++ "(u8);".toList)).Single :=
    ⟨List.not_mem_append (List.not_mem_append (by decide) htype) (by decide), rfl⟩
  have himpl : (Line.code ("impl Default for ".toList ++ r.typeName ++ " \x7b".toList)).Single :=
    ⟨List.not_mem_append (List.not_mem_append (by decide) htype) (by decide), rfl⟩
  have hvalue : '\n' ∉ ((Reset.parse? r.reset).map Reset.literal).getD [] := by
    cases Reset.parse? r.reset with
    | none => exact List.not_mem_nil
    | some v => exact (Reset.plain_literal v).not_mem rfl
  have hself : (Line.code ("        Self(".toList ++
      ((Reset.parse? r.reset).map Reset.literal).getD [] ++ ")".toList)).Single :=
    ⟨List.not_mem_append (List.not_mem_append (by decide) hvalue) (by decide), rfl⟩
  have hbitfields : ∀ s ∈ r.bitfields.flatMap (fun f => [[], f.template]),
      (Line.code s).Single := by
    intro s hs
    obtain ⟨f, hf, hs⟩ := List.mem_flatMap.mp hs
    rcases List.mem_pair.mp hs with rfl | rfl
    · exact ⟨by decide, rfl⟩
    · exact Bitfield.template_single (h.2 f hf)
  simp only [template, List.forall_mem_cons, List.forall_mem_append]
  exact ⟨⟨by decide, rfl⟩, ⟨by decide, rfl⟩, hstruct, hbitfields, ⟨by decide, rfl⟩,
    ⟨by decide, rfl⟩, himpl, ⟨by decide, rfl⟩, hself, ⟨by decide, rfl⟩, ⟨by decide, rfl⟩, by simp⟩

theorem mem_of_mem_intercalate {α : Type} {sep : List α} {xs : List (List α)} {a : α}
    (h : a ∈ sep.intercalate xs) : a ∈ sep ∨ ∃ x ∈ xs, a ∈ x := by
  induction xs with
  | nil => cases h
  | cons x xs ih =>
    cases xs with
    | nil =>
      rw [List.intercalate_singleton] at h
      exact .inr ⟨x, List.mem_cons_self .., h⟩
    | cons y xs =>
      rw [List.intercalate_cons_cons, List.mem_append, List.mem_append] at h
      rcases h with (h | h) | h
      · exact .inr ⟨x, List.mem_cons_self .., h⟩
      · exact .inl h
      · exact (ih h).imp_right fun ⟨z, hz, ha⟩ => ⟨z, List.mem_cons_of_mem _ hz, ha⟩

theorem Device.Named.template_single {d : Device} (h : d.Named) :
    ∀ s ∈ d.template, (Line.code s).Single := by
  intro s hs
  rcases mem_of_mem_intercalate hs with hs | ⟨x, hx, hs⟩
  · rw [List.mem_singleton.mp hs]
    exact ⟨by decide, rfl⟩
  · obtain ⟨r, hr, rfl⟩ := List.mem_map.mp hx
    exact (h r hr).template_single s hs

/-! ## Generated code -/

/-- The code of a layout is the template of its device, and what runs over its spilled texts. -/
theorem Device.layout_lines {d : Device} {l : Layout} (hl : d.layout = .ok l) :
    (Layout.blockLines l.blocks).filterMap Line.code? = d.template ∧
      (Layout.blockLines l.blocks).flatMap Line.overflow = d.spilled := by
  have hof := Device.of_layout hl
  rw [Layout.filterMap_blockLines, Layout.overflow_blockLines, Device.template, Device.spilled]
  exact ⟨congrArg _ (map_eq_of_forall₂ (fun _ _ hb => hb.template) hof),
    flatMap_eq_of_forall₂ (fun _ _ hb => hb.spilled) hof⟩

/-- Every line of the code of a document with plain names is documentation, a line of the template
or spilled, and all of these are there. Nothing is spilled exactly when no address and no documented
number or reset has a line feed inside; the template is then what is left without documentation. -/
theorem generate_lines {document code : Text} (hg : generate .none document = .ok code) :
    ∃ d, Device.load document = .ok d ∧ (d.spilled = [] ↔ d.Inline) ∧ (d.Named →
      (∀ s ∈ Text.lines code, Line.isDocumentation s = true ∨ s ∈ d.template ∨ s ∈ d.spilled) ∧
      (∀ s, s ∈ d.template ∨ s ∈ d.spilled → s ∈ Text.lines code) ∧
      (d.Inline → codeLines code = d.template)) := by
  obtain ⟨d, l, hd, hl, rfl⟩ := generate_ok hg
  obtain ⟨htemplate, hspilled⟩ := Device.layout_lines hl
  refine ⟨d, hd, Device.spilled_eq_nil, fun hn => ?_⟩
  have hcode : ∀ s ∈ (Layout.blockLines l.blocks).filterMap Line.code?, (Line.code s).Single :=
    htemplate ▸ hn.template_single
  rw [← htemplate, ← hspilled]
  refine ⟨fun s hs => ?_, fun s hs => ?_, fun hi => ?_⟩
  · exact Line.mem_of_mem_lines (fun s hs => (hcode s hs).1) hs
  · exact Line.mem_lines_of_mem (fun s hs => (hcode s hs).1) hs
  · have hnone : (Layout.blockLines l.blocks).flatMap Line.overflow = [] :=
      hspilled.trans (Device.spilled_eq_nil.mpr hi)
    exact codeLines_renderAll (Line.single_of_overflow hcode hnone)

def spillingDevice : Device where
  name := "D".toList
  registers :=
    [{ name := "R".toList, address := "0\nx".toList, description := none, reset := "0".toList,
       bitfields :=
         [⟨"A".toList, 7, 4, "R".toList, "0\ny".toList, none, [⟨"0\nz".toList, "B".toList⟩]⟩] }]

def spilling : Text := spillingDevice.written

def spillingLayout : Layout where
  name := "D".toList
  blocks :=
    [{ typeName := "R".toList, address := "0\nx".toList, description := [], reset := "0x00".toList,
       accessors :=
         [⟨"a".toList, "_".toList, ⟨7, 4⟩, [], [⟨"0\nz".toList, "B".toList⟩], "0\ny".toList⟩] }]

theorem code_of_spilling : generate .none spilling = .ok (spillingLayout.render .none) := by
  decide +kernel

theorem generate_spilling :
    generate .none spilling = .ok (spillingLayout.render .none) ∧
      Device.load spilling = .ok spillingDevice ∧ spillingDevice.Named ∧
      ∀ s ∈ ["x".toList, "zb: B".toList, "y".toList],
        s ∈ Text.lines (spillingLayout.render .none) ∧ Line.isDocumentation s = false ∧
          s ∉ spillingDevice.template := by
  exact ⟨code_of_spilling, by decide +kernel, by decide +kernel, by decide +kernel⟩

theorem generate_lines_spilling :
    ∃ d, Device.load spilling = .ok d ∧ (d.spilled = [] ↔ d.Inline) ∧ (d.Named →
      (∀ s ∈ Text.lines (spillingLayout.render .none),
        Line.isDocumentation s = true ∨ s ∈ d.template ∨ s ∈ d.spilled) ∧
      (∀ s, s ∈ d.template ∨ s ∈ d.spilled → s ∈ Text.lines (spillingLayout.render .none)) ∧
      (d.Inline → codeLines (spillingLayout.render .none) = d.template)) :=
  generate_lines code_of_spilling

end RegisterMap
