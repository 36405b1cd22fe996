import RegisterMap.Proofs.Code.Decode

/-!
# Plain layouts are read back

Each part of the decoder reads what the renderer writes for a plain accessor or
block, whatever lines follow; documentation is no code, so it drops out before.
So code determines the signature of its layout.
-/

namespace RegisterMap

theorem BitSpan.not_mem_render {r : BitSpan} {c : Char} (hc : c.isDigit = false)
    (hs : c ∉ ", ".toList) : c ∉ r.render := by
  unfold render
  split
  · exact Markup.not_mem_decimal hc
  · exact List.not_mem_append (List.not_mem_append (Markup.not_mem_decimal hc) hs)
      (Markup.not_mem_decimal hc)

/-! ## The code of a block -/

/-- The lines of a block that are no documentation. -/
def Block.code (b : Block) : List Text :=
  "bitfield! \x7b".toList :: "    #[derive(Clone, Copy)]".toList ::
    ("    pub struct ".toList ++ b.typeName ++ "(u8);".toList) ::
    (b.accessors.flatMap (fun a => [[], a.declaration.body]) ++
      ['\x7d'] :: [] :: b.defaultLines.map Line.body)

theorem filterMap_doc (ls : List Text) : (ls.map Line.doc).filterMap Line.code? = [] := by
  rw [List.filterMap_map]
  exact List.filterMap_eq_nil_iff.mpr fun _ _ => rfl

theorem Accessor.filterMap_valueLines (a : Accessor) : a.valueLines.filterMap Line.code? = [] := by
  have hvalues : (a.values.map Value.line).filterMap Line.code? = [] := by
    rw [List.filterMap_map]
    exact List.filterMap_eq_nil_iff.mpr fun _ _ => rfl
  unfold valueLines
  split
  · rfl
  · simp only [List.filterMap_append, hvalues]
    split <;> rfl

/-- The only code of an accessor is its declaration. -/
theorem Accessor.filterMap_lines (a : Accessor) :
    a.lines.filterMap Line.code? = [a.declaration.body] := by
  rw [lines, List.filterMap_append, List.filterMap_append, filterMap_doc, a.filterMap_valueLines]
  rfl

theorem Block.filterMap_lines (b : Block) : b.lines.filterMap Line.code? = b.code := by
  have haccessors : (b.accessors.flatMap fun a => .code [] :: a.lines).filterMap Line.code? =
      b.accessors.flatMap fun a => [[], a.declaration.body] := by
    rw [List.filterMap_flatMap]
    refine List.flatMap_congr fun a _ => ?_
    rw [List.filterMap_cons, a.filterMap_lines]
    rfl
  simp only [lines, typeLines, List.filterMap_append, filterMap_doc, haccessors]
  simp only [code, List.append_assoc]
  rfl

/-! ## Lines that do not break -/

theorem Value.single_line {v : Value} (h : '\n' ∉ v.number ∧ '\n' ∉ v.brief) : v.line.Single :=
  List.not_mem_append (List.not_mem_append (List.not_mem_append (by decide) h.1) (by decide)) h.2

namespace Accessor.Plain

variable {a : Accessor}

theorem single_declaration (h : a.Plain) : a.declaration.Single := by
  refine ⟨?_, rfl⟩
  simp only [List.mem_append, not_or]
  exact ⟨⟨⟨⟨⟨⟨by decide, h.getter.not_mem rfl⟩, by decide⟩, h.setter.not_mem rfl⟩, by decide⟩,
    BitSpan.not_mem_render rfl (by decide)⟩, by decide⟩

theorem single_valueLines (h : a.Plain) : ∀ l ∈ a.valueLines, l.Single := by
  have hreset : (Line.doc ("The default value is ".toList ++ a.reset)).Single :=
    List.not_mem_append (by decide) h.reset
  have hdoc : (Line.doc []).Single := List.not_mem_nil
  have htitle : (Line.doc "# Values".toList).Single :=
    show '\n' ∉ "# Values".toList by decide
  unfold valueLines
  intro l hl
  split at hl
  · cases hl
  · simp only [List.mem_append, List.mem_cons, List.mem_map, List.not_mem_nil, or_false] at hl
    rcases hl with ((hl | rfl | rfl) | ⟨v, hv, rfl⟩) | rfl | rfl
    · split at hl
      · cases hl
      · rw [List.mem_singleton.mp hl]
        exact hdoc
    · exact htitle
    · exact hdoc
    · exact Value.single_line (h.values v hv)
    · exact hdoc
    · exact hreset

theorem single_lines (h : a.Plain) : ∀ l ∈ a.lines, l.Single := by
  intro l hl
  rw [lines, List.mem_append, List.mem_append, List.mem_singleton] at hl
  rcases hl with (hl | hl) | rfl
  · obtain ⟨s, hs, rfl⟩ := List.mem_map.mp hl
    exact h.description s hs
  · exact h.single_valueLines l hl
  · exact h.single_declaration

end Accessor.Plain

namespace Block.Plain

variable {b : Block}

theorem single_typeLines (h : b.Plain) : ∀ l ∈ b.typeLines, l.Single := by
  have hdoc : (Line.doc []).Single := List.not_mem_nil
  have htitle : (Line.doc "# Address".toList).Single :=
    show '\n' ∉ "# Address".toList by decide
  have haddress : (Line.doc ("The address of this register is ".toList ++ b.address)).Single :=
    List.not_mem_append (by decide) h.address
  have hstruct : (Line.code ("    pub struct ".toList ++ b.typeName ++ "(u8);".toList)).Single :=
    ⟨List.not_mem_append (List.not_mem_append (by decide) (h.typeName.not_mem rfl)) (by decide),
      rfl⟩
  intro l hl
  simp only [typeLines, List.mem_append, List.mem_cons, List.mem_map, List.mem_flatMap,
    List.not_mem_nil, or_false] at hl
  rcases hl with (((rfl | ⟨s, hs, rfl⟩) | hl) | ⟨a, ha, rfl | hl⟩) | rfl
  · exact ⟨by decide, rfl⟩
  · exact h.description s hs
  · rcases hl with rfl | rfl | rfl | rfl | rfl | rfl
    · exact hdoc
    · exact htitle
    · exact hdoc
    · exact haddress
    · exact ⟨by decide, rfl⟩
    · exact hstruct
  · exact ⟨by decide, rfl⟩
  · exact (h.accessors a ha).single_lines l hl
  · exact ⟨by decide, rfl⟩

theorem single_defaultLines (h : b.Plain) : ∀ l ∈ b.defaultLines, l.Single := by
  have himpl : (Line.code ("impl Default for ".toList ++ b.typeName ++ " \x7b".toList)).Single :=
    ⟨List.not_mem_append (List.not_mem_append (by decide) (h.typeName.not_mem rfl)) (by decide),
      rfl⟩
  have hself : (Line.code ("        Self(".toList ++ b.reset ++ ")".toList)).Single :=
    ⟨List.not_mem_append (List.not_mem_append (by decide) (h.reset.not_mem rfl)) (by decide), rfl⟩
  simp only [defaultLines, List.forall_mem_cons]
  exact ⟨himpl, ⟨by decide, rfl⟩, hself, ⟨by decide, rfl⟩, ⟨by decide, rfl⟩, by simp⟩

theorem single_lines (h : b.Plain) : ∀ l ∈ b.lines, l.Single := by
  intro l hl
  rw [lines, List.mem_append, List.mem_append, List.mem_singleton] at hl
  rcases hl with (hl | rfl) | hl
  · exact h.single_typeLines l hl
  · exact ⟨by decide, rfl⟩
  · exact h.single_defaultLines l hl

end Block.Plain

theorem Layout.single_blockLines {bs : List Block} (h : ∀ b ∈ bs, b.Plain) :
    ∀ l ∈ blockLines bs, l.Single := by
  intro l hl
  fun_induction blockLines bs with
  | case1 => cases hl
  | case2 b => exact (h b (List.mem_cons_self ..)).single_lines l hl
  | case3 b c bs ih =>
    rw [List.mem_append, List.mem_append, List.mem_singleton] at hl
    rcases hl with (hl | rfl) | hl
    · exact (h b (List.mem_cons_self ..)).single_lines l hl
    · exact ⟨by decide, rfl⟩
    · exact ih (fun d hd => h d (List.mem_cons_of_mem _ hd)) hl

namespace Decode

variable {a : Accessor} {b : Block} {as : List Accessor}

theorem between_append {c : Char} {beginning mark s t : Text} (h : c ∉ s) :
    between beginning (c :: mark) (beginning ++ (s ++ (c :: mark ++ t))) = some s := by
  rw [between, Text.after?_append]
  simp only [bind, Option.bind, Text.cut_append h, pure]

theorem span_render {r : BitSpan} (h : r.lsb ≤ r.msb) : span r.render = some r := by
  have hle : r.lsb.toNat ≤ r.msb.toNat := h
  unfold BitSpan.render
  split
  · next hw =>
    have hcut : Text.cut ", ".toList (Text.decimal r.msb.toNat) = none :=
      Text.cut_eq_none (Markup.not_mem_decimal rfl)
    have heq : r.lsb = r.msb := by
      unfold BitSpan.width at hw
      exact UInt8.toNat_inj.mp (by omega)
    rw [span, hcut]
    simp only [Record.byte?_decimal, Option.map_some]
    cases r
    cases heq
    rfl
  · have hcut : Text.cut ", ".toList
        (Text.decimal r.msb.toNat ++ (", ".toList ++ Text.decimal r.lsb.toNat)) =
        some (Text.decimal r.msb.toNat, Text.decimal r.lsb.toNat) :=
      Text.cut_append (Markup.not_mem_decimal rfl)
    rw [span, List.append_assoc, hcut]
    simp only [bind, Option.bind, Record.byte?_decimal, pure]

/-! ## Accessors -/

theorem accessor_declaration (h : a.Plain) : accessor a.declaration.body = some a.signature := by
  have hbody : a.declaration.body = "    pub ".toList ++ (a.getter ++ (", ".toList ++ (a.setter ++
      (": ".toList ++ (a.span.render ++ (";".toList ++ [])))))) := by
    simp only [Accessor.declaration, Line.body, List.append_assoc, List.append_nil]
  have hgetter (s : Text) : Text.cut ", ".toList (a.getter ++ (", ".toList ++ s)) =
      some (a.getter, s) := Text.cut_append (h.getter.not_mem rfl)
  have hsetter (s : Text) : Text.cut ": ".toList (a.setter ++ (": ".toList ++ s)) =
      some (a.setter, s) := Text.cut_append (h.setter.not_mem rfl)
  have hspan (s : Text) : Text.cut ";".toList (a.span.render ++ (";".toList ++ s)) =
      some (a.span.render, s) := Text.cut_append (BitSpan.not_mem_render rfl (by decide))
  rw [hbody, accessor]
  simp only [bind, Option.bind, Text.after?_append, hgetter, hsetter, hspan, span_render h.ordered,
    pure]
  rfl

theorem accessors_code (h : ∀ a ∈ as, a.Plain) (rest : List Text) :
    accessors (as.flatMap (fun a => [[], a.declaration.body]) ++ ['\x7d'] :: rest) =
      some (as.map Accessor.signature, rest) := by
  induction as with
  | nil => rfl
  | cons a as ih =>
    have ih := ih fun c hc => h c (List.mem_cons_of_mem _ hc)
    rw [List.flatMap_cons, List.append_assoc]
    simp only [List.cons_append, List.nil_append, accessors,
      accessor_declaration (h a (List.mem_cons_self ..)), ih, bind, Option.bind, pure,
      List.map_cons]

/-! ## Blocks -/

theorem block_code (h : b.Plain) (rest : List Text) :
    block (b.code ++ rest) = some (b.signature, rest) := by
  have htype : between "    pub struct ".toList "(u8);".toList
      ("    pub struct ".toList ++ (b.typeName ++ "(u8);".toList)) = some b.typeName :=
    between_append (t := []) (h.typeName.not_mem rfl)
  have hreset : between "        Self(".toList ")".toList
      ("        Self(".toList ++ (b.reset ++ ")".toList)) = some b.reset :=
    between_append (t := []) (h.reset.not_mem rfl)
  -- the accessors end at the brace, whatever the implementation after it
  have haccessors := accessors_code h.accessors ([] :: b.defaultLines.map Line.body ++ rest)
  simp only [List.cons_append] at haccessors
  simp only [Block.code, List.cons_append, List.append_assoc, block, htype, haccessors, bind,
    Option.bind]
  simp only [Block.defaultLines, List.map_cons, List.map_nil, List.cons_append, List.append_assoc,
    Line.body, hreset, List.nil_append, pure]
  rfl

theorem blocks_of_block {ls rest : List Text} {s : Block.Signature}
    (h : block ls = some (s, rest)) : blocks ls = (blocks rest.tail).map (s :: ·) := by
  cases ls with
  | nil => cases h
  | cons l ls =>
    rw [blocks]
    split
    · next hn => rw [h] at hn; cases hn
    · next hs =>
      rw [h] at hs
      cases hs
      rfl

/-- Each block is read before the line that parts it from the next. -/
theorem blocks_code {bs : List Block} (h : ∀ b ∈ bs, b.Plain) :
    blocks ((Layout.blockLines bs).filterMap Line.code?) = some (bs.map Block.signature) := by
  fun_induction Layout.blockLines bs with
  | case1 => rw [List.filterMap_nil, blocks, List.map_nil]
  | case2 b =>
    have hb := block_code (h b (List.mem_cons_self ..)) []
    rw [List.append_nil] at hb
    rw [b.filterMap_lines, blocks_of_block hb, List.tail_nil, blocks]
    rfl
  | case3 b c bs ih =>
    have hcode : (b.lines ++ [Line.code []] ++ Layout.blockLines (c :: bs)).filterMap Line.code? =
        b.code ++ [] :: (Layout.blockLines (c :: bs)).filterMap Line.code? := by
      rw [List.filterMap_append, List.filterMap_append, b.filterMap_lines, List.append_assoc]
      rfl
    rw [hcode, blocks_of_block (block_code (h b (List.mem_cons_self ..)) _), List.tail_cons,
      ih fun d hd => h d (List.mem_cons_of_mem _ hd), List.map_cons]
    rfl

end Decode

/-- The code of a plain layout has its signature. -/
theorem Layout.Plain.read_render {l : Layout} (hl : l.Plain) (h : Header) :
    Layout.read h (l.render h) = some l.signature := by
  rw [Layout.read, Layout.render, Text.after?_append]
  simp only [bind, Option.bind, codeLines_renderAll (Layout.single_blockLines hl)]
  exact Decode.blocks_code hl

/-- The code of plain devices determines their layouts, documentation apart: it is decoded to the
signature, so devices of the same code have the same. -/
theorem Device.render_determines {d e : Device} {l m : Layout} (h : Header) (hd : d.Plain)
    (he : e.Plain) (hl : d.layout = .ok l) (hm : e.layout = .ok m) :
    Layout.read h (l.render h) = some l.signature ∧
      (l.render h = m.render h → l.signature = m.signature) := by
  have hread := (hd.layout hl).read_render h
  refine ⟨hread, fun heq => ?_⟩
  rw [heq, (he.layout hm).read_render h] at hread
  exact (Option.some.inj hread).symm

/-- A device whose prose reads like code. -/
def Device.mimic (name register bitfield : Text) : Device where
  name
  registers :=
    [{ name := register, address := "\x7d".toList,
       description := some "\x7d\n    pub b, _: 1;".toList, reset := "3c".toList,
       bitfields :=
         [{ name := bitfield, start := 7, stop := 4, access := "R/W".toList, reset := [],
            description := some "\npub c, d: 7;\n\n///".toList,
            values := [⟨"1".toList, "\n    pub e, f: 0;".toList⟩] }] }]

def Device.mimicLayout (name : Text) : Layout where
  name
  blocks :=
    [{ typeName := "Ab".toList, address := "\x7d".toList,
       description := ["\x7d".toList, "    pub b, _: 1;".toList], reset := "0x3c".toList,
       accessors :=
         [{ getter := "a_".toList, setter := "set_a_".toList, span := ⟨7, 4⟩,
            description := ["pub c, d: 7;".toList, [], "///".toList],
            values := [⟨"1".toList, "pub e, f: 0;".toList⟩], reset := [] }] }]

theorem Device.render_determines_mimic :
    Layout.read .standard ((mimicLayout "X".toList).render .standard) =
        some (mimicLayout "X".toList).signature ∧
      (mimicLayout "X".toList).signature = (mimicLayout "Y".toList).signature := by
  have h := Device.render_determines (d := mimic "X".toList "AB".toList "A_".toList)
    (e := mimic "Y".toList "ab".toList "a_".toList) (l := mimicLayout "X".toList)
    (m := mimicLayout "Y".toList) .standard (by decide) (by decide) (by decide +kernel)
    (by decide +kernel)
  exact ⟨h.1, h.2 rfl⟩

end RegisterMap
