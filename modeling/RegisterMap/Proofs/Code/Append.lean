import Mathlib.Data.List.Nodup
import RegisterMap.Code.Render
import RegisterMap.Proofs.Layout.Blocks

/-!
# Code of devices put together

The registers of a device can be laid out in two parts. The parts have a layout
together when each has one and no type name is in both; the code is then that of
the parts, with an empty line between them (`Device.layout_append`).
-/

namespace RegisterMap

section Sound

variable {α κ : Type} {ok : α → Prop} {key : α → κ} {xs ys : List α}

theorem Sound.append_iff : Sound ok key (xs ++ ys) ↔
    Sound ok key xs ∧ Sound ok key ys ∧ (xs.map key).Disjoint (ys.map key) := by
  constructor
  · intro h
    have hd := h.distinct
    rw [List.map_append, List.nodup_append'] at hd
    exact ⟨h.append_left, ⟨fun y hy => h.each y (List.mem_append_right _ hy), hd.2.1⟩, hd.2.2⟩
  · rintro ⟨hx, hy, hd⟩
    refine ⟨fun z hz => ?_, ?_⟩
    · rcases List.mem_append.mp hz with hz | hz
      · exact hx.each z hz
      · exact hy.each z hz
    · rw [List.map_append, List.nodup_append']
      exact ⟨hx.distinct, hy.distinct, hd⟩

end Sound

/-! ## Derivations -/

namespace Register

variable {taken : List (Text × Text)} {rs : List Register} {e : LayoutFault}

/-- The blocks of registers that are derived are those that each has by itself. -/
theorem blocks_of_derive (h : (derive taken rs).fault = none) :
    rs.map block = (derive taken rs).blocks.map .ok := by
  induction rs generalizing taken with
  | nil => rfl
  | cons r rs ih =>
    rw [derive] at h ⊢
    cases hb : r.block with
    | error e => simp only [hb] at h; cases h
    | ok b =>
      simp only [hb] at h ⊢
      cases hl : taken.lookup b.typeName with
      | some first => simp only [hl] at h; cases h
      | none =>
        simp only [hl] at h ⊢
        rw [List.map_cons, List.map_cons, hb, ih h]

/-- What follows the register at fault is not derived. -/
theorem derive_append_of_fault (h : (derive taken rs).fault = some e) (qs : List Register) :
    derive taken (rs ++ qs) = derive taken rs := by
  induction rs generalizing taken with
  | nil => cases h
  | cons r rs ih =>
    rw [List.cons_append]
    rw [derive] at h
    rw [derive, derive]
    cases hb : r.block with
    | error e => rfl
    | ok b =>
      simp only [hb] at h ⊢
      cases hl : taken.lookup b.typeName with
      | some first => rfl
      | none =>
        simp only [hl] at h ⊢
        rw [ih h]

end Register

namespace Device

variable {d : Device} {l : Layout} {e : LayoutFault}

theorem derivation_of_layout (h : d.layout = .ok l) :
    d.derivation.fault = none ∧ l = ⟨Text.trim d.name, d.derivation.blocks⟩ := by
  unfold layout at h
  split at h
  · next hf =>
    cases h
    exact ⟨hf, rfl⟩
  · cases h

theorem fault_of_layout (h : d.layout = .error e) : d.derivation.fault = some e := by
  unfold layout at h
  split at h
  · cases h
  · next hf =>
    cases h
    exact hf

theorem blocks_of_layout (h : d.layout = .ok l) : d.registers.map Register.block =
    l.blocks.map .ok := by
  obtain ⟨hf, rfl⟩ := derivation_of_layout h
  exact Register.blocks_of_derive hf

end Device

/-! ## Code -/

def Layout.typeNames (l : Layout) : List Text := l.blocks.map (·.typeName)

theorem Layout.blockLines_append {bs cs : List Block} (hb : bs ≠ []) (hc : cs ≠ []) :
    blockLines (bs ++ cs) = blockLines bs ++ [.code []] ++ blockLines cs := by
  obtain ⟨c, cs, rfl⟩ := List.exists_cons_of_ne_nil hc
  induction bs with
  | nil => exact absurd rfl hb
  | cons b bs ih =>
    cases bs with
    | nil => rfl
    | cons b' bs =>
      rw [List.cons_append] at ih ⊢
      rw [List.cons_append, blockLines, blockLines, ih (by simp)]
      simp only [List.append_assoc]

theorem Layout.render_none (l : Layout) : l.render .none = Line.renderAll (blockLines l.blocks) :=
  rfl

theorem Layout.render_eq (h : Header) (l : Layout) : l.render h = h.render ++ l.render .none := rfl

namespace Device

theorem typeNames_of_layout {d : Device} {l : Layout} (h : d.layout = .ok l) :
    l.typeNames = d.registers.map Register.typeName :=
  map_eq_of_forall₂ (fun _ _ hb => hb.typeName) (of_layout h)

theorem render_append {name : Text} {rs qs : List Register} {l m n : Layout}
    (hl : layout ⟨name, rs⟩ = .ok l) (hm : layout ⟨name, qs⟩ = .ok m)
    (hn : layout ⟨name, rs ++ qs⟩ = .ok n) :
    n.render .none =
      if rs = [] then m.render .none
      else if qs = [] then l.render .none
      else l.render .none ++ ['\n'] ++ m.render .none := by
  have hrs : rs.map Register.block = l.blocks.map .ok := blocks_of_layout hl
  have hqs : qs.map Register.block = m.blocks.map .ok := blocks_of_layout hm
  have hblocks : n.blocks = l.blocks ++ m.blocks := by
    have hboth : (rs ++ qs).map Register.block = n.blocks.map .ok := blocks_of_layout hn
    rw [List.map_append, hrs, hqs, ← List.map_append] at hboth
    exact (List.map_injective_iff.mpr (fun _ _ => Except.ok.inj) hboth).symm
  split
  · next h =>
    subst h
    have hnil : l.blocks = [] := List.map_eq_nil_iff.mp hrs.symm
    rw [Layout.render_none, hblocks, hnil]
    rfl
  · next hr =>
    split
    · next h =>
      subst h
      have hnil : m.blocks = [] := List.map_eq_nil_iff.mp hqs.symm
      rw [Layout.render_none, hblocks, hnil, List.append_nil]
      rfl
    · next hq =>
      have hlne : l.blocks ≠ [] := by
        intro h
        rw [h, List.map_nil] at hrs
        exact hr (List.map_eq_nil_iff.mp hrs)
      have hmne : m.blocks ≠ [] := by
        intro h
        rw [h, List.map_nil] at hqs
        exact hq (List.map_eq_nil_iff.mp hqs)
      rw [Layout.render_none, hblocks, Layout.blockLines_append hlne hmne]
      simp only [Layout.render_none, Line.renderAll, List.flatMap_append]
      rfl

/-- Generation is compositional in the registers. Registers in two parts have a layout exactly when
each part has one and no type name is in both, and a fault of the first part is that of the whole.
The code of the whole is that of the parts with a line feed between them if there are two, after the
header. -/
theorem layout_append (name : Text) (rs qs : List Register) :
    ((∃ n, layout ⟨name, rs ++ qs⟩ = .ok n) ↔
      ∃ l m, layout ⟨name, rs⟩ = .ok l ∧ layout ⟨name, qs⟩ = .ok m ∧
        l.typeNames.Disjoint m.typeNames) ∧
    (∀ e, layout ⟨name, rs⟩ = .error e → layout ⟨name, rs ++ qs⟩ = .error e) ∧
    ∀ l m n, layout ⟨name, rs⟩ = .ok l → layout ⟨name, qs⟩ = .ok m →
      layout ⟨name, rs ++ qs⟩ = .ok n →
      (n.render .none =
        if rs = [] then m.render .none
        else if qs = [] then l.render .none
        else l.render .none ++ ['\n'] ++ m.render .none) ∧
      ∀ h : Header, n.render h = h.render ++ n.render .none := by
  refine ⟨?_, fun e he => ?_, fun l m n hl hm hn =>
    ⟨render_append hl hm hn, fun h => n.render_eq h⟩⟩
  · rw [(layout_spec ⟨name, rs ++ qs⟩).1, Valid, Sound.append_iff]
    constructor
    · rintro ⟨hr, hq, hd⟩
      obtain ⟨l, hl⟩ := (layout_spec ⟨name, rs⟩).1.mpr hr
      obtain ⟨m, hm⟩ := (layout_spec ⟨name, qs⟩).1.mpr hq
      refine ⟨l, m, hl, hm, ?_⟩
      rwa [typeNames_of_layout hl, typeNames_of_layout hm]
    · rintro ⟨l, m, hl, hm, hd⟩
      rw [typeNames_of_layout hl, typeNames_of_layout hm] at hd
      exact ⟨(layout_spec ⟨name, rs⟩).1.mp ⟨l, hl⟩, (layout_spec ⟨name, qs⟩).1.mp ⟨m, hm⟩, hd⟩
  · have hf : (Register.derive [] rs).fault = some e := fault_of_layout he
    have hd : derivation ⟨name, rs ++ qs⟩ = Register.derive [] rs :=
      Register.derive_append_of_fault hf qs
    rw [layout, hd, hf]

def plainRegister (name reset : Text) : Register := ⟨name, ['0'], none, reset, []⟩

def plainBlock (typeName reset : Text) : Block := ⟨typeName, ['0'], [], reset, []⟩

def pairLayout : Layout :=
  ⟨[], [plainBlock "A".toList "0x01".toList, plainBlock "B".toList "0x02".toList]⟩

theorem layout_append_pair :
    pairLayout.render .none =
      Layout.render .none ⟨[], [plainBlock "A".toList "0x01".toList]⟩ ++ ['\n'] ++
        Layout.render .none ⟨[], [plainBlock "B".toList "0x02".toList]⟩ ∧
    pairLayout.render ⟨["// a".toList, []]⟩ = "// a\n\n\n".toList ++ pairLayout.render .none ∧
    layout ⟨[], [plainRegister "A".toList "?".toList] ++ [plainRegister "B".toList "2".toList]⟩ =
      .error (.block "A".toList (.badReset "?".toList)) := by
  have ha : layout ⟨[], [plainRegister "A".toList "1".toList]⟩ =
      .ok ⟨[], [plainBlock "A".toList "0x01".toList]⟩ := by decide +kernel
  have hb : layout ⟨[], [plainRegister "B".toList "2".toList]⟩ =
      .ok ⟨[], [plainBlock "B".toList "0x02".toList]⟩ := by decide +kernel
  have hab : layout ⟨[], [plainRegister "A".toList "1".toList] ++
      [plainRegister "B".toList "2".toList]⟩ = .ok pairLayout := by
    decide +kernel
  have hbad : layout ⟨[], [plainRegister "A".toList "?".toList]⟩ =
      .error (.block "A".toList (.badReset "?".toList)) := by decide +kernel
  have hheader : Header.render ⟨["// a".toList, []]⟩ = "// a\n\n\n".toList := by decide +kernel
  obtain ⟨hcode, hheaders⟩ := (layout_append [] _ _).2.2 _ _ _ ha hb hab
  exact ⟨hcode, hheader ▸ hheaders _, (layout_append [] _ _).2.1 _ hbad⟩

end Device

end RegisterMap
