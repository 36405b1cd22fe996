import RegisterMap.Layout.Derive

/-!
# Layouts without prose

Descriptions and briefs are prose. They are carried into the layout and decide
nothing there: a device without its prose has the layout without its prose, and
the same fault (`Device.layout_withoutProse`).
-/

namespace RegisterMap

/-! ## Prose taken out -/

def Value.withoutProse (v : Value) : Value := { v with brief := [] }

def Bitfield.withoutProse (f : Bitfield) : Bitfield :=
  { f with description := none, values := f.values.map Value.withoutProse }

def Register.withoutProse (r : Register) : Register :=
  { r with description := none, bitfields := r.bitfields.map Bitfield.withoutProse }

def Device.withoutProse (d : Device) : Device :=
  { d with registers := d.registers.map Register.withoutProse }

def Accessor.withoutProse (a : Accessor) : Accessor :=
  { a with description := [], values := a.values.map Value.withoutProse }

def Block.withoutProse (b : Block) : Block :=
  { b with description := [], accessors := b.accessors.map Accessor.withoutProse }

def Layout.withoutProse (l : Layout) : Layout :=
  { l with blocks := l.blocks.map Block.withoutProse }

/-! ## The layout of a device without prose -/

theorem Prose.docLines_nil : docLines [] = [] := by
  rw [docLines, unifyLineEnds, dropTables]
  rfl

theorem Value.documented_withoutProse (v : Value) :
    v.withoutProse.documented = v.documented.withoutProse := by
  rw [documented, withoutProse, Prose.docLines_nil]
  rfl

theorem Bitfield.accessor_withoutProse (f : Bitfield) :
    f.withoutProse.accessor = f.accessor.map Accessor.withoutProse := by
  have hvalues : (f.values.map Value.withoutProse).map Value.documented =
      (f.values.map Value.documented).map Value.withoutProse := by
    rw [List.map_map, List.map_map]
    exact List.map_congr_left fun v _ => v.documented_withoutProse
  unfold accessor withoutProse
  simp only [hvalues]
  split
  · rfl
  · cases BitSpan.ofBits? f.start f.stop with
    | none => rfl
    | some span => rfl

theorem Bitfield.accessors_withoutProse (taken : List Text) (fs : List Bitfield) :
    accessors taken (fs.map withoutProse) =
      (accessors taken fs).map (List.map Accessor.withoutProse) := by
  induction fs generalizing taken with
  | nil => rfl
  | cons f fs ih =>
    rw [List.map_cons, accessors, accessors, f.accessor_withoutProse]
    cases f.accessor with
    | error e => rfl
    | ok a =>
      have hg : a.withoutProse.getter = a.getter := rfl
      simp only [Except.map, hg, ih]
      by_cases ht : taken.contains a.getter
      · rw [if_pos ht, if_pos ht]
        rfl
      · rw [if_neg ht, if_neg ht]
        cases accessors (a.getter :: taken) fs with
        | error e => rfl
        | ok as => rfl

theorem Register.block_withoutProse (r : Register) :
    r.withoutProse.block = r.block.map Block.withoutProse := by
  unfold block withoutProse
  simp only [Bitfield.accessors_withoutProse]
  split
  · rfl
  · cases Reset.parse? r.reset with
    | none => rfl
    | some v =>
      cases Bitfield.accessors [] r.bitfields with
      | error e => rfl
      | ok as => rfl

theorem Register.derive_withoutProse (taken : List (Text × Text)) (rs : List Register) :
    derive taken (rs.map withoutProse) =
      ⟨(derive taken rs).blocks.map Block.withoutProse, (derive taken rs).fault⟩ := by
  induction rs generalizing taken with
  | nil => rfl
  | cons r rs ih =>
    rw [List.map_cons, derive, derive, r.block_withoutProse]
    cases r.block with
    | error e => rfl
    | ok b =>
      have ht : b.withoutProse.typeName = b.typeName := rfl
      simp only [Except.map, ht, ih]
      cases taken.lookup b.typeName with
      | none => rfl
      | some first => rfl

theorem Device.layout_withoutProse (d : Device) :
    d.withoutProse.layout = d.layout.map Layout.withoutProse := by
  unfold layout derivation withoutProse
  simp only [Register.derive_withoutProse]
  cases (Register.derive [] d.registers).fault with
  | none => rfl
  | some e => rfl

/-- Devices that differ in their prose have the same fault, or layouts that differ in their prose. -/
theorem Device.layout_of_withoutProse {d e : Device} (h : d.withoutProse = e.withoutProse) :
    (∃ f, d.layout = .error f ∧ e.layout = .error f) ∨
      ∃ l m, d.layout = .ok l ∧ e.layout = .ok m ∧ l.withoutProse = m.withoutProse := by
  have hlayout : d.layout.map Layout.withoutProse = e.layout.map Layout.withoutProse := by
    rw [← d.layout_withoutProse, ← e.layout_withoutProse, h]
  cases hl : d.layout with
  | error f =>
    cases hm : e.layout with
    | error g =>
      rw [hl, hm] at hlayout
      cases hlayout
      exact .inl ⟨f, rfl, rfl⟩
    | ok m =>
      rw [hl, hm] at hlayout
      cases hlayout
  | ok l =>
    cases hm : e.layout with
    | error g =>
      rw [hl, hm] at hlayout
      cases hlayout
    | ok m =>
      rw [hl, hm] at hlayout
      exact .inr ⟨l, m, rfl, rfl, Except.ok.inj hlayout⟩

end RegisterMap
