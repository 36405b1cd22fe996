import RegisterMap.Generate
import RegisterMap.Proofs.Device.Written
import RegisterMap.Proofs.Layout.Blocks

/-!
# Names that a block declares

A block declares the getters of its accessors and the setters of those that can
be written. No two getters are the same, and no two setters are; but a getter
may be the setter of another accessor, when one bitfield is named as `set_` and
the name of another that can be written. Such a `Clash` is the only way for a
block to declare a name twice (`generate_declares`).
-/

namespace RegisterMap

/-- The setters of a block that are no placeholder. -/
def Block.setters (b : Block) : List Text :=
  (b.accessors.map (·.setter)).filter (· ≠ Names.noSetter)

def Block.getters (b : Block) : List Text := b.accessors.map (·.getter)

def Block.declared (b : Block) : List Text := b.getters ++ b.setters

def Bitfield.setter (f : Bitfield) : Text := "set_".toList ++ f.getter

theorem Bitfield.isWritable_iff {f : Bitfield} :
    f.isWritable = true ↔ f.access = "R/W".toList := by
  rw [isWritable, decide_eq_true_iff, Access.ofText]
  split
  · next h => exact ⟨fun _ => h, fun _ => rfl⟩
  · next h => exact ⟨fun he => (nomatch he), fun hw => absurd hw h⟩

/-- A bitfield's getter is the setter of another. -/
def Register.Clash (r : Register) : Prop :=
  ∃ f ∈ r.bitfields, ∃ g ∈ r.bitfields, g.isWritable ∧ f.getter = g.setter

theorem getters_of {fs : List Bitfield} {as : List Accessor} (h : List.Forall₂ Accessor.Of fs as) :
    as.map (·.getter) = fs.map Bitfield.getter :=
  map_eq_of_forall₂ (fun _ _ ha => ha.getter) h

theorem setters_of {fs : List Bitfield} {as : List Accessor} (h : List.Forall₂ Accessor.Of fs as) :
    (as.map (·.setter)).filter (· ≠ Names.noSetter) =
      (fs.filter (·.isWritable)).map Bitfield.setter := by
  induction h with
  | nil => rfl
  | @cons f a fs as ha _ ih =>
    rw [List.map_cons]
    by_cases hw : f.access = "R/W".toList
    · have hs := ha.writable.mpr hw
      have hne : a.setter ≠ Names.noSetter := mt ha.readOnly.mp (not_not.mpr hw)
      have hf : f.isWritable = true := Bitfield.isWritable_iff.mpr hw
      rw [List.filter_cons_of_pos (by simpa using hne), List.filter_cons_of_pos hf, List.map_cons,
        ih, hs, ha.getter, Bitfield.setter]
    · have hs : a.setter = Names.noSetter := ha.readOnly.mpr hw
      have hf : ¬ f.isWritable = true := mt Bitfield.isWritable_iff.mp hw
      rw [List.filter_cons_of_neg (by simp [hs]), List.filter_cons_of_neg hf, ih]

theorem Bitfield.setter_inj {f g : Bitfield} (h : f.setter = g.setter) : f.getter = g.getter :=
  List.append_cancel_left h

namespace Block.Of

variable {r : Register} {b : Block}

theorem getters_nodup (h : b.Of r) (hv : r.Valid) : b.getters.Nodup := by
  rw [Block.getters, getters_of h.accessors]
  exact hv.bitfields.distinct

theorem setters_nodup (h : b.Of r) (hv : r.Valid) : b.setters.Nodup := by
  rw [Block.setters, setters_of h.accessors]
  have hd : ((r.bitfields.filter (·.isWritable)).map Bitfield.getter).Nodup :=
    hv.bitfields.distinct.sublist (List.filter_sublist.map _)
  rw [List.Nodup, List.pairwise_map] at hd ⊢
  exact hd.imp fun hne he => hne (Bitfield.setter_inj he)

/-- A valid register's block declares no name twice, clashes apart. -/
theorem declared_nodup_iff (h : b.Of r) (hv : r.Valid) : b.declared.Nodup ↔ ¬ r.Clash := by
  rw [Block.declared, List.nodup_append]
  simp only [h.getters_nodup hv, h.setters_nodup hv, true_and]
  rw [Block.getters, Block.setters, getters_of h.accessors, setters_of h.accessors]
  constructor
  · rintro hd ⟨f, hf, g, hg, hw, he⟩
    exact hd _ (List.mem_map_of_mem hf) _
      (List.mem_map_of_mem (List.mem_filter.mpr ⟨hg, hw⟩)) he
  · intro hc x hx y hy he
    obtain ⟨f, hf, rfl⟩ := List.mem_map.mp hx
    obtain ⟨g, hg, rfl⟩ := List.mem_map.mp hy
    obtain ⟨hg, hw⟩ := List.mem_filter.mp hg
    exact hc ⟨f, hf, g, hg, hw, he⟩

end Block.Of

theorem generate_ok {h : Header} {document code : Text} (hg : generate h document = .ok code) :
    ∃ d l, Device.load document = .ok d ∧ d.layout = .ok l ∧ code = l.render h := by
  unfold generate at hg
  cases hd : Device.load document with
  | error e => rw [hd] at hg; cases hg
  | ok d =>
    cases hl : d.layout with
    | error e => simp [hd, hl, bind, Except.bind, Except.mapError] at hg
    | ok l =>
      refine ⟨d, l, rfl, hl, ?_⟩
      simpa [hd, hl, bind, Except.bind, Except.mapError, pure, Except.pure] using hg.symm

/-- In every block of generated code the getters differ and the setters differ, and no name is
declared twice unless the register's bitfields clash. -/
theorem generate_declares {h : Header} {document code : Text}
    (hg : generate h document = .ok code) :
    ∃ d l, Device.load document = .ok d ∧ d.layout = .ok l ∧ code = l.render h ∧
      List.Forall₂ (fun r b => b.getters.Nodup ∧ b.setters.Nodup ∧ (b.declared.Nodup ↔ ¬ r.Clash))
        d.registers l.blocks := by
  obtain ⟨d, l, hd, hl, hcode⟩ := generate_ok hg
  refine ⟨d, l, hd, hl, hcode, ?_⟩
  rcases d.layout_cases with ⟨hv, m, hm, -, hof⟩ | ⟨e, he, -⟩
  · rw [hl] at hm
    cases hm
    refine List.forall₂_iff_get.mpr ⟨hof.length_eq, fun i hi hj => ?_⟩
    have hb := hof.get hi hj
    have hr := hv.each _ (List.get_mem d.registers ⟨i, hi⟩)
    exact ⟨hb.getters_nodup hr, hb.setters_nodup hr, hb.declared_nodup_iff hr⟩
  · rw [hl] at he
    cases he

/-- A device with a writable bitfield `A` and a bitfield `SET_A`. -/
def clashingDevice : Device where
  name := "D".toList
  registers :=
    [{ name := "R".toList, address := "0".toList, description := none, reset := "0".toList,
       bitfields :=
         [⟨"A".toList, 7, 4, "R/W".toList, "0".toList, none, []⟩,
          ⟨"SET_A".toList, 3, 0, "R".toList, "0".toList, none, []⟩] }]

def clashing : Text := clashingDevice.written

/-- Its block declares `set_a` as the setter of `A` and as the getter of `SET_A`. -/
def clashingBlock : Block where
  typeName := "R".toList
  address := "0".toList
  description := []
  reset := "0x00".toList
  accessors :=
    [⟨"a".toList, "set_a".toList, ⟨7, 4⟩, [], [], "0".toList⟩,
     ⟨"set_a".toList, "_".toList, ⟨3, 0⟩, [], [], "0".toList⟩]

def clashingLayout : Layout := ⟨"D".toList, [clashingBlock]⟩

theorem code_of_clashing :
    generate .none clashing = .ok (clashingLayout.render .none) := by
  decide +kernel

theorem generate_clashing :
    generate .none clashing = .ok (clashingLayout.render .none) ∧
      Device.load clashing = .ok clashingDevice ∧ clashingDevice.layout = .ok clashingLayout ∧
      clashingBlock ∈ clashingLayout.blocks ∧ ¬ clashingBlock.declared.Nodup := by
  exact ⟨code_of_clashing, by decide +kernel, by decide +kernel, by decide, by decide⟩

theorem generate_declares_clashing :
    ∃ d l, Device.load clashing = .ok d ∧ d.layout = .ok l ∧
      clashingLayout.render .none = l.render .none ∧
      List.Forall₂ (fun r b => b.getters.Nodup ∧ b.setters.Nodup ∧ (b.declared.Nodup ↔ ¬ r.Clash))
        d.registers l.blocks :=
  generate_declares code_of_clashing

end RegisterMap
