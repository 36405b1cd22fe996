import RegisterMap.Proofs.Layout.Accessors

/-!
# Layouts of valid devices

A device has a layout exactly when it is `Valid`: every register is, and their
type names differ. The layout then has the block of every register, in order;
otherwise the fault is that of the first register that is not valid or repeats
a type name before it (`Device.layout_spec`).
-/

namespace RegisterMap

theorem Reset.parse?_literal (b : UInt8) : Reset.parse? (Reset.literal b) = some b := by
  have h : ∀ n < 256, Reset.parse? (Reset.literal (.ofNat n)) = some (.ofNat n) := by
    decide +kernel
  simpa using h b.toNat b.toNat_lt

/-! ## One register -/

namespace Register

def typeName (r : Register) : Text := Names.typeName (Text.trim r.name)

/-- A register with a type name, a reset value, and bitfields that are sound together. -/
structure Valid (r : Register) : Prop where
  named : r.typeName ≠ []
  reset : ∃ v, Reset.parse? r.reset = some v
  bitfields : Sound Bitfield.Valid Bitfield.getter r.bitfields

inductive Fails (r : Register) : BlockFault → Prop
  | unnamed : r.typeName = [] → Fails r (.noIdentifier r.name)
  | badReset : r.typeName ≠ [] → Reset.parse? r.reset = none → Fails r (.badReset r.reset)
  | bitfield {v : UInt8} {e : BlockFault} : r.typeName ≠ [] → Reset.parse? r.reset = some v →
      Bitfield.FirstFault r.bitfields e → Fails r e

theorem Fails.not_valid {r : Register} {e : BlockFault} (h : r.Fails e) : ¬ r.Valid := by
  intro hv
  cases h with
  | unnamed hn => exact hv.named hn
  | badReset _ hr =>
    obtain ⟨v, hp⟩ := hv.reset
    rw [hr] at hp
    cases hp
  | bitfield _ _ hf => exact hf.not_sound hv.bitfields

end Register

structure Block.Of (r : Register) (b : Block) : Prop where
  typeName : b.typeName = r.typeName
  address : b.address = Text.trim r.address
  description : b.description = describe r.description
  /-- The literal writes the value that the register's text writes. -/
  reset : ∃ v, Reset.parse? r.reset = some v ∧ b.reset = Reset.literal v ∧
    Reset.parse? b.reset = some v
  accessors : List.Forall₂ Accessor.Of r.bitfields b.accessors

theorem Register.block_cases (r : Register) :
    (r.Valid ∧ ∃ b, r.block = .ok b ∧ b.Of r) ∨ ∃ e, r.block = .error e ∧ r.Fails e := by
  unfold Register.block
  by_cases hn : r.typeName = []
  · exact .inr ⟨_, if_pos hn, .unnamed hn⟩
  rw [if_neg (show Names.typeName (Text.trim r.name) ≠ [] from hn)]
  cases hp : Reset.parse? r.reset with
  | none => exact .inr ⟨_, rfl, .badReset hn hp⟩
  | some v =>
    rcases Bitfield.accessors_cases r.bitfields with ⟨hs, as, has, hof⟩ | ⟨e, he, hf⟩
    · refine .inl ⟨⟨hn, ⟨v, hp⟩, hs⟩, _, by rw [has]; rfl, ?_⟩
      exact {
        typeName := rfl
        address := rfl
        description := rfl
        reset := ⟨v, hp, rfl, Reset.parse?_literal v⟩
        accessors := hof }
    · exact .inr ⟨e, by rw [he]; rfl, .bitfield hn hp hf⟩

/-! ## The registers of a device -/

namespace Register

inductive FailsAfter (before : List Register) (r : Register) : LayoutFault → Prop
  | alone {e : BlockFault} : r.Fails e → FailsAfter before r (.block r.name e)
  | repeated {first : Register} : r.Valid → first ∈ before → first.typeName = r.typeName →
      FailsAfter before r (.sameType first.name r.name r.typeName)

theorem FailsAfter.bad {before : List Register} {r : Register} {e : LayoutFault}
    (h : r.FailsAfter before e) : ¬ r.Valid ∨ r.typeName ∈ before.map typeName := by
  cases h with
  | alone hf => exact .inl hf.not_valid
  | repeated _ hm hk => exact .inr (hk ▸ List.mem_map_of_mem hm)

/-- The fault of the first register that spoils a list. -/
def FirstFault (rs : List Register) (e : LayoutFault) : Prop :=
  ∃ before r after, rs = before ++ r :: after ∧ Sound Valid typeName before ∧ r.FailsAfter before e

theorem FirstFault.not_sound {rs : List Register} {e : LayoutFault} (h : FirstFault rs e) :
    ¬ Sound Valid typeName rs := by
  obtain ⟨before, r, after, rfl, -, hr⟩ := h
  exact Sound.not_of_bad hr.bad

/-- The type names of registers, the latest first, each with the register's name. -/
def taken (rs : List Register) : List (Text × Text) :=
  (rs.map fun r => (r.typeName, r.name)).reverse

theorem taken_concat (rs : List Register) (r : Register) :
    taken (rs ++ [r]) = (r.typeName, r.name) :: taken rs := by
  simp [taken]

theorem lookup_taken_none {rs : List Register} {t : Text}
    (h : (taken rs).lookup t = none) : t ∉ rs.map typeName := by
  rw [List.mem_map]
  rintro ⟨r, hr, rfl⟩
  have hm : (r.typeName, r.name) ∈ taken rs :=
    List.mem_reverse.mpr (List.mem_map_of_mem (f := fun r : Register => (r.typeName, r.name)) hr)
  simpa using List.lookup_eq_none_iff.mp h _ hm

theorem lookup_taken_some {rs : List Register} {t first : Text}
    (h : (taken rs).lookup t = some first) : ∃ r ∈ rs, r.typeName = t ∧ r.name = first := by
  obtain ⟨l, l', hl, -⟩ := List.lookup_eq_some_iff.mp h
  have hm : (t, first) ∈ taken rs := by rw [hl]; simp
  simpa [taken] using hm

theorem derive_after {before : List Register} (rs : List Register)
    (hb : Sound Valid typeName before) :
    (Sound Valid typeName (before ++ rs) ∧ (derive (taken before) rs).fault = none ∧
      List.Forall₂ Block.Of rs (derive (taken before) rs).blocks) ∨
    ∃ mid r after e, rs = mid ++ r :: after ∧ Sound Valid typeName (before ++ mid) ∧
      (derive (taken before) rs).fault = some e ∧ r.FailsAfter (before ++ mid) e := by
  -- the state of the derivation is always `taken` of the registers before
  induction rs generalizing before with
  | nil => exact .inl ⟨by simpa using hb, rfl, .nil⟩
  | cons r rs ih =>
    rcases r.block_cases with ⟨hv, b, hblock, hof⟩ | ⟨e, he, hf⟩
    · cases hl : (taken before).lookup b.typeName with
      | some first =>
        rw [hof.typeName] at hl
        obtain ⟨q, hq, ht, rfl⟩ := lookup_taken_some hl
        refine .inr ⟨[], r, rs, _, rfl, by simpa using hb, ?_, .repeated hv (by simpa using hq) ht⟩
        simp only [derive, hblock, hof.typeName, hl]
      | none =>
        have hk := lookup_taken_none (hof.typeName ▸ hl)
        have hstep : derive (taken before) (r :: rs) =
            ⟨b :: (derive (taken (before ++ [r])) rs).blocks,
              (derive (taken (before ++ [r])) rs).fault⟩ := by
          rw [taken_concat, ← hof.typeName]
          simp only [derive, hblock, hl]
        rw [hstep]
        rcases ih (Sound.concat_iff.mpr ⟨hb, hv, hk⟩) with
          ⟨hs, hnone, hfor⟩ | ⟨mid, q, after, e, rfl, hm, he, hq⟩
        · exact .inl ⟨by simpa using hs, hnone, .cons hof hfor⟩
        · exact .inr ⟨r :: mid, q, after, e, rfl, by simpa using hm, he, by simpa using hq⟩
    · refine .inr ⟨[], r, rs, _, rfl, by simpa using hb, ?_, .alone hf⟩
      simp only [derive, he]

end Register

namespace Device

/-- A device of valid registers whose type names differ. -/
def Valid (d : Device) : Prop := Sound Register.Valid Register.typeName d.registers

theorem layout_cases (d : Device) :
    (d.Valid ∧ ∃ l, d.layout = .ok l ∧ l.name = Text.trim d.name ∧
      List.Forall₂ Block.Of d.registers l.blocks) ∨
    ∃ e, d.layout = .error e ∧ Register.FirstFault d.registers e := by
  unfold layout derivation
  rcases Register.derive_after d.registers Sound.nil with
    ⟨hs, hnone, hfor⟩ | ⟨mid, r, after, e, hrs, hm, he, hr⟩
  · refine .inl ⟨hs, ⟨Text.trim d.name, _⟩, ?_, rfl, hfor⟩
    simp only [Register.taken, List.map_nil, List.reverse_nil] at hnone ⊢
    rw [hnone]
  · refine .inr ⟨e, ?_, mid, r, after, hrs, hm, hr⟩
    simp only [Register.taken, List.map_nil, List.reverse_nil] at he
    rw [he]

theorem of_layout {d : Device} {l : Layout} (hl : d.layout = .ok l) :
    List.Forall₂ Block.Of d.registers l.blocks := by
  rcases d.layout_cases with ⟨-, m, hm, -, hof⟩ | ⟨e, he, -⟩
  · rw [hl] at hm
    cases hm
    exact hof
  · rw [hl] at he
    cases he

/-- A device has a layout exactly when it is valid. The layout has the block of every register and
the accessor of every bitfield; without one, the first register that is not valid or repeats a type
name is the fault. -/
theorem layout_spec (d : Device) :
    ((∃ l, d.layout = .ok l) ↔ d.Valid) ∧
    (∀ l, d.layout = .ok l →
      l.name = Text.trim d.name ∧ List.Forall₂ Block.Of d.registers l.blocks) ∧
    (∀ e, d.layout = .error e → Register.FirstFault d.registers e) := by
  rcases d.layout_cases with ⟨hv, l, hl, hspec⟩ | ⟨e, he, hf⟩
  · refine ⟨⟨fun _ => hv, fun _ => ⟨l, hl⟩⟩, fun m hm => ?_, fun e he => ?_⟩
    · rw [hl] at hm
      cases hm
      exact hspec
    · rw [hl] at he
      cases he
  · refine ⟨⟨fun ⟨m, hm⟩ => ?_, fun hv => absurd hv hf.not_sound⟩, fun m hm => ?_, fun e' he' => ?_⟩
    · rw [he] at hm
      cases hm
    · rw [he] at hm
      cases hm
    · rw [he] at he'
      cases he'
      exact hf

/-- Two registers whose names have the same words. -/
def twins : Device where
  name := []
  registers :=
    [⟨"AB_CD".toList, [], none, "0x06".toList, []⟩, ⟨"AB__CD".toList, [], none, "6".toList, []⟩]

/-- A register with one bitfield that is written and one that is only read. -/
def halves : Device where
  name := " D ".toList
  registers :=
    [⟨"AB_CD".toList, "0".toList, none, "6".toList,
      [⟨"HIGH".toList, 7, 4, "R/W".toList, "0".toList, none, []⟩,
       ⟨"LOW".toList, 3, 0, "R".toList, "0".toList, none, []⟩]⟩]

def halvesLayout : Layout where
  name := "D".toList
  blocks :=
    [⟨"AbCd".toList, "0".toList, [], "0x06".toList,
      [⟨"high".toList, "set_high".toList, ⟨7, 4⟩, [], [], "0".toList⟩,
       ⟨"low".toList, "_".toList, ⟨3, 0⟩, [], [], "0".toList⟩]⟩]

theorem layout_spec_twins :
    Register.FirstFault twins.registers
      (.sameType "AB_CD".toList "AB__CD".toList "AbCd".toList) ∧
    halves.layout = .ok halvesLayout ∧ halves.Valid ∧
    List.Forall₂ Block.Of halves.registers halvesLayout.blocks := by
  have hlayout : halves.layout = .ok halvesLayout := by decide +kernel
  obtain ⟨hvalid, hblocks, -⟩ := halves.layout_spec
  exact ⟨twins.layout_spec.2.2 _ (by decide +kernel), hlayout, hvalid.mp ⟨_, hlayout⟩,
    (hblocks _ hlayout).2⟩

end Device

end RegisterMap
