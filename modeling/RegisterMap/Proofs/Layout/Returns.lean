import RegisterMap.Proofs.Layout.Accessors
import RegisterMap.Proofs.Layout.Prose
import RegisterMap.Proofs.Text.Returns

/-!
# Layouts of returned prose

When the prose of a device is `Returned`, its layout is the same, unless some
prose had a carriage return before a line feed (`Device.layout_returned`).
-/

namespace RegisterMap

structure Value.Returned (v w : Value) : Prop where
  number : w.number = v.number
  brief : Text.Returned v.brief w.brief

structure Bitfield.Returned (f g : Bitfield) : Prop where
  name : g.name = f.name
  start : g.start = f.start
  stop : g.stop = f.stop
  access : g.access = f.access
  reset : g.reset = f.reset
  description : Option.Rel Text.Returned f.description g.description
  values : List.Forall₂ Value.Returned f.values g.values

/-- The second register is the first with returned prose. -/
structure Register.Returned (r s : Register) : Prop where
  name : s.name = r.name
  address : s.address = r.address
  reset : s.reset = r.reset
  description : Option.Rel Text.Returned r.description s.description
  bitfields : List.Forall₂ Bitfield.Returned r.bitfields s.bitfields

/-- The texts of a bitfield that are documentation. -/
def Bitfield.prose (f : Bitfield) : List Text := f.description.toList ++ f.values.map (·.brief)

def Register.prose (r : Register) : List Text :=
  r.description.toList ++ r.bitfields.flatMap Bitfield.prose

def Device.prose (d : Device) : List Text := d.registers.flatMap Register.prose

/-- None of the texts has a carriage return before a line feed. -/
def Prose.Unreturned (texts : List Text) : Prop := ∀ s ∈ texts, ¬ lineEnd <:+: s

theorem Prose.Unreturned.append {ss ts : List Text} (h : Unreturned (ss ++ ts)) :
    Unreturned ss ∧ Unreturned ts := List.forall_mem_append.mp h

/-! ## Layouts -/

variable {v w : Value} {f g : Bitfield} {r s : Register} {d e : Device}

theorem Value.Returned.withoutProse (h : v.Returned w) : w.withoutProse = v.withoutProse := by
  rw [Value.withoutProse, Value.withoutProse, h.number]

theorem Bitfield.Returned.withoutProse (h : f.Returned g) : g.withoutProse = f.withoutProse := by
  rw [Bitfield.withoutProse, Bitfield.withoutProse, h.name, h.start, h.stop, h.access, h.reset,
    map_eq_of_forall₂ (fun _ _ hv => hv.withoutProse) h.values]

theorem Register.Returned.withoutProse (h : r.Returned s) : s.withoutProse = r.withoutProse := by
  rw [Register.withoutProse, Register.withoutProse, h.name, h.address, h.reset,
    map_eq_of_forall₂ (fun _ _ hf => hf.withoutProse) h.bitfields]

theorem describe_returned {x y : Option Text} (h : Option.Rel Text.Returned x y)
    (hx : Prose.Unreturned x.toList) : describe y = describe x := by
  cases h with
  | none => rfl
  | some h => exact Prose.docLines_returned h (hx _ (List.mem_singleton_self _))

theorem Value.Returned.documented (h : v.Returned w) (hv : ¬ Prose.lineEnd <:+: v.brief) :
    w.documented = v.documented := by
  rw [Value.documented, Value.documented, h.number, Prose.docLines_returned h.brief hv]

theorem Bitfield.Returned.accessor (h : f.Returned g) (hf : Prose.Unreturned f.prose) :
    g.accessor = f.accessor := by
  obtain ⟨hdescription, hbriefs⟩ := Prose.Unreturned.append hf
  have hvalues : g.values.map Value.documented = f.values.map Value.documented :=
    map_eq_of_forall₂ (fun v w hv => hv.2.documented hv.1)
      ((List.forall₂_and_left _ _).mpr ⟨List.forall_mem_map.mp hbriefs, h.values⟩)
  unfold Bitfield.accessor
  rw [h.name, h.start, h.stop, h.access, h.reset, hvalues,
    describe_returned h.description hdescription]

theorem Bitfield.accessors_congr {fs gs : List Bitfield}
    (h : List.Forall₂ (fun f g => g.name = f.name ∧ g.accessor = f.accessor) fs gs)
    (taken : List Text) : accessors taken gs = accessors taken fs := by
  induction h generalizing taken with
  | nil => rfl
  | cons hfg _ ih =>
    rw [accessors, accessors, hfg.1, hfg.2]
    split
    · rfl
    · rw [ih]

theorem Register.Returned.block (h : r.Returned s) (hr : Prose.Unreturned r.prose) :
    s.block = r.block := by
  obtain ⟨hdescription, hbitfields⟩ := Prose.Unreturned.append hr
  have haccessors : Bitfield.accessors [] s.bitfields = Bitfield.accessors [] r.bitfields := by
    refine Bitfield.accessors_congr ?_ []
    refine ((List.forall₂_and_left _ _).mpr ⟨fun f hf t ht => ?_, h.bitfields⟩).imp
      fun f g hfg => ⟨hfg.2.name, hfg.2.accessor hfg.1⟩
    exact hbitfields t (List.mem_flatMap.mpr ⟨f, hf, ht⟩)
  unfold Register.block
  rw [h.name, h.address, h.reset, haccessors, describe_returned h.description hdescription]

theorem Register.derive_congr {rs ss : List Register}
    (h : List.Forall₂ (fun r s => s.name = r.name ∧ s.block = r.block) rs ss)
    (taken : List (Text × Text)) : derive taken ss = derive taken rs := by
  induction h generalizing taken with
  | nil => rfl
  | cons hrs _ ih =>
    rw [derive, derive, hrs.1, hrs.2]
    split
    · rfl
    · split
      · rfl
      · rw [ih]

/-- What has a layout has one with returned prose, of the same blocks unless some prose had a
carriage return before a line feed. -/
theorem Device.layout_returned {l : Layout}
    (h : List.Forall₂ Register.Returned d.registers e.registers) (hl : d.layout = .ok l) :
    ∃ m, e.layout = .ok m ∧ (Prose.Unreturned d.prose → m.blocks = l.blocks) := by
  have hfault : e.derivation.fault = d.derivation.fault := by
    have hwithout := map_eq_of_forall₂ (fun _ _ hr => hr.withoutProse) h
    have hderive := congrArg (fun rs => (Register.derive [] rs).fault) hwithout
    simp only [Register.derive_withoutProse] at hderive
    exact hderive
  have hblocks (hd : Prose.Unreturned d.prose) : e.derivation = d.derivation := by
    refine Register.derive_congr ?_ []
    refine ((List.forall₂_and_left _ _).mpr ⟨fun r hr t ht => ?_, h⟩).imp
      fun r s hrs => ⟨hrs.2.name, hrs.2.block hrs.1⟩
    exact hd t (List.mem_flatMap.mpr ⟨r, hr, ht⟩)
  unfold Device.layout at hl ⊢
  rw [hfault]
  split at hl
  · cases hl
    exact ⟨_, rfl, fun hd => by rw [hblocks hd]⟩
  · cases hl

end RegisterMap
