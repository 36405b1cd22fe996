import Mathlib.Data.List.Forall2
import RegisterMap.Layout.Derive

/-!
# Accessors of valid bitfields

A bitfield has an accessor exactly when it is `Valid`; the accessor is then
`Accessor.Of` it. The bitfields of a register have accessors together when they
are `Sound`: each is valid, and their getters differ. Otherwise the first one
that breaks this is the fault (`accessors_cases`).
-/

namespace RegisterMap

section Sound

variable {α κ : Type} {ok : α → Prop} {key : α → κ} {xs : List α} {x : α}

/-- The entries of a list are all valid and their keys differ. -/
structure Sound (ok : α → Prop) (key : α → κ) (xs : List α) : Prop where
  each : ∀ x ∈ xs, ok x
  distinct : (xs.map key).Nodup

namespace Sound

theorem nil : Sound ok key [] := ⟨by simp, List.nodup_nil⟩

theorem append_left {ys : List α} (h : Sound ok key (xs ++ ys)) : Sound ok key xs := by
  refine ⟨fun x hx => h.each x (List.mem_append_left _ hx), ?_⟩
  have hd := h.distinct
  rw [List.map_append] at hd
  exact (List.nodup_append.mp hd).1

theorem concat_iff : Sound ok key (xs ++ [x]) ↔ Sound ok key xs ∧ ok x ∧ key x ∉ xs.map key := by
  constructor
  · intro h
    have hd := h.distinct
    rw [List.map_append, List.nodup_append] at hd
    refine ⟨h.append_left, h.each x (by simp), fun hx => ?_⟩
    exact hd.2.2 _ hx _ (by simp) rfl
  · rintro ⟨h, hx, hk⟩
    refine ⟨fun y hy => ?_, ?_⟩
    · rcases List.mem_append.mp hy with hy | hy
      · exact h.each y hy
      · rw [List.mem_singleton.mp hy]; exact hx
    · rw [List.map_append, List.nodup_append]
      refine ⟨h.distinct, by simp, fun a ha b hb => ?_⟩
      rw [List.map_singleton, List.mem_singleton] at hb
      rintro rfl
      exact hk (hb ▸ ha)

/-- An entry that is invalid or repeats a key before it spoils the list. -/
theorem not_of_bad {before after : List α} (hx : ¬ ok x ∨ key x ∈ before.map key) :
    ¬ Sound ok key (before ++ x :: after) := by
  intro h
  rw [← List.singleton_append, ← List.append_assoc] at h
  obtain ⟨-, hok, hk⟩ := concat_iff.mp h.append_left
  rcases hx with hx | hx
  · exact hx hok
  · exact hk hx

end Sound

end Sound

section Related

variable {α β γ : Type} {R : α → β → Prop} {xs : List α} {ys : List β}

theorem map_eq_of_forall₂ {f : α → γ} {g : β → γ} (hR : ∀ x y, R x y → g y = f x)
    (h : List.Forall₂ R xs ys) : ys.map g = xs.map f := by
  refine (List.forall₂_eq_eq_eq ▸ ?_ : xs.map f = ys.map g).symm
  rw [List.forall₂_map_left_iff, List.forall₂_map_right_iff]
  exact h.imp fun x y hxy => (hR x y hxy).symm

theorem flatMap_eq_of_forall₂ {f : α → List γ} {g : β → List γ} (hR : ∀ x y, R x y → g y = f x)
    (h : List.Forall₂ R xs ys) : ys.flatMap g = xs.flatMap f := by
  rw [List.flatMap_def, List.flatMap_def, map_eq_of_forall₂ hR h]

end Related

/-! ## One bitfield -/

namespace Bitfield

def getter (f : Bitfield) : Text := Names.getter (Text.trim f.name)

/-- A bitfield with a name, and bits that the register has. -/
structure Valid (f : Bitfield) : Prop where
  named : Text.trim f.name ≠ []
  ordered : f.stop ≤ f.start
  top : f.start ≤ 7

inductive Fails (f : Bitfield) : AccessorFault → Prop
  | unnamed : Text.trim f.name = [] → Fails f .emptyName
  | past : Text.trim f.name ≠ [] → 7 < f.start → Fails f (.pastTop f.start)
  | inverted : Text.trim f.name ≠ [] → f.start ≤ 7 → f.start < f.stop →
      Fails f (.inverted f.start f.stop)

theorem Fails.not_valid {f : Bitfield} {e : AccessorFault} (h : f.Fails e) : ¬ f.Valid := by
  intro hv
  cases h with
  | unnamed hn => exact hv.named hn
  | past _ hp => exact absurd hv.top (UInt8.not_le.mpr hp)
  | inverted _ _ hi => exact absurd hv.ordered (UInt8.not_le.mpr hi)

end Bitfield

structure Accessor.Of (f : Bitfield) (a : Accessor) : Prop where
  getter : a.getter = f.getter
  writable : a.setter = "set_".toList ++ a.getter ↔ f.access = "R/W".toList
  readOnly : a.setter = ['_'] ↔ f.access ≠ "R/W".toList
  span : a.span = ⟨f.start, f.stop⟩
  ordered : a.span.lsb ≤ a.span.msb
  top : a.span.msb ≤ 7
  /-- The width is no difference cut off at zero, and fits a byte. -/
  width : a.span.lsb.toNat + a.span.width = a.span.msb.toNat + 1 ∧ a.span.width ≤ 8
  description : a.description = describe f.description
  values : a.values = f.values.map Value.documented
  reset : a.reset = Text.trim f.reset

theorem BitSpan.width_spec {r : BitSpan} (ho : r.lsb ≤ r.msb) (ht : r.msb ≤ 7) :
    r.lsb.toNat + r.width = r.msb.toNat + 1 ∧ r.width ≤ 8 := by
  have ho : r.lsb.toNat ≤ r.msb.toNat := ho
  have ht : r.msb.toNat ≤ 7 := ht
  unfold BitSpan.width
  omega

theorem Names.setter_spec (name access : Text) :
    (Names.setter name (Access.ofText access) = "set_".toList ++ Names.getter name ↔
      access = "R/W".toList) ∧
    (Names.setter name (Access.ofText access) = ['_'] ↔ access ≠ "R/W".toList) := by
  unfold Access.ofText
  split
  · next h => simp [Names.setter, h]
  · next h =>
    simp only [h, Names.setter, Names.noSetter, iff_false, ne_eq, not_false_eq_true]
    simp

theorem Bitfield.accessor_cases (f : Bitfield) :
    (f.Valid ∧ ∃ a, f.accessor = .ok a ∧ a.Of f) ∨ ∃ e, f.accessor = .error e ∧ f.Fails e := by
  unfold Bitfield.accessor BitSpan.ofBits?
  by_cases hn : Text.trim f.name = []
  · exact .inr ⟨_, by simp [hn], .unnamed hn⟩
  simp only [hn, ↓reduceIte]
  by_cases hp : BitSpan.top < f.start
  · refine .inr ⟨.pastTop f.start, by simp [hp], .past hn hp⟩
  have ht : f.start ≤ 7 := UInt8.not_lt.mp hp
  by_cases hi : f.start < f.stop
  · exact .inr ⟨.inverted f.start f.stop, by simp [hp, hi], .inverted hn ht hi⟩
  have ho : f.stop ≤ f.start := UInt8.not_lt.mp hi
  simp only [hi, hp, or_self, ↓reduceIte]
  obtain ⟨hw, hr⟩ := Names.setter_spec (Text.trim f.name) f.access
  refine .inl ⟨⟨hn, ho, ht⟩, _, rfl, ?_⟩
  exact {
    getter := rfl
    writable := hw
    readOnly := hr
    span := rfl
    ordered := ho
    top := ht
    width := BitSpan.width_spec ho ht
    description := rfl
    values := rfl
    reset := rfl }

/-! ## The bitfields of a register -/

namespace Bitfield

inductive FailsAfter (before : List Bitfield) (f : Bitfield) : BlockFault → Prop
  | alone {e : AccessorFault} : f.Fails e → FailsAfter before f (.accessor f.name e)
  | repeated : f.Valid → f.getter ∈ before.map getter →
      FailsAfter before f (.repeatedGetter f.name f.getter)

theorem FailsAfter.bad {before : List Bitfield} {f : Bitfield} {e : BlockFault}
    (h : f.FailsAfter before e) : ¬ f.Valid ∨ f.getter ∈ before.map getter := by
  cases h with
  | alone hf => exact .inl hf.not_valid
  | repeated _ hk => exact .inr hk

/-- The fault of the first bitfield that spoils a list. -/
def FirstFault (fs : List Bitfield) (e : BlockFault) : Prop :=
  ∃ before f after, fs = before ++ f :: after ∧ Sound Valid getter before ∧ f.FailsAfter before e

theorem FirstFault.not_sound {fs : List Bitfield} {e : BlockFault} (h : FirstFault fs e) :
    ¬ Sound Valid getter fs := by
  obtain ⟨before, f, after, rfl, -, hf⟩ := h
  exact Sound.not_of_bad hf.bad

/-- Bitfields after sound ones, whose getters are `taken`. -/
theorem accessors_after {before : List Bitfield} {taken : List Text} (fs : List Bitfield)
    (hb : Sound Valid getter before) (ht : ∀ g, g ∈ taken ↔ g ∈ before.map getter) :
    (Sound Valid getter (before ++ fs) ∧
      ∃ as, accessors taken fs = .ok as ∧ List.Forall₂ Accessor.Of fs as) ∨
    ∃ mid f after e, fs = mid ++ f :: after ∧ Sound Valid getter (before ++ mid) ∧
      accessors taken fs = .error e ∧ f.FailsAfter (before ++ mid) e := by
  -- the bitfields before grow by each sound one, `taken` by its getter
  induction fs generalizing before taken with
  | nil => exact .inl ⟨by simpa using hb, [], rfl, .nil⟩
  | cons f fs ih =>
    rcases f.accessor_cases with ⟨hv, a, ha, hof⟩ | ⟨e, he, hf⟩
    · by_cases hk : f.getter ∈ before.map getter
      · refine .inr ⟨[], f, fs, _, rfl, by simpa using hb, ?_, .repeated hv (by simpa using hk)⟩
        rw [accessors, ha]
        simp only [hof.getter, List.contains_iff_mem, (ht _).mpr hk, ↓reduceIte]
      · have hstep : accessors taken (f :: fs) =
            (accessors (a.getter :: taken) fs).map (a :: ·) := by
          rw [accessors, ha]
          simp only [hof.getter, List.contains_iff_mem, mt (ht _).mp hk, ↓reduceIte]
        rw [hstep, hof.getter]
        have hmem : ∀ g, g ∈ f.getter :: taken ↔ g ∈ (before ++ [f]).map getter := by
          intro g
          simp [ht, or_comm]
        rcases ih (Sound.concat_iff.mpr ⟨hb, hv, hk⟩) hmem with
          ⟨hs, as, has, hfor⟩ | ⟨mid, g, after, e, rfl, hm, he, hg⟩
        · exact .inl ⟨by simpa using hs, a :: as, by rw [has]; rfl, .cons hof hfor⟩
        · exact .inr ⟨f :: mid, g, after, e, rfl, by simpa using hm, by rw [he]; rfl,
            by simpa using hg⟩
    · refine .inr ⟨[], f, fs, _, rfl, by simpa using hb, ?_, .alone hf⟩
      rw [accessors, he]

theorem accessors_cases (fs : List Bitfield) :
    (Sound Valid getter fs ∧ ∃ as, accessors [] fs = .ok as ∧ List.Forall₂ Accessor.Of fs as) ∨
    ∃ e, accessors [] fs = .error e ∧ FirstFault fs e := by
  rcases accessors_after fs Sound.nil (fun g => Iff.rfl) with
    h | ⟨mid, f, after, e, hfs, hm, he, hf⟩
  · exact .inl h
  · exact .inr ⟨e, he, mid, f, after, hfs, hm, hf⟩

end Bitfield

end RegisterMap
