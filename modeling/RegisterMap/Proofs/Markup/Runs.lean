import RegisterMap.Markup.Outline
import RegisterMap.Proofs.Markup.Local
import RegisterMap.Proofs.Markup.Reference
import RegisterMap.Proofs.Text.Basic

/-!
# Runs of text

`Resolves s` says that every reference of a text is one to a character. It is
what `resolve` accepts, wherever the text stands, and trimming white space does
not change it; so a run is read exactly when all its passages resolve
(`readRun_isOk_iff`). Between elements that are `Spaced` runs are white space,
and there is no text to read.
-/

namespace RegisterMap.Markup

variable {s t name rest : Text} {c : Char}

/-! ## References -/

theorem cutReference_eq_some_iff : cutReference s = some (name, rest) ↔
    s = name ++ ';' :: rest ∧ ∀ c ∈ name, c ≠ ';' ∧ c ≠ '&' := by
  refine ⟨fun h => ?_, fun h => h.1 ▸ cutReference_append h.2⟩
  induction s generalizing name with
  | nil => cases h
  | cons c s ih =>
    unfold cutReference at h
    split at h
    · next hc =>
      cases h
      exact ⟨by rw [hc, List.nil_append], fun _ hd => by cases hd⟩
    · next hsemi =>
      split at h
      · cases h
      · next hamp =>
        simp only [Option.map_eq_some_iff, Prod.mk.injEq, Prod.exists] at h
        obtain ⟨n, r, hr, rfl, rfl⟩ := h
        obtain ⟨hs, hn⟩ := ih hr
        refine ⟨by rw [hs, List.cons_append], ?_⟩
        rw [List.forall_mem_cons]
        exact ⟨⟨hsemi, hamp⟩, hn⟩

/-- The name of a character. -/
def Refers (name : Text) : Prop := ∃ c, referent 0 name = .ok c

/-- A name refers or does not wherever it stands. -/
theorem refers_iff (start : Nat) : (∃ c, referent start name = .ok c) ↔ Refers name := by
  unfold Refers referent
  split
  · exact Iff.rfl
  · split
    · exact Iff.rfl
    · simp

/-- Every reference of a text is to a character. -/
inductive Resolves : Text → Prop
  | nil : Resolves []
  | plain {c : Char} {s : Text} : c ≠ '&' → Resolves s → Resolves (c :: s)
  | reference {name rest : Text} : (∀ c ∈ name, c ≠ ';' ∧ c ≠ '&') → Refers name →
      Resolves rest → Resolves ('&' :: (name ++ ';' :: rest))

theorem resolveFrom_isOk_iff (size position : Nat) :
    (∃ t, resolveFrom size position s = .ok t) ↔ Resolves s := by
  constructor
  · rintro ⟨t, h⟩
    fun_induction resolveFrom size position s generalizing t with
    | case1 => exact .nil
    | case2 => cases h
    | case3 position s name rest hcut ih =>
      obtain ⟨r, hr, h⟩ := bind_eq_ok.mp h
      obtain ⟨u, hu, -⟩ := bind_eq_ok.mp h
      obtain ⟨rfl, hn⟩ := cutReference_eq_some_iff.mp hcut
      exact .reference hn ((refers_iff _).mp ⟨r, hr⟩) (ih u hu)
    | case4 position c s hc ih =>
      obtain ⟨u, hu, -⟩ := bind_eq_ok.mp h
      exact .plain hc (ih u hu)
  · intro h
    induction h generalizing position with
    | nil => exact ⟨[], by rw [resolveFrom]⟩
    | @plain c s hc _ ih =>
      obtain ⟨t, ht⟩ := ih (position + c.utf8Size)
      exact ⟨c :: t, by rw [resolveFrom, if_neg hc, ht]; rfl⟩
    | @reference name rest hn hname _ ih =>
      obtain ⟨r, hr⟩ := (refers_iff (position + 1)).mpr hname
      obtain ⟨t, ht⟩ := ih (position + Text.byteSize name + 2)
      refine ⟨r :: t, ?_⟩
      rw [resolveFrom, if_pos rfl]
      split
      · next hcut => rw [cutReference_append hn] at hcut; cases hcut
      · next hcut =>
        rw [cutReference_append hn] at hcut
        cases hcut
        rw [hr, ht]
        rfl

theorem resolve_isOk_iff : (∃ t, resolve s = .ok t) ↔ Resolves s := resolveFrom_isOk_iff _ _

namespace Resolves

theorem of_not_mem (h : '&' ∉ s) : Resolves s := by
  induction s with
  | nil => exact .nil
  | cons c s ih =>
    rw [List.mem_cons, not_or] at h
    exact .plain (Ne.symm h.1) (ih h.2)

theorem cons_iff (hc : c ≠ '&') : Resolves (c :: s) ↔ Resolves s := by
  refine ⟨fun h => ?_, .plain hc⟩
  cases h with
  | plain _ h => exact h
  | reference => exact absurd rfl hc

theorem append {u : Text} (h : Resolves s) (hu : Resolves u) : Resolves (s ++ u) := by
  induction h with
  | nil => exact hu
  | plain hc _ ih => exact .plain hc ih
  | reference hn hname _ ih =>
    rw [List.cons_append, List.append_assoc, List.cons_append]
    exact .reference hn hname ih

/-- A text without the end of a reference resolves none that stands open before it. -/
theorem of_append {u : Text} (hu : ';' ∉ u) (h : Resolves (s ++ u)) : Resolves s := by
  generalize ht : s ++ u = t at h
  induction h generalizing s with
  | nil =>
    rw [(List.append_eq_nil_iff.mp ht).1]
    exact .nil
  | @plain c t hc _ ih =>
    cases s with
    | nil => exact .nil
    | cons d s =>
      obtain ⟨rfl, rfl⟩ := List.cons.inj ht
      exact .plain hc (ih rfl)
  | @reference name rest hn hname _ ih =>
    cases s with
    | nil => exact .nil
    | cons d s =>
      rw [List.cons_append] at ht
      obtain ⟨rfl, hcut⟩ := List.cons.inj ht
      rcases List.append_eq_append_iff.mp hcut with ⟨a, rfl, rfl⟩ | ⟨a, rfl, ha⟩
      · exact absurd (List.mem_append_right _ (List.mem_cons_self ..)) hu
      · cases a with
        | nil =>
          rw [List.nil_append] at ha
          exact absurd (ha ▸ List.mem_cons_self ..) hu
        | cons e a =>
          obtain ⟨rfl, rfl⟩ := List.cons.inj ha
          exact .reference hn hname (ih rfl)

theorem append_blank_iff {u : Text} (hu : ∀ c ∈ u, isBlank c = true) :
    Resolves (s ++ u) ↔ Resolves s := by
  refine ⟨of_append fun h => ?_, fun h => h.append (of_not_mem fun ha => ?_)⟩
  · cases hu _ h
  · cases hu _ ha

theorem dropWhile_blank_iff : Resolves (s.dropWhile isBlank) ↔ Resolves s := by
  induction s with
  | nil => exact Iff.rfl
  | cons c s ih =>
    rw [List.dropWhile_cons]
    split
    · next hc =>
      have hne : c ≠ '&' := by
        rintro rfl
        cases hc
      rw [ih, cons_iff hne]
    · exact Iff.rfl

theorem trimEnd_blank_iff : Resolves (Text.trimEndBy isBlank s) ↔ Resolves s := by
  obtain ⟨u, hu, hs⟩ := Text.append_trimEndBy isBlank s
  conv_rhs => rw [← hs]
  exact (append_blank_iff hu).symm

end Resolves

/-! ## Passages -/

variable {p : Passage} {ps : List Passage}

def Passage.Resolves : Passage → Prop
  | plain s => Markup.Resolves s
  | verbatim _ => True

theorem resolveAll_isOk_iff : (∃ t, resolveAll ps = .ok t) ↔ ∀ p ∈ ps, p.Resolves := by
  induction ps with
  | nil => exact ⟨fun _ => nofun, fun _ => ⟨[], rfl⟩⟩
  | cons p ps ih =>
    rw [List.forall_mem_cons, ← ih]
    cases p with
    | plain s =>
      rw [Passage.Resolves, ← resolve_isOk_iff]
      constructor
      · rintro ⟨t, h⟩
        obtain ⟨a, ha, h⟩ := bind_eq_ok.mp h
        obtain ⟨b, hb, -⟩ := bind_eq_ok.mp h
        exact ⟨⟨a, ha⟩, b, hb⟩
      · rintro ⟨⟨a, ha⟩, b, hb⟩
        exact ⟨a ++ b, by rw [resolveAll, ha, hb]; rfl⟩
    | verbatim s =>
      rw [Passage.Resolves, true_and]
      constructor
      · rintro ⟨t, h⟩
        obtain ⟨b, hb, -⟩ := bind_eq_ok.mp h
        exact ⟨b, hb⟩
      · rintro ⟨b, hb⟩
        exact ⟨s ++ b, by rw [resolveAll, hb]; rfl⟩

theorem trimLeading_resolves_iff :
    (∀ p ∈ trimLeading ps, p.Resolves) ↔ ∀ p ∈ ps, p.Resolves := by
  fun_induction trimLeading ps with
  | case1 s ps hs ih =>
    have hblank : Resolves s := Resolves.dropWhile_blank_iff.mp (hs ▸ .nil)
    rw [ih, List.forall_mem_cons, Passage.Resolves]
    exact (and_iff_right hblank).symm
  | case2 s ps c t hs =>
    rw [List.forall_mem_cons, List.forall_mem_cons, Passage.Resolves, Passage.Resolves, ← hs,
      Resolves.dropWhile_blank_iff]
  | case3 => exact Iff.rfl

theorem trimTrailing_resolves_iff :
    (∀ p ∈ trimTrailing ps, p.Resolves) ↔ ∀ p ∈ ps, p.Resolves := by
  fun_induction trimTrailing ps with
  | case1 => exact Iff.rfl
  | case2 s =>
    rw [List.forall_mem_singleton, List.forall_mem_singleton]
    exact Resolves.trimEnd_blank_iff
  | case3 p ps _ ih => rw [List.forall_mem_cons, List.forall_mem_cons, ih]

/-- A run is read, after a tag or not, if all its passages resolve. -/
theorem readRun_isOk_iff (afterTag : Bool) :
    (∃ t, readRun afterTag ps = .ok t) ↔ ∀ p ∈ ps, p.Resolves := by
  have htrim : (∀ p ∈ trimTrailing (if afterTag then trimLeading ps else ps), p.Resolves) ↔
      ∀ p ∈ ps, p.Resolves := by
    rw [trimTrailing_resolves_iff]
    split
    · exact trimLeading_resolves_iff
    · exact Iff.rfl
  rw [← htrim, readRun]
  split
  · next h => exact ⟨fun _ => by rw [h]; nofun, fun _ => ⟨none, rfl⟩⟩
  · next h =>
    rw [h, List.forall_mem_singleton]
    exact ⟨fun _ => .nil, fun _ => ⟨none, rfl⟩⟩
  · rw [← resolveAll_isOk_iff]
    cases resolveAll (trimTrailing (if afterTag then trimLeading ps else ps)) <;> simp [Except.map]

/-! ## Outlines -/

/-- Every reference that is read in an outline, at any depth, is to a character. -/
def Outline.Resolves : Outline → Prop
  | nil => True
  | run ps rest => (∀ p ∈ ps, p.Resolves) ∧ rest.Resolves
  | doctype rest => rest.Resolves
  | element _ inner rest => inner.Resolves ∧ rest.Resolves

theorem Outline.resolves_prepend {o : Outline} :
    (o.prepend p).Resolves ↔ p.Resolves ∧ o.Resolves := by
  cases o with
  | run ps rest =>
    simp only [prepend, Resolves, List.forall_mem_cons]
    exact and_assoc
  | _ => simp [prepend, Resolves]

/-- What is written without `&` resolves. -/
theorem Content.resolves_of_not_mem {c : Content} (h : '&' ∉ c.render) : c.outline.Resolves := by
  induction c with
  | nil => trivial
  | piece p rest ih =>
    rw [render, List.mem_append, not_or] at h
    cases p with
    | text s => exact Outline.resolves_prepend.mpr ⟨.of_not_mem h.1, ih h.2⟩
    | cdata s => exact Outline.resolves_prepend.mpr ⟨trivial, ih h.2⟩
    | _ => exact ih h.2
  | empty tag rest ih =>
    rw [render, List.mem_append, not_or] at h
    exact ⟨trivial, ih h.2⟩
  | element tag inner closing rest ihi ihr =>
    simp only [render, List.mem_append, not_or] at h
    exact ⟨ihi h.1.1.2, ihr h.2⟩

/-! ## White space -/

/-- White space, and no CDATA section. -/
def Passage.IsSpace : Passage → Prop
  | plain s => ∀ c ∈ s, isBlank c = true
  | verbatim _ => False

/-- There is nothing but white space between the elements at the top. -/
def Outline.Spaced : Outline → Prop
  | nil => True
  | run ps rest => (∀ p ∈ ps, p.IsSpace) ∧ rest.Spaced
  | doctype rest => rest.Spaced
  | element _ _ rest => rest.Spaced

theorem Passage.IsSpace.resolves (h : p.IsSpace) : p.Resolves := by
  cases p with
  | plain s =>
    exact .of_not_mem fun ha => by cases h _ ha
  | verbatim s => cases h

theorem trimLeading_space (h : ∀ p ∈ ps, p.IsSpace) : trimLeading ps = [] := by
  induction ps with
  | nil => rfl
  | cons p ps ih =>
    rw [List.forall_mem_cons] at h
    cases p with
    | plain s =>
      rw [trimLeading, List.dropWhile_eq_nil_iff.mpr h.1]
      exact ih h.2
    | verbatim s => cases h.1

theorem readRun_space (h : ∀ p ∈ ps, p.IsSpace) : readRun true ps = .ok none := by
  rw [readRun, if_pos rfl, trimLeading_space h]
  rfl

end RegisterMap.Markup
