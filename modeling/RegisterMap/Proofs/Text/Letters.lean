import Mathlib.Data.List.Basic
import RegisterMap.Proofs.Text.LetterTable
import RegisterMap.Text.Case

/-!
# Letters in upper and lower case

An identifier begins with a letter or an underscore and goes on with parts. Case
mapping keeps letters, parts and the underscore what they are (`keeps_lower`,
`keeps_upper`), but for the iota subscript: it is no letter, and the upper case of
it is one.
-/

namespace RegisterMap.Text

/-- A letter: XID_Start. -/
def isLetter (c : Char) : Bool := letterRanges.has c.toNat

/-- A character that an identifier may have anywhere but at its start: XID_Continue, less the zero
width non-joiner and joiner. -/
def isPart (c : Char) : Bool := isLetter c || furtherRanges.has c.toNat

/-- The iota subscript, a mark whose upper case is the letter iota. -/
def subscript : Char := '\u0345'

/-! ## Spans of code points -/

namespace Ranges

variable {rs : Ranges} {a b n : Nat}

-- by the recursor, `Nat.ble` and `Nat.blt`: the kernel evaluates them fast, and these tables are long

/-- The first range that ends behind `b` holds all code points from `a` to it. -/
noncomputable def covers (rs : Ranges) (a b : Nat) : Bool :=
  rs.rec false fun r _ later => bif Nat.ble b r.2 then Nat.ble r.1 a else later

/-- None of the ranges holds a code point from `a` to `b`. -/
noncomputable def misses (rs : Ranges) (a b : Nat) : Bool :=
  rs.rec true fun r _ later => bif Nat.blt r.2 a then later else bif Nat.blt b r.1 then later else false

theorem covers_cons (r : Nat × Nat) (rs : Ranges) (a b : Nat) :
    covers (r :: rs) a b = bif Nat.ble b r.2 then Nat.ble r.1 a else covers rs a b := rfl

theorem misses_cons (r : Nat × Nat) (rs : Ranges) (a b : Nat) : misses (r :: rs) a b =
    bif Nat.blt r.2 a then misses rs a b else bif Nat.blt b r.1 then misses rs a b else false := rfl

theorem has_cons (r : Nat × Nat) (rs : Ranges) (n : Nat) :
    has (r :: rs) n = true ↔ r.1 ≤ n ∧ n ≤ r.2 ∨ has rs n = true := by
  rw [has, List.any_cons, Bool.or_eq_true, Bool.and_eq_true, decide_eq_true_eq, decide_eq_true_eq]
  exact Iff.rfl

theorem has_of_covers (h : rs.covers a b = true) (ha : a ≤ n) (hb : n ≤ b) : rs.has n = true := by
  induction rs with
  | nil => cases h
  | cons r rs ih =>
    rw [covers_cons] at h
    rw [has_cons]
    cases hlast : Nat.ble b r.2 with
    | true =>
      rw [hlast] at h
      have hfirst : r.1 ≤ a := Nat.le_of_ble_eq_true h
      have hlast : b ≤ r.2 := Nat.le_of_ble_eq_true hlast
      exact .inl ⟨Nat.le_trans hfirst ha, Nat.le_trans hb hlast⟩
    | false =>
      rw [hlast] at h
      exact .inr (ih h)

theorem has_of_misses (h : rs.misses a b = true) (ha : a ≤ n) (hb : n ≤ b) : rs.has n = false := by
  induction rs with
  | nil => rfl
  | cons r rs ih =>
    rw [misses_cons] at h
    rw [Bool.eq_false_iff, ne_eq, has_cons, not_or]
    cases hbefore : Nat.blt r.2 a with
    | true =>
      rw [hbefore] at h
      have hbefore : r.2 < a := Nat.blt_eq.mp hbefore
      exact ⟨by omega, Bool.eq_false_iff.mp (ih h)⟩
    | false =>
      cases hbehind : Nat.blt b r.1 with
      | true =>
        rw [hbefore, hbehind] at h
        have hbehind : b < r.1 := Nat.blt_eq.mp hbehind
        exact ⟨by omega, Bool.eq_false_iff.mp (ih h)⟩
      | false =>
        rw [hbefore, hbehind] at h
        cases h

end Ranges

theorem toNat_ofNat {n : Nat} (h : n.isValidChar) : (Char.ofNat n).toNat = n := by
  have hchar : Char.ofNat n = Char.ofNatAux n h := dif_pos h
  rw [hchar]
  rfl

/-! ## What case mapping keeps -/

/-- A text for a character, which begins alike and has parts of identifiers only if that is one. -/
structure Keeps (c : Char) (s : Text) : Prop where
  letter : ∃ d t, s = d :: t ∧ isLetter d = isLetter c ∧ (d = '_' ↔ c = '_')
  parts : s.all isPart = isPart c

theorem Keeps.refl (c : Char) : Keeps c [c] := ⟨⟨c, [], rfl, rfl, Iff.rfl⟩, by simp⟩

/-- The characters that case mapping and names treat apart. -/
theorem letters_apart :
    (isLetter 'Σ' = true ∧ isLetter 'σ' = true ∧ isLetter 'ς' = true) ∧
    (isLetter subscript = false ∧ isPart subscript = true ∧ isLetter '\u0399' = true) ∧
    isLetter '_' = false ∧ isPart '_' = true := by
  decide +kernel

theorem Keeps.of_letters {c d : Char} {t : Text} (hc : isLetter c = true) (hd : isLetter d = true)
    (ht : t.all isPart = true) : Keeps c (d :: t) := by
  have ne {e : Char} (he : isLetter e = true) : e ≠ '_' := by
    rintro rfl
    rw [letters_apart.2.2.1] at he
    cases he
  refine ⟨⟨d, t, rfl, hd.trans hc.symm, iff_of_false (ne hd) (ne hc)⟩, ?_⟩
  rw [List.all_cons, ht, isPart, isPart, hc, hd]
  rfl

theorem Keeps.of_foreign {c d : Char} (hc : isPart c = false) (hd : isPart d = false) :
    Keeps c [d] := by
  have ne {e : Char} (he : isPart e = false) : isLetter e = false ∧ e ≠ '_' := by
    refine ⟨(Bool.or_eq_false_iff.mp he).1, ?_⟩
    rintro rfl
    rw [letters_apart.2.2.2] at he
    cases he
  refine ⟨⟨d, [], rfl, (ne hd).1.trans (ne hc).1.symm, iff_of_false (ne hd).2 (ne hc).2⟩, ?_⟩
  rw [List.all_cons, hc, hd]
  rfl

/-- Letters have letters for images, and code points of no identifier others of none. -/
noncomputable def CaseRun.keeps (r : CaseRun) : Bool :=
  let image n := (Int.ofNat n + r.shift).toNat
  let spans (p : Nat → Nat → Bool) := p r.first r.last && p (image r.first) (image r.last)
  spans letterRanges.covers ||
    spans letterRanges.misses && spans furtherRanges.misses && Nat.blt (image r.last) 0xD800 ||
    -- not all between the code points of the run are letters
    (List.range' r.first ((r.last - r.first) / r.step + 1) r.step).all fun n =>
      letterRanges.covers n n && letterRanges.covers (image n) (image n)

/-- A letter has a letter for its image, and parts after that. -/
noncomputable def keepsAt (entry : Nat × List Nat) : Bool :=
  letterRanges.covers entry.1 entry.1 &&
    match entry.2 with
    | [] => false
    | n :: ns => letterRanges.covers n n &&
      ns.all fun n => Nat.blt n 0xD800 && (letterRanges.covers n n || furtherRanges.covers n n)

theorem isValidChar_of_letter {n : Nat} (h : letterRanges.has n = true) : n.isValidChar := by
  have hall : (letterRanges.all fun r => Nat.blt r.2 0xD800 ||
      Nat.blt 0xDFFF r.1 && Nat.blt r.2 0x110000) = true := by
    decide +kernel
  obtain ⟨⟨first, last⟩, hr, hn⟩ := List.any_eq_true.mp h
  have hvalid := List.all_eq_true.mp hall _ hr
  simp only [Bool.or_eq_true, Bool.and_eq_true, Nat.blt_eq] at hvalid
  simp only [Bool.and_eq_true, decide_eq_true_eq] at hn
  unfold Nat.isValidChar
  omega

theorem CaseRun.keeps_image {r : CaseRun} {c : Char} (h : r.keeps = true) (hf : r.first ≤ c.toNat)
    (hl : c.toNat ≤ r.last) (hs : (c.toNat - r.first) % r.step = 0) :
    Keeps c [Char.ofNat (Int.ofNat c.toNat + r.shift).toNat] := by
  have ha : (Int.ofNat r.first + r.shift).toNat ≤ (Int.ofNat c.toNat + r.shift).toNat := by
    simp only [Int.ofNat_eq_natCast]
    omega
  have hb : (Int.ofNat c.toNat + r.shift).toNat ≤ (Int.ofNat r.last + r.shift).toNat := by
    simp only [Int.ofNat_eq_natCast]
    omega
  have of_letters (hc : letterRanges.has c.toNat = true)
      (himage : letterRanges.has (Int.ofNat c.toNat + r.shift).toNat = true) :
      Keeps c [Char.ofNat (Int.ofNat c.toNat + r.shift).toNat] := by
    refine .of_letters hc ?_ rfl
    rw [isLetter, toNat_ofNat (isValidChar_of_letter himage)]
    exact himage
  unfold keeps at h
  simp only [Bool.or_eq_true, Bool.and_eq_true, Nat.blt_eq] at h
  rcases h with (⟨hfrom, hto⟩ | ⟨⟨⟨hfrom, hto⟩, ⟨hfrom', hto'⟩⟩, hvalid⟩) | hall
  · exact of_letters (Ranges.has_of_covers hfrom hf hl) (Ranges.has_of_covers hto ha hb)
  · refine .of_foreign ?_ ?_
    · rw [isPart, isLetter, Ranges.has_of_misses hfrom hf hl, Ranges.has_of_misses hfrom' hf hl]
      rfl
    · rw [isPart, isLetter, toNat_ofNat (.inl (Nat.lt_of_le_of_lt hb hvalid)),
        Ranges.has_of_misses hto ha hb, Ranges.has_of_misses hto' ha hb]
      rfl
  · have hmem : c.toNat ∈ List.range' r.first ((r.last - r.first) / r.step + 1) r.step := by
      refine List.mem_range'.mpr ⟨(c.toNat - r.first) / r.step, ?_, ?_⟩
      · exact Nat.lt_succ_of_le (Nat.div_le_div_right (by omega))
      · rw [Nat.mul_div_cancel' (Nat.dvd_of_mod_eq_zero hs)]
        omega
    have hc := List.all_eq_true.mp hall _ hmem
    simp only [Bool.and_eq_true] at hc
    exact of_letters (Ranges.has_of_covers hc.1 (Nat.le_refl _) (Nat.le_refl _))
      (Ranges.has_of_covers hc.2 (Nat.le_refl _) (Nat.le_refl _))

theorem keepsAt_image {c : Char} {ns : List Nat} (h : keepsAt (c.toNat, ns) = true) :
    Keeps c (ns.map Char.ofNat) := by
  have has {rs : Ranges} {n : Nat} (h : rs.covers n n = true) : rs.has n = true :=
    Ranges.has_of_covers h (Nat.le_refl n) (Nat.le_refl n)
  unfold keepsAt at h
  cases ns with
  | nil => simp at h
  | cons n ns =>
    simp only [Bool.and_eq_true] at h
    obtain ⟨hc, hn, hns⟩ := h
    rw [List.map_cons]
    refine .of_letters (has hc) ?_ ?_
    · rw [isLetter, toNat_ofNat (isValidChar_of_letter (has hn))]
      exact has hn
    · rw [List.all_map]
      refine List.all_eq_true.mpr fun m hm => ?_
      have hpart := List.all_eq_true.mp hns m hm
      simp only [Bool.and_eq_true, Bool.or_eq_true, Nat.blt_eq] at hpart
      rw [Function.comp_apply, isPart, isLetter, toNat_ofNat (.inl hpart.1), Bool.or_eq_true]
      exact hpart.2.imp has has

theorem keeps_mapCase {lists : List (Nat × List Nat)} {runs : List CaseRun} {c : Char}
    (hlists : ∀ e ∈ lists, keepsAt e = true)
    (hruns : ∀ r ∈ runs, r.first ≤ c.toNat → c.toNat ≤ r.last → r.keeps = true) :
    Keeps c (mapCase lists runs c) := by
  unfold mapCase
  cases hl : lists.lookup c.toNat with
  | some ns =>
    obtain ⟨before, after, rfl, -⟩ := List.lookup_eq_some_iff.mp hl
    exact keepsAt_image (hlists _ (List.mem_append_right _ (List.mem_cons_self ..)))
  | none =>
    unfold CaseRun.image?
    cases hr : runs.find? fun r =>
        r.first ≤ c.toNat && c.toNat ≤ r.last && (c.toNat - r.first) % r.step == 0 with
    | none => exact .refl c
    | some r =>
      have hin := List.find?_some hr
      simp only [Bool.and_eq_true, decide_eq_true_eq, beq_iff_eq] at hin
      obtain ⟨⟨hf, hl⟩, hs⟩ := hin
      exact CaseRun.keeps_image (hruns r (List.mem_of_find?_eq_some hr) hf hl) hf hl hs

/-! ## The mappings -/

theorem isAlpha_iff {c : Char} : c.isAlpha = true ↔
    65 ≤ c.toNat ∧ c.toNat ≤ 90 ∨ 97 ≤ c.toNat ∧ c.toNat ≤ 122 := by
  show (decide (65 ≤ c.toNat ∧ c.toNat ≤ 90) ||
    (decide (97 ≤ c.toNat) && decide (c.toNat ≤ 122))) = true ↔ _
  simp only [Bool.or_eq_true, Bool.and_eq_true, decide_eq_true_eq]

theorem toLower_cases (c : Char) :
    c.toLower = c ∨ c.isAlpha = true ∧ c.toLower.isAlpha = true := by
  by_cases h : c.val ≥ 'A'.val ∧ c.val ≤ 'Z'.val
  · have hfrom : 65 ≤ c.toNat := h.1
    have hto : c.toNat ≤ 90 := h.2
    have hval : c.toLower.val = c.val + ('a'.val - 'A'.val) := by
      delta Char.toLower
      rw [dif_pos h]
    have hshift : ('a'.val - 'A'.val).toNat = 32 := by decide
    have hlower : c.toLower.toNat = (c.toNat + 32) % 2 ^ 32 := by
      rw [← Char.toNat_val, hval, UInt32.toNat_add, hshift, Char.toNat_val]
    exact .inr ⟨isAlpha_iff.mpr (.inl ⟨hfrom, hto⟩), isAlpha_iff.mpr (by omega)⟩
  · exact .inl (dif_neg h)

theorem eq_of_toLower {c d : Char} (h : c.toLower = d) (hd : d.isAlpha = false) : c = d := by
  rcases toLower_cases c with hc | ⟨-, hc⟩
  · rw [← hc, h]
  · rw [h, hd] at hc
    cases hc

theorem toUpper_cases (c : Char) :
    c.toUpper = c ∨ c.isAlpha = true ∧ c.toUpper.isAlpha = true := by
  by_cases h : 'a'.val ≤ c.val ∧ c.val ≤ 'z'.val
  · have hfrom : 97 ≤ c.toNat := h.1
    have hto : c.toNat ≤ 122 := h.2
    have hval : c.toUpper.val = c.val + ('A'.val - 'a'.val) := by
      delta Char.toUpper
      rw [dif_pos h]
    -- the difference of the cases wraps around
    have hshift : ('A'.val - 'a'.val).toNat = 2 ^ 32 - 32 := by decide
    have hupper : c.toUpper.toNat = (c.toNat + (2 ^ 32 - 32)) % 2 ^ 32 := by
      rw [← Char.toNat_val, hval, UInt32.toNat_add, hshift, Char.toNat_val]
    exact .inr ⟨isAlpha_iff.mpr (.inr ⟨hfrom, hto⟩), isAlpha_iff.mpr (by omega)⟩
  · exact .inl (dif_neg h)

theorem isLetter_of_isAlpha {c : Char} (h : c.isAlpha = true) : isLetter c = true := by
  have hspans : letterRanges.covers 65 90 = true ∧ letterRanges.covers 97 122 = true := by
    decide
  rcases isAlpha_iff.mp h with ⟨ha, hz⟩ | ⟨ha, hz⟩
  · exact Ranges.has_of_covers hspans.1 ha hz
  · exact Ranges.has_of_covers hspans.2 ha hz

/-- A character stays as it is, or is a letter of ASCII and becomes one. -/
theorem Keeps.of_isAlpha {c d : Char} (h : d = c ∨ c.isAlpha = true ∧ d.isAlpha = true) :
    Keeps c [d] := by
  rcases h with rfl | ⟨hc, hd⟩
  · exact .refl d
  · exact .of_letters (isLetter_of_isAlpha hc) (isLetter_of_isAlpha hd) rfl

theorem keeps_lower (c : Char) : Keeps c (lower c) := by
  unfold lower
  split
  · exact .of_isAlpha (toLower_cases c)
  · have hlists : ∀ e ∈ lowerLists, keepsAt e = true := by decide +kernel
    have hruns : ∀ r ∈ lowerRuns, r.keeps = true := by decide +kernel
    exact keeps_mapCase hlists fun r hr _ _ => hruns r hr

theorem keeps_upper {c : Char} (hc : c ≠ subscript) : Keeps c (upper c) := by
  unfold upper
  split
  · exact .of_isAlpha (toUpper_cases c)
  · have hlists : ∀ e ∈ upperLists, keepsAt e = true := by decide +kernel
    have hruns : ∀ r ∈ upperRuns, r.keeps = true ∨
        r.first = subscript.toNat ∧ r.last = subscript.toNat := by
      decide +kernel
    refine keeps_mapCase hlists fun r hr hf hl => (hruns r hr).resolve_right ?_
    rintro ⟨hfirst, hlast⟩
    have hn : c.toNat = subscript.toNat := by omega
    exact hc (Char.toNat_inj.mp hn)

theorem upper_subscript : upper subscript = ['\u0399'] := by decide +kernel

end RegisterMap.Text
