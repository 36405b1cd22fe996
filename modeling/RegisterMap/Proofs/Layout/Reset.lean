import Mathlib.Data.Nat.Digits.Defs
import RegisterMap.Proofs.Layout.Plain
import RegisterMap.Proofs.Text.Letters

/-!
# Reset values as numerals

A text writes a byte when it is a hexadecimal numeral of the byte, any number of
zeros first, after an optional mark and between white space. Reading accepts
exactly these texts, and the literal of a byte is the one of them that stands
for all (`Reset.parse?_writes`).
-/

namespace RegisterMap.Reset

open Text

variable {s t ds mark : Text} {c : Char} {b : UInt8} {n m : Nat}

/-! ## Numerals -/

/-- The hexadecimal digits, each at the place of its value. -/
def figures : Text := "0123456789abcdef".toList

/-- A hexadecimal digit, in either case. -/
def IsFigure (c : Char) : Prop := c.toLower ∈ figures

instance (c : Char) : Decidable (IsFigure c) := inferInstanceAs (Decidable (c.toLower ∈ figures))

/-- The number that hexadecimal digits write, the most significant first. -/
def numeral (ds : Text) : Nat := Nat.ofDigits 16 (ds.reverse.map fun c => figures.idxOf c.toLower)

theorem numeral_cons (c : Char) (ds : Text) :
    numeral (c :: ds) = figures.idxOf c.toLower * 16 ^ ds.length + numeral ds := by
  rw [numeral, List.reverse_cons, List.map_append, Nat.ofDigits_append, List.length_map,
    List.length_reverse, List.map_singleton, Nat.ofDigits_singleton, numeral]
  ring

theorem digit?_of_lt (h : c.toNat < 128) :
    digit? c = if IsFigure c then some (figures.idxOf c.toLower) else none :=
  of_ascii h (by decide +kernel)

theorem digit?_of_ge (h : 128 ≤ c.toNat) : digit? c = none ∧ ¬ IsFigure c := by
  constructor
  · have hle {d : Char} (hd : d.toNat < 128) : ¬ c ≤ d := fun hcd => by
      have hcd : c.toNat ≤ d.toNat := hcd
      omega
    unfold digit?
    rw [if_neg fun h => hle (by decide) h.2, if_neg fun h => hle (by decide) h.2,
      if_neg fun h => hle (by decide) h.2]
  · have hfigures : figures.all (·.toNat < 128) = true := by decide
    intro hc
    rcases toLower_cases c with hlower | ⟨halpha, -⟩
    · have hlt := List.all_eq_true.mp hfigures _ hc
      rw [hlower, decide_eq_true_eq] at hlt
      omega
    · rcases isAlpha_iff.mp halpha with ⟨-, hz⟩ | ⟨-, hz⟩
      · omega
      · omega

theorem digit?_eq (c : Char) :
    digit? c = if IsFigure c then some (figures.idxOf c.toLower) else none := by
  by_cases h : c.toNat < 128
  · exact digit?_of_lt h
  · obtain ⟨hnone, hc⟩ := digit?_of_ge (Nat.not_lt.mp h)
    rw [hnone, if_neg hc]

/-- Digits go on from the value of those before them. -/
theorem valueAfter?_eq_some_iff : valueAfter? n ds = some m ↔
    (∀ c ∈ ds, IsFigure c) ∧ n * 16 ^ ds.length + numeral ds = m := by
  induction ds generalizing n with
  | nil => simp [valueAfter?, numeral]
  | cons c ds ih =>
    rw [valueAfter?, digit?_eq, List.forall_mem_cons, numeral_cons, List.length_cons]
    by_cases hc : IsFigure c
    · have hvalue : (16 * n + figures.idxOf c.toLower) * 16 ^ ds.length + numeral ds =
          n * 16 ^ (ds.length + 1) + (figures.idxOf c.toLower * 16 ^ ds.length + numeral ds) := by
        ring
      rw [if_pos hc, Option.bind_some, ih, hvalue]
      exact and_congr_left fun _ => (and_iff_right hc).symm
    · rw [if_neg hc, Option.bind_none]
      exact iff_of_false nofun fun h => hc h.1.1

/-! ## Marks -/

/-- What may stand before the digits. -/
def marks : List Text := [[], "0x".toList, "0X".toList]

/-- A mark is taken off, and nothing else is. -/
theorem digits_of_mark (hm : mark ∈ marks) (hd : ∀ c ∈ ds, IsFigure c) :
    digits (mark ++ ds) = ds := by
  have hx : ¬ IsFigure 'x' ∧ ¬ IsFigure 'X' := by decide
  simp only [marks, List.mem_cons, List.not_mem_nil, or_false] at hm
  rcases hm with rfl | rfl | rfl
  · unfold digits
    split
    · next h => exact absurd (hd 'x' (by rw [← List.nil_append ds, h]; simp)) hx.1
    · next h => exact absurd (hd 'X' (by rw [← List.nil_append ds, h]; simp)) hx.2
    · rfl
  · rfl
  · rfl

theorem exists_mark (s : Text) : ∃ mark ∈ marks, mark ++ digits s = s := by
  unfold digits
  split
  · exact ⟨"0x".toList, by decide, rfl⟩
  · exact ⟨"0X".toList, by decide, rfl⟩
  · exact ⟨[], by decide, rfl⟩

/-! ## Reading -/

/-- A numeral of a byte, after an optional mark and between white space. -/
def Writes (s : Text) (b : UInt8) : Prop :=
  ∃ before mark ds after, s = before ++ (mark ++ ds) ++ after ∧
    (∀ c ∈ before, isBlank c = true) ∧ (∀ c ∈ after, isBlank c = true) ∧
    mark ∈ marks ∧ ds ≠ [] ∧ (∀ c ∈ ds, IsFigure c) ∧ numeral ds = b.toNat

theorem parse?_eq_some_iff_digits : parse? s = some b ↔ digits (trim s) ≠ [] ∧
    (∀ c ∈ digits (trim s), IsFigure c) ∧ numeral (digits (trim s)) = b.toNat := by
  have hvalue : valueAfter? 0 (digits (trim s)) = some b.toNat ↔
      (∀ c ∈ digits (trim s), IsFigure c) ∧ numeral (digits (trim s)) = b.toNat := by
    rw [valueAfter?_eq_some_iff, Nat.zero_mul, Nat.zero_add]
  rw [← hvalue, parse?]
  split
  · next hnil => simp [hnil]
  · next c ds hcons =>
    rw [hcons, Option.bind_eq_some_iff, and_iff_right (List.cons_ne_nil c ds)]
    constructor
    · rintro ⟨n, hn, hb⟩
      split at hb
      · next hlt =>
        rw [hn, ← Option.some.inj hb, UInt8.toNat_ofNat_of_lt' hlt]
      · cases hb
    · intro hn
      exact ⟨b.toNat, hn, by rw [if_pos b.toNat_lt, UInt8.ofNat_toNat]⟩

theorem IsFigure.isPlain (h : IsFigure c) : isPlain c = true := by
  by_cases hlt : c.toNat < 128
  · have hc : IsFigure c → Text.isPlain c = true := of_ascii hlt (by decide +kernel)
    exact hc h
  · exact absurd h (digit?_of_ge (Nat.not_lt.mp hlt)).2

theorem plain_numeral (hm : mark ∈ marks) (hd : ∀ c ∈ ds, IsFigure c) : Plain (mark ++ ds) := by
  have hmarks : ∀ mark ∈ marks, Plain mark := by decide
  exact (hmarks mark hm).append fun c hc => (hd c hc).isPlain

theorem parse?_eq_some_iff : parse? s = some b ↔ Writes s b := by
  rw [parse?_eq_some_iff_digits]
  constructor
  · rintro ⟨hn, hd, hb⟩
    obtain ⟨before, after, hbefore, hafter, hs⟩ := exists_trimBy isBlank s
    obtain ⟨mark, hm, hmark⟩ := exists_mark (trim s)
    refine ⟨before, mark, _, after, ?_, hbefore, hafter, hm, hn, hd, hb⟩
    rw [hmark]
    exact hs.symm
  · rintro ⟨before, mark, ds, after, rfl, hbefore, hafter, hm, hn, hd, hb⟩
    have htrim : trim (before ++ (mark ++ ds) ++ after) = mark ++ ds :=
      trimBy_between hbefore hafter (plain_numeral hm hd).trim
    rw [htrim, digits_of_mark hm hd]
    exact ⟨hn, hd, hb⟩

theorem literal_inj {b c : UInt8} : literal b = literal c ↔ b = c := by
  refine ⟨fun h => ?_, congrArg literal⟩
  have hparse := parse?_literal b
  rw [h, parse?_literal] at hparse
  exact (Option.some.inj hparse).symm

/-- The literal of a byte is the mark `0x` and two digits, in lower case. -/
theorem literal_figures (b : UInt8) :
    ∃ high ∈ figures, ∃ low ∈ figures, literal b = '0' :: 'x' :: [high, low] := by
  have hdigit : ∀ n < 16, n.digitChar ∈ figures := by decide
  have hb := b.toNat_lt
  exact ⟨_, hdigit _ (by omega), _, hdigit _ (Nat.mod_lt _ (by decide)), rfl⟩

/-- A text is read as a byte exactly if it is a numeral of that byte, after an optional mark and
between white space, and any other text is refused. Texts are given the same literal exactly if
they are read as the same byte. The literal is a mark and two digits and is read as its byte, so
that it is its own literal. -/
theorem parse?_writes :
    (∀ s b, parse? s = some b ↔ Writes s b) ∧
    (∀ s, parse? s = none ↔ ∀ b, ¬ Writes s b) ∧
    (∀ s t b c, parse? s = some b → parse? t = some c → (literal b = literal c ↔ b = c)) ∧
    (∀ b, parse? (literal b) = some b ∧
      ∃ high ∈ figures, ∃ low ∈ figures, literal b = '0' :: 'x' :: [high, low]) ∧
    ∀ s l, (parse? s).map literal = some l → (parse? l).map literal = some l := by
  refine ⟨fun s b => parse?_eq_some_iff, fun s => ?_, fun s t b c _ _ => literal_inj,
    fun b => ⟨parse?_literal b, literal_figures b⟩, fun s l h => ?_⟩
  · simp only [Option.eq_none_iff_forall_ne_some, ne_eq, parse?_eq_some_iff]
  · obtain ⟨b, -, rfl⟩ := Option.map_eq_some_iff.mp h
    rw [parse?_literal, Option.map_some]

/-- An ideographic space, the other mark, zeros and a line feed make no difference; the next digit
does. -/
theorem parse?_writes_padded :
    Writes "\u30000X0005\n".toList 5 ∧ (literal 5 = literal 0x50 ↔ (5 : UInt8) = 0x50) ∧
      (parse? "0x05".toList).map literal = some "0x05".toList := by
  have hpadded : parse? "\u30000X0005\n".toList = some 5 := by decide +kernel
  have hnext : parse? "50".toList = some 0x50 := by decide +kernel
  obtain ⟨hsome, -, hinj, -, hnormal⟩ := parse?_writes
  refine ⟨(hsome _ _).mp hpadded, hinj _ _ _ _ hpadded hnext, ?_⟩
  exact hnormal "\u30000X0005\n".toList _ (by rw [hpadded]; rfl)

end RegisterMap.Reset
