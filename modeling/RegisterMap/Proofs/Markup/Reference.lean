import RegisterMap.Markup.Outline
import RegisterMap.Text.Blank

/-!
# Escaped text

`escape` writes the characters that markup would read, and all white space, as
decimal references. Resolving gives the text back (`resolve_escape`); an escaped
text opens no tag and has no white space to trim.
-/

namespace RegisterMap.Markup

variable {n radix : Nat} {c d : Char} {s t : Text}

/-! ## Decimal numbers -/

theorem isDigit_of_mem_decimal (h : c ∈ Text.decimal n) : c.isDigit :=
  Nat.isDigit_of_mem_toDigits (by decide) (by decide) h

theorem not_mem_decimal (hd : d.isDigit = false) : d ∉ Text.decimal n := by
  intro h
  rw [isDigit_of_mem_decimal h] at hd
  cases hd

theorem decimal_ne_nil : Text.decimal n ≠ [] := Nat.toDigits_ne_nil

theorem digit?_digitChar (h : n < 10) : digit? 10 (Nat.digitChar n) = some n := by
  have hall : ∀ n < 10, digit? 10 (Nat.digitChar n) = some n := by decide
  exact hall n h

theorem numberAfter_concat {m k : Nat} (hs : numberAfter radix m s = .ok k)
    (hd : digit? radix c = some n) (hn : k * radix + n < UInt32.size) :
    numberAfter radix m (s ++ [c]) = .ok (k * radix + n) := by
  induction s generalizing m with
  | nil =>
    cases hs
    simp only [List.nil_append, numberAfter, hd, hn, ↓reduceIte]
  | cons e s ih =>
    rw [List.cons_append, numberAfter]
    rw [numberAfter] at hs
    split at hs
    · cases hs
    · split at hs
      · next hlt => rw [if_pos hlt, ih hs]
      · cases hs

/-- The decimal digits of a number that fits 32 bits write it. -/
theorem numberAfter_decimal (h : n < UInt32.size) : numberAfter 10 0 (Text.decimal n) = .ok n := by
  induction n using Nat.strongRecOn with
  | _ n ih =>
    unfold Text.decimal at ih ⊢
    rcases Nat.lt_or_ge n 10 with hn | hn
    · rw [Nat.toDigits_of_lt_base hn]
      have hone : numberAfter 10 0 ([] ++ [Nat.digitChar n]) = .ok (0 * 10 + n) :=
        numberAfter_concat rfl (digit?_digitChar hn) (by omega)
      rwa [Nat.zero_mul, Nat.zero_add] at hone
    · rw [Nat.toDigits_of_base_le (by decide) hn,
        numberAfter_concat (ih (n / 10) (by omega) (by omega))
          (digit?_digitChar (Nat.mod_lt n (by decide))) (by omega)]
      congr 1
      omega

theorem number_decimal (h : n < UInt32.size) : number 10 (Text.decimal n) = .ok n := by
  have hn := numberAfter_decimal h
  unfold number
  split
  · next hs => exact absurd hs decimal_ne_nil
  · next hs => exact absurd (hs ▸ List.mem_cons_self ..) (not_mem_decimal (n := n) rfl)
  · next hs => exact absurd (hs ▸ List.mem_cons_self ..) (not_mem_decimal (n := n) rfl)
  · next hs => rw [← hs, hn]

theorem character_decimal (h : c.toNat ≠ 0) : character (Text.decimal c.toNat) = .ok c := by
  have hlt : c.toNat < UInt32.size := c.val.toNat_lt
  have hv : c.toNat.isValidChar := c.valid
  unfold character
  split
  · next hs => exact absurd (hs ▸ List.mem_cons_self ..) (not_mem_decimal (n := c.toNat) rfl)
  · rw [number_decimal hlt]
    simp only [bind, Except.bind, h, hv, ↓reduceIte, pure, Except.pure, Char.ofNat_toNat]

/-! ## Escaping -/

/-- A character that is written as a reference: `&`, `<`, `>` or white space. -/
def isReferred (c : Char) : Bool := c == '&' || c == '<' || c == '>' || Text.isBlank c

/-- A character as a decimal reference, if it needs to be one. -/
def escapeChar (c : Char) : Text :=
  if isReferred c then ['&', '#'] ++ Text.decimal c.toNat ++ [';'] else [c]

def escape (s : Text) : Text := s.flatMap escapeChar

theorem escape_cons (c : Char) (s : Text) : escape (c :: s) = escapeChar c ++ escape s := rfl

theorem toNat_ne_zero_of_isReferred (h : isReferred c) : c.toNat ≠ 0 := by
  intro h0
  have hc : c = '\x00' := by rw [← Char.ofNat_toNat c, h0]
  rw [hc] at h
  cases h

theorem escape_eq_nil : escape s = [] ↔ s = [] := by
  cases s with
  | nil => simp [escape]
  | cons c s =>
    rw [escape_cons, escapeChar]
    split <;> simp

theorem isReferred_of_isDigit (h : c.isDigit = true) : isReferred c = false := by
  have hall : ∀ k < 58, 48 ≤ k → isReferred (Char.ofNat k) = false := by decide +kernel
  simp only [Char.isDigit, Bool.and_eq_true, decide_eq_true_eq, UInt32.le_iff_toNat_le] at h
  rw [← Char.ofNat_toNat c]
  exact hall c.toNat (Nat.lt_succ_of_le h.2) h.1

/-- Of the characters to escape, only the `&` of references is in escaped text. -/
theorem not_mem_escape (hr : isReferred c = true) (ha : c ≠ '&') : c ∉ escape s := by
  rw [escape, List.mem_flatMap]
  rintro ⟨d, -, hd⟩
  unfold escapeChar at hd
  split at hd
  · rw [List.mem_append, List.mem_append, List.mem_cons, List.mem_singleton,
      List.mem_singleton] at hd
    rcases hd with ((rfl | rfl) | hd) | rfl
    · exact ha rfl
    · cases hr
    · rw [isReferred_of_isDigit (isDigit_of_mem_decimal hd)] at hr
      cases hr
    · cases hr
  · next hn =>
    rw [List.mem_singleton] at hd
    exact hn (hd ▸ hr)

theorem isReferred_of_isBlank (h : isBlank c = true) : isReferred c = true := by
  simp only [isBlank, Bool.or_eq_true, beq_iff_eq] at h
  rcases h with ((rfl | rfl) | rfl) | rfl <;> rfl

theorem isBlank_of_mem_escape (h : c ∈ escape s) : isBlank c = false := by
  rw [Bool.eq_false_iff]
  intro hb
  refine not_mem_escape (isReferred_of_isBlank hb) ?_ h
  rintro rfl
  cases hb

theorem cutReference_append (hs : ∀ c ∈ s, c ≠ ';' ∧ c ≠ '&') :
    cutReference (s ++ ';' :: t) = some (s, t) := by
  induction s with
  | nil => rfl
  | cons c s ih =>
    obtain ⟨h1, h2⟩ := hs c (List.mem_cons_self ..)
    rw [List.cons_append, cutReference, if_neg h1, if_neg h2,
      ih fun d hd => hs d (List.mem_cons_of_mem _ hd)]
    rfl

theorem resolveFrom_escape (size position : Nat) (s : Text) :
    resolveFrom size position (escape s) = .ok s := by
  induction s generalizing position with
  | nil => rw [escape, List.flatMap_nil, resolveFrom]
  | cons c s ih =>
    rw [escape_cons, escapeChar]
    split
    · next hc =>
      have hcut : cutReference ('#' :: Text.decimal c.toNat ++ ';' :: escape s) =
          some ('#' :: Text.decimal c.toNat, escape s) := by
        refine cutReference_append fun d hd => ?_
        rcases List.mem_cons.mp hd with rfl | hd
        · decide
        · constructor <;> rintro rfl <;> exact absurd hd (not_mem_decimal rfl)
      have hshape : ['&', '#'] ++ Text.decimal c.toNat ++ [';'] ++ escape s =
          '&' :: ('#' :: Text.decimal c.toNat ++ ';' :: escape s) := by simp
      rw [hshape, resolveFrom, if_pos rfl]
      split
      · next hn => rw [hcut] at hn; cases hn
      · next name rest hn =>
        rw [hcut] at hn
        cases hn
        simp only [referent, character_decimal (toNat_ne_zero_of_isReferred hc), ih, bind,
          Except.bind, pure, Except.pure]
    · next hc =>
      have hne : c ≠ '&' := by
        rintro rfl
        exact hc rfl
      rw [List.singleton_append, resolveFrom, if_neg hne, ih]
      rfl

/-- Resolving gives an escaped text back. -/
theorem resolve_escape (s : Text) : resolve (escape s) = .ok s := resolveFrom_escape _ _ s

end RegisterMap.Markup
