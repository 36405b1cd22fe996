import Mathlib.Data.List.TakeWhile
import RegisterMap.Markup.Stream
import RegisterMap.Proofs.Text.Basic

/-!
# Scanning what is rendered

A token is `Sealed` when it ends itself: it is scanned off whatever follows it.
Tags of names are sealed, and so are comments and CDATA sections in which their
end does not begin. A text piece is not, and ends where markup begins.
-/

namespace RegisterMap.Markup

variable {c : Char} {s rest tag name : Text} {t : Token}

/-! ## Names -/

/-- What ends a name or a tag, opens a quote in it or makes it other markup. -/
def tagMarks : Text := [' ', '\t', '\r', '\n', '>', '/', '\x27', '\x22', '!', '?']

/-- A tag that is a name, one character long at least. -/
structure Unmarked (tag : Text) : Prop where
  nonempty : tag ≠ []
  free : ∀ c ∈ tag, c ∉ tagMarks

instance (tag : Text) : Decidable (Unmarked tag) :=
  decidable_of_iff (tag ≠ [] ∧ tag.all (fun c => decide (c ∉ tagMarks)) = true)
    ⟨fun h => ⟨h.1, fun c hc => of_decide_eq_true (List.all_eq_true.mp h.2 c hc)⟩,
      fun h => ⟨h.nonempty, List.all_eq_true.mpr fun c hc => decide_eq_true (h.free c hc)⟩⟩

theorem Unmarked.ne (h : Unmarked tag) (hc : c ∈ tag) {d : Char} (hd : d ∈ tagMarks) : c ≠ d :=
  fun he => h.free c hc (he ▸ hd)

theorem Unmarked.not_blank (h : Unmarked tag) (hc : c ∈ tag) : isBlank c = false := by
  simp only [isBlank, Bool.or_eq_false_iff, beq_eq_false_iff_ne]
  exact ⟨⟨⟨h.ne hc (by decide), h.ne hc (by decide)⟩, h.ne hc (by decide)⟩, h.ne hc (by decide)⟩

theorem Unmarked.getLast?_ne (h : Unmarked tag) {d : Char} (hd : d ∈ tagMarks) :
    tag.getLast? ≠ some d :=
  fun hl => h.ne (List.mem_of_getLast? hl) hd rfl

theorem tagName_of_unmarked (h : Unmarked tag) : tagName tag = tag :=
  List.takeWhile_eq_self_iff.mpr fun c hc => by simp [h.not_blank hc]

def isNameChar (c : Char) : Bool := c.isAlphanum || c == '_' || c == '-'

/-- A tag that is a plain name, one character long at least. -/
structure IsName (tag : Text) : Prop where
  nonempty : tag ≠ []
  plain : ∀ c ∈ tag, isNameChar c = true

instance (tag : Text) : Decidable (IsName tag) :=
  decidable_of_iff (tag ≠ [] ∧ tag.all isNameChar = true)
    ⟨fun h => ⟨h.1, List.all_eq_true.mp h.2⟩, fun h => ⟨h.nonempty, List.all_eq_true.mpr h.plain⟩⟩

/-- Letters and digits mark nothing, in any script. -/
theorem unmarked_of_letters (hs : tag ≠ [])
    (h : ∀ c ∈ tag, isNameChar c = true ∨ 128 ≤ c.toNat) : Unmarked tag := by
  -- over the list itself, for `∀ d ∈ tagMarks` may be decided by going through all characters
  have hmarks : tagMarks.all (fun d => decide (isNameChar d = false ∧ d.toNat < 128)) = true := by
    decide
  refine ⟨hs, fun c hc hm => ?_⟩
  obtain ⟨hn, hlt⟩ := of_decide_eq_true (List.all_eq_true.mp hmarks c hm)
  rcases h c hc with hp | hge
  · rw [hn] at hp
    cases hp
  · exact absurd hlt (Nat.not_lt.mpr hge)

theorem IsName.unmarked (h : IsName tag) : Unmarked tag :=
  unmarked_of_letters h.nonempty fun c hc => .inl (h.plain c hc)

theorem IsName.ne (h : IsName tag) (hc : c ∈ tag) {d : Char} (hd : isNameChar d = false) :
    c ≠ d := by
  rintro rfl
  rw [h.plain c hc] at hd
  cases hd

theorem IsName.not_blank (h : IsName tag) (hc : c ∈ tag) : isBlank c = false :=
  h.unmarked.not_blank hc

theorem tagName_of_isName (h : IsName tag) : tagName tag = tag :=
  tagName_of_unmarked h.unmarked

/-! ## Sealed tokens -/

/-- The token is scanned off whatever follows it. -/
def Token.Sealed (t : Token) : Prop := ∀ rest, scan? (t.render ++ rest) = some (.ok (t, rest))

/-- A tag ends at its `>` when no quote opens inside it. -/
theorem cutTag_append (h : ∀ c ∈ s, c ≠ '>' ∧ c ≠ '\x27' ∧ c ≠ '\x22') :
    cutTag none (s ++ '>' :: rest) = some (s, rest) := by
  induction s with
  | nil => rfl
  | cons c s ih =>
    obtain ⟨h1, h2, h3⟩ := h c (List.mem_cons_self ..)
    simp only [List.cons_append, cutTag, h1, h2, h3, or_self, ↓reduceIte,
      ih fun d hd => h d (List.mem_cons_of_mem _ hd), Option.map_some]

theorem Unmarked.unquoted (h : Unmarked tag) : ∀ c ∈ tag, c ≠ '>' ∧ c ≠ '\x27' ∧ c ≠ '\x22' :=
  fun _ hc => ⟨h.ne hc (by decide), h.ne hc (by decide), h.ne hc (by decide)⟩

theorem scan?_name (h : Unmarked tag) (s : Text) :
    scan? ('<' :: (tag ++ s)) = some (scanOpening (tag ++ s)) := by
  cases tag with
  | nil => exact absurd rfl h.nonempty
  | cons c tag =>
    have hc : c ∈ c :: tag := List.mem_cons_self ..
    rw [scan?, List.cons_append, scanMarkup]
    · exact fun he => h.ne hc (by decide) he
    · exact fun he => h.ne hc (by decide) he
    · exact fun he => h.ne hc (by decide) he

theorem sealed_opening (h : Unmarked tag) : (Token.opening tag).Sealed := by
  intro rest
  have hr : (Token.opening tag).render ++ rest = '<' :: (tag ++ '>' :: rest) := by
    simp [Token.render, openingTag]
  rw [hr, scan?_name h, scanOpening, cutTag_append h.unquoted]
  simp only [h.getLast?_ne (d := '/') (by decide), ↓reduceIte]

theorem sealed_empty (h : Unmarked tag) : (Token.empty tag).Sealed := by
  intro rest
  have hr : (Token.empty tag).render ++ rest = '<' :: (tag ++ ['/'] ++ '>' :: rest) := by
    simp [Token.render, emptyTag]
  have hq : ∀ c ∈ tag ++ ['/'], c ≠ '>' ∧ c ≠ '\x27' ∧ c ≠ '\x22' := by
    intro c hc
    rcases List.mem_append.mp hc with hc | hc
    · exact h.unquoted c hc
    · cases List.mem_singleton.mp hc
      decide
  rw [hr, List.append_assoc, scan?_name h, ← List.append_assoc, scanOpening, cutTag_append hq]
  simp only [List.getLast?_concat, List.dropLast_concat, ↓reduceIte]

theorem sealed_closing (h : Unmarked tag) : (Token.closing tag).Sealed := by
  intro rest
  have hr : (Token.closing tag).render ++ rest = '<' :: '/' :: (tag ++ '>' :: rest) := by
    simp [Token.render, closingTag]
  rw [hr, scan?, scanMarkup, scanClosing, cutTag_append h.unquoted]

theorem sealed_comment (h : ¬ ['-', '-'] <:+: s) : (Token.piece (.comment s)).Sealed := by
  intro rest
  have hp : (Piece.comment s).render = '<' :: '!' :: '-' :: '-' :: s ++ ['-', '-', '>'] := rfl
  have hr : (Token.piece (.comment s)).render ++ rest =
      '<' :: '!' :: '-' :: '-' :: (s ++ (['-', '-', '>'] ++ rest)) := by
    rw [Token.render, hp, List.append_assoc]
    rfl
  have hmark : "-->".toList = ['-', '-', '>'] := rfl
  rw [hr, scan?, scanMarkup, scanBang, hmark, Text.cut_doubled h (by decide), scanPiece]

theorem sealed_cdata (h : ¬ [']', ']'] <:+: s) : (Token.piece (.cdata s)).Sealed := by
  intro rest
  have hp : (Piece.cdata s).render = "<![CDATA[".toList ++ s ++ [']', ']', '>'] := rfl
  have hr : (Token.piece (.cdata s)).render ++ rest =
      '<' :: '!' :: '[' :: ("CDATA[".toList ++ (s ++ ([']', ']', '>'] ++ rest))) := by
    rw [Token.render, hp, List.append_assoc, List.append_assoc]
    rfl
  have hmark : "]]>".toList = [']', ']', '>'] := rfl
  rw [hr, scan?, scanMarkup, scanBang, Text.after?_append, hmark]
  simp only [Text.cut_doubled h (by decide : ']' ≠ '>'), scanPiece]

/-! ## Text pieces -/

/-- The text goes on with markup, or ends. -/
def Breaks (s : Text) : Prop := ∀ c, s.head? = some c → c = '<'

theorem takeWhile_of_breaks (h : Breaks s) : s.takeWhile (· ≠ '<') = [] := by
  cases s with
  | nil => rfl
  | cons c s => simp [h c rfl]

theorem dropWhile_of_breaks (h : Breaks s) : s.dropWhile (· ≠ '<') = s := by
  cases s with
  | nil => rfl
  | cons c s => simp [h c rfl]

theorem scan?_text (hs : s ≠ []) (hn : '<' ∉ s) (hr : Breaks rest) :
    scan? (s ++ rest) = some (.ok (.piece (.text s), rest)) := by
  cases s with
  | nil => exact absurd rfl hs
  | cons c s =>
    rw [List.mem_cons, not_or] at hn
    have hp : ∀ d ∈ s, decide (d ≠ '<') = true := by
      intro d hd
      rw [decide_eq_true_eq]
      rintro rfl
      exact hn.2 hd
    rw [List.cons_append, scan?, List.takeWhile_append_of_pos hp, List.dropWhile_append_of_pos hp,
      takeWhile_of_breaks hr, dropWhile_of_breaks hr, List.append_nil]
    exact fun he => hn.1 he.symm

/-! ## Streams -/

theorem stream_nil : stream [] = ⟨[], none⟩ := by
  rw [stream]
  rfl

theorem stream_of_scan? (h : scan? s = some (.ok (t, rest))) :
    stream s = ⟨t :: (stream rest).tokens, (stream rest).fault⟩ := by
  rw [stream]
  split
  · next hn => rw [h] at hn; cases hn
  · next hn => rw [h] at hn; cases hn
  · next hn =>
    rw [h] at hn
    cases hn
    rfl

theorem Token.Sealed.stream (h : t.Sealed) (rest : Text) :
    Markup.stream (t.render ++ rest) =
      ⟨t :: (Markup.stream rest).tokens, (Markup.stream rest).fault⟩ :=
  stream_of_scan? (h rest)

end RegisterMap.Markup
