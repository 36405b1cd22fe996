import RegisterMap.Markup.Token

/-!
# Token streams

A text is a stream of tokens that the end of the text or a fault stops. Each
token takes a character at least (`scan?_length`).
-/

namespace RegisterMap.Markup

theorem cutTag_length {q : Option Char} {s tag rest : Text} (h : cutTag q s = some (tag, rest)) :
    rest.length < s.length := by
  induction s generalizing q tag with
  | nil => cases h
  | cons c s ih =>
    have step : ∀ q', ((cutTag q' s).map fun x => (c :: x.1, x.2)) = some (tag, rest) →
        rest.length < (c :: s).length := by
      intro q' h
      simp only [Option.map_eq_some_iff, Prod.mk.injEq, Prod.exists] at h
      obtain ⟨t, r, hr, -, rfl⟩ := h
      exact Nat.lt_succ_of_lt (ih hr)
    unfold cutTag at h
    split at h
    · split at h
      · cases h; simp
      · exact step _ h
    · exact step _ h

theorem cutBalanced_length {d : Nat} {s inside rest : Text}
    (h : cutBalanced d s = some (inside, rest)) : rest.length < s.length := by
  induction s generalizing d inside with
  | nil => cases h
  | cons c s ih =>
    unfold cutBalanced at h
    split at h
    · cases h; simp
    · simp only [Option.map_eq_some_iff, Prod.mk.injEq, Prod.exists] at h
      obtain ⟨t, r, hr, -, rfl⟩ := h
      exact Nat.lt_succ_of_lt (ih hr)

theorem scanPiece_length {piece : Text → Piece} {fault : ScanFault} {mark s rest : Text} {t : Token}
    (h : scanPiece piece fault (Text.cut mark s) = .ok (t, rest)) : rest.length ≤ s.length := by
  unfold scanPiece at h
  split at h
  · rename_i i r hr
    cases h
    exact Text.cut_length hr
  · cases h

theorem scanDoctype_length {s rest : Text} {t : Token} (h : scanDoctype s = .ok (t, rest)) :
    rest.length ≤ s.length := by
  unfold scanDoctype at h
  split at h
  · cases h
  · rename_i hr
    split at h
    · cases h
    · split at h
      · cases h
      · cases h; exact Nat.le_of_lt (cutBalanced_length hr)

theorem scanBang_length {s rest : Text} {t : Token} (h : scanBang s = .ok (t, rest)) :
    rest.length ≤ s.length := by
  unfold scanBang at h
  split at h
  · split at h
    · have := scanPiece_length h; simp; omega
    · cases h
  · split at h
    · rename_i hr
      have := scanPiece_length h
      have := Text.after?_length hr
      simp; omega
    · cases h
  · exact scanDoctype_length h
  · exact scanDoctype_length h
  · cases h

theorem scanMarkup_length {s rest : Text} {t : Token} (h : scanMarkup s = .ok (t, rest)) :
    rest.length ≤ s.length := by
  unfold scanMarkup at h
  split at h
  · cases h
  · have := scanBang_length h; simp; omega
  · unfold scanClosing at h
    split at h
    · rename_i hr
      cases h
      have := cutTag_length hr; simp; omega
    · cases h
  · unfold scanInstruction at h
    split at h
    · cases h
    · have := scanPiece_length h; simp; omega
  · unfold scanOpening at h
    split at h
    · rename_i hr
      have := cutTag_length hr
      split at h <;> cases h <;> omega
    · cases h

/-- A token takes a character at least. -/
theorem scan?_length {s rest : Text} {t : Token} (h : scan? s = some (.ok (t, rest))) :
    rest.length < s.length := by
  unfold scan? at h
  split at h
  · cases h
  · have := scanMarkup_length (Option.some.inj h); simp; omega
  · cases h
    exact Nat.lt_succ_of_le (List.dropWhile_sublist _).length_le

/-- Tokens, and the fault that stops them if the end of the text does not. -/
structure Stream where
  tokens : List Token
  fault : Option Fault
  deriving DecidableEq, Repr

def stream (s : Text) : Stream :=
  match _h : scan? s with
  | none => ⟨[], none⟩
  | some (.error e) => ⟨[], some e⟩
  | some (.ok (t, rest)) =>
    let r := stream rest
    ⟨t :: r.tokens, r.fault⟩
termination_by s.length
decreasing_by all_goals exact scan?_length _h

end RegisterMap.Markup
