import RegisterMap.Proofs.Text.Basic
import RegisterMap.Prose.Lines

/-!
# Carriage returns before line feeds

`withReturns` writes a text with the other line ends: every line feed gets a
carriage return before it. Trimming and cutting go through it where neither
character matters. A text `Returned` from another has such carriage returns at
some of its line feeds; it has the same documentation lines, unless one of these
line feeds had a carriage return already (`Prose.docLines_returned`).
-/

namespace RegisterMap.Text

variable {p : Char → Bool} {c : Char} {s t mark word : Text}

/-- The text with a carriage return before every line feed. -/
def withReturns (s : Text) : Text := s.flatMap fun c => if c = '\n' then ['\r', '\n'] else [c]

theorem withReturns_append (s t : Text) :
    withReturns (s ++ t) = withReturns s ++ withReturns t := List.flatMap_append

theorem withReturns_feed (s : Text) : withReturns ('\n' :: s) = '\r' :: '\n' :: withReturns s := rfl

theorem withReturns_cons (hc : c ≠ '\n') (s : Text) :
    withReturns (c :: s) = c :: withReturns s := by
  rw [withReturns, List.flatMap_cons, if_neg hc]
  rfl

theorem withReturns_of_not_mem (h : '\n' ∉ s) : withReturns s = s := by
  induction s with
  | nil => rfl
  | cons c s ih =>
    rw [List.mem_cons, not_or] at h
    rw [withReturns_cons (Ne.symm h.1), ih h.2]

theorem withReturns_eq_nil : withReturns s = [] ↔ s = [] := by
  cases s with
  | nil => exact Iff.rfl
  | cons c s =>
    by_cases hc : c = '\n'
    · subst hc
      exact iff_of_false nofun nofun
    · rw [withReturns_cons hc]
      exact iff_of_false nofun nofun

theorem mem_withReturns (h : c ∈ withReturns s) : c ∈ s ∨ c = '\r' := by
  obtain ⟨d, hd, hc⟩ := List.mem_flatMap.mp h
  split at hc
  · next hn =>
    rcases List.mem_cons.mp hc with rfl | hc
    · exact .inr rfl
    · rw [List.mem_singleton.mp hc, ← hn]
      exact .inl hd
  · rw [List.mem_singleton.mp hc]
    exact .inl hd

theorem all_withReturns (hp : p '\r' = p '\n') (s : Text) : (withReturns s).all p = s.all p := by
  induction s with
  | nil => rfl
  | cons c s ih =>
    by_cases hc : c = '\n'
    · subst hc
      rw [withReturns_feed, List.all_cons, List.all_cons, List.all_cons, ih, hp, ← Bool.and_assoc,
        Bool.and_self]
    · rw [withReturns_cons hc, List.all_cons, List.all_cons, ih]

/-! ## Trimming -/

theorem dropWhile_withReturns (hr : p '\r' = true) (hn : p '\n' = true) (s : Text) :
    (withReturns s).dropWhile p = withReturns (s.dropWhile p) := by
  induction s with
  | nil => rfl
  | cons c s ih =>
    by_cases hc : c = '\n'
    · subst hc
      rw [withReturns_feed, List.dropWhile_cons_of_pos hr, List.dropWhile_cons_of_pos hn, ih,
        List.dropWhile_cons_of_pos hn]
    · rw [withReturns_cons hc, List.dropWhile_cons, List.dropWhile_cons, ih]
      split
      · rfl
      · rw [withReturns_cons hc]

theorem trimEndBy_cons_of_nil (h : trimEndBy p s = []) (c : Char) :
    trimEndBy p (c :: s) = if p c = true then [] else [c] := by
  rw [trimEndBy, h]

theorem trimEndBy_cons_of_ne (h : trimEndBy p s ≠ []) (c : Char) :
    trimEndBy p (c :: s) = c :: trimEndBy p s := by
  rw [trimEndBy]
  split
  · next hn => exact absurd hn h
  · next hs => rw [hs]

theorem trimEndBy_withReturns (hr : p '\r' = true) (hn : p '\n' = true) (s : Text) :
    trimEndBy p (withReturns s) = withReturns (trimEndBy p s) := by
  induction s with
  | nil => rfl
  | cons c s ih =>
    by_cases hs : trimEndBy p s = []
    · have hs' : trimEndBy p (withReturns s) = [] := by rw [ih, hs]; rfl
      by_cases hc : c = '\n'
      · subst hc
        have hfeed : trimEndBy p ('\n' :: withReturns s) = [] := by
          rw [trimEndBy_cons_of_nil hs', if_pos hn]
        rw [withReturns_feed, trimEndBy_cons_of_nil hfeed, if_pos hr, trimEndBy_cons_of_nil hs,
          if_pos hn]
        rfl
      · rw [withReturns_cons hc, trimEndBy_cons_of_nil hs', trimEndBy_cons_of_nil hs]
        split
        · rfl
        · rw [withReturns_cons hc]
          rfl
    · have hs' : trimEndBy p (withReturns s) ≠ [] := by
        rw [ih]
        exact mt withReturns_eq_nil.mp hs
      by_cases hc : c = '\n'
      · subst hc
        have hfeed : trimEndBy p ('\n' :: withReturns s) ≠ [] := by
          rw [trimEndBy_cons_of_ne hs']
          exact List.cons_ne_nil _ _
        rw [withReturns_feed, trimEndBy_cons_of_ne hfeed, trimEndBy_cons_of_ne hs', ih,
          trimEndBy_cons_of_ne hs, withReturns_feed]
      · rw [withReturns_cons hc, trimEndBy_cons_of_ne hs', trimEndBy_cons_of_ne hs, ih,
          withReturns_cons hc]

/-! ## Cutting -/

def OneLine (s : Text) : Prop := '\n' ∉ s ∧ '\r' ∉ s

instance (s : Text) : Decidable (OneLine s) := inferInstanceAs (Decidable (_ ∧ _))

theorem OneLine.cons_iff : OneLine (c :: s) ↔ (c ≠ '\n' ∧ c ≠ '\r') ∧ OneLine s := by
  unfold OneLine
  rw [List.mem_cons, List.mem_cons, not_or, not_or]
  constructor
  · rintro ⟨⟨hn, hs⟩, hr, hs'⟩
    exact ⟨⟨Ne.symm hn, Ne.symm hr⟩, hs, hs'⟩
  · rintro ⟨⟨hn, hr⟩, hs, hs'⟩
    exact ⟨⟨Ne.symm hn, hs⟩, Ne.symm hr, hs'⟩

theorem after?_withReturns (hm : OneLine mark) (s : Text) :
    after? mark (withReturns s) = (after? mark s).map withReturns := by
  induction mark generalizing s with
  | nil => rfl
  | cons m mark ih =>
    obtain ⟨⟨hn, hr⟩, hm⟩ := OneLine.cons_iff.mp hm
    cases s with
    | nil => rfl
    | cons c s =>
      by_cases hc : c = '\n'
      · subst hc
        rw [withReturns_feed, after?, if_neg hr, after?, if_neg hn]
        rfl
      · rw [withReturns_cons hc, after?, after?, ih hm]
        split <;> rfl

theorem afterAnyCase?_withReturns (hw : OneLine word) (s : Text) :
    afterAnyCase? word (withReturns s) = (afterAnyCase? word s).map withReturns := by
  induction word generalizing s with
  | nil => rfl
  | cons w word ih =>
    obtain ⟨⟨hn, hr⟩, hw⟩ := OneLine.cons_iff.mp hw
    cases s with
    | nil => rfl
    | cons c s =>
      by_cases hc : c = '\n'
      · subst hc
        have hreturn : '\r'.toLower = '\r' := by decide
        have hfeed : '\n'.toLower = '\n' := by decide
        rw [withReturns_feed, afterAnyCase?, hreturn, if_neg (Ne.symm hr), afterAnyCase?, hfeed,
          if_neg (Ne.symm hn)]
        rfl
      · rw [withReturns_cons hc, afterAnyCase?, afterAnyCase?, ih hw]
        split <;> rfl

theorem cut_withReturns (hm : OneLine mark) (s : Text) : cut mark (withReturns s) =
    (cut mark s).map fun x => (withReturns x.1, withReturns x.2) := by
  induction s with
  | nil =>
    have hnil := after?_withReturns hm []
    rw [cut, Option.map_map]
    show (after? mark (withReturns [])).map ([], ·) = _
    rw [hnil, Option.map_map]
    rfl
  | cons c s ih =>
    have hafter := after?_withReturns hm (c :: s)
    cases ha : after? mark (c :: s) with
    | some rest =>
      rw [ha] at hafter
      rw [cut, ha]
      cases hw : withReturns (c :: s) with
      | nil => exact absurd (withReturns_eq_nil.mp hw) (List.cons_ne_nil _ _)
      | cons d u =>
        rw [hw] at hafter
        rw [cut, hafter]
        rfl
    | none =>
      rw [ha] at hafter
      rw [cut, ha]
      by_cases hc : c = '\n'
      · subst hc
        -- the mark does not begin with the line feed either
        have hfeed : after? mark ('\n' :: withReturns s) = none := by
          cases mark with
          | nil => cases ha
          | cons m mark => rw [after?, if_neg (OneLine.cons_iff.mp hm).1.1]
        rw [withReturns_feed] at hafter ⊢
        rw [cut, hafter, cut, hfeed, ih]
        cases cut mark s <;> rfl
      · rw [withReturns_cons hc] at hafter ⊢
        rw [cut, hafter, ih]
        cases cut mark s with
        | none => rfl
        | some x => simp [withReturns_cons hc]

/-! ## Some line feeds -/

/-- The second text has carriage returns before some line feeds of the first. -/
inductive Returned : Text → Text → Prop
  | nil : Returned [] []
  | keep {s t : Text} (c : Char) : Returned s t → Returned (c :: s) (c :: t)
  | feed {s t : Text} : Returned s t → Returned ('\n' :: s) ('\r' :: '\n' :: t)

namespace Returned

theorem refl (s : Text) : Returned s s := by
  induction s with
  | nil => exact .nil
  | cons c s ih => exact .keep c ih

theorem withReturns (s : Text) : Returned s (withReturns s) := by
  induction s with
  | nil => exact .nil
  | cons c s ih =>
    by_cases hc : c = '\n'
    · subst hc
      exact .feed ih
    · rw [withReturns_cons hc]
      exact .keep c ih

theorem append {u v : Text} (h : Returned s t) (hu : Returned u v) : Returned (s ++ u) (t ++ v) := by
  induction h with
  | nil => exact hu
  | keep c _ ih => exact .keep c ih
  | feed _ ih => exact .feed ih

theorem head (h : Returned s t) (ht : t.head? = some '\n') : s.head? = some '\n' := by
  cases h with
  | nil => cases ht
  | keep c _ => exact ht
  | feed _ => rfl

end Returned

end RegisterMap.Text

namespace RegisterMap.Prose

open Text

variable {c : Char} {s t : Text}

def lineEnd : Text := ['\r', '\n']

theorem unifyLineEnds_cons (h : c ≠ '\r' ∨ s.head? ≠ some '\n') :
    unifyLineEnds (c :: s) = (if c = '\r' then '\n' else c) :: unifyLineEnds s := by
  rw [unifyLineEnds]
  rintro s' rfl rfl
  exact h.elim (absurd rfl) (absurd rfl)

/-- Line ends are unified to the same, if there was no carriage return before a line feed. -/
theorem unifyLineEnds_returned (h : Returned s t) (hs : ¬ lineEnd <:+: s) :
    unifyLineEnds t = unifyLineEnds s := by
  induction h with
  | nil => rfl
  | @keep s t c hst ih =>
    have ih := ih fun hi => hs (hi.trans (List.suffix_cons c s).isInfix)
    by_cases hc : c = '\r'
    · subst hc
      have hhead : s.head? ≠ some '\n' := by
        intro hh
        obtain ⟨u, rfl⟩ := List.head?_eq_some_iff.mp hh
        exact hs ⟨[], u, rfl⟩
      rw [unifyLineEnds_cons (.inr hhead), unifyLineEnds_cons (.inr (mt hst.head hhead)), ih]
    · rw [unifyLineEnds_cons (.inl hc), unifyLineEnds_cons (.inl hc), ih]
  | @feed s t _ ih =>
    have ih := ih fun hi => hs (hi.trans (List.suffix_cons '\n' s).isInfix)
    have hne : '\n' ≠ '\r' := by decide
    rw [unifyLineEnds, ih, unifyLineEnds_cons (.inl hne), if_neg hne]

theorem docLines_returned (h : Returned s t) (hs : ¬ lineEnd <:+: s) : docLines t = docLines s := by
  rw [docLines, docLines, unifyLineEnds_returned h hs]

end RegisterMap.Prose
