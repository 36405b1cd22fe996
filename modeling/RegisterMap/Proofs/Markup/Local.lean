import Mathlib.Data.List.Basic
import RegisterMap.Proofs.Markup.Forest

/-!
# Scanning is local

What is scanned off a text depends on the token and not on what follows it; only
a text piece goes on to the next `<`. So the tokens of a stream are `Scanned`,
and content that nests out of them is sound: parsing accepts exactly the
renderings of sound content (`parse_eq_ok_iff`).
-/

namespace RegisterMap.Markup

variable {s rest : Text} {t : Token} {ts : List Token}

/-! ## Cuts -/

/-- A text is cut at its first mark, whatever follows the mark. -/
def CutsAt (mark : Text) (cut : Text → Option (Text × Text)) : Prop :=
  ∀ {s a rest}, cut s = some (a, rest) →
    s = a ++ (mark ++ rest) ∧ ∀ rest', cut (a ++ (mark ++ rest')) = some (a, rest')

theorem cutsAt_cut (mark : Text) : CutsAt mark (Text.cut mark) := by
  intro s a rest h
  induction s generalizing a with
  | nil =>
    simp only [Text.cut, Option.map_eq_some_iff, Prod.mk.injEq] at h
    obtain ⟨r, hr, rfl, rfl⟩ := h
    have hs := Text.eq_append_of_after? hr
    exact ⟨hs, Text.cut_mark mark⟩
  | cons c s ih =>
    unfold Text.cut at h
    split at h
    · next r hr =>
      cases h
      have hs := Text.eq_append_of_after? hr
      exact ⟨hs, Text.cut_mark mark⟩
    · next hn =>
      simp only [Option.map_eq_some_iff, Prod.mk.injEq, Prod.exists] at h
      obtain ⟨b, r, hr, rfl, rfl⟩ := h
      obtain ⟨hs, hcut⟩ := ih hr
      refine ⟨by rw [hs]; rfl, fun rest' => ?_⟩
      -- the mark does not begin earlier: it would end before `rest'` does
      have hnone : Text.after? mark (c :: (b ++ (mark ++ rest'))) = none := by
        rw [Text.after?_eq_none, ← List.cons_append, ← List.append_assoc]
        rw [Text.after?_eq_none, hs, ← List.cons_append, ← List.append_assoc] at hn
        intro hp
        have hb : mark <+: c :: b ++ mark :=
          List.prefix_of_prefix_length_le hp (List.prefix_append _ _) (by simp; omega)
        exact hn (hb.trans (List.prefix_append _ _))
      rw [List.cons_append, Text.cut, hnone]
      simp only [hcut, Option.map_some]

theorem cutsAt_cutTag (q : Option Char) : CutsAt ['>'] (cutTag q) := by
  intro s a rest h
  induction s generalizing q a with
  | nil => cases h
  | cons c s ih =>
    have step : ∀ q', ((cutTag q' s).map fun x => (c :: x.1, x.2)) = some (a, rest) →
        ∃ b, a = c :: b ∧ s = b ++ (['>'] ++ rest) ∧
          ∀ rest', cutTag q' (b ++ (['>'] ++ rest')) = some (b, rest') := by
      intro q' h
      simp only [Option.map_eq_some_iff, Prod.mk.injEq, Prod.exists] at h
      obtain ⟨b, r, hr, rfl, rfl⟩ := h
      exact ⟨b, rfl, ih q' hr⟩
    unfold cutTag at h
    cases q with
    | none =>
      simp only at h
      split at h
      · next hc =>
        cases h
        cases hc
        exact ⟨rfl, fun _ => rfl⟩
      · next hc =>
        obtain ⟨b, rfl, hs, hcut⟩ := step _ h
        refine ⟨by rw [hs]; rfl, fun rest' => ?_⟩
        rw [List.cons_append, cutTag]
        simp only [hc, ↓reduceIte, hcut, Option.map_some]
    | some p =>
      obtain ⟨b, rfl, hs, hcut⟩ := step _ h
      refine ⟨by rw [hs]; rfl, fun rest' => ?_⟩
      rw [List.cons_append, cutTag]
      simp only [hcut, Option.map_some]

theorem cutsAt_cutBalanced (d : Nat) : CutsAt ['>'] (cutBalanced d) := by
  intro s a rest h
  induction s generalizing d a with
  | nil => cases h
  | cons c s ih =>
    rw [cutBalanced] at h
    split at h
    · next hc =>
      cases h
      obtain ⟨rfl, rfl⟩ := hc
      exact ⟨rfl, fun _ => rfl⟩
    · next hc =>
      simp only [Option.map_eq_some_iff, Prod.mk.injEq, Prod.exists] at h
      obtain ⟨b, r, hr, rfl, rfl⟩ := h
      obtain ⟨hs, hcut⟩ := ih _ hr
      refine ⟨by rw [hs]; rfl, fun rest' => ?_⟩
      rw [List.cons_append, cutBalanced, if_neg hc]
      simp only [hcut, Option.map_some]

/-! ## Tokens -/

def Token.isText : Token → Bool
  | .piece (.text _) => true
  | _ => false

/-- A text goes on after markup, which is scanned off it as off any other. -/
structure Off (s : Text) (t : Token) (rest : Text) : Prop where
  eq : s = t.render ++ rest
  markup : t.isText = false
  isSealed : t.Sealed

theorem scanPiece_off {piece : Text → Piece} {fault : ScanFault} {mark : Text} (beginning : Text)
    (hrender : ∀ x, (piece x).render = '<' :: beginning ++ x ++ mark)
    (hmarkup : ∀ x, (Token.piece (piece x)).isText = false)
    (hscan : ∀ x rest', s = x ++ (mark ++ rest) →
      scanMarkup (beginning ++ (x ++ (mark ++ rest'))) =
        scanPiece piece fault (Text.cut mark (x ++ (mark ++ rest'))))
    (h : scanPiece piece fault (Text.cut mark s) = .ok (t, rest)) :
    Off ('<' :: (beginning ++ s)) t rest := by
  unfold scanPiece at h
  split at h
  · next inside r hc =>
    cases h
    obtain ⟨hs, hcut⟩ := cutsAt_cut mark hc
    have hr (rest' : Text) : (Token.piece (piece inside)).render ++ rest' =
        '<' :: (beginning ++ (inside ++ (mark ++ rest'))) := by
      rw [Token.render, hrender]
      simp only [List.append_assoc, List.cons_append]
    refine ⟨by rw [hr, hs], hmarkup inside, fun rest' => ?_⟩
    rw [hr, scan?, hscan inside rest' hs, hcut]
    rfl
  · cases h

theorem scanDoctype_off {c : Char} (hd : ∀ x, scanBang (c :: x) = scanDoctype (c :: x))
    (hne : c ≠ '>') (h : scanDoctype (c :: s) = .ok (t, rest)) :
    Off ('<' :: '!' :: c :: s) t rest := by
  unfold scanDoctype at h
  split at h
  · cases h
  · next inside r hc =>
    split at h
    · cases h
    · next name hname =>
      split at h
      · cases h
      · next hb =>
        cases h
        obtain ⟨hs, hcut⟩ := cutsAt_cutBalanced 0 hc
        cases inside with
        | nil => exact absurd (List.cons.inj hs).1 hne
        | cons d inside =>
          obtain ⟨rfl, rfl⟩ := List.cons.inj hs
          have hr (rest' : Text) : (Token.piece (.doctype (c :: inside))).render ++ rest' =
              '<' :: '!' :: c :: (inside ++ (['>'] ++ rest')) := by
            have hd : (Piece.doctype (c :: inside)).render = '<' :: '!' :: c :: (inside ++ ['>']) :=
              rfl
            rw [Token.render, hd]
            simp only [List.cons_append, List.append_assoc]
          refine ⟨(hr _).symm, rfl, fun rest' => ?_⟩
          rw [hr, scan?, scanMarkup, hd, scanDoctype, ← List.cons_append, hcut]
          simp only [hname, hb]
          rfl

theorem scanBang_off (h : scanBang s = .ok (t, rest)) : Off ('<' :: '!' :: s) t rest := by
  unfold scanBang at h
  split at h
  · split at h
    · exact scanPiece_off ['!', '-', '-'] (fun _ => rfl) (fun _ => rfl)
        (fun _ _ _ => rfl) h
    · cases h
  · split at h
    · next s' hs =>
      rw [Text.eq_append_of_after? hs]
      exact scanPiece_off "![CDATA[".toList (fun _ => rfl) (fun _ => rfl)
        (fun _ _ _ => rfl) h
    · cases h
  · exact scanDoctype_off (fun _ => rfl) (by decide) h
  · exact scanDoctype_off (fun _ => rfl) (by decide) h
  · cases h

theorem scanInstruction_off (h : scanInstruction s = .ok (t, rest)) :
    Off ('<' :: '?' :: s) t rest := by
  unfold scanInstruction at h
  split at h
  · cases h
  · next hne =>
    refine scanPiece_off ['?'] (fun _ => rfl) (fun _ => rfl)
      (fun x rest' hs => ?_) h
    cases x with
    | nil => rfl
    | cons c x =>
      -- what begins like `s` does not begin with `>` either
      have hc : c ≠ '>' := fun hc => hne _ (hc ▸ hs)
      rw [List.singleton_append, scanMarkup, List.cons_append, scanInstruction]
      exact fun _ he => hc (List.cons.inj he).1

theorem scanClosing_off (h : scanClosing s = .ok (t, rest)) : Off ('<' :: '/' :: s) t rest := by
  unfold scanClosing at h
  split at h
  · next tag r hc =>
    cases h
    obtain ⟨rfl, hcut⟩ := cutsAt_cutTag none hc
    have hr (rest' : Text) : (Token.closing tag).render ++ rest' =
        '<' :: '/' :: (tag ++ (['>'] ++ rest')) := by
      simp [Token.render, closingTag]
    refine ⟨(hr _).symm, rfl, fun rest' => ?_⟩
    rw [hr, scan?, scanMarkup, scanClosing, hcut]
  · cases h

theorem scanMarkup_of_ne {x : Text} (hx : ∀ c, x.head? = some c → c ≠ '!' ∧ c ≠ '/' ∧ c ≠ '?')
    (hne : x ≠ []) : scanMarkup x = scanOpening x := by
  cases x with
  | nil => exact absurd rfl hne
  | cons c x =>
    obtain ⟨h1, h2, h3⟩ := hx c rfl
    rw [scanMarkup]
    · exact h1
    · exact h2
    · exact h3

theorem scanOpening_off (hs : ∀ c, s.head? = some c → c ≠ '!' ∧ c ≠ '/' ∧ c ≠ '?')
    (h : scanOpening s = .ok (t, rest)) : Off ('<' :: s) t rest := by
  unfold scanOpening at h
  split at h
  · next tag r hc =>
    obtain ⟨rfl, hcut⟩ := cutsAt_cutTag none hc
    -- the tag begins as `s` does, whatever follows it
    have hhead (rest' : Text) : ∀ c, (tag ++ (['>'] ++ rest')).head? = some c →
        c ≠ '!' ∧ c ≠ '/' ∧ c ≠ '?' := by
      intro c he
      cases tag with
      | nil =>
        cases he
        decide
      | cons d tag => exact hs c he
    have hopen (rest' : Text) : scan? ('<' :: (tag ++ (['>'] ++ rest'))) =
        some (scanOpening (tag ++ (['>'] ++ rest'))) := by
      rw [scan?, scanMarkup_of_ne (hhead rest') (by simp)]
    split at h
    · next hl =>
      cases h
      have hr (rest' : Text) : (Token.empty tag.dropLast).render ++ rest' =
          '<' :: (tag ++ (['>'] ++ rest')) := by
        have htag : tag.dropLast ++ ['/'] = tag := List.dropLast_append_getLast? _ hl
        rw [Token.render, emptyTag, ← htag]
        simp
      refine ⟨(hr _).symm, rfl, fun rest' => ?_⟩
      rw [hr, hopen, scanOpening, hcut]
      simp only [hl, ↓reduceIte]
    · next hl =>
      cases h
      have hr (rest' : Text) : (Token.opening tag).render ++ rest' =
          '<' :: (tag ++ (['>'] ++ rest')) := by
        simp [Token.render, openingTag]
      refine ⟨(hr _).symm, rfl, fun rest' => ?_⟩
      rw [hr, hopen, scanOpening, hcut]
      simp only [hl, ↓reduceIte]
  · cases h

theorem scanMarkup_off (h : scanMarkup s = .ok (t, rest)) : Off ('<' :: s) t rest := by
  unfold scanMarkup at h
  split at h
  · cases h
  · exact scanBang_off h
  · exact scanClosing_off h
  · exact scanInstruction_off h
  · next c s h1 h2 h3 =>
    refine scanOpening_off (fun d hd => ?_) h
    cases hd
    exact ⟨h1, h2, h3⟩

theorem breaks_dropWhile (s : Text) : Breaks (s.dropWhile (· ≠ '<')) := by
  intro c hc
  have := List.head?_dropWhile_not (· ≠ '<') s
  rw [hc] at this
  simpa using this

/-- What is scanned off a text: markup, or text up to where markup begins. -/
inductive Step (s : Text) : Token → Text → Prop
  | markup {t : Token} {rest : Text} : Off s t rest → Step s t rest
  | text {a rest : Text} : a ≠ [] → '<' ∉ a → Breaks rest → s = a ++ rest →
      Step s (.piece (.text a)) rest

theorem scan?_step (h : scan? s = some (.ok (t, rest))) : Step s t rest := by
  unfold scan? at h
  split at h
  · cases h
  · exact .markup (scanMarkup_off (Option.some.inj h))
  · next c s hc =>
    cases h
    refine .text (by simp) ?_ (breaks_dropWhile s) (by simp)
    rw [List.mem_cons, not_or]
    refine ⟨fun he => hc he.symm, fun hm => ?_⟩
    simpa using List.mem_takeWhile_imp hm

/-! ## Streams -/

def startsText : List Token → Bool
  | [] => false
  | t :: _ => t.isText

/-- Tokens that are scanned back from what they render. -/
inductive Legible : List Token → Prop
  | nil : Legible []
  | text {a : Text} {ts : List Token} : a ≠ [] → '<' ∉ a → startsText ts = false → Legible ts →
      Legible (.piece (.text a) :: ts)
  | markup {t : Token} {ts : List Token} : t.isText = false → t.Sealed → Legible ts →
      Legible (t :: ts)

theorem startsText_stream (h : Breaks s) : startsText (stream s).tokens = false := by
  rw [stream]
  split
  · rfl
  · rfl
  · next t rest hs =>
    cases scan?_step hs with
    | markup ho => exact ho.markup
    | @text a _ ha hn _ he =>
      -- a text that breaks begins with `<`
      cases a with
      | nil => exact absurd rfl ha
      | cons c a =>
        rw [he] at h
        exact absurd (h c rfl ▸ List.mem_cons_self ..) hn

theorem legible_stream (s : Text) : Legible (stream s).tokens := by
  fun_induction stream s with
  | case1 => exact .nil
  | case2 => exact .nil
  | case3 s t rest hs r ih =>
    cases scan?_step hs with
    | markup ho => exact .markup ho.markup ho.isSealed ih
    | text ha hn hb _ => exact .text ha hn (startsText_stream hb) ih

theorem render_stream (h : (stream s).fault = none) :
    s = (stream s).tokens.flatMap Token.render := by
  fun_induction stream s with
  | case1 s hs =>
    unfold scan? at hs
    split at hs
    · rfl
    · cases hs
    · cases hs
  | case2 => cases h
  | case3 s t rest hs r ih =>
    rw [List.flatMap_cons, ← ih h]
    cases scan?_step hs with
    | markup ho => exact ho.eq
    | text _ _ _ he => exact he

/-! ## Nesting -/

/-- Content up to a closing tag and the contents after it, out of the tokens inside elements of
some names, which no fault stops. -/
structure Nests (stop : Option Fault) (opened : List Text) (ts : List Token) (c : Content)
    (outer : List (Text × Content)) : Prop where
  complete : stop = none
  sound : c.Sound
  startsText : c.startsText = Markup.startsText ts
  closings : List.Forall₂ (fun name (o : Text × Content) => closingName o.1 = name ∧
    (Token.closing o.1).Sealed ∧ o.2.Sound) opened outer
  render : ts.flatMap Token.render =
    c.render ++ outer.flatMap fun o => closingTag o.1 ++ o.2.render

theorem nest_nests {stop : Option Fault} {opened : List Text} {c : Content}
    {outer : List (Text × Content)} (hl : Legible ts)
    (h : nest stop opened ts = .ok (c, outer)) :
    Nests stop opened ts c outer := by
  induction hl generalizing opened c outer with
  | nil =>
    unfold nest at h
    split at h
    · cases h
    · cases h
    · next ho =>
      cases h
      rw [List.getLast?_eq_none_iff] at ho
      subst ho
      exact ⟨rfl, .nil, rfl, .nil, rfl⟩
  | @text a ts ha hn hs _ ih =>
    obtain ⟨⟨rest, out⟩, hr, he⟩ := bind_eq_ok.mp h
    cases he
    have hrest := ih hr
    refine ⟨hrest.complete, .text ha hn (hrest.startsText.trans hs) hrest.sound, rfl, hrest.closings, ?_⟩
    rw [List.flatMap_cons, hrest.render, Content.render, List.append_assoc]
    rfl
  | @markup t ts ht hsealed _ ih =>
    cases t with
    | piece p =>
      obtain ⟨⟨rest, out⟩, hr, he⟩ := bind_eq_ok.mp h
      cases he
      have hrest := ih hr
      refine ⟨hrest.complete, .piece hsealed hrest.sound, ?_, hrest.closings, ?_⟩
      · cases p with
        | text a => cases ht
        | _ => rfl
      · rw [List.flatMap_cons, hrest.render, Content.render, List.append_assoc]
        rfl
    | empty tag =>
      obtain ⟨⟨rest, out⟩, hr, he⟩ := bind_eq_ok.mp h
      cases he
      have hrest := ih hr
      refine ⟨hrest.complete, .empty hsealed hrest.sound, rfl, hrest.closings, ?_⟩
      rw [List.flatMap_cons, hrest.render, Content.render, List.append_assoc]
      rfl
    | opening tag =>
      obtain ⟨⟨inner, out⟩, hr, he⟩ := bind_eq_ok.mp h
      have hinner := ih hr
      cases hinner.closings with
      | @cons _ o _ out hclosing hout =>
        obtain ⟨closing, rest⟩ := o
        obtain ⟨hname, hc, hrest⟩ := hclosing
        cases he
        refine ⟨hinner.complete, .element hsealed hc hname hinner.sound hrest, rfl, hout, ?_⟩
        rw [List.flatMap_cons, hinner.render, List.flatMap_cons, Content.render]
        simp only [Token.render, List.append_assoc]
    | closing tag =>
      cases opened with
      | nil => cases h
      | cons name opened =>
        rw [nest] at h
        split at h
        · next hname =>
          obtain ⟨⟨rest, out⟩, hr, he⟩ := bind_eq_ok.mp h
          cases he
          have hrest := ih hr
          refine ⟨hrest.complete, .nil, rfl, .cons ⟨hname, hsealed, hrest.sound⟩ hrest.closings, ?_⟩
          rw [List.flatMap_cons, hrest.render, List.flatMap_cons]
          simp only [Content.render, Token.render, List.nil_append, List.append_assoc]
        · cases h

namespace Content

/-- Parsing accepts exactly what sound content renders. -/
theorem parse_eq_ok_iff {c : Content} : parse s = .ok c ↔ c.Sound ∧ c.render = s := by
  constructor
  · intro h
    obtain ⟨⟨d, outer⟩, hn, he⟩ := bind_eq_ok.mp h
    cases he
    have hnests := nest_nests (legible_stream s) hn
    cases hnests.closings
    refine ⟨hnests.sound, ?_⟩
    rw [render_stream hnests.complete, hnests.render, List.flatMap_nil, List.append_nil]
  · rintro ⟨h, rfl⟩
    exact parse_render h

end Content

end RegisterMap.Markup
