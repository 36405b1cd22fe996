import RegisterMap.Proofs.Markup.Runs
import RegisterMap.Proofs.Text.Returns

/-!
# Content with the other line ends

`Content.withReturns` puts a carriage return before every line feed that stands
in no tag. Content that is scanned back still is (`Content.Sound.withReturns`),
and the text of a run is `Returned` from what it was (`readRun_withReturns`).
-/

namespace RegisterMap.Markup

open Text

variable {s t rest name inside : Text} {p : Piece} {c : Content}

/-! ## Pieces -/

def Piece.withReturns : Piece → Piece
  | text s => text (Text.withReturns s)
  | comment s => comment (Text.withReturns s)
  | cdata s => cdata (Text.withReturns s)
  | doctype s => doctype (Text.withReturns s)
  | instruction s => instruction (Text.withReturns s)

theorem Piece.render_withReturns (p : Piece) :
    p.withReturns.render = Text.withReturns p.render := by
  have around {a b : Text} (ha : '\n' ∉ a) (hb : '\n' ∉ b) (s : Text) :
      a ++ Text.withReturns s ++ b = Text.withReturns (a ++ s ++ b) := by
    rw [withReturns_append, withReturns_append, withReturns_of_not_mem ha,
      withReturns_of_not_mem hb]
  cases p with
  | text s => rfl
  | comment s | cdata s | doctype s | instruction s => exact around (by decide) (by decide) s

theorem cutBalanced_withReturns (depth : Nat) (s : Text) :
    cutBalanced depth (withReturns s) =
      (cutBalanced depth s).map fun x => (withReturns x.1, withReturns x.2) := by
  induction s generalizing depth with
  | nil => rfl
  | cons c s ih =>
    by_cases hc : c = '\n'
    · subst hc
      have pass {d : Char} (hd : d = '\r' ∨ d = '\n') (s : Text) : cutBalanced depth (d :: s) =
          (cutBalanced depth s).map fun x => (d :: x.1, x.2) := by
        rcases hd with rfl | rfl
        · rfl
        · rfl
      rw [withReturns_feed, pass (.inl rfl), pass (.inr rfl), pass (.inr rfl), ih]
      cases cutBalanced depth s <;> rfl
    · rw [withReturns_cons hc, cutBalanced, cutBalanced]
      split
      · rfl
      · dsimp only
        rw [ih, Option.map_map, Option.map_map]
        congr 1
        funext x
        simp [withReturns_cons hc]

theorem scanPiece_withReturns {piece : Text → Piece} {fault : ScanFault} {mark : Text}
    (hm : OneLine mark) (hpiece : ∀ x, (piece x).withReturns = piece (withReturns x))
    (h : scanPiece piece fault (cut mark s) = .ok (.piece p, rest)) :
    scanPiece piece fault (cut mark (withReturns s)) =
      .ok (.piece p.withReturns, withReturns rest) := by
  rw [cut_withReturns hm]
  unfold scanPiece at h ⊢
  split at h
  · next inside r hc =>
    cases h
    rw [hc, hpiece]
    rfl
  · cases h

theorem scanDoctype_withReturns (h : scanDoctype s = .ok (.piece p, rest)) :
    scanDoctype (withReturns s) = .ok (.piece p.withReturns, withReturns rest) := by
  have hword : OneLine "doctype".toList := by decide
  unfold scanDoctype at h ⊢
  rw [cutBalanced_withReturns]
  split at h
  · cases h
  · next inside r hc =>
    rw [hc]
    simp only [Option.map_some, afterAnyCase?_withReturns hword]
    split at h
    · cases h
    · next name hname =>
      rw [hname]
      have hall : (withReturns name).all isBlank = name.all isBlank := all_withReturns rfl name
      simp only [Option.map_some, hall]
      split at h
      · cases h
      · next hb =>
        cases h
        rw [if_neg hb]
        rfl

theorem scanBang_withReturns (h : scanBang s = .ok (.piece p, rest)) :
    scanBang (withReturns s) = .ok (.piece p.withReturns, withReturns rest) := by
  unfold scanBang at h
  split at h
  · split at h
    · next s => exact scanPiece_withReturns (by decide) (fun _ => rfl) h
    · cases h
  · next s =>
    split at h
    · next hs =>
      have hword : OneLine "CDATA[".toList := by decide
      have hcdata := after?_withReturns hword s
      rw [hs] at hcdata
      rw [withReturns_cons (by decide), scanBang, hcdata]
      exact scanPiece_withReturns (by decide) (fun _ => rfl) h
    · cases h
  · exact scanDoctype_withReturns h
  · exact scanDoctype_withReturns h
  · cases h

theorem scanInstruction_withReturns (h : scanInstruction s = .ok (.piece p, rest)) :
    scanInstruction (withReturns s) = .ok (.piece p.withReturns, withReturns rest) := by
  unfold scanInstruction at h
  split at h
  · cases h
  · next hne =>
    have hscan := scanPiece_withReturns (by decide) (fun _ => rfl) h
    rw [scanInstruction]
    · exact hscan
    · intro r hr
      cases s with
      | nil => cases hr
      | cons c s =>
        by_cases hc : c = '\n'
        · subst hc
          cases hr
        · rw [withReturns_cons hc] at hr
          obtain ⟨rfl, -⟩ := List.cons.inj hr
          exact hne s rfl

theorem scanMarkup_withReturns (h : scanMarkup s = .ok (.piece p, rest)) :
    scanMarkup (withReturns s) = .ok (.piece p.withReturns, withReturns rest) := by
  unfold scanMarkup at h
  split at h
  · cases h
  · exact scanBang_withReturns h
  · unfold scanClosing at h
    split at h <;> cases h
  · exact scanInstruction_withReturns h
  · unfold scanOpening at h
    split at h
    · split at h <;> cases h
    · cases h

/-- Text goes on, so it does not end itself. -/
theorem not_sealed_text (s : Text) : ¬ (Token.piece (.text s)).Sealed := by
  intro h
  have hs : scan? (s ++ []) = some (.ok (.piece (.text s), [])) := h []
  have ha : scan? (s ++ ['a']) = some (.ok (.piece (.text s), ['a'])) := h ['a']
  rw [List.append_nil] at hs
  cases scan?_step hs with
  | markup ho => cases ho.markup
  | text _ hn _ _ =>
    have hna : '<' ∉ s ++ ['a'] := by simpa using hn
    have hlong : scan? (s ++ ['a'] ++ []) = some (.ok (.piece (.text (s ++ ['a'])), [])) :=
      scan?_text (by simp) hna fun c hc => by cases hc
    rw [List.append_nil, ha] at hlong
    simp at hlong

theorem Piece.sealed_withReturns (hp : (Token.piece p).isText = false)
    (h : (Token.piece p).Sealed) : (Token.piece p.withReturns).Sealed := by
  have hscan := h []
  rw [List.append_nil] at hscan
  obtain ⟨s, hs⟩ : ∃ s, p.render = '<' :: s := by
    cases p with
    | text s => cases hp
    | _ => exact ⟨_, rfl⟩
  change scan? p.render = _ at hscan
  rw [hs, scan?] at hscan
  exact (scanMarkup_off (scanMarkup_withReturns (Option.some.inj hscan))).isSealed

/-! ## Content -/

namespace Content

/-- The content with a carriage return before every line feed of its pieces. -/
def withReturns : Content → Content
  | nil => nil
  | piece p rest => piece p.withReturns rest.withReturns
  | empty tag rest => empty tag rest.withReturns
  | element tag inner closing rest => element tag inner.withReturns closing rest.withReturns

theorem startsText_withReturns (c : Content) : c.withReturns.startsText = c.startsText := by
  cases c with
  | piece p rest => cases p <;> rfl
  | _ => rfl

theorem Sound.withReturns (h : c.Sound) : c.withReturns.Sound := by
  induction h with
  | nil => exact .nil
  | @text s rest hs hn hb _ ih =>
    refine .text (mt withReturns_eq_nil.mp hs) (fun hm => ?_) ?_ ih
    · rcases mem_withReturns hm with hm | hm
      · exact hn hm
      · cases hm
    · rwa [startsText_withReturns]
  | @piece p rest hp _ ih =>
    cases hp' : (Token.piece p).isText with
    | false => exact .piece (Piece.sealed_withReturns hp' hp) ih
    | true =>
      cases p with
      | text s => exact absurd hp (not_sealed_text s)
      | _ => cases hp'
  | empty hs _ ih => exact .empty hs ih
  | element ho hc hn _ _ ihi ihr => exact .element ho hc hn ihi ihr

theorem elements_withReturns (h : c.elements = []) : c.withReturns.elements = [] := by
  induction c with
  | nil => rfl
  | piece p rest ih => exact ih h
  | empty tag rest | element tag inner closing rest => cases h

def TagsInline : Content → Prop
  | nil => True
  | piece _ rest => rest.TagsInline
  | empty tag rest => '\n' ∉ tag ∧ rest.TagsInline
  | element tag inner closing rest =>
    ('\n' ∉ tag ∧ '\n' ∉ closing) ∧ inner.TagsInline ∧ rest.TagsInline

theorem tagsInline_of_elements (h : c.elements = []) : c.TagsInline := by
  induction c with
  | nil => trivial
  | piece p rest ih => exact ih h
  | empty tag rest | element tag inner closing rest => cases h

theorem render_withReturns (h : c.TagsInline) :
    c.withReturns.render = Text.withReturns c.render := by
  have tag {a s b : Text} (ha : '\n' ∉ a) (hs : '\n' ∉ s) (hb : '\n' ∉ b) :
      Text.withReturns (a ++ s ++ b) = a ++ s ++ b :=
    withReturns_of_not_mem fun hm => by
      rw [List.mem_append, List.mem_append] at hm
      exact hm.elim (·.elim ha hs) hb
  induction c with
  | nil => rfl
  | piece p rest ih =>
    rw [withReturns, render, render, withReturns_append, p.render_withReturns, ih h]
  | empty t rest ih =>
    obtain ⟨ht, hrest⟩ := h
    have htag : Text.withReturns (emptyTag t) = emptyTag t :=
      tag (a := ['<']) (by decide) ht (by decide)
    rw [withReturns, render, render, withReturns_append, htag, ih hrest]
  | element t inner closing rest ihi ihr =>
    obtain ⟨⟨ht, hc⟩, hinner, hrest⟩ := h
    have hopening : Text.withReturns (openingTag t) = openingTag t :=
      tag (a := ['<']) (by decide) ht (by decide)
    have hclosing : Text.withReturns (closingTag closing) = closingTag closing :=
      tag (a := ['<', '/']) (by decide) hc (by decide)
    rw [withReturns, render, render, withReturns_append, withReturns_append, withReturns_append,
      hopening, hclosing, ihi hinner, ihr hrest]

end Content

/-! ## References -/

theorem not_mem_of_numberAfter {radix n m : Nat} (h : numberAfter radix n s = .ok m) : '\n' ∉ s := by
  have hfeed : digit? radix '\n' = none := by simp [digit?]
  induction s generalizing n with
  | nil => exact List.not_mem_nil
  | cons c s ih =>
    unfold numberAfter at h
    split at h
    · cases h
    · next d hd =>
      split at h
      · rw [List.mem_cons, not_or]
        refine ⟨?_, ih h⟩
        rintro rfl
        rw [hfeed] at hd
        cases hd
      · cases h

theorem not_mem_of_number {radix n : Nat} (h : number radix s = .ok n) : '\n' ∉ s := by
  unfold number at h
  split at h
  · cases h
  · cases h
  · cases h
  · split at h
    · next hn => exact not_mem_of_numberAfter hn
    · cases h

theorem not_mem_of_character {r : Char} (h : character s = .ok r) : '\n' ∉ s := by
  unfold character at h
  dsimp only at h
  split at h
  · obtain ⟨n, hn, -⟩ := bind_eq_ok.mp h
    rw [List.mem_cons, not_or]
    exact ⟨by decide, not_mem_of_number hn⟩
  · obtain ⟨n, hn, -⟩ := bind_eq_ok.mp h
    exact not_mem_of_number hn

theorem not_mem_of_refers (h : Refers name) : '\n' ∉ name := by
  obtain ⟨r, h⟩ := h
  unfold referent at h
  split at h
  · next digits =>
    split at h
    · next hr =>
      rw [List.mem_cons, not_or]
      exact ⟨by decide, not_mem_of_character hr⟩
    · cases h
  · split at h
    · next hl =>
      have hnames : ∀ e ∈ namedCharacters, '\n' ∉ e.1 := by decide
      obtain ⟨before, after, he, -⟩ := List.lookup_eq_some_iff.mp hl
      exact hnames _ (he ▸ List.mem_append_right _ (List.mem_cons_self ..))
    · cases h

/-- A name refers to the same character wherever it stands. -/
theorem referent_ok {start : Nat} {r : Char} (h : referent start name = .ok r) (start' : Nat) :
    referent start' name = .ok r := by
  unfold referent at h ⊢
  split at h
  · exact h
  · split at h
    · exact h
    · cases h

/-- References are resolved as before, and line feeds between them have carriage returns. -/
theorem resolveFrom_withReturns {size position : Nat} (h : resolveFrom size position s = .ok t)
    (size' position' : Nat) :
    ∃ t', resolveFrom size' position' (withReturns s) = .ok t' ∧ Returned t t' := by
  fun_induction resolveFrom size position s generalizing t position' with
  | case1 =>
    cases h
    exact ⟨[], by rw [withReturns, List.flatMap_nil, resolveFrom], .nil⟩
  | case2 => cases h
  | case3 position s name rest hcut ih =>
    obtain ⟨r, hr, h⟩ := bind_eq_ok.mp h
    obtain ⟨u, hu, h⟩ := bind_eq_ok.mp h
    cases h
    obtain ⟨rfl, hn⟩ := cutReference_eq_some_iff.mp hcut
    have hname : '\n' ∉ name := not_mem_of_refers ((refers_iff _).mp ⟨r, hr⟩)
    obtain ⟨u', hu', hreturned⟩ := ih hu (position' + Text.byteSize name + 2)
    refine ⟨r :: u', ?_, .keep r hreturned⟩
    have hs : withReturns ('&' :: (name ++ ';' :: rest)) = '&' :: (name ++ ';' :: withReturns rest) := by
      rw [withReturns_cons (by decide), withReturns_append, withReturns_of_not_mem hname,
        withReturns_cons (by decide)]
    rw [hs, resolveFrom, if_pos rfl]
    split
    · next hnone => rw [cutReference_append hn] at hnone; cases hnone
    · next hsome =>
      rw [cutReference_append hn] at hsome
      cases hsome
      rw [referent_ok hr, hu']
      rfl
  | case4 position c s hc ih =>
    obtain ⟨u, hu, h⟩ := bind_eq_ok.mp h
    cases h
    by_cases hfeed : c = '\n'
    · subst hfeed
      obtain ⟨u', hu', hreturned⟩ :=
        ih hu (position' + '\r'.utf8Size + '\n'.utf8Size)
      refine ⟨'\r' :: '\n' :: u', ?_, .feed hreturned⟩
      rw [withReturns_feed, resolveFrom, if_neg (by decide), resolveFrom, if_neg hc, hu']
      rfl
    · obtain ⟨u', hu', hreturned⟩ := ih hu (position' + c.utf8Size)
      refine ⟨c :: u', ?_, .keep c hreturned⟩
      rw [withReturns_cons hfeed, resolveFrom, if_neg hc, hu']
      rfl

theorem resolve_withReturns (h : resolve s = .ok t) :
    ∃ t', resolve (withReturns s) = .ok t' ∧ Returned t t' :=
  resolveFrom_withReturns h _ _

/-! ## Runs -/

def Passage.withReturns : Passage → Passage
  | plain s => plain (Text.withReturns s)
  | verbatim s => verbatim (Text.withReturns s)

variable {ps : List Passage}

theorem resolveAll_withReturns (h : resolveAll ps = .ok t) :
    ∃ t', resolveAll (ps.map Passage.withReturns) = .ok t' ∧ Returned t t' := by
  induction ps generalizing t with
  | nil =>
    cases h
    exact ⟨[], rfl, .nil⟩
  | cons p ps ih =>
    cases p with
    | plain s =>
      obtain ⟨a, ha, h⟩ := bind_eq_ok.mp h
      obtain ⟨b, hb, h⟩ := bind_eq_ok.mp h
      cases h
      obtain ⟨a', ha', hra⟩ := resolve_withReturns ha
      obtain ⟨b', hb', hrb⟩ := ih hb
      refine ⟨a' ++ b', ?_, hra.append hrb⟩
      rw [List.map_cons, Passage.withReturns, resolveAll, ha', hb']
      rfl
    | verbatim s =>
      obtain ⟨b, hb, h⟩ := bind_eq_ok.mp h
      cases h
      obtain ⟨b', hb', hrb⟩ := ih hb
      refine ⟨Text.withReturns s ++ b', ?_, (Returned.withReturns s).append hrb⟩
      rw [List.map_cons, Passage.withReturns, resolveAll, hb']
      rfl

theorem trimLeading_withReturns (ps : List Passage) :
    trimLeading (ps.map Passage.withReturns) = (trimLeading ps).map Passage.withReturns := by
  fun_induction trimLeading ps with
  | case1 s ps hs ih =>
    rw [List.map_cons, Passage.withReturns, trimLeading, dropWhile_withReturns rfl rfl, hs]
    exact ih
  | case2 s ps c t hs =>
    rw [List.map_cons, Passage.withReturns, trimLeading, dropWhile_withReturns rfl rfl, hs]
    split
    · next hn => cases withReturns_eq_nil.mp hn
    · next hn => rw [List.map_cons, Passage.withReturns, hn]
  | case3 ps hne =>
    cases ps with
    | nil => rfl
    | cons p ps =>
      cases p with
      | plain s => exact absurd rfl (hne s ps)
      | verbatim s => rfl

theorem trimTrailing_cons_cons (p q : Passage) (ps : List Passage) :
    trimTrailing (p :: q :: ps) = p :: trimTrailing (q :: ps) := by
  rw [trimTrailing]
  exact nofun

theorem trimTrailing_withReturns (ps : List Passage) :
    trimTrailing (ps.map Passage.withReturns) = (trimTrailing ps).map Passage.withReturns := by
  induction ps with
  | nil => rfl
  | cons p ps ih =>
    cases ps with
    | nil =>
      cases p with
      | plain s =>
        have htrim := trimEndBy_withReturns (p := isBlank) rfl rfl s
        simp only [List.map_cons, List.map_nil, Passage.withReturns, trimTrailing, htrim]
      | verbatim s => rfl
    | cons q ps =>
      rw [List.map_cons] at ih ⊢
      rw [List.map_cons, trimTrailing_cons_cons, ih, trimTrailing_cons_cons, List.map_cons]

/-- The text of a run has carriage returns before line feeds that are written there. -/
theorem readRun_withReturns {afterTag : Bool} {x : Option Text} (h : readRun afterTag ps = .ok x) :
    ∃ y, readRun afterTag (ps.map Passage.withReturns) = .ok y ∧ Option.Rel Returned x y := by
  have htrim : trimTrailing (if afterTag then trimLeading (ps.map Passage.withReturns)
      else ps.map Passage.withReturns) =
        (trimTrailing (if afterTag then trimLeading ps else ps)).map Passage.withReturns := by
    rw [← trimTrailing_withReturns, trimLeading_withReturns]
    split <;> rfl
  unfold readRun at h ⊢
  rw [htrim]
  generalize trimTrailing (if afterTag then trimLeading ps else ps) = qs at h ⊢
  split at h
  · cases h
    exact ⟨none, rfl, .none⟩
  · cases h
    exact ⟨none, rfl, .none⟩
  · next hnil hempty =>
    cases hr : resolveAll qs with
    | error e => rw [hr] at h; cases h
    | ok t =>
      rw [hr] at h
      cases h
      obtain ⟨t', ht', hreturned⟩ := resolveAll_withReturns hr
      refine ⟨some t', ?_, .some hreturned⟩
      split
      · next hq => exact absurd (List.map_eq_nil_iff.mp hq) hnil
      · next hmap =>
        obtain ⟨q, rfl, hq⟩ := List.map_eq_singleton_iff.mp hmap
        cases q with
        | plain s =>
          have hs : s = [] := withReturns_eq_nil.mp (Passage.plain.inj hq)
          exact absurd (congrArg (fun s => [Passage.plain s]) hs) hempty
        | verbatim s => cases hq
      · rw [ht']
        rfl

/-! ## Outlines -/

namespace Outline

def withReturns : Outline → Outline
  | nil => nil
  | run ps rest => run (ps.map Passage.withReturns) rest.withReturns
  | doctype rest => doctype rest.withReturns
  | element tag inner rest => element tag inner.withReturns rest.withReturns

theorem withReturns_prepend (p : Passage) (o : Outline) :
    (o.prepend p).withReturns = o.withReturns.prepend p.withReturns := by
  cases o <;> rfl

theorem front_withReturns (o : Outline) : o.withReturns.front = o.front := by
  induction o with
  | nil => rfl
  | run ps rest ih =>
    rw [withReturns, front, front, trimLeading_withReturns, ih]
    simp only [List.map_eq_nil_iff]
  | doctype rest => rfl
  | element tag inner rest => rfl

end Outline

theorem Content.outline_withReturns (c : Content) : c.withReturns.outline = c.outline.withReturns := by
  induction c with
  | nil => rfl
  | piece p rest ih =>
    cases p with
    | text s | cdata s =>
      rw [withReturns, outline, Outline.withReturns_prepend, ← ih]
      rfl
    | doctype s => exact congrArg Outline.doctype ih
    | _ => exact ih
  | empty tag rest ih => exact congrArg (Outline.element tag .nil) ih
  | element tag inner closing rest ihi ihr => rw [withReturns, outline, ihi, ihr]; rfl

end RegisterMap.Markup
