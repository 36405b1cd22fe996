import Mathlib.Data.List.Infix
import RegisterMap.Prose.Tables
import RegisterMap.Proofs.Text.Basic
import RegisterMap.Proofs.Text.Letters

/-!
# Tables cut out of prose

A block begins with an opening tag and ends with a closing tag, the only one in
it. A text is cut into gaps and blocks (`Cuts`) such that no opening tag begins
in a gap before a block, and none in the last gap has a closing tag after it.
Every text is cut in one way only, and dropping the tables leaves the gaps
(`dropTables_cuts`).
-/

namespace RegisterMap

variable {c : Char} {s t b gap rest tag word last : Text} {blocks : List (Text × Text)}

/-! ## Tags -/

namespace Prose

open Text

def Opens (s : Text) : Prop := ∃ tag rest, s = tag ++ rest ∧
  tag.map Char.toLower = "<table".toList ∧ ∀ c, rest.head? = some c → isWord c = false

def IsClosing (s : Text) : Prop := ∃ tag blanks, s = tag ++ (blanks ++ ['>']) ∧
  tag.map Char.toLower = "</table".toList ∧ ∀ c ∈ blanks, isBlank c = true

theorem endsWord_iff : endsWord s = true ↔ ∀ c, s.head? = some c → isWord c = false := by
  cases s <;> simp [endsWord]

theorem opens_iff :
    Opens s ↔ ∃ rest, afterAnyCase? "<table".toList s = some rest ∧ endsWord rest = true := by
  simp only [afterAnyCase?_eq_some_iff, endsWord_iff, Opens]
  constructor
  · rintro ⟨tag, rest, hs, htag, hrest⟩
    exact ⟨rest, ⟨tag, hs, htag⟩, hrest⟩
  · rintro ⟨rest, ⟨tag, hs, htag⟩, hrest⟩
    exact ⟨tag, rest, hs, htag, hrest⟩

instance (s : Text) : Decidable (Opens s) :=
  decidable_of_iff ((afterAnyCase? "<table".toList s).any endsWord = true)
    (by rw [Option.any_eq_true, opens_iff])

theorem afterClosing?_eq_some_iff :
    afterClosing? s = some rest ↔ ∃ tag, s = tag ++ rest ∧ IsClosing tag := by
  have hend : isBlank '>' = false := by decide
  unfold afterClosing?
  constructor
  · intro h
    split at h
    · next r hr =>
      obtain ⟨tag, rfl, htag⟩ := afterAnyCase?_eq_some_iff.mp hr
      split at h
      · next r' hd =>
        cases h
        refine ⟨tag ++ (r.takeWhile isBlank ++ ['>']), ?_, tag, _, rfl, htag, ?_⟩
        · rw [List.append_assoc, List.append_assoc, List.singleton_append, ← hd,
            List.takeWhile_append_dropWhile]
        · exact List.all_eq_true.mp List.all_takeWhile
      · cases h
    · cases h
  · rintro ⟨_, rfl, tag, blanks, rfl, htag, hblanks⟩
    have hafter : afterAnyCase? "</table".toList (tag ++ (blanks ++ ['>']) ++ rest) =
        some (blanks ++ '>' :: rest) :=
      afterAnyCase?_eq_some_iff.mpr ⟨tag, by simp, htag⟩
    have hdrop : (blanks ++ '>' :: rest).dropWhile isBlank = '>' :: rest := by
      rw [List.dropWhile_append_of_pos hblanks, List.dropWhile_cons_of_neg (by simp [hend])]
    rw [hafter]
    simp only [hdrop]

/-- A closing tag has one `<`, at its front, and one `>`, at its end. -/
theorem IsClosing.ends (h : IsClosing t) :
    (∃ u, t = '<' :: u ∧ '<' ∉ u) ∧ ∃ u, t = u ++ ['>'] ∧ '>' ∉ u := by
  obtain ⟨tag, blanks, rfl, htag, hblanks⟩ := h
  have not_blank {d : Char} (hd : isBlank d = false) : d ∉ blanks := fun hm => by
    simp [hblanks d hm] at hd
  have hword : "</table".toList = '<' :: "/table".toList := by decide
  rw [hword] at htag
  obtain ⟨c, name, rfl, hc, hname⟩ := List.map_eq_cons_iff.mp htag
  obtain rfl := eq_of_toLower hc (by decide)
  have not_name {d : Char} (hd : d.toLower ∉ "/table".toList) : d ∉ name := fun hm =>
    hd (hname ▸ List.mem_map_of_mem hm)
  refine ⟨⟨name ++ (blanks ++ ['>']), rfl, ?_⟩, '<' :: name ++ blanks, by simp, ?_⟩
  · simp [not_name (d := '<') (by decide), not_blank (d := '<') (by decide)]
  · simp [not_name (d := '>') (by decide), not_blank (d := '>') (by decide)]

theorem isSome_afterClosing?_iff :
    (afterClosing? s).isSome = true ↔ ∃ tag, tag <+: s ∧ IsClosing tag := by
  rw [Option.isSome_iff_exists]
  simp only [afterClosing?_eq_some_iff]
  constructor
  · rintro ⟨rest, tag, hs, htag⟩
    exact ⟨tag, ⟨rest, hs.symm⟩, htag⟩
  · rintro ⟨tag, ⟨rest, hs⟩, htag⟩
    exact ⟨rest, tag, hs.symm, htag⟩

/-- A closing tag is in no other. -/
theorem IsClosing.eq_of_append {before after : Text} (h : IsClosing (before ++ (t ++ after)))
    (ht : IsClosing t) : before = [] ∧ after = [] := by
  obtain ⟨⟨u, hu, hfront⟩, v, hv, hend⟩ := h.ends
  obtain ⟨⟨u', rfl, -⟩, v', hv', -⟩ := ht.ends
  constructor
  · cases before with
    | nil => rfl
    | cons c before =>
      obtain ⟨-, rfl⟩ := List.cons.inj hu
      exact absurd (by simp) hfront
  · rcases List.eq_nil_or_concat after with rfl | ⟨init, c, rfl⟩
    · rfl
    · rw [hv', List.concat_eq_append, ← List.append_assoc, ← List.append_assoc] at hv
      obtain ⟨rfl, -⟩ := List.append_inj' hv rfl
      exact absurd (by simp) hend

/-! ## Blocks -/

/-- The text ends with a closing tag, and has no other. -/
def ClosesOnce (s : Text) : Prop := ∃ body tag, s = body ++ tag ∧ IsClosing tag ∧
  ∀ before t after, s = before ++ (t ++ after) → IsClosing t → before = body ∧ t = tag

/-- The text begins with an opening tag and ends with a closing tag, the only one in it. -/
structure IsBlock (s : Text) : Prop where
  opens : Opens s
  closes : ClosesOnce s

/-- The text has an opening tag and a closing tag after it. -/
def HasBlock (s : Text) : Prop := ∃ t tag, t <:+ s ∧ Opens t ∧ tag <:+: t ∧ IsClosing tag

theorem IsClosing.closesOnce (h : IsClosing t) : ClosesOnce t := by
  refine ⟨[], t, rfl, h, fun before u after ht hu => ?_⟩
  obtain ⟨rfl, rfl⟩ := (ht ▸ h).eq_of_append hu
  exact ⟨rfl, by simpa using ht.symm⟩

theorem ClosesOnce.ne_nil (h : ClosesOnce s) : s ≠ [] := by
  rintro rfl
  obtain ⟨body, tag, hs, htag, -⟩ := h
  obtain ⟨⟨u, rfl, -⟩, -⟩ := htag.ends
  simp at hs

/-- A character at which no closing tag begins is of no account. -/
theorem closesOnce_cons (h : ∀ t, t <+: c :: s → ¬ IsClosing t) :
    ClosesOnce (c :: s) ↔ ClosesOnce s := by
  constructor
  · rintro ⟨body, tag, hs, htag, honce⟩
    cases body with
    | nil => exact absurd htag (h tag ⟨[], by simp [hs]⟩)
    | cons d body =>
      obtain ⟨rfl, rfl⟩ := List.cons.inj hs
      refine ⟨body, tag, rfl, htag, fun before t after ht hclosing => ?_⟩
      obtain ⟨hbefore, heq⟩ := honce (c :: before) t after (congrArg (c :: ·) ht) hclosing
      exact ⟨(List.cons.inj hbefore).2, heq⟩
  · rintro ⟨body, tag, rfl, htag, honce⟩
    refine ⟨c :: body, tag, rfl, htag, fun before t after ht hclosing => ?_⟩
    cases before with
    | nil => exact absurd hclosing (h t ⟨after, ht.symm⟩)
    | cons d before =>
      obtain ⟨rfl, htail⟩ := List.cons.inj ht
      obtain ⟨rfl, heq⟩ := honce before t after htail hclosing
      exact ⟨rfl, heq⟩

theorem closed?_eq_some_iff : closed? s = some rest ↔ ∃ b, s = b ++ rest ∧ ClosesOnce b := by
  induction s with
  | nil =>
    refine iff_of_false nofun ?_
    rintro ⟨b, hs, hb⟩
    exact hb.ne_nil (List.append_eq_nil_iff.mp hs.symm).1
  | cons c s ih =>
    rw [closed?]
    cases ha : afterClosing? (c :: s) with
    | none =>
      have hnone : ∀ t, t <+: c :: s → ¬ IsClosing t := by
        intro t ht hclosing
        have hsome := isSome_afterClosing?_iff.mpr ⟨t, ht, hclosing⟩
        rw [ha] at hsome
        cases hsome
      rw [Option.none_or, ih]
      constructor
      · rintro ⟨b, rfl, hb⟩
        exact ⟨c :: b, rfl, (closesOnce_cons fun t ht => hnone t (ht.trans ⟨rest, rfl⟩)).mpr hb⟩
      · rintro ⟨b, hs, hb⟩
        cases b with
        | nil => exact absurd rfl hb.ne_nil
        | cons d b =>
          obtain ⟨rfl, rfl⟩ := List.cons.inj hs
          exact ⟨b, rfl, (closesOnce_cons fun t ht => hnone t (ht.trans ⟨rest, rfl⟩)).mp hb⟩
    | some r =>
      obtain ⟨tag, hs, htag⟩ := afterClosing?_eq_some_iff.mp ha
      rw [Option.some_or, hs]
      constructor
      · intro hr
        cases hr
        exact ⟨tag, rfl, htag.closesOnce⟩
      · rintro ⟨b, hb, body, t, rfl, ht, honce⟩
        -- the tag at the front and the end of `b` are the same
        rcases List.append_eq_append_iff.mp hb with ⟨a, ha, hr⟩ | ⟨a, ha, hr⟩
        · obtain ⟨rfl, rfl⟩ := honce [] tag a ha htag
          have hnil : a = [] := by simpa using ha
          rw [hr, hnil, List.nil_append]
        · rw [List.append_assoc] at ha
          obtain ⟨-, rfl⟩ := (ha ▸ htag).eq_of_append ht
          rw [hr, List.nil_append]

theorem isSome_closed?_iff : (closed? s).isSome = true ↔ ∃ tag, tag <:+: s ∧ IsClosing tag := by
  induction s with
  | nil =>
    refine iff_of_false nofun ?_
    rintro ⟨tag, htag, hclosing⟩
    obtain ⟨⟨u, rfl, -⟩, -⟩ := hclosing.ends
    cases List.infix_nil.mp htag
  | cons c s ih =>
    rw [closed?, Option.isSome_or, Bool.or_eq_true, isSome_afterClosing?_iff, ih]
    simp only [List.infix_cons_iff, or_and_right, exists_or]

/-- No closing tag begins in an opening tag. -/
theorem closed?_opening {name : Text} (h : name.map Char.toLower = "<table".toList) (s : Text) :
    closed? (name ++ s) = closed? s := by
  have hword : "<table".toList = ['<', 't', 'a', 'b', 'l', 'e'] := by decide
  have hend : "</table".toList = ['<', '/', 't', 'a', 'b', 'l', 'e'] := by decide
  rw [hword] at h
  simp only [List.map_eq_cons_iff, List.map_eq_nil_iff] at h
  obtain ⟨c0, _, rfl, h0, c1, _, rfl, h1, c2, _, rfl, h2, c3, _, rfl, h3, c4, _, rfl, h4, c5, _,
    rfl, h5, rfl⟩ := h
  simp [closed?, afterClosing?, hend, afterAnyCase?, h0, h1, h2, h3, h4, h5]

/-- A block is cut off where an opening tag begins that is closed. -/
theorem afterBlock?_of_opens (h : Opens s) : afterBlock? s = closed? s := by
  obtain ⟨rest, hs, hrest⟩ := opens_iff.mp h
  obtain ⟨tag, rfl, htag⟩ := afterAnyCase?_eq_some_iff.mp hs
  rw [afterBlock?, afterOpening?, hs]
  simp only [hrest, ↓reduceIte, Option.bind_some, closed?_opening htag]

theorem afterBlock?_of_not_opens (h : ¬ Opens s) : afterBlock? s = none := by
  have hnone : afterOpening? s = none := by
    unfold afterOpening?
    split
    · next rest hs => exact if_neg fun hrest => h (opens_iff.mpr ⟨rest, hs, hrest⟩)
    · rfl
  rw [afterBlock?, hnone, Option.bind_none]

theorem IsClosing.slash (h : IsClosing t) : '/' ∈ t.map Char.toLower := by
  obtain ⟨tag, blanks, rfl, htag, -⟩ := h
  rw [List.map_append, htag]
  exact List.mem_append_left _ (by decide)

/-- What goes on past an opening tag begins with it, whatever follows. -/
theorem opens_append_iff (h : '/' ∈ b.map Char.toLower) : Opens (b ++ rest) ↔ Opens b := by
  have hslash : '/' ∉ "<table".toList := by decide
  constructor
  · rintro ⟨tag, r, hs, htag, hr⟩
    rcases List.append_eq_append_iff.mp hs with ⟨a, rfl, -⟩ | ⟨a, rfl, rfl⟩
    · rw [← htag, List.map_append] at hslash
      exact absurd (List.mem_append_left _ h) hslash
    · refine ⟨tag, a, rfl, htag, fun c hc => hr c ?_⟩
      rw [List.head?_append, hc]
      rfl
  · rintro ⟨tag, r, rfl, htag, hr⟩
    refine ⟨tag, r ++ rest, List.append_assoc .., htag, fun c hc => hr c ?_⟩
    cases r with
    | nil =>
      rw [List.append_nil, htag] at h
      exact absurd h hslash
    | cons d r => exact hc

theorem ClosesOnce.closing (h : ClosesOnce b) : ∃ tag, tag <:+: b ∧ IsClosing tag := by
  obtain ⟨body, tag, rfl, htag, -⟩ := h
  exact ⟨tag, (List.suffix_append body tag).isInfix, htag⟩

theorem ClosesOnce.opens_append_iff (h : ClosesOnce b) : Opens (b ++ rest) ↔ Opens b := by
  obtain ⟨tag, htag, hclosing⟩ := h.closing
  exact Prose.opens_append_iff (List.map_subset _ htag.subset hclosing.slash)

theorem afterBlock?_eq_some_iff : afterBlock? s = some rest ↔ ∃ b, s = b ++ rest ∧ IsBlock b := by
  by_cases ho : Opens s
  · rw [afterBlock?_of_opens ho, closed?_eq_some_iff]
    constructor
    · rintro ⟨b, rfl, hb⟩
      exact ⟨b, rfl, hb.opens_append_iff.mp ho, hb⟩
    · rintro ⟨b, rfl, hb⟩
      exact ⟨b, rfl, hb.closes⟩
  · rw [afterBlock?_of_not_opens ho]
    refine iff_of_false nofun ?_
    rintro ⟨b, rfl, hb⟩
    exact ho (hb.closes.opens_append_iff.mpr hb.opens)

theorem isBlock_iff : IsBlock b ↔ afterBlock? b = some [] := by
  simp [afterBlock?_eq_some_iff]

instance (b : Text) : Decidable (IsBlock b) := decidable_of_iff' _ isBlock_iff

theorem isSome_afterBlock?_iff :
    (afterBlock? s).isSome = true ↔ Opens s ∧ ∃ tag, tag <:+: s ∧ IsClosing tag := by
  by_cases ho : Opens s
  · rw [afterBlock?_of_opens ho, isSome_closed?_iff, and_iff_right ho]
  · rw [afterBlock?_of_not_opens ho]
    exact iff_of_false nofun fun h => ho h.1

theorem not_hasBlock_nil : ¬ HasBlock [] := by
  rintro ⟨t, tag, ht, -, htag, hclosing⟩
  obtain ⟨⟨u, rfl, -⟩, -⟩ := hclosing.ends
  rw [List.suffix_nil.mp ht] at htag
  cases List.infix_nil.mp htag

theorem hasBlock_cons : HasBlock (c :: s) ↔ (afterBlock? (c :: s)).isSome = true ∨ HasBlock s := by
  rw [isSome_afterBlock?_iff]
  constructor
  · rintro ⟨t, tag, ht, hopens, htag, hclosing⟩
    rcases List.suffix_cons_iff.mp ht with rfl | ht
    · exact .inl ⟨hopens, tag, htag, hclosing⟩
    · exact .inr ⟨t, tag, ht, hopens, htag, hclosing⟩
  · rintro (⟨hopens, tag, htag, hclosing⟩ | ⟨t, tag, ht, hopens, htag, hclosing⟩)
    · exact ⟨c :: s, tag, List.suffix_rfl, hopens, htag, hclosing⟩
    · exact ⟨t, tag, ht.trans (List.suffix_cons c s), hopens, htag, hclosing⟩

instance hasBlockDecidable : (s : Text) → Decidable (HasBlock s)
  | [] => isFalse not_hasBlock_nil
  | _ :: s =>
    have := hasBlockDecidable s
    decidable_of_iff' _ hasBlock_cons

/-! ## Cuts -/

/-- A text is cut into gaps with a block after each, and the last gap. -/
inductive Cuts : Text → List (Text × Text) → Text → Prop
  | last {s : Text} : ¬ HasBlock s → Cuts s [] s
  | block {gap b rest last : Text} {blocks : List (Text × Text)} :
      (∀ t, t <:+ gap → t ≠ [] → ¬ Opens (t ++ (b ++ rest))) → IsBlock b →
      Cuts rest blocks last → Cuts (gap ++ (b ++ rest)) ((gap, b) :: blocks) last

def gaps (blocks : List (Text × Text)) (last : Text) : Text := blocks.flatMap Prod.fst ++ last

theorem Cuts.eq (h : Cuts s blocks last) : s = (blocks.flatMap fun g => g.1 ++ g.2) ++ last := by
  induction h with
  | last => rfl
  | block _ _ _ ih => simp [← ih]

theorem cuts_cons (hc : afterBlock? (c :: s) = none) (h : Cuts s blocks last) :
    ∃ blocks' last', Cuts (c :: s) blocks' last' ∧ gaps blocks' last' = c :: gaps blocks last := by
  have hnot : ¬ ((afterBlock? (c :: s)).isSome = true) := by simp [hc]
  cases h with
  | last hnone =>
    refine ⟨[], c :: s, .last ?_, rfl⟩
    rw [hasBlock_cons, not_or]
    exact ⟨hnot, hnone⟩
  | @block gap b rest _ blocks hgap hb hrest =>
    have hgap : ∀ t, t <:+ c :: gap → t ≠ [] → ¬ Opens (t ++ (b ++ rest)) := by
      intro t ht hne hopens
      rcases List.suffix_cons_iff.mp ht with rfl | ht
      · obtain ⟨tag, htag, hclosing⟩ := hb.closes.closing
        refine hnot (isSome_afterBlock?_iff.mpr ⟨hopens, tag, htag.trans ?_, hclosing⟩)
        exact ⟨c :: gap, rest, by simp⟩
      · exact hgap t ht hne hopens
    exact ⟨(c :: gap, b) :: blocks, last, .block hgap hb hrest, rfl⟩

/-- Dropping the tables is cutting, and keeping the gaps. -/
theorem exists_cuts (s : Text) :
    ∃ blocks last, Cuts s blocks last ∧ dropTables s = gaps blocks last := by
  fun_induction dropTables s with
  | case1 => exact ⟨[], [], .last not_hasBlock_nil, rfl⟩
  | case2 c s rest h ih =>
    obtain ⟨blocks, last, hcuts, hgaps⟩ := ih
    obtain ⟨b, hs, hb⟩ := afterBlock?_eq_some_iff.mp h
    refine ⟨([], b) :: blocks, last, ?_, hgaps⟩
    rw [hs]
    exact .block (fun t ht hne => absurd (List.suffix_nil.mp ht) hne) hb hcuts
  | case3 c s h ih =>
    obtain ⟨blocks, last, hcuts, hgaps⟩ := ih
    rw [hgaps]
    obtain ⟨blocks', last', hcuts', hgaps'⟩ := cuts_cons h hcuts
    exact ⟨blocks', last', hcuts', hgaps'.symm⟩

theorem IsBlock.hasBlock (h : IsBlock b) (gap rest : Text) : HasBlock (gap ++ (b ++ rest)) := by
  obtain ⟨tag, htag, hclosing⟩ := h.closes.closing
  exact ⟨b ++ rest, tag, List.suffix_append .., h.closes.opens_append_iff.mpr h.opens,
    htag.trans (List.prefix_append b rest).isInfix, hclosing⟩

/-- A gap ends where the first opening tag begins. -/
theorem eq_of_gaps {gap' u u' : Text} (hgap : ∀ t, t <:+ gap → t ≠ [] → ¬ Opens (t ++ u))
    (hgap' : ∀ t, t <:+ gap' → t ≠ [] → ¬ Opens (t ++ u')) (hu : Opens u) (hu' : Opens u')
    (h : gap ++ u = gap' ++ u') : gap = gap' ∧ u = u' := by
  rcases List.append_eq_append_iff.mp h with ⟨a, rfl, rfl⟩ | ⟨a, rfl, rfl⟩
  · by_cases ha : a = []
    · simp [ha]
    · exact absurd hu (hgap' a (List.suffix_append gap a) ha)
  · by_cases ha : a = []
    · simp [ha]
    · exact absurd hu' (hgap a (List.suffix_append gap' a) ha)

theorem Cuts.unique {blocks' : List (Text × Text)} {last' : Text} (h : Cuts s blocks last)
    (h' : Cuts s blocks' last') : blocks' = blocks ∧ last' = last := by
  induction h generalizing blocks' last' with
  | last hnone =>
    cases h' with
    | last => exact ⟨rfl, rfl⟩
    | block _ hb _ => exact absurd (hb.hasBlock ..) hnone
  | @block gap b rest last blocks hgap hb _ ih =>
    generalize hs : gap ++ (b ++ rest) = s at h'
    cases h' with
    | last hnone => exact absurd (hs ▸ hb.hasBlock ..) hnone
    | @block gap' b' rest' _ blocks' hgap' hb' hcuts =>
      obtain ⟨rfl, hu⟩ := eq_of_gaps hgap hgap' (hb.closes.opens_append_iff.mpr hb.opens)
        (hb'.closes.opens_append_iff.mpr hb'.opens) hs
      have hrest : some rest = some rest' := by
        rw [← afterBlock?_eq_some_iff.mpr ⟨b, rfl, hb⟩, hu]
        exact afterBlock?_eq_some_iff.mpr ⟨b', rfl, hb'⟩
      obtain rfl := Option.some.inj hrest
      obtain rfl := List.append_cancel_right hu
      obtain ⟨rfl, rfl⟩ := ih hcuts
      exact ⟨rfl, rfl⟩

theorem dropTables_of_not_hasBlock (h : ¬ HasBlock s) : dropTables s = s := by
  obtain ⟨blocks, last, hcuts, hgaps⟩ := exists_cuts s
  obtain ⟨rfl, rfl⟩ := hcuts.unique (.last h)
  exact hgaps

/-- Tables are dropped from the left, each up to the first closing tag. A text is in exactly one way
gaps and blocks by turns such that a block begins with an opening tag and ends with its only closing
tag, no opening tag begins in a gap before a block, and none in the last gap has a closing tag
after it; what is left are the gaps. So a text is left as it is if no opening tag in it has a
closing tag after it. -/
theorem dropTables_cuts (s : Text) :
    (∃ blocks last, Cuts s blocks last ∧ s = (blocks.flatMap fun g => g.1 ++ g.2) ++ last ∧
      dropTables s = gaps blocks last ∧
      ∀ blocks' last', Cuts s blocks' last' → blocks' = blocks ∧ last' = last) ∧
    (¬ HasBlock s → dropTables s = s) := by
  obtain ⟨blocks, last, hcuts, hgaps⟩ := exists_cuts s
  refine ⟨⟨blocks, last, hcuts, hcuts.eq, hgaps, fun _ _ => hcuts.unique⟩, ?_⟩
  exact dropTables_of_not_hasBlock

def lookalike : Text := "a<tablet>".toList

/-- A block with an opening tag inside it. -/
def nested : Text := "<TABLE><table>x</Table\t\n>".toList

/-- A closing tag that is left behind, and an opening tag that nothing closes. -/
def unclosed : Text := "y</table><table".toList

theorem dropTables_cuts_nested :
    Cuts (lookalike ++ (nested ++ unclosed)) [(lookalike, nested)] unclosed ∧
      dropTables (lookalike ++ (nested ++ unclosed)) = lookalike ++ unclosed ∧
      ¬ HasBlock unclosed ∧ dropTables unclosed = unclosed := by
  have hnone : ¬ HasBlock unclosed := by decide +kernel
  have hgap : ∀ t, t <:+ lookalike → t ≠ [] → ¬ Opens (t ++ (nested ++ unclosed)) := by
    simp only [← List.mem_tails]
    decide +kernel
  have hcuts := Cuts.block hgap (by decide +kernel) (.last hnone)
  obtain ⟨⟨blocks, last, -, -, hgaps, hunique⟩, -⟩ :=
    dropTables_cuts (lookalike ++ (nested ++ unclosed))
  obtain ⟨rfl, rfl⟩ := hunique _ _ hcuts
  exact ⟨hcuts, hgaps, hnone, (dropTables_cuts unclosed).2 hnone⟩

end Prose

end RegisterMap
