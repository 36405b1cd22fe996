import RegisterMap.Proofs.Device.Load
import RegisterMap.Proofs.Device.Contents

/-!
# Around the root

A document loads as its first element does, which must be a root
(`Device.load_eq_ok_iff_splits`). Before it stands content without elements, of
any text; after it stands anything at all, and none of it is read.
-/

namespace RegisterMap

open Markup

namespace Markup

variable {s : Text} {c : Content} {opened : List Text} {outer : List (Text × Content)}
  {ts us : List Token} {stop : Option Fault}

/-- What is ahead of a part of the tokens renders a part of the text. -/
theorem stream_split (h : (stream s).tokens = ts ++ us) :
    ∃ rest, s = ts.flatMap Token.render ++ rest ∧ stream rest = ⟨us, (stream s).fault⟩ := by
  induction ts generalizing s with
  | nil => exact ⟨s, rfl, by rw [← List.nil_append us, ← h]⟩
  | cons t ts ih =>
    rw [stream] at h ⊢
    split at h
    · cases h
    · cases h
    · next t' rest' hs =>
      obtain ⟨rfl, htail⟩ := List.cons.inj h
      obtain ⟨rest, hrest, hus⟩ := ih htail
      have heq : s = t'.render ++ rest' := by
        cases scan?_step hs with
        | markup ho => exact ho.eq
        | text _ _ _ he => exact he
      exact ⟨rest, by rw [heq, hrest, List.flatMap_cons, List.append_assoc], hus⟩

theorem nest_tokens_eq (h : nest stop opened ts = .ok (c, outer)) :
    ts = c.tokens ++ outer.flatMap fun o => .closing o.1 :: o.2.tokens := by
  induction ts generalizing opened c outer with
  | nil =>
    unfold nest at h
    split at h
    · cases h
    · cases h
    · cases h
      rfl
  | cons t ts ih =>
    cases t with
    | piece p | empty tag =>
      obtain ⟨⟨rest, out⟩, hr, he⟩ := bind_eq_ok.mp h
      cases he
      rw [Content.tokens, List.cons_append, ← ih hr]
    | opening tag =>
      obtain ⟨⟨inner, out⟩, hi, he⟩ := bind_eq_ok.mp h
      cases out with
      | nil => cases he
      | cons o out =>
        obtain ⟨closing, rest⟩ := o
        cases he
        rw [ih hi, Content.tokens, List.flatMap_cons]
        simp only [List.cons_append, List.append_assoc]
    | closing tag =>
      cases opened with
      | nil => cases h
      | cons name opened =>
        rw [nest] at h
        split at h
        · obtain ⟨⟨rest, out⟩, hr, he⟩ := bind_eq_ok.mp h
          cases he
          rw [ih hr]
          rfl
        · cases h

namespace Content

theorem flatMap_render_tokens (c : Content) : c.tokens.flatMap Token.render = c.render := by
  induction c with
  | nil => rfl
  | piece p rest ih => rw [tokens, List.flatMap_cons, ih]; rfl
  | empty tag rest ih => rw [tokens, List.flatMap_cons, ih]; rfl
  | element tag inner closing rest ihi ihr =>
    rw [tokens, List.flatMap_cons, List.flatMap_append, List.flatMap_cons, ihi, ihr]
    simp only [render, Token.render, List.append_assoc]

theorem startsText_of_tokens (h : Markup.startsText (c.tokens ++ ts) = false) :
    c.startsText = false := by
  cases c with
  | piece p rest =>
    cases p with
    | text s => cases h
    | _ => rfl
  | _ => rfl

end Content

end Markup

namespace Document

variable {s before root after tag content : Text} {c inner : Content} {ts : List Token}
  {stop : Option Fault} {d : Device}

/-! ## The root among the tokens -/

theorem ownTokens_prefix (depth : Nat) (ts : List Token) : (ownTokens depth ts).1 <+: ts := by
  fun_induction ownTokens depth ts with
  | case1 => exact List.prefix_rfl
  | case2 tag ts => exact ⟨ts, rfl⟩
  | case3 tag ts depth own closed he ih
  | case4 depth tag ts own closed he ih
  | case5 depth t ts _ _ own closed he ih =>
    rw [he] at ih
    exact (List.cons_prefix_cons).mpr ⟨rfl, ih⟩

/-- The content of an element goes on to a closing tag of its name. -/
theorem contentOf_eq_ok (hl : Legible ts) (h : contentOf tag ts stop = .ok content) :
    ∃ (inner : Content) (closing : Text) (us : List Token),
      ts = inner.tokens ++ .closing closing :: us ∧ inner.Sound ∧ inner.render = content ∧
        closingName closing = tagName tag ∧ (Token.closing closing).Sealed := by
  unfold contentOf at h
  dsimp only at h
  split at h
  · cases h
  · next inner outer hn =>
    cases h
    have hnests := nest_nests (legible_ownTokens 0 hl).1 hn
    have htokens := nest_tokens_eq hn
    obtain ⟨us, hus⟩ := ownTokens_prefix 0 ts
    cases hnests.closings with
    | @cons _ o _ _ hclosing hout =>
      cases hout
      obtain ⟨hname, hsealed, -⟩ := hclosing
      refine ⟨inner, o.1, o.2.tokens ++ us, ?_, hnests.sound, rfl, hname, hsealed⟩
      rw [← hus, htokens]
      simp

/-- Content without elements is passed over. -/
theorem rootOf_tokens (hc : c.elements = []) (stop : Option Fault) (ts : List Token) :
    rootOf stop (c.tokens ++ ts) = rootOf stop ts := by
  induction c with
  | nil => rfl
  | piece p rest ih => exact ih hc
  | empty tag rest | element tag inner closing rest => cases hc

/-- Content without elements stands before the tag of the root. -/
theorem rootOf_eq_ok (hl : Legible ts) (h : rootOf stop ts = .ok content) :
    ∃ (c : Content) (tag : Text) (us : List Token), c.Sound ∧ c.elements = [] ∧
      tagName tag = rootName ∧ Legible us ∧
        (ts = c.tokens ++ .empty tag :: us ∧ content = [] ∨
          ts = c.tokens ++ .opening tag :: us ∧ (Token.opening tag).Sealed ∧
            contentOf tag us stop = .ok content) := by
  induction ts with
  | nil =>
    unfold rootOf at h
    split at h <;> cases h
  | cons t ts ih =>
    cases t with
    | piece p =>
      obtain ⟨c, tag, us, hc, hnone, hname, hus, hcases⟩ := ih hl.tail h
      refine ⟨.piece p c, tag, us, ?_, hnone, hname, hus, ?_⟩
      · cases hl with
        | text ha hn hb _ =>
          refine .text ha hn ?_ hc
          rcases hcases with ⟨rfl, -⟩ | ⟨rfl, -⟩
          · exact Content.startsText_of_tokens hb
          · exact Content.startsText_of_tokens hb
        | markup _ hsealed _ => exact .piece hsealed hc
      · rcases hcases with ⟨rfl, hcontent⟩ | ⟨rfl, hcontent⟩
        · exact .inl ⟨rfl, hcontent⟩
        · exact .inr ⟨rfl, hcontent⟩
    | closing tag => cases h
    | empty tag =>
      rw [rootOf] at h
      split at h
      · next hname =>
        cases h
        exact ⟨.nil, tag, ts, .nil, rfl, hname, hl.tail, .inl ⟨rfl, rfl⟩⟩
      · cases h
    | opening tag =>
      rw [rootOf] at h
      split at h
      · next hname =>
        refine ⟨.nil, tag, ts, .nil, rfl, hname, hl.tail, .inr ⟨rfl, ?_, ?_⟩⟩
        · cases hl with
          | markup _ hsealed _ => exact hsealed
        · cases hc : contentOf tag ts stop with
          | error e => rw [hc] at h; cases h
          | ok s =>
            rw [hc] at h
            exact congrArg Except.ok (Except.ok.inj h)
      · cases h

/-- The first tag ends the content without elements before it. -/
theorem tokens_opening_inj {c' : Content} {tag' : Text} {ts' : List Token} (hc : c.elements = [])
    (hc' : c'.elements = []) (h : c.tokens ++ .opening tag :: ts = c'.tokens ++ .opening tag' :: ts') :
    c = c' ∧ tag = tag' ∧ ts = ts' := by
  induction c generalizing c' with
  | nil =>
    cases c' with
    | nil =>
      obtain ⟨htag, hts⟩ := List.cons.inj h
      exact ⟨rfl, Token.opening.inj htag, hts⟩
    | piece p rest => cases h
    | empty tag rest | element tag inner closing rest => cases hc'
  | piece p rest ih =>
    cases c' with
    | nil => cases h
    | piece p' rest' =>
      obtain ⟨hp, hts⟩ := List.cons.inj h
      have hrest' : rest'.elements = [] := hc'
      obtain ⟨rfl, hrest⟩ := ih hc hrest' hts
      exact ⟨by rw [Token.piece.inj hp], hrest⟩
    | empty tag rest | element tag inner closing rest => cases hc'
  | empty tag rest | element tag inner closing rest => cases hc

/-- The text is one element, of the name of a root. -/
def IsRoot (s : Text) : Prop := ∃ tag inner closing,
  Content.parse s = .ok (.element tag inner closing .nil) ∧ tagName tag = rootName

/-- The first element of a text is a root; what stands before and after it. -/
structure Splits (s before root after : Text) : Prop where
  eq : s = before ++ root ++ after
  before : childElements before = .ok []
  root : IsRoot root

theorem Splits.of_isRoot (h : IsRoot root) : Splits root [] root [] :=
  ⟨(List.append_nil root).symm, childElements_render .nil, h⟩

theorem Splits.stream (h : Splits s before root after) {tag closing : Text} {inner : Content}
    (hroot : Content.parse root = .ok (.element tag inner closing .nil)) :
    ∃ c : Content, c.elements = [] ∧ c.render = before ∧
      (Markup.stream s).tokens = c.tokens ++ .opening tag ::
        (inner.tokens ++ .closing closing :: (Markup.stream after).tokens) := by
  obtain ⟨hsound, hrender⟩ := Content.parse_eq_ok_iff.mp hroot
  obtain ⟨c, hc, hbefore, hnone⟩ := childElements_eq_ok_iff.mp h.before
  cases hsound with
  | element hopening hsealed _ hinner _ =>
    have hs : s = c.render ++ ((Token.opening tag).render ++
        (inner.render ++ ((Token.closing closing).render ++ after))) := by
      rw [h.eq, ← hbefore, ← hrender]
      simp only [Content.render, Token.render, List.append_assoc, List.nil_append]
    have htag : Breaks ((Token.opening tag).render ++
        (inner.render ++ ((Token.closing closing).render ++ after))) := by
      intro e he
      cases he
      rfl
    have hend : Breaks ((Token.closing closing).render ++ after) := by
      intro e he
      cases he
      rfl
    refine ⟨c, hnone, hbefore, ?_⟩
    rw [hs, Content.stream_render hc htag, hopening.stream, Content.stream_render hinner hend,
      hsealed.stream]

theorem Splits.rootContent_eq_ok (h : Splits s before root after) {tag closing : Text}
    {inner : Content} (hroot : Content.parse root = .ok (.element tag inner closing .nil)) :
    Document.rootContent s = .ok inner.render := by
  have hname : tagName tag = rootName := by
    obtain ⟨tag', inner', closing', hroot', hname⟩ := h.root
    cases hroot.symm.trans hroot'
    exact hname
  obtain ⟨c, hnone, -, htokens⟩ := h.stream hroot
  obtain ⟨hsound, -⟩ := Content.parse_eq_ok_iff.mp hroot
  cases hsound with
  | element _ _ hclosing hinner _ =>
    simp only [Document.rootContent, htokens, rootOf_tokens hnone, rootOf, if_pos hname,
      contentOf_element hinner hclosing, Except.mapError]

/-- What is around the first element does not matter. -/
theorem Splits.rootContent (h : Splits s before root after) :
    Document.rootContent s = Document.rootContent root := by
  obtain ⟨tag, inner, closing, hroot, -⟩ := h.root
  rw [h.rootContent_eq_ok hroot, (Splits.of_isRoot h.root).rootContent_eq_ok hroot]

theorem Splits.unique {before' root' after' : Text} (h : Splits s before root after)
    (h' : Splits s before' root' after') : before = before' ∧ root = root' ∧ after = after' := by
  obtain ⟨tag, inner, closing, hroot, -⟩ := h.root
  obtain ⟨tag', inner', closing', hroot', -⟩ := h'.root
  obtain ⟨c, hnone, rfl, htokens⟩ := h.stream hroot
  obtain ⟨c', hnone', rfl, htokens'⟩ := h'.stream hroot'
  obtain ⟨rfl, rfl, hrest⟩ := tokens_opening_inj hnone hnone' (htokens.symm.trans htokens')
  have hown := congrArg (fun ts => (ownTokens 0 ts).1.flatMap Token.render) hrest
  simp only [ownTokens_tokens, ownTokens, List.flatMap_append, Content.flatMap_render_tokens,
    List.flatMap_singleton, Token.render] at hown
  have heq : root = root' := by
    rw [← (Content.parse_eq_ok_iff.mp hroot).2, ← (Content.parse_eq_ok_iff.mp hroot').2]
    simp only [Content.render, List.append_assoc, List.append_nil, hown]
  subst heq
  exact ⟨rfl, rfl, List.append_cancel_left (h.eq.symm.trans h'.eq)⟩

/-- What has content in its root splits around it. -/
theorem exists_splits (h : Document.rootContent s = .ok content) :
    content = [] ∨ ∃ before root after, Splits s before root after := by
  obtain ⟨c, tag, us, hc, hnone, hname, hus, hcases⟩ := rootOf_eq_ok (legible_stream s) h
  rcases hcases with ⟨-, hcontent⟩ | ⟨htokens, hopening, hcontent⟩
  · exact .inl hcontent
  · obtain ⟨inner, closing, vs, rfl, hinner, rfl, hclosing, hsealed⟩ := contentOf_eq_ok hus hcontent
    have hroot : (Content.element tag inner closing .nil).Sound :=
      .element hopening hsealed hclosing hinner .nil
    have hsplit : (stream s).tokens =
        (c.tokens ++ (Content.element tag inner closing .nil).tokens) ++ vs := by
      rw [htokens]
      simp [Content.tokens]
    obtain ⟨after, hs, -⟩ := stream_split hsplit
    rw [List.flatMap_append, Content.flatMap_render_tokens, Content.flatMap_render_tokens] at hs
    exact .inr ⟨c.render, _, after, hs, childElements_eq_ok_iff.mpr ⟨c, hc, rfl, hnone⟩,
      tag, inner, closing, Content.parse_render hroot, hname⟩

end Document

namespace Device

open Document

variable {s before root after : Text} {d : Device}

theorem load_congr {s s' : Text} (h : rootContent s = rootContent s') : load s = load s' := by
  unfold load
  rw [h]

theorem load_empty (h : rootContent s = .ok []) : load s = .error .noDeviceName := by
  have hnone : childElements [] = .ok [] := childElements_render .nil
  unfold load
  rw [h]
  simp only [hnone, Except.mapError, bind, Except.bind, takeChildren]
  rfl

theorem splits_of_load (h : load s = .ok d) : ∃ before root after, Splits s before root after := by
  cases hr : rootContent s with
  | error e =>
    unfold load at h
    rw [hr] at h
    cases h
  | ok content =>
    rcases exists_splits hr with rfl | hs
    · rw [load_empty hr] at h
      cases h
    · exact hs

/-- A document loads as its first element alone does, which must be a root and have content. Before
it stands content without elements; what stands after it is not read. -/
theorem load_eq_ok_iff_splits :
    load s = .ok d ↔ ∃ before root after, Splits s before root after ∧ load root = .ok d := by
  constructor
  · intro h
    obtain ⟨before, root, after, hs⟩ := splits_of_load h
    exact ⟨before, root, after, hs, (load_congr hs.rootContent).symm.trans h⟩
  · rintro ⟨before, root, after, hs, h⟩
    exact (load_congr hs.rootContent).trans h

/-! ## What is lost around a root -/

/-- Nothing that a device could have been read from. -/
def IsAside : Piece → Prop
  | .text s => ∀ c ∈ s, isBlank c = true
  | .cdata _ => False
  | .comment _ | .doctype _ | .instruction _ => True

/-- White space, comments, instructions and document types. -/
def Asides (s : Text) : Prop :=
  ∃ c, Content.parse s = .ok c ∧ ∀ t ∈ c.tokens, ∃ p, t = .piece p ∧ IsAside p

theorem Asides.childElements (h : Asides s) : Markup.childElements s = .ok [] := by
  obtain ⟨c, hc, ht⟩ := h
  have hnone : c.elements = [] := by
    clear hc
    induction c with
    | nil => rfl
    | piece p rest ih => exact ih fun t hr => ht t (List.mem_cons_of_mem _ hr)
    | empty tag rest | element tag inner closing rest =>
      obtain ⟨p, hp, -⟩ := ht _ (List.mem_cons_self ..)
      cases hp
  rw [Markup.childElements, hc, ← hnone]
  rfl

def firstRoot : Text :=
  "<registerdefinition><devicename>D</devicename></registerdefinition>".toList

def secondRoot : Text :=
  ("<registerdefinition><Register><Name>R</Name><Address>0</Address><Reset>0</Reset>" ++
    "</Register></registerdefinition>").toList

/-- The register of a second root is lost without an error. -/
theorem load_secondRoot :
    load (firstRoot ++ secondRoot) = .ok { name := "D".toList, registers := [] } ∧
      Splits (firstRoot ++ secondRoot) [] firstRoot secondRoot ∧ ¬ Asides secondRoot := by
  have hroot : IsRoot firstRoot := by
    refine ⟨rootName, .element "devicename".toList (.piece (.text "D".toList) .nil)
      "devicename".toList .nil, rootName, ?_, by decide⟩
    decide +kernel
  have hload : load firstRoot = .ok { name := "D".toList, registers := [] } := by decide +kernel
  have hsplits : Splits (firstRoot ++ secondRoot) [] firstRoot secondRoot :=
    ⟨rfl, childElements_render .nil, hroot⟩
  refine ⟨(load_congr hsplits.rootContent).trans hload, hsplits, fun h => ?_⟩
  have hsecond : (Markup.childElements secondRoot).map List.length = .ok 1 := by decide +kernel
  rw [h.childElements] at hsecond
  cases hsecond

end Device

end RegisterMap
