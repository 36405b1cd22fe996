import RegisterMap.Device.Document
import RegisterMap.Proofs.Markup.Local
import RegisterMap.Proofs.Markup.Written
import RegisterMap.Proofs.Record.Alone
import RegisterMap.Proofs.Record.Faults

/-!
# Contents of a document

The contents that reading a document meets are that of its root and those of the
elements in one, at any depth. Sound content renders each of them, so each can
be parsed again, and stays within an element that it is put into; a record is
read from either alike. Once the root is read, loading finds no fault of markup
(`Document.judged_once`).
-/

namespace RegisterMap

open Markup Record

namespace Markup

variable {s name : Text} {c : Content} {e : Element} {es : List Element} {t : Token}
  {ts us : List Token}

theorem childElements_eq_ok_iff :
    childElements s = .ok es ↔ ∃ c : Content, c.Sound ∧ c.render = s ∧ c.elements = es := by
  constructor
  · intro h
    obtain ⟨c, hc, he⟩ := bind_eq_ok.mp h
    obtain ⟨hsound, hrender⟩ := Content.parse_eq_ok_iff.mp hc
    exact ⟨c, hsound, hrender, Except.ok.inj he⟩
  · rintro ⟨c, hsound, rfl, rfl⟩
    exact childElements_render hsound

/-- The content of an element in sound content is rendered by sound content. -/
theorem Content.Sound.of_mem_elements (h : c.Sound) (he : e ∈ c.elements) :
    ∃ inner : Content, inner.Sound ∧ inner.render = e.content := by
  induction h with
  | nil => cases he
  | text _ _ _ _ ih | piece _ _ ih => exact ih he
  | empty _ _ ih =>
    rcases List.mem_cons.mp he with rfl | he
    · exact ⟨.nil, .nil, rfl⟩
    · exact ih he
  | element _ _ _ hinner _ _ ih =>
    rcases List.mem_cons.mp he with rfl | he
    · exact ⟨_, hinner, rfl⟩
    · exact ih he

/-- Sound content stays within an element that it is put into. -/
theorem Content.parse_wrap (hn : IsName name) (h : c.Sound) :
    parse (wrap name c.render) = .ok (element name c name nil) := by
  have hs : (siblings [(name, c)]).Sound := sound_siblings fun e he => by
    cases List.mem_singleton.mp he
    exact ⟨hn, h⟩
  have hp := parse_render hs
  rwa [render_siblings, List.flatMap_singleton] at hp

/-! ## The root -/

theorem Legible.tail (h : Legible (t :: ts)) : Legible ts := by
  cases h with
  | text _ _ _ ht => exact ht
  | markup _ _ ht => exact ht

theorem Legible.replace (h : Legible (t :: ts)) (hu : Legible us)
    (hs : startsText us = startsText ts) : Legible (t :: us) := by
  cases h with
  | text ha hn hb _ => exact .text ha hn (hs.trans hb) hu
  | markup ht hsealed _ => exact .markup ht hsealed hu

end Markup

namespace Document

variable {document content root tag : Text} {ts : List Token} {stop : Option Markup.Fault}

/-- The tokens of an element are scanned back if those from its opening tag on are. -/
theorem legible_ownTokens (depth : Nat) (h : Legible ts) :
    Legible (ownTokens depth ts).1 ∧ startsText (ownTokens depth ts).1 = startsText ts := by
  fun_induction ownTokens depth ts with
  | case1 => exact ⟨h, rfl⟩
  | case2 tag ts =>
    cases h with
    | markup ht hsealed _ => exact ⟨.markup ht hsealed .nil, rfl⟩
  | case3 tag ts depth own closed he ih =>
    rw [he] at ih
    exact ⟨h.replace (ih h.tail).1 (ih h.tail).2, rfl⟩
  | case4 depth tag ts own closed he ih =>
    rw [he] at ih
    exact ⟨h.replace (ih h.tail).1 (ih h.tail).2, rfl⟩
  | case5 depth t ts _ _ own closed he ih =>
    rw [he] at ih
    exact ⟨h.replace (ih h.tail).1 (ih h.tail).2, rfl⟩

theorem contentOf_sound (h : Legible ts) (hc : contentOf tag ts stop = .ok content) :
    ∃ c : Content, c.Sound ∧ c.render = content := by
  unfold contentOf at hc
  dsimp only at hc
  split at hc
  · cases hc
  · next inner outer hn =>
    cases hc
    exact ⟨inner, (nest_nests (legible_ownTokens 0 h).1 hn).sound, rfl⟩

theorem rootOf_sound (h : Legible ts) (hr : rootOf stop ts = .ok root) :
    ∃ c : Content, c.Sound ∧ c.render = root := by
  induction ts with
  | nil =>
    unfold rootOf at hr
    split at hr <;> cases hr
  | cons t ts ih =>
    cases t with
    | piece p => exact ih h.tail hr
    | closing tag => cases hr
    | empty tag =>
      rw [rootOf] at hr
      split at hr
      · cases hr
        exact ⟨.nil, .nil, rfl⟩
      · cases hr
    | opening tag =>
      rw [rootOf] at hr
      split at hr
      · cases hc : contentOf tag ts stop with
        | error e => rw [hc] at hr; cases hr
        | ok s =>
          rw [hc] at hr
          cases hr
          exact contentOf_sound h.tail hc
      · cases hr

/-- The contents that reading a document meets. -/
inductive Holds (document : Text) : Text → Prop
  | root {root : Text} : rootContent document = .ok root → Holds document root
  | child {content : Text} {es : List Element} {e : Element} : Holds document content →
      childElements content = .ok es → e ∈ es → Holds document e.content

theorem Holds.sound (h : Holds document content) :
    ∃ c : Content, c.Sound ∧ c.render = content := by
  induction h with
  | root hr => exact rootOf_sound (legible_stream document) hr
  | child _ hes he =>
    obtain ⟨c, hc, -, rfl⟩ := childElements_eq_ok_iff.mp hes
    exact hc.of_mem_elements he

end Document

/-! ## Faults -/

/-- The fault, or the one that it reports, is of markup. -/
def RegisterFault.ofMarkup : RegisterFault → Bool
  | record f => f.ofMarkup
  | bitfield _ f => f.ofMarkup

def DocumentFault.ofMarkup : DocumentFault → Bool
  | malformed _ => true
  | register _ f => f.ofMarkup
  | _ => false

theorem clear_readAlone {ι : Type} {item : ItemReader ι} {c : Content}
    (hi : ∀ σ tag inner following, Clear (item σ tag inner following)) (hc : c.Sound) :
    Clear (readAlone item c.render) := by
  unfold readAlone
  rw [Content.parse_render hc]
  exact (hi [] [] c.outline .nil).map

namespace Document

variable {document content : Text}

theorem firstBadBitfield_markup {index : Nat} {contents : List Text} {f : RegisterFault}
    (hs : ∀ s ∈ contents, ∃ c : Content, c.Sound ∧ c.render = s)
    (h : firstBadBitfield index contents = some f) : f.ofMarkup = false := by
  induction contents generalizing index with
  | nil => cases h
  | cons s ss ih =>
    unfold firstBadBitfield at h
    split at h
    · exact ih (fun r hr => hs r (List.mem_cons_of_mem _ hr)) h
    · next e he =>
      cases h
      obtain ⟨c, hc, rfl⟩ := hs s (List.mem_cons_self ..)
      exact clear_readAlone Bitfield.clear_item hc e he

theorem register_markup {c : Content} {f : RegisterFault} (hc : c.Sound)
    (h : register c.render = .error f) : f.ofMarkup = false := by
  unfold register at h
  split at h
  · cases h
  · next e he =>
    cases h
    cases hb : bitfieldFault? c.render with
    | none => exact clear_readAlone Register.clear_item hc e he
    | some f =>
      unfold bitfieldFault? at hb
      rw [childElements_render hc] at hb
      refine firstBadBitfield_markup (fun s hs => ?_) hb
      obtain ⟨b, hb, rfl⟩ := List.mem_map.mp hs
      exact hc.of_mem_elements (List.mem_filter.mp hb).1

theorem takeChildren_markup {name : Option Text} {index : Nat} {es : List Element}
    {f : DocumentFault} (hs : ∀ e ∈ es, ∃ c : Content, c.Sound ∧ c.render = e.content)
    (h : takeChildren name index es = .error f) : f.ofMarkup = false := by
  induction es generalizing name index with
  | nil => cases h
  | cons e es ih =>
    have ih {name : Option Text} {index : Nat} := @ih name index
      fun d hd => hs d (List.mem_cons_of_mem _ hd)
    unfold takeChildren at h
    split at h
    · split at h
      · cases h
        rfl
      · exact ih h
    · split at h
      · split at h
        · next g hg =>
          cases h
          obtain ⟨c, hc, he⟩ := hs e (List.mem_cons_self ..)
          exact register_markup hc (he ▸ hg)
        · cases ht : takeChildren name (index + 1) es with
          | error g =>
            rw [ht] at h
            cases h
            exact ih ht
          | ok r => rw [ht] at h; cases h
      · exact ih h

theorem load_markup {root : Text} {f : DocumentFault} (hr : rootContent document = .ok root)
    (h : Device.load document = .error f) : f.ofMarkup = false := by
  obtain ⟨c, hc, rfl⟩ := (Holds.root hr).sound
  unfold Device.load at h
  simp only [hr, childElements_render hc, Except.mapError, bind, Except.bind] at h
  split at h
  · next g hg =>
    cases h
    exact takeChildren_markup (fun e he => hc.of_mem_elements he) hg
  · split at h
    · cases h
    · cases h
      rfl

/-- Markup is judged once. A content that is cut out of a document is parsed again, and in an
element that it is put into it is all of the content, so a record is read alone as from that
element; no fault of markup is found after the root is read. -/
theorem judged_once (document : Text) :
    (∀ content, Holds document content → ∃ c : Content, Content.parse content = .ok c ∧
      childElements content = .ok c.elements ∧
      Content.parse (wrap "element".toList content) =
        .ok (.element "element".toList c "element".toList .nil) ∧
      childElements (wrap "element".toList content) = .ok [⟨"element".toList, content⟩] ∧
      readAlone Register.item content =
        (Register.item [] "element".toList c.outline .nil).map Prod.fst ∧
      readAlone Bitfield.item content =
        (Bitfield.item [] "element".toList c.outline .nil).map Prod.fst) ∧
    ∀ root f, rootContent document = .ok root → Device.load document = .error f →
      f.ofMarkup = false := by
  refine ⟨fun content h => ?_, fun root f hr hf => load_markup hr hf⟩
  have hn : IsName "element".toList := by decide
  obtain ⟨c, hc, rfl⟩ := h.sound
  have hw := Content.parse_wrap hn hc
  have hbare := bare_of_isName hn
  refine ⟨c, Content.parse_render hc, childElements_render hc, hw, ?_, ?_, ?_⟩
  · have hchildren : childElements (wrap "element".toList c.render) =
        .ok (Content.element "element".toList c "element".toList .nil).elements := by
      rw [childElements, hw]
      rfl
    rw [hchildren, Content.elements, tagName_of_isName hn, Content.elements]
  · rw [readAlone, Content.parse_render hc, Register.item_own hbare]
  · rw [readAlone, Content.parse_render hc, Bitfield.item_own hbare]

/-- An empty element and what looks like the closing tag around it. -/
def nestedContent : Text := "<element/><!--</element>-->".toList

def nestedRoot : Text := "<element a='</element>'>".toList ++ nestedContent ++ "</element>".toList

def nested : Text := wrap rootName nestedRoot

theorem judged_once_nested :
    (∃ c : Content, Content.parse nestedContent = .ok c ∧
      childElements nestedContent = .ok c.elements ∧
      Content.parse (wrap "element".toList nestedContent) =
        .ok (.element "element".toList c "element".toList .nil) ∧
      childElements (wrap "element".toList nestedContent) =
        .ok [⟨"element".toList, nestedContent⟩] ∧
      readAlone Register.item nestedContent =
        (Register.item [] "element".toList c.outline .nil).map Prod.fst ∧
      readAlone Bitfield.item nestedContent =
        (Bitfield.item [] "element".toList c.outline .nil).map Prod.fst) ∧
    DocumentFault.noDeviceName.ofMarkup = false := by
  have hroot : rootContent nested = .ok nestedRoot := by decide +kernel
  have hchildren : childElements nestedRoot = .ok [⟨"element".toList, nestedContent⟩] := by
    decide +kernel
  have hload : Device.load nested = .error .noDeviceName := by decide +kernel
  have h := judged_once nested
  exact ⟨h.1 nestedContent (.child (.root hroot) hchildren (List.mem_singleton.mpr rfl)),
    h.2 nestedRoot .noDeviceName hroot hload⟩

end Document

end RegisterMap
