import RegisterMap.Proofs.Device.Around
import RegisterMap.Proofs.Device.Rearranged
import RegisterMap.Proofs.Layout.Declared
import RegisterMap.Proofs.Layout.Returns
import RegisterMap.Proofs.Record.Returns

/-!
# Documents with the other line ends

Put a carriage return before every line feed of a document whose line feeds
stand in prose or where they are passed over. Then its registers are the same
but for the prose, which is `Returned` (`Device.load_withReturns`), so it still
generates, and the same code (`generate_withReturns`).

One thing is excepted. A reference may write a carriage return before a line
feed. The two are one line end, but two with another carriage return between
them, and there is a documentation line more (`generate_referred`).
-/

namespace RegisterMap

open Markup Record

/-! ## Content on one line where it counts -/

namespace Markup.Content

variable {c d : Content} {name : Text} {e : Text × Content}

theorem withReturns_of_not_mem (h : '\n' ∉ c.render) : c.withReturns = c := by
  induction c with
  | nil => rfl
  | piece p rest ih =>
    simp only [render, List.mem_append, not_or] at h
    obtain ⟨hp, hrest⟩ := h
    have hsame : p.withReturns = p := by
      cases p with
      | text s =>
        have hs : '\n' ∉ s := hp
        rw [Piece.withReturns, Text.withReturns_of_not_mem hs]
      | comment s | cdata s | doctype s | instruction s =>
        have hs : '\n' ∉ s := fun hm =>
          hp (List.mem_append_left _ (List.mem_append_right _ hm))
        rw [Piece.withReturns, Text.withReturns_of_not_mem hs]
    rw [withReturns, hsame, ih hrest]
  | empty tag rest ih =>
    simp only [render, List.mem_append, not_or] at h
    rw [withReturns, ih h.2]
  | element tag inner closing rest ihi ihr =>
    simp only [render, List.mem_append, not_or] at h
    obtain ⟨⟨⟨-, hinner⟩, -⟩, hrest⟩ := h
    rw [withReturns, ihi hinner, ihr hrest]

/-- Elements, at any depth, that hold nothing but what is taken as it is have no line feed. -/
def FieldsInline : Content → Prop
  | nil => True
  | piece _ rest => rest.FieldsInline
  | empty _ rest => rest.FieldsInline
  | element tag inner _ rest =>
    (localName (tagName tag) ∈ inlineFields → inner.elements = [] → '\n' ∉ inner.render) ∧
      inner.FieldsInline ∧ rest.FieldsInline

instance decidableTagsInline : (c : Content) → Decidable c.TagsInline
  | nil => inferInstanceAs (Decidable True)
  | piece _ rest => decidableTagsInline rest
  | empty tag rest =>
    have := decidableTagsInline rest
    inferInstanceAs (Decidable ('\n' ∉ tag ∧ rest.TagsInline))
  | element tag inner closing rest =>
    have := decidableTagsInline inner
    have := decidableTagsInline rest
    inferInstanceAs
      (Decidable (('\n' ∉ tag ∧ '\n' ∉ closing) ∧ inner.TagsInline ∧ rest.TagsInline))

instance decidableFieldsInline : (c : Content) → Decidable c.FieldsInline
  | nil => inferInstanceAs (Decidable True)
  | piece _ rest => decidableFieldsInline rest
  | empty _ rest => decidableFieldsInline rest
  | element tag inner _ rest =>
    have := decidableFieldsInline inner
    have := decidableFieldsInline rest
    inferInstanceAs (Decidable ((localName (tagName tag) ∈ inlineFields → inner.elements = [] →
      '\n' ∉ inner.render) ∧ inner.FieldsInline ∧ rest.FieldsInline))

/-- No line feed stands in a tag, or in a field that is taken as it is. -/
structure Inline (c : Content) : Prop where
  tags : c.TagsInline
  fields : c.FieldsInline

theorem outlineInline_prepend (p : Passage) (o : Outline) :
    OutlineInline (o.prepend p) ↔ OutlineInline o := by
  cases o <;> exact Iff.rfl

theorem FieldsInline.outline (h : c.FieldsInline) : OutlineInline c.outline := by
  induction c with
  | nil => trivial
  | piece p rest ih =>
    cases p with
    | text s | cdata s => exact (outlineInline_prepend _ _).mpr (ih h)
    | _ => exact ih h
  | empty tag rest ih => exact ⟨fun _ _ => rfl, trivial, ih h⟩
  | element tag inner closing rest ihi ihr =>
    obtain ⟨hfield, hinner, hrest⟩ := h
    refine ⟨fun hname hnone => ?_, ihi hinner, ihr hrest⟩
    rw [outline_children, List.map_eq_nil_iff] at hnone
    have helements : inner.elements = [] := by rw [elements_children, hnone]; rfl
    rw [← outline_withReturns, withReturns_of_not_mem (hfield hname helements)]

theorem Inline.of_mem_children (h : c.Inline) (he : e ∈ c.children) : e.2.Inline := by
  obtain ⟨htags, hfields⟩ := h
  induction c with
  | nil => cases he
  | piece p rest ih => exact ih he htags hfields
  | empty tag rest ih =>
    rcases List.mem_cons.mp he with rfl | he
    · exact ⟨trivial, trivial⟩
    · exact ih he htags.2 hfields
  | element tag inner closing rest _ ih =>
    rcases List.mem_cons.mp he with rfl | he
    · exact ⟨htags.2.1, hfields.2.1⟩
    · exact ih he htags.2.2 hfields.2.2

theorem children_withReturns (c : Content) :
    c.withReturns.children = c.children.map fun e => (e.1, e.2.withReturns) := by
  induction c with
  | nil => rfl
  | piece p rest ih => exact ih
  | empty tag rest ih => exact congrArg ((tag, .nil) :: ·) ih
  | element tag inner closing rest _ ih => exact congrArg ((tag, inner.withReturns) :: ·) ih

theorem contentsOf_withReturns (name : Text) (c : Content) :
    c.withReturns.contentsOf name = (c.contentsOf name).map withReturns := by
  rw [contentsOf, children_withReturns, List.filter_map, List.map_map, contentsOf, List.map_map]
  rfl

/-- What follows for the text of each element of a name follows for all of them. -/
theorem Inline.forall₂_contentsOf {ε α : Type} {R : α → α → Prop} {f : Text → Except ε α}
    {as : List α} (h : c.Inline)
    (hf : ∀ x ∈ c.contentsOf name, Follows R (f x.render) (f (Text.withReturns x.render)))
    (has : List.Forall₂ (fun x a => f x.render = .ok a) (c.contentsOf name) as) :
    ∃ bs, List.Forall₂ (fun x b => f x.render = .ok b) (c.withReturns.contentsOf name) bs ∧
      List.Forall₂ R as bs := by
  obtain ⟨bs, hbs, hab⟩ := Follows.forall₂ hf has
  refine ⟨bs, ?_, hab⟩
  have htags : ∀ x ∈ c.contentsOf name, x.TagsInline := by
    intro x hx
    obtain ⟨tag, hx⟩ := mem_children_of_contentsOf hx
    exact (h.of_mem_children hx).tags
  rw [contentsOf_withReturns, List.forall₂_map_left_iff]
  refine ((List.forall₂_and_left _ _).mpr ⟨htags, hbs⟩).imp fun x b hx => ?_
  rw [render_withReturns hx.1]
  exact hx.2

theorem follows_readAlone {ι : Type} {R : ι → ι → Prop} {reader : ItemReader ι}
    (hreader : ReaderFollows R reader) (hsound : c.Sound) (hc : c.Inline) :
    Follows R (readAlone reader c.render) (readAlone reader (Text.withReturns c.render)) := by
  rw [← render_withReturns hc.tags, readAlone_render reader [] hsound,
    readAlone_render reader [] hsound.withReturns, outline_withReturns]
  exact (hreader.follows hc.fields.outline).map fun _ _ hab => hab.1

end Markup.Content

/-! ## Records -/

namespace Record

theorem noItem_follows : ReaderFollows (fun _ _ => True) noItem :=
  ⟨fun _ => .ok ⟨trivial, rfl⟩⟩

end Record

theorem Value.follows_ofSheet {x y : Sheet Unit} (h : SheetReturned (fun _ _ => True) x y) :
    Follows Value.Returned (Value.ofSheet x) (Value.ofSheet y) := by
  refine (h.text _).bind fun number _ hnumber => ?_
  refine (h.text _).bind fun brief _ hbrief => ?_
  exact .ok ⟨(hnumber.2 (by decide)).symm, hbrief.1⟩

theorem Bitfield.follows_ofSheet {x y : Sheet Value} (h : SheetReturned Value.Returned x y) :
    Follows Bitfield.Returned (Bitfield.ofSheet x) (Bitfield.ofSheet y) := by
  refine (h.text _).bind fun name _ hname => ?_
  refine (h.byte _).bind fun start _ hstart => ?_
  refine (h.byte _).bind fun stop _ hstop => ?_
  refine (h.text _).bind fun access _ haccess => ?_
  refine (h.text _).bind fun reset _ hreset => ?_
  exact .ok ⟨(hname.2 (by decide)).symm, hstart.symm, hstop.symm, (haccess.2 (by decide)).symm,
    (hreset.2 (by decide)).symm, h.text? _, h.list⟩

theorem Register.follows_ofSheet {x y : Sheet Bitfield} (h : SheetReturned Bitfield.Returned x y) :
    Follows Register.Returned (Register.ofSheet x) (Register.ofSheet y) := by
  refine (h.text _).bind fun name _ hname => ?_
  refine (h.text _).bind fun address _ haddress => ?_
  refine (h.text _).bind fun reset _ hreset => ?_
  exact .ok ⟨(hname.2 (by decide)).symm, (haddress.2 (by decide)).symm,
    (hreset.2 (by decide)).symm, h.text? _, h.list⟩

theorem Value.item_follows : ReaderFollows Value.Returned Value.item :=
  readerFollows_of_sheet (by decide) noItem_follows Value.follows_ofSheet

theorem Bitfield.item_follows : ReaderFollows Bitfield.Returned Bitfield.item :=
  readerFollows_of_sheet (by decide) Value.item_follows Bitfield.follows_ofSheet

theorem Register.item_follows : ReaderFollows Register.Returned Register.item :=
  readerFollows_of_sheet (by decide) Bitfield.item_follows Register.follows_ofSheet

/-! ## Documents -/

namespace Document

variable {s before root after : Text} {c : Content}

/-- No line feed of the root stands in a tag, or in a field that is taken as it is. They may stand in
prose, between elements and around the root. -/
def Inline (s : Text) : Prop := ∀ before root after c,
  Splits s before root after → Content.parse root = .ok c → c.Inline

theorem Splits.withReturns (h : Splits s before root after) (hc : Content.parse root = .ok c)
    (htags : c.TagsInline) :
    Splits (Text.withReturns s) (Text.withReturns before) (Text.withReturns root)
      (Text.withReturns after) ∧ Content.parse (Text.withReturns root) = .ok c.withReturns := by
  have hparse {c : Content} (hsound : c.Sound) (htags : c.TagsInline) :
      Content.parse (Text.withReturns c.render) = .ok c.withReturns := by
    rw [← Content.render_withReturns htags, Content.parse_render hsound.withReturns]
  obtain ⟨hsound, rfl⟩ := Content.parse_eq_ok_iff.mp hc
  have hroot := hparse hsound htags
  refine ⟨⟨?_, ?_, ?_⟩, hroot⟩
  · rw [h.eq, Text.withReturns_append, Text.withReturns_append]
  · obtain ⟨b, hb, hrender, hnone⟩ := childElements_eq_ok_iff.mp h.before
    rw [← hrender]
    refine childElements_eq_ok_iff.mpr ⟨b.withReturns, hb.withReturns, ?_, ?_⟩
    · exact Content.render_withReturns (Content.tagsInline_of_elements hnone)
    · exact Content.elements_withReturns hnone
  · obtain ⟨tag, inner, closing, htag, hname⟩ := h.root
    cases hc.symm.trans htag
    exact ⟨tag, inner.withReturns, closing, hroot, hname⟩

end Document

open Document

/-- With the other line ends, what loads still does, with the same registers but for their prose. -/
theorem Device.load_withReturns {s : Text} {d : Device} (hs : Document.Inline s)
    (h : load s = .ok d) :
    ∃ e, load (Text.withReturns s) = .ok e ∧
      List.Forall₂ Register.Returned d.registers e.registers := by
  obtain ⟨before, root, after, hsplits⟩ := splits_of_load h
  obtain ⟨tag, inner, closing, hc, -⟩ := hsplits.root
  have hinline := hs _ _ _ _ hsplits hc
  obtain ⟨hsplits', hc'⟩ := hsplits.withReturns hc hinline.tags
  obtain ⟨hsound, -⟩ := Content.parse_eq_ok_iff.mp hc
  cases hsound with
  | element _ _ _ hinner _ =>
    have hinside : inner.Inline := ⟨hinline.tags.2.1, hinline.fields.2.1⟩
    have hcontent := hsplits.rootContent_eq_ok hc
    have hcontent' := hsplits'.rootContent_eq_ok hc'
    obtain ⟨ns, hns, hlast, hrs⟩ := (Document.load_eq_ok_iff hinner hcontent).mp h
    have hregister : ∀ x ∈ inner.contentsOf "Register".toList,
        Follows Register.Returned (readAlone Register.item x.render)
          (readAlone Register.item (Text.withReturns x.render)) := by
      intro x hx
      obtain ⟨tag, hx⟩ := Content.mem_children_of_contentsOf hx
      exact Content.follows_readAlone Register.item_follows (hinner.of_mem_children hx)
        (hinside.of_mem_children hx)
    obtain ⟨ns', hns', hnames⟩ :=
      hinside.forall₂_contentsOf (fun _ _ _ hn => resolve_withReturns hn) hns
    obtain ⟨rs', hrs', hregisters⟩ := hinside.forall₂_contentsOf hregister hrs
    have hsome : (ns'.map Text.trim).getLast?.isSome := by
      cases hnames with
      | nil => cases hlast
      | cons _ _ => rw [List.map_cons, List.getLast?_cons, Option.isSome_some]
    obtain ⟨name, hname⟩ := Option.isSome_iff_exists.mp hsome
    exact ⟨⟨name, rs'⟩, (Document.load_eq_ok_iff hinner.withReturns hcontent').mpr
      ⟨ns', hns', hname, hrs'⟩, hregisters⟩

/-- With the other line ends, what generates still does, and the same code unless some prose has a
carriage return before a line feed. -/
theorem generate_withReturns {h : Header} {document code : Text}
    (hg : generate h document = .ok code) (hd : Document.Inline document) :
    ∃ d code', Device.load document = .ok d ∧
      generate h (Text.withReturns document) = .ok code' ∧
      (Prose.Unreturned d.prose → code' = code) := by
  obtain ⟨d, l, hload, hlayout, rfl⟩ := generate_ok hg
  obtain ⟨e, he, hregisters⟩ := Device.load_withReturns hd hload
  obtain ⟨m, hm, hblocks⟩ := Device.layout_returned hregisters hlayout
  refine ⟨d, m.render h, hload, ?_, fun hprose => ?_⟩
  · unfold generate
    rw [he]
    simp only [Except.mapError, bind, Except.bind, hm]
    rfl
  · rw [Layout.render, hblocks hprose, Layout.render]

/-! ## A carriage return by reference -/

def leaf (name : String) (text : Text) (rest : Content) : Content :=
  .element name.toList (.piece (.text text) .nil) name.toList rest

def feed (rest : Content) : Content := .piece (.text "\n".toList) rest

/-- A root with a register of a description, each element on a line of its own. -/
def describedRoot (description : Text) : Content :=
  .element rootName
    (feed <| leaf "devicename" "D".toList <| feed <|
      .element "Register".toList
        (feed <| leaf "Name" "R".toList <| feed <| leaf "Address" "0".toList <| feed <|
          leaf "Description" description <| feed <| leaf "Reset" "0".toList <| feed .nil)
        "Register".toList <| feed .nil)
    rootName .nil

def described (description : Text) : Text :=
  (describedRoot description).render ++ "\n".toList

def describedLayout (description : List Text) : Layout :=
  ⟨"D".toList, [⟨"R".toList, "0".toList, description, "0x00".toList, []⟩]⟩

theorem described_inline {description : Text}
    (hp : Content.parse (describedRoot description).render = .ok (describedRoot description))
    (hi : (describedRoot description).TagsInline ∧ (describedRoot description).FieldsInline) :
    Document.Inline (described description) := by
  intro before root after c hs hc
  have hsplits : Splits (described description) [] (describedRoot description).render "\n".toList :=
    ⟨rfl, childElements_render .nil, _, _, _, hp, by decide⟩
  obtain ⟨rfl, rfl, rfl⟩ := hs.unique hsplits
  cases hc.symm.trans hp
  exact ⟨hi.1, hi.2⟩

def twoLines : Text := "a\nb".toList

/-- Two lines, the first of which has a carriage return at its end. -/
def twoLinesReferred : Text := "a&#13;\nb".toList

theorem generate_withReturns_described :
    generate .none (Text.withReturns (described twoLines)) =
      .ok ((describedLayout ["a".toList, "b".toList]).render .none) := by
  have hg : generate .none (described twoLines) =
      .ok ((describedLayout ["a".toList, "b".toList]).render .none) := by decide +kernel
  have hd : Document.Inline (described twoLines) :=
    described_inline (by decide +kernel) (by decide +kernel)
  obtain ⟨d, code', hload, hcode, hsame⟩ := generate_withReturns hg hd
  have hprose : (Device.load (described twoLines)).map Device.prose = .ok [twoLines] := by
    decide +kernel
  rw [hload] at hprose
  rw [hcode, hsame]
  rw [Except.ok.inj hprose]
  unfold Prose.Unreturned
  decide

/-- The carriage return is one line end with the line feed, and another before the carriage return
of the other line end. -/
theorem generate_referred :
    '\r' ∉ described twoLinesReferred ∧ Document.Inline (described twoLinesReferred) ∧
      generate .none (described twoLinesReferred) =
        .ok ((describedLayout ["a".toList, "b".toList]).render .none) ∧
      generate .none (Text.withReturns (described twoLinesReferred)) =
        .ok ((describedLayout ["a".toList, [], "b".toList]).render .none) ∧
      (describedLayout ["a".toList, [], "b".toList]).render .none ≠
        (describedLayout ["a".toList, "b".toList]).render .none :=
  ⟨by decide +kernel, described_inline (by decide +kernel) (by decide +kernel), by decide +kernel,
    by decide +kernel, by decide +kernel⟩

end RegisterMap
