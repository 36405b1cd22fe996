import RegisterMap.Proofs.Device.Contents
import RegisterMap.Proofs.Record.Alone

/-!
# Bitfields read alone

The bitfields of a register are read with the register, and again one by one
where the register fails, to find the one to blame. Where no start tag has
attributes and no name a label, both ways give the same records, and the blame
is on the first bitfield that fails alone (`Document.register_bitfields`).
-/

namespace RegisterMap

open Markup Record

namespace Markup

variable {c : Content} {p : Passage} {o : Outline}

theorem Outline.tags_prepend (p : Passage) (o : Outline) : (o.prepend p).tags = o.tags := by
  cases o <;> rfl

theorem Outline.children_prepend (p : Passage) (o : Outline) :
    (o.prepend p).children = o.children := by
  cases o <;> rfl

/-- The tag of an element, where it begins. -/
def Token.startTag? : Token → Option Text
  | opening tag => some tag
  | empty tag => some tag
  | _ => none

/-- The start tags of a text, those of empty elements among them. -/
def startTags (s : Text) : List Text := (stream s).tokens.filterMap Token.startTag?

namespace Content

theorem Sound.stream_render (h : c.Sound) : stream c.render = ⟨c.tokens, none⟩ := by
  have hs := Content.stream_render h (t := []) (fun e he => by cases he)
  rwa [List.append_nil, stream_nil, List.append_nil] at hs

theorem tags_outline (c : Content) : c.outline.tags = c.tokens.filterMap Token.startTag? := by
  induction c with
  | nil => rfl
  | piece p rest ih =>
    cases p with
    | text s | cdata s => exact (Outline.tags_prepend _ _).trans ih
    | _ => exact ih
  | empty tag rest ih => exact congrArg (tag :: ·) ih
  | element tag inner closing rest ihi ihr =>
    simp only [outline, Outline.tags, tokens, List.filterMap_cons, Token.startTag?,
      List.filterMap_append, ihi, ihr]

theorem tags_startTags (h : c.Sound) : c.outline.tags = startTags c.render := by
  rw [startTags, h.stream_render, tags_outline]

theorem readAlone_render {ι : Type} (item : ItemReader ι) (tag : Text) (h : c.Sound) :
    readAlone item c.render = readChild item (tag, c.outline) := by
  rw [readAlone, parse_render h, readChild]

/-- An element is read from its text as from its outline. -/
theorem readAlone_elements {ι : Type} (item : ItemReader ι) (name : Text) (h : c.Sound) :
    (c.elements.filter (·.name = name)).map (fun e => readAlone item e.content) =
      (named name c.outline.children).map (readChild item) := by
  -- one element more at the front, whose name decides on both sides
  have front {d : Content} (tag : Text) (hd : d.Sound) {es : List Element} {cs : List Child}
      (ih : (es.filter (·.name = name)).map (fun e => readAlone item e.content) =
        (named name cs).map (readChild item)) :
      ((⟨tagName tag, d.render⟩ :: es).filter (·.name = name)).map
          (fun e => readAlone item e.content) =
        (named name ((tag, d.outline) :: cs)).map (readChild item) := by
    unfold named at ih ⊢
    rw [List.filter_cons, List.filter_cons]
    split
    · rw [List.map_cons, List.map_cons, ih, readAlone_render item tag hd]
    · exact ih
  induction h with
  | nil => rfl
  | text _ _ _ _ ih => rwa [elements, outline, Outline.children_prepend]
  | @piece p rest _ _ ih =>
    cases p with
    | text s | cdata s => rwa [elements, outline, Outline.children_prepend]
    | _ => exact ih
  | @empty tag rest _ _ ih => exact front tag .nil ih
  | @element tag closing inner rest _ _ _ hinner _ _ ih => exact front tag hinner ih

end Content

end Markup

namespace Document

variable {content x : Text} {before after : List Text} {e : Record.Fault}

/-- How a record of a content is named in a fault, at a place among its kind. -/
inductive Labels (content : Text) (place : Nat) : Text → Prop
  | name {before after : List Element} {d : Element} {s : Text} :
      childElements content = .ok (before ++ d :: after) → d.name = "Name".toList →
      (∀ b ∈ before, b.name ≠ "Name".toList) → resolve d.content = .ok s →
      Labels content place (Text.trim s)
  | unresolved {before after : List Element} {d : Element} {e : ReferenceFault} :
      childElements content = .ok (before ++ d :: after) → d.name = "Name".toList →
      (∀ b ∈ before, b.name ≠ "Name".toList) → resolve d.content = .error e →
      Labels content place ('#' :: Text.decimal place)
  | unnamed {es : List Element} : childElements content = .ok es →
      (∀ d ∈ es, d.name ≠ "Name".toList) → Labels content place ('#' :: Text.decimal place)

theorem label_labels {es : List Element} (h : childElements content = .ok es) (index : Nat) :
    Labels content (index + 1) (label content index) := by
  cases hf : es.find? (·.name = "Name".toList) with
  | none =>
    have hl : label content index = '#' :: Text.decimal (index + 1) := by
      simp only [label, childName?, h, hf, Option.getD_none]
    rw [hl]
    exact .unnamed h (by simpa using hf)
  | some d =>
    obtain ⟨hd, before, after, rfl, hb⟩ := List.find?_eq_some_iff_append.mp hf
    have hd : d.name = "Name".toList := by simpa using hd
    have hb : ∀ b ∈ before, b.name ≠ "Name".toList := by simpa using hb
    cases hr : resolve d.content with
    | ok s =>
      have hl : label content index = Text.trim s := by
        simp only [label, childName?, h, hf, hr, Option.getD_some]
      rw [hl]
      exact .name h hd hb hr
    | error e =>
      have hl : label content index = '#' :: Text.decimal (index + 1) := by
        simp only [label, childName?, h, hf, hr, Option.getD_none]
      rw [hl]
      exact .unresolved h hd hb hr

/-- The contents of the bitfields among the children of a register. -/
def bitfields (es : List Element) : List Text :=
  (es.filter (·.name = "Bitfield".toList)).map (·.content)

theorem firstBadBitfield_append (index : Nat)
    (hb : ∀ y ∈ before, ∃ b, readAlone Bitfield.item y = .ok b)
    (hx : readAlone Bitfield.item x = .error e) :
    firstBadBitfield index (before ++ x :: after) =
      some (.bitfield (label x (index + before.length)) e) := by
  induction before generalizing index with
  | nil => rw [List.nil_append, firstBadBitfield, hx]; rfl
  | cons y before ih =>
    obtain ⟨b, hy⟩ := hb y (List.mem_cons_self ..)
    rw [List.cons_append, firstBadBitfield, hy]
    simp only [ih (index + 1) fun z hz => hb z (List.mem_cons_of_mem _ hz), List.length_cons]
    rw [Nat.add_right_comm, Nat.add_assoc]

/-- A register that loads has the bitfields that its `Bitfield` children are read as alone. -/
theorem bitfields_readAlone {c : Content} {r : Register} (hc : c.Sound)
    (ht : ∀ tag ∈ startTags c.render, Bare tag ∧ ':' ∉ tagName tag)
    (h : readAlone Register.item c.render = .ok r) :
    (bitfields c.elements).map (readAlone Bitfield.item) = r.bitfields.map .ok := by
  rw [Content.readAlone_render _ [] hc, readChild] at h
  cases hr : Register.item [] [] c.outline .nil with
  | error e => rw [hr] at h; cases h
  | ok x =>
    obtain ⟨s, σ⟩ := x
    rw [hr] at h
    cases h
    rw [bitfields, List.map_map, ← Register.item_bitfields (Content.tags_startTags hc ▸ ht) hr]
    exact Content.readAlone_elements _ _ hc

/-- The two ways in which bitfields are read agree. In the content of an element whose start tags
have no attributes and no labels, the bitfields of a register that loads are those that its
`Bitfield` children are read as alone, in order; and if one fails alone, the register fails, and
the fault is that of the first such child under its label. -/
theorem register_bitfields {s : Text} {es : List Element} {d : Element}
    (hs : childElements s = .ok es) (hd : d ∈ es)
    (ht : ∀ tag ∈ startTags d.content, Bare tag ∧ ':' ∉ tagName tag) :
    ∃ children, childElements d.content = .ok children ∧
      (∀ r, readAlone Register.item d.content = .ok r →
        (bitfields children).map (readAlone Bitfield.item) = r.bitfields.map .ok) ∧
      ∀ before x after e, bitfields children = before ++ x :: after →
        (∀ y ∈ before, ∃ b, readAlone Bitfield.item y = .ok b) →
        readAlone Bitfield.item x = .error e →
        ∃ l, Labels x (before.length + 1) l ∧ register d.content = .error (.bitfield l e) := by
  obtain ⟨c, hc, -, rfl⟩ := childElements_eq_ok_iff.mp hs
  obtain ⟨inner, hinner, hrender⟩ := hc.of_mem_elements hd
  rw [← hrender] at ht ⊢
  refine ⟨inner.elements, childElements_render hinner, fun r => bitfields_readAlone hinner ht, ?_⟩
  intro before x after e hsplit hb hx
  have hmem : x ∈ bitfields inner.elements := by
    rw [hsplit]
    exact List.mem_append_right _ (List.mem_cons_self ..)
  obtain ⟨f, hf, rfl⟩ := List.mem_map.mp hmem
  obtain ⟨cx, hcx, hxrender⟩ := hinner.of_mem_elements (List.mem_filter.mp hf).1
  refine ⟨label f.content before.length,
    label_labels (hxrender ▸ childElements_render hcx) before.length, ?_⟩
  have hfails : ∀ r, readAlone Register.item inner.render ≠ .ok r := by
    intro r hr
    have hall := bitfields_readAlone hinner ht hr
    have hin : readAlone Bitfield.item f.content ∈
        (bitfields inner.elements).map (readAlone Bitfield.item) := List.mem_map_of_mem hmem
    rw [hall, hx] at hin
    obtain ⟨b, -, hb⟩ := List.mem_map.mp hin
    cases hb
  have hfault : bitfieldFault? inner.render =
      some (.bitfield (label f.content before.length) e) := by
    unfold bitfieldFault?
    rw [childElements_render hinner]
    change firstBadBitfield 0 (bitfields inner.elements) = _
    rw [hsplit, firstBadBitfield_append 0 hb hx, Nat.zero_add]
  unfold register
  split
  · next r hr => exact absurd hr (hfails r)
  · rw [hfault, Option.getD_some]

def soundBitfield : Text :=
  "<Name>A</Name><Start>7</Start><Stop>0</Stop><Access/><Reset/>".toList

def nameOnly : Text := "<Name> B</Name>".toList

/-- The content of a register with two bitfields, of which the second does not load. -/
def brokenRegister : Text :=
  "<Bitfield>".toList ++ soundBitfield ++ "</Bitfield><Note/><Bitfield >".toList ++ nameOnly ++
    "</Bitfield>".toList

def soundRegister : Text :=
  "<Name>R</Name><Address/><Bitfield>".toList ++ soundBitfield ++ "</Bitfield><Reset/>".toList

theorem register_bitfields_second :
    readAlone Bitfield.item soundBitfield = .ok ⟨"A".toList, 7, 0, [], [], none, []⟩ ∧
      ∃ l, Labels nameOnly 2 l ∧
        register brokenRegister = .error (.bitfield l (.missing "Start".toList)) := by
  have hloads : readAlone Register.item soundRegister =
      .ok ⟨"R".toList, [], none, [], [⟨"A".toList, 7, 0, [], [], none, []⟩]⟩ := by decide +kernel
  have hs : childElements (wrap "Register".toList soundRegister ++
      wrap "Register".toList brokenRegister) =
        .ok [⟨"Register".toList, soundRegister⟩, ⟨"Register".toList, brokenRegister⟩] := by
    decide +kernel
  have hsound : childElements soundRegister = .ok [⟨"Name".toList, ['R']⟩, ⟨"Address".toList, []⟩,
      ⟨"Bitfield".toList, soundBitfield⟩, ⟨"Reset".toList, []⟩] := by decide +kernel
  have hbroken : childElements brokenRegister = .ok [⟨"Bitfield".toList, soundBitfield⟩,
      ⟨"Note".toList, []⟩, ⟨"Bitfield".toList, nameOnly⟩] := by decide +kernel
  have hfails : readAlone Bitfield.item nameOnly = .error (.missing "Start".toList) := by
    decide +kernel
  obtain ⟨first, hfirst, hread, -⟩ :=
    register_bitfields hs (List.mem_cons_self ..) (by decide +kernel)
  obtain ⟨second, hsecond, -, hfault⟩ :=
    register_bitfields hs (List.mem_cons_of_mem _ (List.mem_cons_self ..)) (by decide +kernel)
  rw [hsound] at hfirst
  cases hfirst
  rw [hbroken] at hsecond
  cases hsecond
  have hbitfield := (List.cons.inj (hread _ hloads)).1
  refine ⟨hbitfield, hfault [soundBitfield] nameOnly [] _ rfl (fun y hy => ?_) hfails⟩
  rw [List.mem_singleton.mp hy]
  exact ⟨_, hbitfield⟩

end Document

end RegisterMap
