import RegisterMap.Proofs.Device.Bitfields
import RegisterMap.Proofs.Device.Load
import RegisterMap.Proofs.Record.Rearranged

/-!
# Documents rearranged

A document loads as its `devicename` and `Register` children do, each kind in
order (`Document.load_eq_ok_iff`). So the order of unlike children is of no
account, at the root and in the records inside it, and unknown children change
nothing where they stand before the first item of a record. Behind it they are
ignored only if their references resolve (`Device.load_rearranged`).
-/

namespace RegisterMap

open Markup Record

namespace Markup.Content

variable {c : Content} {name : Text}

/-- The elements at the top, each a tag and a content. -/
def children : Content → List (Text × Content)
  | nil => []
  | piece _ rest => rest.children
  | empty tag rest => (tag, nil) :: rest.children
  | element tag inner _ rest => (tag, inner) :: rest.children

/-- The contents of the elements of a name at the top. -/
def contentsOf (name : Text) (c : Content) : List Content :=
  (c.children.filter (tagName ·.1 = name)).map Prod.snd

theorem elements_children (c : Content) :
    c.elements = c.children.map fun e => ⟨tagName e.1, e.2.render⟩ := by
  induction c with
  | nil => rfl
  | piece p rest ih => exact ih
  | empty tag rest ih => rw [elements, ih]; rfl
  | element tag inner closing rest _ ih => rw [elements, ih]; rfl

theorem outline_children (c : Content) :
    c.outline.children = c.children.map fun e => (e.1, e.2.outline) := by
  induction c with
  | nil => rfl
  | piece p rest ih =>
    cases p with
    | text s | cdata s => exact (Outline.children_prepend _ _).trans ih
    | _ => exact ih
  | empty tag rest ih => exact congrArg ((tag, .nil) :: ·) ih
  | element tag inner closing rest _ ih => exact congrArg ((tag, inner.outline) :: ·) ih

theorem Sound.of_mem_children (h : c.Sound) {e : Text × Content} (he : e ∈ c.children) :
    e.2.Sound := by
  induction h with
  | nil => cases he
  | text _ _ _ _ ih | piece _ _ ih => exact ih he
  | empty _ _ ih =>
    rcases List.mem_cons.mp he with rfl | he
    · exact .nil
    · exact ih he
  | element _ _ _ hinner _ _ ih =>
    rcases List.mem_cons.mp he with rfl | he
    · exact hinner
    · exact ih he

theorem mem_children_of_contentsOf {d : Content} (h : d ∈ c.contentsOf name) :
    ∃ tag, (tag, d) ∈ c.children := by
  obtain ⟨⟨tag, d⟩, he, rfl⟩ := List.mem_map.mp h
  exact ⟨tag, (List.mem_filter.mp he).1⟩

theorem tags_of_contentsOf {d : Content} (h : d ∈ c.contentsOf name) :
    ∀ t ∈ d.outline.tags, t ∈ c.outline.tags := by
  obtain ⟨tag, hd⟩ := mem_children_of_contentsOf h
  have hmem : (tag, d.outline) ∈ c.outline.children := by
    rw [outline_children]
    exact List.mem_map_of_mem hd
  exact (Outline.tags_of_mem_children hmem).2

end Markup.Content

namespace Record

/-- No unknown child of a record is written with `&`. -/
def Unescaped (shape : Shape) (c : Content) : Prop :=
  ∀ e ∈ c.children, shape.roleOf (e.1, e.2.outline) = .unknown → '&' ∉ e.2.render

theorem Unescaped.resolves {shape : Shape} {c : Content} (h : Unescaped shape c) :
    ∀ k ∈ shape.behind c.outline.children, k.2.Resolves := by
  intro k hk
  obtain ⟨hk, hrole⟩ := List.mem_filter.mp hk
  have hmem : k ∈ c.outline.children := (List.dropWhile_sublist _).subset hk
  rw [Content.outline_children] at hmem
  obtain ⟨e, he, rfl⟩ := List.mem_map.mp hmem
  exact Content.resolves_of_not_mem (h e he (by simpa using hrole))

end Record

theorem Value.settled (o : Outline) : Value.Settled o := by
  have hrole (c : Child) : Value.shape.roleOf c ≠ .item := by
    rw [Shape.roleOf, ne_eq, Shape.role_eq_item]
    intro hitem
    cases hitem
  constructor
  · intro c hc
    have hnil : o.children.dropWhile (Value.shape.roleOf · ≠ .item) = [] :=
      List.dropWhile_eq_nil_iff.mpr fun c _ => by simpa using hrole c
    rw [Shape.behind, hnil] at hc
    cases hc
  · exact fun _ _ => trivial

/-- No unknown child of a register or of a bitfield in it is written with `&`. -/
structure Register.Unescaped (c : Content) : Prop where
  register : Record.Unescaped shape c
  bitfields : ∀ e ∈ c.children, shape.roleOf (e.1, e.2.outline) = .item →
    Record.Unescaped Bitfield.shape e.2

theorem Register.Unescaped.settled {c : Content} (h : Register.Unescaped c) :
    Register.Settled c.outline := by
  refine ⟨h.register.resolves, fun k hk => ?_⟩
  obtain ⟨hk, hrole⟩ := List.mem_filter.mp hk
  rw [Content.outline_children] at hk
  obtain ⟨e, he, rfl⟩ := List.mem_map.mp hk
  exact ⟨(h.bitfields e he (by simpa using hrole)).resolves, fun _ _ => Value.settled _⟩

namespace Document

variable {s : Text} {c : Content} {d : Device} {name name' : Option Text} {index : Nat}
  {es : List Element} {rs : List Register}

/-! ## Loading -/

def contentsOf (name : Text) (es : List Element) : List Text :=
  (es.filter (·.name = name)).map (·.content)

theorem contentsOf_cons_of_eq {e : Element} {name : Text} (h : e.name = name) (es : List Element) :
    contentsOf name (e :: es) = e.content :: contentsOf name es := by
  rw [contentsOf, List.filter_cons_of_pos (by simpa using h), List.map_cons, contentsOf]

theorem contentsOf_cons_of_ne {e : Element} {name : Text} (h : e.name ≠ name) (es : List Element) :
    contentsOf name (e :: es) = contentsOf name es := by
  rw [contentsOf, List.filter_cons_of_neg (by simpa using h), contentsOf]

theorem register_eq_ok_iff {r : Register} :
    register s = .ok r ↔ readAlone Register.item s = .ok r := by
  unfold register
  cases readAlone Register.item s <;> simp

theorem lastName_cons (n : Text) (ns : List Text) (name : Option Text) :
    ((n :: ns).map Text.trim).getLast?.or name =
      (ns.map Text.trim).getLast?.or (some (Text.trim n)) := by
  rw [List.map_cons, List.getLast?_cons]
  cases (ns.map Text.trim).getLast? <;> rfl

/-- Children are taken kind by kind: of the names the last is kept, and all of the registers. -/
theorem takeChildren_eq_ok_iff : takeChildren name index es = .ok (name', rs) ↔
    ∃ ns, List.Forall₂ (fun s n => resolve s = .ok n) (contentsOf "devicename".toList es) ns ∧
      name' = (ns.map Text.trim).getLast?.or name ∧
      List.Forall₂ (fun s r => readAlone Register.item s = .ok r)
        (contentsOf "Register".toList es) rs := by
  induction es generalizing name index rs with
  | nil =>
    have hnil {name : Text} : contentsOf name [] = [] := rfl
    simp [takeChildren, hnil, eq_comm]
  | cons e es ih =>
    rw [takeChildren]
    split
    · next hname =>
      have hne : e.name ≠ "Register".toList := by rw [hname]; decide
      rw [contentsOf_cons_of_eq hname, contentsOf_cons_of_ne hne]
      split
      · next f hf =>
        refine iff_of_false (fun h => by cases h) ?_
        rintro ⟨ns, hns, -⟩
        exact not_forall₂_ok_cons hf hns
      · next n hn =>
        simp only [ih, forall₂_ok_cons hn]
        constructor
        · rintro ⟨ns, hns, hlast, hrs⟩
          exact ⟨n :: ns, ⟨ns, hns, rfl⟩, by rw [hlast, lastName_cons], hrs⟩
        · rintro ⟨_, ⟨ns, hns, rfl⟩, hlast, hrs⟩
          exact ⟨ns, hns, by rw [hlast, lastName_cons], hrs⟩
    · next hname =>
      rw [contentsOf_cons_of_ne hname]
      split
      · next hregister =>
        rw [contentsOf_cons_of_eq hregister]
        split
        · next f hf =>
          refine iff_of_false (fun h => by cases h) ?_
          rintro ⟨-, -, -, hrs⟩
          obtain ⟨g, hg⟩ : ∃ g, readAlone Register.item e.content = .error g := by
            unfold register at hf
            split at hf
            · cases hf
            · next g hg => exact ⟨g, hg⟩
          exact not_forall₂_ok_cons hg hrs
        · next r hr =>
          have hmap {f : Option Text × List Register → Option Text × List Register}
              {x : Except DocumentFault (Option Text × List Register)} :
              x.map f = .ok (name', rs) ↔ ∃ z, x = .ok z ∧ f z = (name', rs) := by
            cases x <;> simp [Except.map]
          simp only [hmap, forall₂_ok_cons (register_eq_ok_iff.mp hr)]
          constructor
          · rintro ⟨⟨found, qs⟩, htake, heq⟩
            cases heq
            obtain ⟨ns, hns, hlast, hqs⟩ := ih.mp htake
            exact ⟨ns, hns, hlast, qs, hqs, rfl⟩
          · rintro ⟨ns, hns, hlast, qs, hqs, rfl⟩
            exact ⟨(name', qs), ih.mpr ⟨ns, hns, hlast, hqs⟩, rfl⟩
      · next hregister => rw [contentsOf_cons_of_ne hregister, ih]

/-- What the loading of a document is, by the content of its root. -/
theorem load_eq_ok_iff (hc : c.Sound) (hs : rootContent s = .ok c.render) :
    Device.load s = .ok d ↔
      ∃ ns, List.Forall₂ (fun x n => resolve x.render = .ok n)
          (c.contentsOf "devicename".toList) ns ∧
        (ns.map Text.trim).getLast? = some d.name ∧
        List.Forall₂ (fun x r => readAlone Register.item x.render = .ok r)
          (c.contentsOf "Register".toList) d.registers := by
  have hcontents (name : Text) :
      contentsOf name c.elements = (c.contentsOf name).map Content.render := by
    rw [contentsOf, Content.elements_children, List.filter_map, List.map_map, Content.contentsOf,
      List.map_map]
    rfl
  have hload : Device.load s = .ok d ↔
      takeChildren none 0 c.elements = .ok (some d.name, d.registers) := by
    obtain ⟨name, registers⟩ := d
    unfold Device.load
    rw [hs]
    simp only [bind, Except.bind, childElements_render hc, Except.mapError]
    split
    · next f hf => simp [hf]
    · next x hx =>
      rw [hx]
      obtain ⟨found, rs⟩ := x
      cases found with
      | none => simp
      | some n => simp [pure, Except.pure]
  rw [hload, takeChildren_eq_ok_iff]
  simp only [hcontents, List.forall₂_map_left_iff, Option.or_none, eq_comm]

/-! ## Rearranging -/

/-- The content of a document's root, in which no start tag has attributes. -/
structure HasContent (s : Text) (c : Content) : Prop where
  root : rootContent s = .ok c.render
  parse : Content.parse c.render = .ok c
  bare : ∀ tag ∈ startTags c.render, Bare tag

/-- The roots have the same names and the same registers in order, each rearranged itself. -/
structure Rearranged (c c' : Content) : Prop where
  names : (c'.contentsOf "devicename".toList).map Content.render =
    (c.contentsOf "devicename".toList).map Content.render
  registers : List.Forall₂ (fun x x' => Register.Rearranged x.outline x'.outline)
    (c.contentsOf "Register".toList) (c'.contentsOf "Register".toList)

/-- What is unknown behind the first item of a record resolves. -/
def Settled (c : Content) : Prop :=
  ∀ x ∈ c.contentsOf "Register".toList, Register.Settled x.outline

def Unescaped (c : Content) : Prop :=
  ∀ x ∈ c.contentsOf "Register".toList, Register.Unescaped x

end Document

namespace Document

variable {c c' : Content} {rs : List Register}

theorem readAlone_contentsOf (hc : c.Sound) :
    List.Forall₂ (fun x r => readAlone Register.item x.render = .ok r)
        (c.contentsOf "Register".toList) rs ↔
      List.Forall₂ (fun k r => readChild Register.item k = .ok r)
        ((c.contentsOf "Register".toList).map fun x => ([], x.outline)) rs := by
  have hread : ∀ x ∈ c.contentsOf "Register".toList,
      readAlone Register.item x.render = readChild Register.item ([], x.outline) := by
    intro x hx
    obtain ⟨tag, hmem⟩ := Content.mem_children_of_contentsOf hx
    exact Content.readAlone_render _ _ (hc.of_mem_children hmem)
  rw [List.forall₂_map_left_iff]
  constructor
  · intro h
    exact ((List.forall₂_and_left _ _).mpr ⟨hread, h⟩).imp fun x r hx => hx.1 ▸ hx.2
  · intro h
    exact ((List.forall₂_and_left _ _).mpr ⟨hread, h⟩).imp fun x r hx => hx.1.trans hx.2

/-- The registers of a root are read from the root rearranged if that is settled. -/
theorem Rearranged.registers_iff (h : Rearranged c c') (hc : c.Sound) (hc' : c'.Sound)
    (hbare : ∀ t ∈ c.outline.tags, Bare t) (hbare' : ∀ t ∈ c'.outline.tags, Bare t)
    (hrs : List.Forall₂ (fun x r => readAlone Register.item x.render = .ok r)
      (c.contentsOf "Register".toList) rs) (rs' : List Register) :
    List.Forall₂ (fun x r => readAlone Register.item x.render = .ok r)
        (c'.contentsOf "Register".toList) rs' ↔ rs' = rs ∧ Settled c' := by
  have htags {c : Content} (hbare : ∀ t ∈ c.outline.tags, Bare t) :
      ∀ k ∈ (c.contentsOf "Register".toList).map fun x => (([] : Text), x.outline),
        ∀ t ∈ k.2.tags, Bare t := by
    intro k hk t ht
    obtain ⟨x, hx, rfl⟩ := List.mem_map.mp hk
    exact hbare t (Content.tags_of_contentsOf hx t ht)
  have hitems : List.Forall₂
      (fun k k' => tagName k'.1 = tagName k.1 ∧ Register.Rearranged k.2 k'.2)
      ((c.contentsOf "Register".toList).map fun x => (([] : Text), x.outline))
      ((c'.contentsOf "Register".toList).map fun x => (([] : Text), x.outline)) := by
    rw [List.forall₂_map_left_iff, List.forall₂_map_right_iff]
    exact h.registers.imp fun x x' hx => ⟨rfl, hx⟩
  rw [readAlone_contentsOf hc] at hrs
  rw [readAlone_contentsOf hc', Register.stable.items hitems (htags hbare) (htags hbare') hrs,
    List.forall_mem_map]
  exact Iff.rfl

end Document

namespace Device

open Document

/-- The order of unlike children and what is unknown do not matter, but for one thing. Let the
root of a document without attributes be that of a document that loads, rearranged: at the root, in
registers, in bitfields and in values, unlike children may be in another order and unknown ones may
have been put in, taken out or moved. Then no other device is loaded, and the same one is exactly
if what is unknown behind the first item of a record resolves, as it does where it is written
without `&`. -/
theorem load_rearranged {s s' : Text} {c c' : Content} {d : Device} (h : HasContent s c)
    (h' : HasContent s' c') (hr : Document.Rearranged c c') (hd : load s = .ok d) :
    (∀ e, load s' = .ok e ↔ e = d ∧ Document.Settled c') ∧
      (Document.Unescaped c' → load s' = .ok d) := by
  have hc : c.Sound := (Content.parse_eq_ok_iff.mp h.parse).1
  have hc' : c'.Sound := (Content.parse_eq_ok_iff.mp h'.parse).1
  obtain ⟨ns, hns, hlast, hrs⟩ := (load_eq_ok_iff hc h.root).mp hd
  have hnames (ns' : List Text) : List.Forall₂ (fun x n => resolve x.render = .ok n)
      (c'.contentsOf "devicename".toList) ns' ↔ ns' = ns := by
    have hunique : Relator.RightUnique fun (x : Content) n => resolve x.render = .ok n :=
      fun x m n hm hn => Except.ok.inj (hm.symm.trans hn)
    have hns' : List.Forall₂ (fun x n => resolve x.render = .ok n)
        (c'.contentsOf "devicename".toList) ns := by
      have hmap : List.Forall₂ (fun s n => resolve s = .ok n)
          ((c'.contentsOf "devicename".toList).map Content.render) ns := by
        rwa [hr.names, List.forall₂_map_left_iff]
      rwa [List.forall₂_map_left_iff] at hmap
    exact ⟨fun h => List.right_unique_forall₂' hunique h hns', fun h => h ▸ hns'⟩
  have hregisters := hr.registers_iff hc hc' (Content.tags_startTags hc ▸ h.bare)
    (Content.tags_startTags hc' ▸ h'.bare) hrs
  have hload (e : Device) : load s' = .ok e ↔ e = d ∧ Document.Settled c' := by
    rw [load_eq_ok_iff hc' h'.root]
    simp only [hnames, hregisters]
    constructor
    · rintro ⟨_, rfl, hname, hregs, hS⟩
      rw [hlast] at hname
      obtain ⟨name, registers⟩ := d
      obtain ⟨name', registers'⟩ := e
      cases hname
      cases hregs
      exact ⟨rfl, hS⟩
    · rintro ⟨rfl, hS⟩
      exact ⟨ns, rfl, hlast, rfl, hS⟩
  exact ⟨hload, fun hu => (hload d).mpr ⟨rfl, fun x hx => (hu x hx).settled⟩⟩

def leaf (name text : String) : Text × Content := (name.toList, .ofText text.toList)

def bitfieldLeaves : List (Text × Content) :=
  [leaf "Name" "A", leaf "Start" "7", leaf "Stop" "0", leaf "Access" "R", leaf "Reset" "0"]

def bitfieldChild (leaves : List (Text × Content)) : Text × Content :=
  ("Bitfield".toList, .siblings leaves)

def tidyRegister (children : List (Text × Content)) : Content :=
  .siblings ([leaf "Name" "R", leaf "Address" "0", leaf "Reset" "0"] ++ children)

def tidy (children : List (Text × Content)) : Content :=
  .siblings [leaf "devicename" "D", ("Register".toList, tidyRegister children)]

def loneBitfield : Device :=
  ⟨"D".toList, [⟨"R".toList, ['0'], none, ['0'], [⟨"A".toList, 7, 0, ['R'], ['0'], none, []⟩]⟩]⟩

/-- A register of the same children in another order, with an unknown one. -/
def mixedRegister : Content :=
  .siblings [leaf "Reset" "0", bitfieldChild bitfieldLeaves.reverse,
    ("Vendor".toList, .siblings [leaf "Name" "B"]), leaf "Address" "0", leaf "Name" "R"]

def mixed : Content :=
  .siblings [("Register".toList, mixedRegister), leaf "Note" "n", leaf "devicename" "D"]

theorem mixed_rearranged : Document.Rearranged (tidy [bitfieldChild bitfieldLeaves]) mixed := by
  have hbitfield : Bitfield.Rearranged (Content.siblings bitfieldLeaves).outline
      (Content.siblings bitfieldLeaves.reverse).outline := by
    have hitems : Bitfield.shape.itemChildren
        (Content.siblings bitfieldLeaves).outline.children = [] := by decide +kernel
    have hitems' : Bitfield.shape.itemChildren
        (Content.siblings bitfieldLeaves.reverse).outline.children = [] := by decide +kernel
    refine ⟨trivial, trivial, by decide +kernel, ?_⟩
    rw [hitems, hitems']
    exact .nil
  have hregister : Register.Rearranged (tidyRegister [bitfieldChild bitfieldLeaves]).outline
      mixedRegister.outline := by
    have hitems : Register.shape.itemChildren
        (tidyRegister [bitfieldChild bitfieldLeaves]).outline.children =
          [("Bitfield".toList, (Content.siblings bitfieldLeaves).outline)] := by decide +kernel
    have hitems' : Register.shape.itemChildren mixedRegister.outline.children =
        [("Bitfield".toList, (Content.siblings bitfieldLeaves.reverse).outline)] := by
      decide +kernel
    refine ⟨trivial, trivial, by decide +kernel, ?_⟩
    rw [hitems, hitems']
    exact .cons ⟨rfl, hbitfield⟩ .nil
  have hcontents : (tidy [bitfieldChild bitfieldLeaves]).contentsOf "Register".toList =
      [tidyRegister [bitfieldChild bitfieldLeaves]] := by decide +kernel
  have hcontents' : mixed.contentsOf "Register".toList = [mixedRegister] := by decide +kernel
  refine ⟨by decide +kernel, ?_⟩
  rw [hcontents, hcontents']
  exact .cons hregister .nil

theorem mixed_unescaped : Document.Unescaped mixed := by
  have hcontents : mixed.contentsOf "Register".toList = [mixedRegister] := by decide +kernel
  rw [Document.Unescaped, hcontents, List.forall_mem_singleton]
  constructor
  · unfold Record.Unescaped
    decide +kernel
  · unfold Record.Unescaped
    decide +kernel

theorem load_rearranged_mixed : load (wrap rootName mixed.render) = .ok loneBitfield := by
  have htidy : HasContent (wrap rootName (tidy [bitfieldChild bitfieldLeaves]).render)
      (tidy [bitfieldChild bitfieldLeaves]) :=
    ⟨by decide +kernel, by decide +kernel, by decide +kernel⟩
  have hmixed : HasContent (wrap rootName mixed.render) mixed :=
    ⟨by decide +kernel, by decide +kernel, by decide +kernel⟩
  exact (load_rearranged htidy hmixed mixed_rearranged (by decide +kernel)).2 mixed_unescaped

/-- Declares an entity. Declarations are passed over. -/
def doctype : Text := "<!DOCTYPE registerdefinition [<!ENTITY trade \"TM\">]>".toList

def vendor : Text × Content := ("Vendor".toList, .piece (.text "&trade;".toList) .nil)

/-- Moved behind the first bitfield, an unknown child keeps a register from loading. -/
theorem load_vendor_moved :
    load (doctype ++ wrap rootName (tidy [vendor, bitfieldChild bitfieldLeaves]).render) =
      .ok loneBitfield ∧
    load (doctype ++ wrap rootName (tidy [bitfieldChild bitfieldLeaves, vendor]).render) =
      .error (.register "R".toList (.record (.badReference (.unknown 1 6 "trade".toList)))) := by
  decide +kernel

end Device

end RegisterMap
