import Mathlib.Data.List.Forall2
import RegisterMap.Proofs.Markup.Returns
import RegisterMap.Proofs.Record.Alone

/-!
# Records with the other line ends

A record that is read is read with the other line ends too, to the same but for
its prose, which is `Returned` (`follows_read`). What is asked is that its fields
other than prose are `Inline`: they have no line feed, or an element inside them
that keeps them from being read.
-/

namespace RegisterMap.Record

open Markup

/-- Fields whose text is taken as it is. -/
def inlineFields : List Text :=
  ["Name", "Address", "Reset", "Start", "Stop", "Access", "Number"].map String.toList

/-- Fields whose text is documentation. -/
def proseFields : List Text := ["Description", "Brief"].map String.toList

/-- The child stays as it is with the other line ends, if a record takes its text as it is. -/
def Child.Inline (c : Child) : Prop :=
  localName (tagName c.1) ∈ inlineFields → c.2.children = [] → c.2.withReturns = c.2

def OutlineInline : Outline → Prop
  | .nil => True
  | .run _ rest => OutlineInline rest
  | .doctype rest => OutlineInline rest
  | .element tag inner rest => Child.Inline (tag, inner) ∧ OutlineInline inner ∧ OutlineInline rest

/-! ## Results that follow others -/

/-- If the first has a result, so has the second, and the results are related. -/
def Follows {ε α β : Type} (R : α → β → Prop) (x : Except ε α) (y : Except ε β) : Prop :=
  ∀ a, x = .ok a → ∃ b, y = .ok b ∧ R a b

namespace Follows

variable {ε α β γ δ : Type} {R : α → β → Prop} {S : γ → δ → Prop}

theorem ok {a : α} {b : β} (h : R a b) : Follows (ε := ε) R (.ok a) (.ok b) := by
  rintro _ ⟨⟩
  exact ⟨b, rfl, h⟩

theorem error {e : ε} {y : Except ε β} : Follows R (.error e) y := nofun

theorem refl {R : α → α → Prop} (hR : ∀ a, R a a) {x : Except ε α} : Follows R x x :=
  fun a ha => ⟨a, ha, hR a⟩

theorem bind {x : Except ε α} {y : Except ε β} {f : α → Except ε γ} {g : β → Except ε δ}
    (h : Follows R x y) (hfg : ∀ a b, R a b → Follows S (f a) (g b)) :
    Follows S (x >>= f) (y >>= g) := by
  intro c hc
  obtain ⟨a, ha, hc⟩ := bind_eq_ok.mp hc
  obtain ⟨b, hb, hab⟩ := h a ha
  obtain ⟨d, hd, hcd⟩ := hfg a b hab c hc
  exact ⟨d, bind_eq_ok.mpr ⟨b, hb, hd⟩, hcd⟩

theorem bind_same {x : Except ε α} {f : α → Except ε γ} {g : α → Except ε δ}
    (hfg : ∀ a, Follows S (f a) (g a)) : Follows S (x >>= f) (x >>= g) := by
  intro c hc
  obtain ⟨a, ha, hc⟩ := bind_eq_ok.mp hc
  obtain ⟨d, hd, hcd⟩ := hfg a c hc
  exact ⟨d, bind_eq_ok.mpr ⟨a, ha, hd⟩, hcd⟩

theorem map {x : Except ε α} {y : Except ε β} {f : α → γ} {g : β → δ} (h : Follows R x y)
    (hfg : ∀ a b, R a b → S (f a) (g b)) : Follows S (x.map f) (y.map g) := by
  cases x with
  | error e => exact error
  | ok a =>
    obtain ⟨b, rfl, hab⟩ := h a rfl
    exact ok (hfg a b hab)

theorem forall₂ {κ : Type} {xs : List κ} {as : List α} {f : κ → Except ε α} {g : κ → Except ε β}
    (h : ∀ k ∈ xs, Follows R (f k) (g k)) (hf : List.Forall₂ (fun k a => f k = .ok a) xs as) :
    ∃ bs, List.Forall₂ (fun k b => g k = .ok b) xs bs ∧ List.Forall₂ R as bs := by
  induction hf with
  | nil => exact ⟨[], .nil, .nil⟩
  | cons ha _ ih =>
    rw [List.forall_mem_cons] at h
    obtain ⟨b, hb, hab⟩ := h.1 _ ha
    obtain ⟨bs, hbs, habs⟩ := ih h.2
    exact ⟨b :: bs, .cons hb hbs, .cons hab habs⟩

end Follows

/-! ## Fields -/

variable {name : Text} {o inner : Outline}

theorem follows_run (afterTag : Bool) (ps : List Passage) :
    Follows (Option.Rel Text.Returned) (run afterTag ps)
      (run afterTag (ps.map Passage.withReturns)) := by
  intro x hx
  unfold run at hx
  split at hx
  · next t hr =>
    cases hx
    obtain ⟨y, hy, hxy⟩ := readRun_withReturns hr
    exact ⟨y, by rw [run, hy], hxy⟩
  · cases hx

theorem follows_scalarAfter {s t : Text} (h : Text.Returned s t) (o : Outline) :
    Follows Text.Returned (scalarAfter s o) (scalarAfter t o.withReturns) := by
  induction o generalizing s t with
  | nil => exact .ok h
  | run ps rest ih =>
    refine (follows_run true ps).bind fun x y hxy => ih (h.append ?_)
    cases hxy with
    | none => exact .nil
    | some hxy => exact hxy
  | doctype rest ih => exact ih h
  | element tag inner rest => exact .bind_same fun _ => .error

theorem children_of_scalarAfter {s t : Text} (h : scalarAfter s o = .ok t) : o.children = [] := by
  induction o generalizing s with
  | nil => rfl
  | run ps rest ih =>
    obtain ⟨x, -, h⟩ := bind_eq_ok.mp h
    exact ih h
  | doctype rest ih => exact ih h
  | element tag inner rest =>
    obtain ⟨x, -, h⟩ := bind_eq_ok.mp h
    cases h

/-- The entry is the same, or it is prose and returned. -/
inductive EntryReturned (name : Text) : Entry → Entry → Prop
  | same (e : Entry) : EntryReturned name e e
  | prose {s t : Text} : name ∈ proseFields → Text.Returned s t →
      EntryReturned name (.text s) (.text t)

/-- The fields of a shape are prose, and no bytes, or are not. -/
def Sorted (shape : Shape) : Prop :=
  ∀ f ∈ shape.fields, f.1 ∈ inlineFields ∨ f.1 ∈ proseFields ∧ f.2 ≠ .byte

instance (shape : Shape) : Decidable (Sorted shape) :=
  inferInstanceAs (Decidable (∀ f ∈ shape.fields, _))

theorem Sorted.of_role {shape : Shape} {kind : Kind} (hs : Sorted shape)
    (h : shape.role name = .field kind) :
    name ∈ inlineFields ∨ name ∈ proseFields ∧ kind ≠ .byte := by
  unfold Shape.role at h
  split at h
  · cases h
  · split at h
    · next k hk =>
      cases h
      obtain ⟨before, after, hf, -⟩ := List.lookup_eq_some_iff.mp hk
      exact hs (name, kind) (hf ▸ List.mem_append_right _ (List.mem_cons_self ..))
    · cases h

theorem follows_entry {tag : Text} {kind : Kind} (hc : Child.Inline (tag, inner))
    (hk : localName (tagName tag) ∈ inlineFields ∨
      localName (tagName tag) ∈ proseFields ∧ kind ≠ .byte) :
    Follows (EntryReturned (localName (tagName tag))) (entry kind inner)
      (entry kind inner.withReturns) := by
  rcases hk with hinline | ⟨hprose, hbyte⟩
  · intro e he
    obtain ⟨s, hs, -⟩ := bind_eq_ok.mp he
    have hsame : inner.withReturns = inner := hc hinline (children_of_scalarAfter hs)
    exact ⟨e, hsame.symm ▸ he, .same e⟩
  · refine (follows_scalarAfter .nil inner).bind fun s t hst => ?_
    cases kind with
    | text | remark => exact .ok (.prose hprose hst)
    | byte => exact absurd rfl hbyte

theorem skip_withReturns (σ : Scopes) (inner : Outline) :
    skip σ inner.withReturns = skip σ inner := by
  unfold skip
  rw [Outline.front_withReturns]

theorem follows_checkAside (o : Outline) :
    Follows (fun _ _ => True) (checkAside o) (checkAside o.withReturns) := by
  induction o with
  | nil => exact .ok trivial
  | run ps rest ih => exact (follows_run true ps).bind fun _ _ _ => ih
  | doctype rest ih => exact ih
  | element tag inner rest ihi ihr => exact .bind_same fun _ => ihi.bind fun _ _ _ => ihr

/-! ## Sheets -/

variable {ι : Type} {R : ι → ι → Prop} {x y : Sheet ι} {e e' : Entry}

/-- Sheets of the same fields, which are returned, and of related items. -/
structure SheetReturned (R : ι → ι → Prop) (x y : Sheet ι) : Prop where
  entries : List.Forall₂ (fun e e' => e.1 = e'.1 ∧ EntryReturned e.1 e.2 e'.2) x.entries y.entries
  items : Option.Rel (List.Forall₂ R) x.items y.items

namespace SheetReturned

theorem blank : SheetReturned R .blank .blank := ⟨.nil, .none⟩

theorem put (h : SheetReturned R x y) (he : EntryReturned name e e') :
    SheetReturned R (x.put name e) (y.put name e') := ⟨.cons ⟨rfl, he⟩ h.entries, h.items⟩

/-- A field holds the same, or it is prose and what it holds is returned. -/
theorem lookup (h : SheetReturned R x y) (name : Text) :
    y.entries.lookup name = x.entries.lookup name ∨
      name ∈ proseFields ∧ ∃ s t, Text.Returned s t ∧
        x.entries.lookup name = some (.text s) ∧ y.entries.lookup name = some (.text t) := by
  have hentries := h.entries
  generalize x.entries = xs at hentries ⊢
  generalize y.entries = ys at hentries ⊢
  induction hentries with
  | nil => exact .inl rfl
  | @cons e e' es es' he _ ih =>
    obtain ⟨n, a⟩ := e
    obtain ⟨n', a'⟩ := e'
    obtain ⟨rfl, ha⟩ := he
    rw [List.lookup_cons, List.lookup_cons]
    cases hn : name == n with
    | false => exact ih
    | true =>
      cases ha with
      | same => exact .inl rfl
      | prose hprose hst => exact .inr ⟨eq_of_beq hn ▸ hprose, _, _, hst, rfl, rfl⟩

theorem has (h : SheetReturned R x y) (name : Text) : y.has name = x.has name := by
  unfold Sheet.has
  rcases h.lookup name with hsame | ⟨-, s, t, -, hx, hy⟩
  · rw [hsame]
  · rw [hx, hy, Option.isSome_some, Option.isSome_some]

/-- Text is returned, and the same where it is no prose. -/
theorem text (h : SheetReturned R x y) (name : Text) :
    Follows (fun s t => Text.Returned s t ∧ (name ∉ proseFields → s = t)) (x.text name)
      (y.text name) := by
  unfold Sheet.text
  rcases h.lookup name with hsame | ⟨hprose, s, t, hst, hx, hy⟩
  · rw [hsame]
    exact .refl fun s => ⟨.refl s, fun _ => rfl⟩
  · rw [hx, hy]
    exact .ok ⟨hst, absurd hprose⟩

theorem byte (h : SheetReturned R x y) (name : Text) :
    Follows Eq (x.byte name) (y.byte name) := by
  unfold Sheet.byte
  rcases h.lookup name with hsame | ⟨-, s, t, -, hx, -⟩
  · rw [hsame]
    exact .refl fun _ => rfl
  · rw [hx]
    exact .error

theorem text? (h : SheetReturned R x y) (name : Text) :
    Option.Rel Text.Returned (x.text? name) (y.text? name) := by
  unfold Sheet.text?
  rcases h.lookup name with hsame | ⟨-, s, t, hst, hx, hy⟩
  · rw [hsame]
    split
    · exact .some (.refl _)
    · exact .none
  · rw [hx, hy]
    exact .some hst

theorem list (h : SheetReturned R x y) : List.Forall₂ R x.list y.list := by
  have items {a b : Option (List ι)} (hab : Option.Rel (List.Forall₂ R) a b) :
      List.Forall₂ R (a.getD []) (b.getD []) := by
    cases hab with
    | none => exact .nil
    | some hab => exact hab
  exact items h.items

end SheetReturned

/-! ## Readers -/

variable {shape : Shape} {reader : ItemReader ι} {own item : Text} {following : Outline}
  {σ : Scopes}

def Child.withReturns (c : Child) : Child := (c.1, c.2.withReturns)

/-- An item that is read is read with the other line ends, to a related one. -/
structure ReaderFollows (R : ι → ι → Prop) (reader : ItemReader ι) : Prop where
  follows : ∀ {σ tag inner following}, OutlineInline inner →
    Follows (fun a b => R a.1 b.1 ∧ a.2 = b.2) (reader σ tag inner following)
      (reader σ tag inner.withReturns following.withReturns)

theorem follows_takeAside (hshape : Sorted shape) {cs : List Child}
    (hcs : ∀ c ∈ cs, c.Inline) (h : SheetReturned R x y) :
    Follows (SheetReturned R) (takeAside shape own σ x cs)
      (takeAside shape own σ y (cs.map Child.withReturns)) := by
  induction cs generalizing x y with
  | nil => exact .ok h
  | cons c cs ih =>
    obtain ⟨tag, inner⟩ := c
    have hc : Child.Inline (tag, inner) := hcs _ (List.mem_cons_self ..)
    have ih {x y : Sheet ι} := @ih x y fun c hc => hcs c (List.mem_cons_of_mem _ hc)
    rw [List.map_cons, Child.withReturns]
    unfold takeAside
    dsimp only
    cases hrole : shape.role (localName (tagName tag)) with
    | unknown => exact ih h
    | item => exact .error
    | field kind =>
      dsimp only
      rw [h.has]
      split
      · exact .error
      · split
        · exact ih (h.put (.same .nothing))
        · exact (follows_entry hc (hshape.of_role hrole)).bind fun e e' he => ih (h.put he)

theorem follows_readItems (hshape : Sorted shape) (hreader : ReaderFollows R reader)
    {items items' : List ι} {aside : List Child} {o : Outline} (ho : OutlineInline o)
    (haside : ∀ c ∈ aside, c.Inline) (hitems : List.Forall₂ R items items')
    (h : SheetReturned R x y) :
    Follows (fun a b => SheetReturned R a.1 b.1 ∧ a.2 = b.2)
      (readItems shape reader own item following σ x items aside o)
      (readItems shape reader own item following.withReturns σ y items'
        (aside.map Child.withReturns) o.withReturns) := by
  induction o generalizing σ items items' aside with
  | nil =>
    have haside : ∀ c ∈ aside.reverse, c.Inline := fun c hc => haside c (List.mem_reverse.mp hc)
    have hsheet : SheetReturned R { x with items := some items.reverse }
        { y with items := some items'.reverse } :=
      ⟨h.entries, .some (List.forall₂_reverse_iff.mpr hitems)⟩
    unfold readItems
    rw [Outline.front_withReturns, ← List.map_reverse]
    exact (follows_takeAside hshape haside hsheet).bind fun a b hab => .ok ⟨hab, rfl⟩
  | run ps rest ih =>
    refine (follows_run true ps).bind fun s t hst => ?_
    cases hst with
    | none => exact ih ho haside hitems
    | some _ => exact .error
  | doctype rest ih => exact ih ho haside hitems
  | element tag inner rest _ ih =>
    obtain ⟨hc, hinner, hrest⟩ := ho
    refine .bind_same fun _ => ?_
    split
    · refine (hreader.follows hinner).bind ?_
      rintro ⟨a, _⟩ ⟨b, _⟩ ⟨hab, rfl⟩
      exact ih hrest haside (.cons hab hitems)
    · refine (follows_checkAside inner).bind fun _ _ _ => ?_
      have haside : ∀ c ∈ (tag, inner) :: aside, Child.Inline c := by
        rw [List.forall_mem_cons]
        exact ⟨hc, haside⟩
      exact ih hrest haside hitems

theorem follows_readFields (hshape : Sorted shape) (hreader : ReaderFollows R reader)
    {afterTag : Bool} {o : Outline} (ho : OutlineInline o) (h : SheetReturned R x y) :
    Follows (fun a b => SheetReturned R a.1 b.1 ∧ a.2 = b.2)
      (readFields shape reader own following σ afterTag x o)
      (readFields shape reader own following.withReturns σ afterTag y o.withReturns) := by
  induction o generalizing σ afterTag x y with
  | nil => exact .ok ⟨h, rfl⟩
  | run ps rest ih => exact (follows_run afterTag ps).bind fun _ _ _ => ih ho h
  | doctype rest ih => exact ih ho h
  | element tag inner rest _ ih =>
    obtain ⟨hc, hinner, hrest⟩ := ho
    refine .bind_same fun inside => ?_
    dsimp only
    cases hrole : shape.role (localName (tagName tag)) with
    | unknown =>
      rw [skip_withReturns]
      exact .bind_same fun _ => ih hrest h
    | item =>
      refine (hreader.follows hinner).bind ?_
      rintro ⟨a, _⟩ ⟨b, _⟩ ⟨hab, rfl⟩
      exact follows_readItems hshape hreader hrest (fun _ hc => by cases hc) (.cons hab .nil) h
    | field kind =>
      dsimp only
      rw [h.has, Outline.front_withReturns, skip_withReturns]
      split
      · exact .error
      · split
        · exact .bind_same fun _ => ih hrest (h.put (.same .nothing))
        · exact (follows_entry hc (hshape.of_role hrole)).bind fun e e' he =>
            ih hrest (h.put he)

theorem follows_read (hshape : Sorted shape) (hreader : ReaderFollows R reader) {tag : Text}
    {inner : Outline} (hinner : OutlineInline inner) :
    Follows (fun a b => SheetReturned R a.1 b.1 ∧ a.2 = b.2)
      (read shape reader σ tag inner following)
      (read shape reader σ tag inner.withReturns following.withReturns) := by
  unfold read
  split
  · exact .error
  · refine (follows_readFields hshape hreader hinner .blank).bind ?_
    rintro ⟨a, _⟩ ⟨b, _⟩ ⟨hab, rfl⟩
    exact .ok ⟨hab, rfl⟩

/-- An item that is made of a sheet follows as the sheet does. -/
theorem readerFollows_of_sheet {κ : Type} {S : κ → κ → Prop} {make : Sheet ι → Except Fault κ}
    (hshape : Sorted shape) (hreader : ReaderFollows R reader)
    (hmake : ∀ {x y}, SheetReturned R x y → Follows S (make x) (make y)) :
    ReaderFollows S fun σ tag inner following => do
      let (sheet, σ) ← read shape reader σ tag inner following
      return (← make sheet, σ) := by
  refine ⟨fun hinner => (follows_read hshape hreader hinner).bind ?_⟩
  rintro ⟨x, _⟩ ⟨y, _⟩ ⟨hxy, rfl⟩
  exact (hmake hxy).bind fun c d hcd => .ok ⟨hcd, rfl⟩

end RegisterMap.Record
