import RegisterMap.Device.Record
import RegisterMap.Proofs.Markup.Local
import RegisterMap.Proofs.Record.Read

/-!
# Records without attributes

A record in an element without attributes is read as under no tag (`read_own`).
Where no tag has attributes, a record is read alike in all scopes, under any tag
and before anything (`Indifferent`). So the items of a record's list are what
the elements of their name are read as alone (`read_named`).
-/

namespace RegisterMap.Markup

/-- The tags of the elements at any depth. -/
def Outline.tags : Outline → List Text
  | nil => []
  | run _ rest => rest.tags
  | doctype rest => rest.tags
  | element tag inner rest => tag :: (inner.tags ++ rest.tags)

/-- The elements at the top, each a tag and a content. -/
def Outline.children : Outline → List (Text × Outline)
  | nil => []
  | run _ rest => rest.children
  | doctype rest => rest.children
  | element tag inner rest => (tag, inner) :: rest.children

theorem Outline.forall_tags_element {p : Text → Prop} {tag : Text} {inner rest : Outline} :
    (∀ t ∈ (element tag inner rest).tags, p t) ↔
      p tag ∧ (∀ t ∈ inner.tags, p t) ∧ ∀ t ∈ rest.tags, p t := by
  rw [tags, List.forall_mem_cons, List.forall_mem_append]

theorem Outline.tag_mem_of_front {o : Outline} {tag : Text} (h : o.front = .element tag) :
    tag ∈ o.tags := by
  induction o with
  | nil => cases h
  | run ps rest ih =>
    unfold front at h
    split at h
    · exact ih h
    · cases h
  | doctype rest => cases h
  | element t inner rest =>
    cases h
    exact List.mem_cons_self ..

end RegisterMap.Markup

namespace RegisterMap.Record

open Markup

variable {α β : Type} {ι : Type} {shape : Shape} {reader : ItemReader ι} {own own' item : Text}
  {following following' : Outline} {σ σ' : Scopes}

/-! ## The tag of a record -/

theorem takeAside_own {sheet : Sheet ι} {cs : List Child} (hown : Bare own) :
    takeAside shape own σ sheet cs = takeAside shape [] σ sheet cs := by
  induction cs generalizing sheet with
  | nil => rfl
  | cons c cs ih =>
    unfold takeAside
    simp only [isNil_bare hown, isNil_bare bare_nil, ih]

theorem readItems_own {sheet : Sheet ι} {items : List ι} {aside : List Child} {o : Outline}
    (hown : Bare own) :
    readItems shape reader own item following σ sheet items aside o =
      readItems shape reader [] item following σ sheet items aside o := by
  induction o generalizing σ items aside with
  | nil =>
    unfold readItems
    rw [takeAside_own hown]
  | run ps rest ih =>
    unfold readItems
    simp only [ih]
  | doctype rest ih => exact ih
  | element tag inner rest _ ih =>
    unfold readItems
    simp only [ih]

theorem readFields_own {afterTag : Bool} {sheet : Sheet ι} {o : Outline} (hown : Bare own) :
    readFields shape reader own following σ afterTag sheet o =
      readFields shape reader [] following σ afterTag sheet o := by
  induction o generalizing σ afterTag sheet with
  | nil => rfl
  | run ps rest ih =>
    unfold readFields
    simp only [ih]
  | doctype rest ih => exact ih
  | element tag inner rest _ ih =>
    unfold readFields
    simp only [ih, isNil_bare hown, isNil_bare bare_nil, readItems_own hown]

/-- A tag without attributes is as good as none. -/
theorem read_own {inner : Outline} (hown : Bare own) :
    read shape reader σ own inner following = read shape reader σ [] inner following := by
  unfold read
  rw [attributeFault?_bare hown, attributeFault?_bare bare_nil, enter_scopes_bare hown,
    enter_scopes_bare bare_nil]
  simp only [readFields_own hown]

/-! ## Records in different places -/

/-- Two results with scopes that are alike but for the scopes. -/
def Alike (x y : Except Fault (α × Scopes)) : Prop := x.map Prod.fst = y.map Prod.fst

theorem Alike.bind {x y : Except Fault (α × Scopes)} {f g : α × Scopes → Except Fault (β × Scopes)}
    (h : Alike x y) (hfg : ∀ a σ σ', Alike (f (a, σ)) (g (a, σ'))) : Alike (x >>= f) (y >>= g) := by
  unfold Alike at h
  cases x with
  | error e =>
    cases y with
    | error e' => cases h; rfl
    | ok b => cases h
  | ok a =>
    cases y with
    | error e' => cases h
    | ok b =>
      obtain ⟨a, σ⟩ := a
      obtain ⟨b, σ'⟩ := b
      cases h
      exact hfg a σ σ'

theorem Alike.bind_same {x : Except Fault α} {f g : α → Except Fault (β × Scopes)}
    (hfg : ∀ a, Alike (f a) (g a)) : Alike (x >>= f) (x >>= g) := by
  cases x with
  | error e => rfl
  | ok a => exact hfg a

theorem Alike.bind_ok {γ : Type} {x y : Except Fault γ} {f g : γ → Except Fault (β × Scopes)}
    {a b : γ} (hx : x = .ok a) (hy : y = .ok b) (h : Alike (f a) (g b)) :
    Alike (x >>= f) (y >>= g) := by
  subst hx hy
  exact h

/-- What is passed over tells whether text after it stands beside a tag, whatever the scopes. -/
theorem skip_bare {inner : Outline} (h : ∀ tag ∈ inner.tags, Bare tag) (σ : Scopes) :
    ∃ σ', skip σ inner = .ok (σ', decide (inner.front ≠ .text)) := by
  unfold skip
  split
  · next hf => exact ⟨_, by rw [hf]; rfl⟩
  · next hf => exact ⟨_, by rw [hf]; rfl⟩
  · next hf => exact ⟨_, by rw [hf]; rfl⟩
  · next tag hf =>
    rw [enter_bare (h tag (Outline.tag_mem_of_front hf)), hf]
    exact ⟨_, rfl⟩

theorem takeAside_bare {sheet : Sheet ι} {cs : List Child} (hown : Bare own)
    (hcs : ∀ c ∈ cs, Bare c.1) :
    takeAside shape own σ sheet cs = takeAside shape [] [] sheet cs := by
  induction cs generalizing sheet with
  | nil => rfl
  | cons c cs ih =>
    obtain ⟨tag, inner⟩ := c
    have htag : Bare tag := hcs _ (List.mem_cons_self ..)
    have ih (sheet : Sheet ι) := @ih sheet fun c hc => hcs c (List.mem_cons_of_mem _ hc)
    unfold takeAside
    simp only [isNil_bare hown, isNil_bare htag, isNil_bare bare_nil, ih]

/-- Where no tag has attributes, an item is read alike in all scopes, under any tag and before
anything. -/
structure Indifferent (reader : ItemReader ι) : Prop where
  alike : ∀ {σ σ' tag tag' inner following following'}, Bare tag → Bare tag' →
    (∀ t ∈ inner.tags, Bare t) → Alike (reader σ tag inner following) (reader σ' tag' inner following')

theorem readItems_bare (hr : Indifferent reader) (hown : Bare own) (hown' : Bare own')
    {sheet : Sheet ι} {items : List ι} {aside : List Child} {o : Outline}
    (ho : ∀ tag ∈ o.tags, Bare tag) (ha : ∀ c ∈ aside, Bare c.1) :
    Alike (readItems shape reader own item following σ sheet items aside o)
      (readItems shape reader own' item following' σ' sheet items aside o) := by
  induction o generalizing σ σ' items aside with
  | nil =>
    have ha : ∀ c ∈ aside.reverse, Bare c.1 := fun c hc => ha c (List.mem_reverse.mp hc)
    unfold readItems
    rw [takeAside_bare hown ha, takeAside_bare hown' ha]
    exact Alike.bind_same fun _ => rfl
  | run ps rest ih =>
    refine Alike.bind_same fun t => ?_
    cases t with
    | none => exact ih ho ha
    | some s => rfl
  | doctype rest ih => exact ih ho ha
  | element tag inner rest _ ih =>
    obtain ⟨htag, hinner, hrest⟩ := Outline.forall_tags_element.mp ho
    refine Alike.bind_same fun _ => ?_
    split
    · exact (hr.alike htag htag hinner).bind fun x _ _ => ih hrest ha
    · refine Alike.bind_same fun _ => ih hrest ?_
      rw [List.forall_mem_cons]
      exact ⟨htag, ha⟩

theorem readFields_bare (hr : Indifferent reader) (hown : Bare own) (hown' : Bare own')
    {afterTag : Bool} {sheet : Sheet ι} {o : Outline} (ho : ∀ tag ∈ o.tags, Bare tag) :
    Alike (readFields shape reader own following σ afterTag sheet o)
      (readFields shape reader own' following' σ' afterTag sheet o) := by
  induction o generalizing σ σ' afterTag sheet with
  | nil => rfl
  | run ps rest ih => exact Alike.bind_same fun _ => ih ho
  | doctype rest ih => exact ih ho
  | element tag inner rest _ ih =>
    obtain ⟨htag, hinner, hrest⟩ := Outline.forall_tags_element.mp ho
    refine Alike.bind_ok (enter_bare htag) (enter_bare htag) ?_
    cases hrole : shape.role (localName (tagName tag)) with
    | unknown =>
      simp only [hrole]
      obtain ⟨_, hskip⟩ := skip_bare hinner ([] :: σ)
      obtain ⟨_, hskip'⟩ := skip_bare hinner ([] :: σ')
      exact Alike.bind_ok hskip hskip' (ih hrest)
    | item =>
      simp only [hrole]
      refine (hr.alike htag htag hinner).bind fun x _ _ => ?_
      exact readItems_bare hr hown hown' hrest (by simp)
    | field kind =>
      simp only [hrole, isNil_bare hown, isNil_bare hown', isNil_bare htag]
      split
      · rfl
      · simp only [Bool.or_self, Bool.false_eq_true, and_false, ↓reduceIte]
        exact Alike.bind_same fun e => ih hrest

theorem read_bare (hr : Indifferent reader) : Indifferent (read shape reader) := by
  refine ⟨fun {σ σ' tag tag' inner following following'} htag htag' hinner => ?_⟩
  unfold read
  rw [attributeFault?_bare htag, attributeFault?_bare htag']
  exact (readFields_bare hr htag htag' hinner).bind fun _ _ _ => rfl

theorem indifferent_map {read : Scopes → Text → Outline → Outline → Except Fault (β × Scopes)}
    {f : β → Except Fault ι} (hr : Indifferent read) :
    Indifferent fun σ tag inner following => do
      let (x, σ) ← read σ tag inner following
      return (← f x, σ) := by
  refine ⟨fun {σ σ' tag tag' inner following following'} htag htag' hinner => ?_⟩
  refine (hr.alike htag htag' hinner).bind fun x _ _ => ?_
  exact Alike.bind_same fun y => rfl

/-! ## Items -/

def named (name : Text) (cs : List Child) : List Child := cs.filter (tagName ·.1 = name)

/-- Reads the content of a child as that of an element without attributes. -/
def readChild (reader : ItemReader ι) (c : Child) : Except Fault ι :=
  (reader [] [] c.2 .nil).map Prod.fst

theorem Sheet.items_put (sheet : Sheet ι) {name : Text} {e : Entry} :
    (sheet.put name e).items = sheet.items := rfl

theorem takeAside_items {sheet sheet' : Sheet ι} {cs : List Child}
    (h : takeAside shape own σ sheet cs = .ok sheet') : sheet'.items = sheet.items := by
  induction cs generalizing sheet with
  | nil => cases h; rfl
  | cons c cs ih =>
    obtain ⟨tag, inner⟩ := c
    have put {name : Text} {e : Entry}
        (h : takeAside shape own σ (sheet.put name e) cs = .ok sheet') :
        sheet'.items = sheet.items := by
      rw [ih h, Sheet.items_put]
    unfold takeAside at h
    dsimp only at h
    split at h
    · exact ih h
    · cases h
    · split at h
      · cases h
      · split at h
        · exact put h
        · obtain ⟨e, -, h⟩ := bind_eq_ok.mp h
          exact put h

/-- An item that is read is read alone as the same. -/
theorem readChild_of_reader (hr : Indifferent reader) {tag : Text} {inner : Outline} {x : ι}
    (htag : Bare tag) (hinner : ∀ t ∈ inner.tags, Bare t)
    (h : reader σ tag inner following = .ok (x, σ')) : readChild reader (tag, inner) = .ok x := by
  have ha : Alike (reader σ tag inner following) (reader [] [] inner .nil) :=
    hr.alike htag bare_nil hinner
  rw [Alike, h] at ha
  exact ha.symm

theorem readItems_named (hr : Indifferent reader) {sheet sheet' : Sheet ι} {items : List ι}
    {aside : List Child} {o : Outline} (ho : ∀ tag ∈ o.tags, Bare tag)
    (h : readItems shape reader own item following σ sheet items aside o = .ok (sheet', σ')) :
    ∃ xs, sheet'.items = some (items.reverse ++ xs) ∧
      (named item o.children).map (readChild reader) = xs.map .ok := by
  induction o generalizing σ items aside with
  | nil =>
    obtain ⟨sheet, hs, he⟩ := bind_eq_ok.mp h
    cases he
    exact ⟨[], by rw [takeAside_items hs, List.append_nil], rfl⟩
  | run ps rest ih =>
    obtain ⟨t, -, h⟩ := bind_eq_ok.mp h
    cases t with
    | none => exact ih ho h
    | some s => cases h
  | doctype rest ih => exact ih ho h
  | element tag inner rest _ ih =>
    obtain ⟨htag, hinner, hrest⟩ := Outline.forall_tags_element.mp ho
    obtain ⟨_, -, h⟩ := bind_eq_ok.mp h
    split at h
    · next hname =>
      obtain ⟨⟨x, σ''⟩, hx, h⟩ := bind_eq_ok.mp h
      obtain ⟨xs, hitems, hxs⟩ := ih hrest h
      refine ⟨x :: xs, by simpa using hitems, ?_⟩
      rw [Outline.children, named, List.filter_cons_of_pos (by simpa using hname), List.map_cons,
        List.map_cons, readChild_of_reader hr htag hinner hx]
      exact congrArg _ hxs
    · next hname =>
      obtain ⟨_, -, h⟩ := bind_eq_ok.mp h
      obtain ⟨xs, hitems, hxs⟩ := ih hrest h
      refine ⟨xs, hitems, ?_⟩
      rw [Outline.children, named, List.filter_cons_of_neg (by simpa using hname)]
      exact hxs

theorem Shape.role_eq_item {name : Text} : shape.role name = .item ↔ shape.item = some name := by
  unfold Shape.role
  split
  · next h => simp [h]
  · next h => split <;> simp [h]

theorem readFields_named (hr : Indifferent reader) (hitem : shape.item = some item)
    {sheet sheet' : Sheet ι} {afterTag : Bool} {o : Outline} (hs : sheet.items = none)
    (ho : ∀ tag ∈ o.tags, Bare tag ∧ ':' ∉ tagName tag)
    (h : readFields shape reader own following σ afterTag sheet o = .ok (sheet', σ')) :
    (named item o.children).map (readChild reader) = sheet'.list.map .ok := by
  induction o generalizing σ afterTag sheet with
  | nil =>
    cases h
    rw [Sheet.list, hs]
    rfl
  | run ps rest ih =>
    obtain ⟨t, -, h⟩ := bind_eq_ok.mp h
    exact ih hs ho h
  | doctype rest ih => exact ih hs ho h
  | element tag inner rest _ ih =>
    obtain ⟨⟨htag, hlabel⟩, hinner, hrest⟩ := Outline.forall_tags_element.mp ho
    have hlocal : localName (tagName tag) = tagName tag := by
      rw [localName, splitName, Text.cut_eq_none hlabel]
    -- a child that is no item has another name
    have hdrop (hne : shape.role (tagName tag) ≠ .item) :
        named item (Outline.element tag inner rest).children = named item rest.children := by
      have hname : tagName tag ≠ item := fun he => hne (Shape.role_eq_item.mpr (he ▸ hitem))
      rw [Outline.children, named, List.filter_cons_of_neg (by simpa using hname), named]
    obtain ⟨inside, -, h⟩ := bind_eq_ok.mp h
    rw [hlocal] at h
    cases hrole : shape.role (tagName tag) with
    | item =>
      simp only [hrole] at h
      have hname : tagName tag = item := by
        rw [Shape.role_eq_item, hitem] at hrole
        exact (Option.some.inj hrole).symm
      obtain ⟨⟨x, σ''⟩, hx, h⟩ := bind_eq_ok.mp h
      obtain ⟨xs, hitems, hxs⟩ := readItems_named hr (fun t ht => (hrest t ht).1) h
      rw [hname] at hxs
      rw [Outline.children, named, List.filter_cons_of_pos (by simpa using hname), List.map_cons,
        readChild_of_reader hr htag (fun t ht => (hinner t ht).1) hx, Sheet.list, hitems]
      exact congrArg _ hxs
    | unknown =>
      simp only [hrole] at h
      obtain ⟨⟨σ, b⟩, -, h⟩ := bind_eq_ok.mp h
      rw [hdrop (by simp [hrole])]
      exact ih hs hrest h
    | field kind =>
      simp only [hrole] at h
      rw [hdrop (by simp [hrole])]
      split at h
      · cases h
      · split at h
        · obtain ⟨⟨σ, b⟩, -, h⟩ := bind_eq_ok.mp h
          exact ih (sheet.items_put.trans hs) hrest h
        · obtain ⟨e, -, h⟩ := bind_eq_ok.mp h
          exact ih (sheet.items_put.trans hs) hrest h

/-- The items that a record lists are read alone from the children of their name. -/
theorem read_named (hr : Indifferent reader) (hitem : shape.item = some item) {sheet : Sheet ι}
    {tag : Text} {inner : Outline} (ho : ∀ tag ∈ inner.tags, Bare tag ∧ ':' ∉ tagName tag)
    (h : read shape reader σ tag inner following = .ok (sheet, σ')) :
    (named item inner.children).map (readChild reader) = sheet.list.map .ok := by
  unfold read at h
  split at h
  · cases h
  · obtain ⟨⟨sheet, σ''⟩, hread, h⟩ := bind_eq_ok.mp h
    cases h
    exact readFields_named hr hitem rfl ho hread

end RegisterMap.Record

namespace RegisterMap

open Markup Record

theorem Bitfield.item_own {σ : Scopes} {own : Text} {inner following : Outline} (hown : Bare own) :
    Bitfield.item σ own inner following = Bitfield.item σ [] inner following := by
  unfold Bitfield.item
  rw [read_own hown]

theorem Register.item_own {σ : Scopes} {own : Text} {inner following : Outline} (hown : Bare own) :
    Register.item σ own inner following = Register.item σ [] inner following := by
  unfold Register.item
  rw [read_own hown]

theorem noItem_indifferent : Indifferent noItem := ⟨fun _ _ _ => rfl⟩

theorem Value.item_indifferent : Indifferent Value.item :=
  indifferent_map (read_bare noItem_indifferent)

theorem Bitfield.item_indifferent : Indifferent Bitfield.item :=
  indifferent_map (read_bare Value.item_indifferent)

/-- The bitfields of a register are read alone from its children of that name. -/
theorem Register.item_bitfields {σ σ' : Scopes} {tag : Text} {inner following : Outline}
    {r : Register} (ho : ∀ tag ∈ inner.tags, Bare tag ∧ ':' ∉ tagName tag)
    (h : Register.item σ tag inner following = .ok (r, σ')) :
    (named "Bitfield".toList inner.children).map (readChild Bitfield.item) =
      r.bitfields.map .ok := by
  obtain ⟨⟨sheet, σ''⟩, hread, h⟩ := bind_eq_ok.mp h
  obtain ⟨r, hr, h⟩ := bind_eq_ok.mp h
  cases h
  have hlist : r.bitfields = sheet.list := by
    unfold Register.ofSheet at hr
    obtain ⟨name, -, hr⟩ := bind_eq_ok.mp hr
    obtain ⟨address, -, hr⟩ := bind_eq_ok.mp hr
    obtain ⟨reset, -, hr⟩ := bind_eq_ok.mp hr
    cases hr
    rfl
  rw [hlist]
  exact read_named Bitfield.item_indifferent rfl ho hread

end RegisterMap
