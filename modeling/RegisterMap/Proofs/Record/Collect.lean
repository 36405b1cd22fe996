import Mathlib.Data.List.Forall2
import Mathlib.Data.List.Nodup
import RegisterMap.Proofs.Markup.Runs
import RegisterMap.Proofs.Record.Alone

/-!
# What a record collects

Where no tag has attributes and children have only white space between them, a
record is read from the list of its children (`read_iff`). The fields among them
put their entries on the sheet, no name twice. The items are alike in name and
are each read alone. What is unknown is passed over, but behind the first item
its references are read.
-/

namespace RegisterMap.Markup

theorem Outline.tags_of_mem_children {o : Outline} {c : Text × Outline} (h : c ∈ o.children) :
    c.1 ∈ o.tags ∧ ∀ t ∈ c.2.tags, t ∈ o.tags := by
  induction o with
  | nil => cases h
  | run ps rest ih => exact ih h
  | doctype rest ih => exact ih h
  | element tag inner rest _ ih =>
    rw [tags]
    rcases List.mem_cons.mp h with rfl | h
    · exact ⟨List.mem_cons_self .., fun t ht =>
        List.mem_cons_of_mem _ (List.mem_append_left _ ht)⟩
    · obtain ⟨htag, hinner⟩ := ih h
      exact ⟨List.mem_cons_of_mem _ (List.mem_append_right _ htag), fun t ht =>
        List.mem_cons_of_mem _ (List.mem_append_right _ (hinner t ht))⟩

end RegisterMap.Markup

namespace RegisterMap.Record

open Markup

/-! ## Children by role -/

/-- The name that decides what a child is to a record. -/
def key (c : Child) : Text := localName (tagName c.1)

def Role.isField : Role → Bool
  | field _ => true
  | _ => false

namespace Shape

variable (shape : Shape)

def roleOf (c : Child) : Role := shape.role (key c)

def fieldChildren (cs : List Child) : List Child := cs.filter fun c => (shape.roleOf c).isField

def itemChildren (cs : List Child) : List Child := cs.filter (shape.roleOf · = .item)

/-- The unknown children behind the first item. -/
def behind (cs : List Child) : List Child :=
  (cs.dropWhile (shape.roleOf · ≠ .item)).filter (shape.roleOf · = .unknown)

section Cons

variable {shape} {c : Child} {cs : List Child}

theorem fieldChildren_cons_of_field (h : (shape.roleOf c).isField = true) :
    shape.fieldChildren (c :: cs) = c :: shape.fieldChildren cs :=
  List.filter_cons_of_pos (by simp [h])

theorem fieldChildren_cons_of_other (h : (shape.roleOf c).isField = false) :
    shape.fieldChildren (c :: cs) = shape.fieldChildren cs :=
  List.filter_cons_of_neg (by simp [h])

theorem itemChildren_cons_of_item (h : shape.roleOf c = .item) :
    shape.itemChildren (c :: cs) = c :: shape.itemChildren cs :=
  List.filter_cons_of_pos (by simpa using h)

theorem itemChildren_cons_of_other (h : shape.roleOf c ≠ .item) :
    shape.itemChildren (c :: cs) = shape.itemChildren cs :=
  List.filter_cons_of_neg (by simpa using h)

theorem behind_cons_of_item (h : shape.roleOf c = .item) :
    shape.behind (c :: cs) = cs.filter (shape.roleOf · = .unknown) := by
  rw [behind, List.dropWhile_cons_of_neg (by simpa using h),
    List.filter_cons_of_neg (by simp [h])]

theorem behind_cons_of_other (h : shape.roleOf c ≠ .item) :
    shape.behind (c :: cs) = shape.behind cs := by
  rw [behind, List.dropWhile_cons_of_pos (by simpa using h), behind]

end Cons

end Shape

def unnamed (name : Text) (cs : List Child) : List Child := cs.filter (tagName ·.1 ≠ name)

section Named

variable {shape : Shape} {c d : Child} {cs : List Child} {name : Text}

theorem named_cons_of_eq (h : tagName c.1 = name) : named name (c :: cs) = c :: named name cs :=
  List.filter_cons_of_pos (by simpa using h)

theorem named_cons_of_ne (h : tagName c.1 ≠ name) : named name (c :: cs) = named name cs :=
  List.filter_cons_of_neg (by simpa using h)

theorem unnamed_cons_of_eq (h : tagName c.1 = name) : unnamed name (c :: cs) = unnamed name cs :=
  List.filter_cons_of_neg (by simpa using h)

theorem unnamed_cons_of_ne (h : tagName c.1 ≠ name) :
    unnamed name (c :: cs) = c :: unnamed name cs :=
  List.filter_cons_of_pos (by simpa using h)

theorem roleOf_congr (h : tagName d.1 = tagName c.1) : shape.roleOf d = shape.roleOf c := by
  rw [Shape.roleOf, key, h, ← key, ← Shape.roleOf]

/-- No field has the name of an item. -/
theorem fieldChildren_unnamed (h : shape.roleOf c = .item) :
    shape.fieldChildren (unnamed (tagName c.1) cs) = shape.fieldChildren cs := by
  rw [Shape.fieldChildren, unnamed, List.filter_filter, Shape.fieldChildren]
  refine List.filter_congr fun d _ => ?_
  by_cases hn : tagName d.1 = tagName c.1
  · simp [roleOf_congr hn, h, Role.isField]
  · simp [hn]

theorem named_eq_itemChildren (h : shape.roleOf c = .item)
    (hall : ∀ d ∈ shape.itemChildren cs, tagName d.1 = tagName c.1) :
    named (tagName c.1) cs = shape.itemChildren cs := by
  refine List.filter_congr fun d hd => decide_eq_decide.mpr ⟨fun hn => ?_, fun hrole => ?_⟩
  · rw [roleOf_congr hn, h]
  · exact hall d (List.mem_filter.mpr ⟨hd, by simpa using hrole⟩)

end Named

/-! ## Lists read one by one -/

section ReadList

variable {ε α β : Type} {f : α → Except ε β} {a : α} {b : β} {e : ε} {as : List α} {bs : List β}

theorem forall₂_ok_cons (h : f a = .ok b) :
    List.Forall₂ (fun a b => f a = .ok b) (a :: as) bs ↔
      ∃ cs, List.Forall₂ (fun a b => f a = .ok b) as cs ∧ bs = b :: cs := by
  rw [List.forall₂_cons_left_iff]
  constructor
  · rintro ⟨c, cs, hc, hcs, rfl⟩
    rw [h] at hc
    cases hc
    exact ⟨cs, hcs, rfl⟩
  · rintro ⟨cs, hcs, rfl⟩
    exact ⟨b, cs, h, hcs, rfl⟩

theorem not_forall₂_ok_cons (h : f a = .error e) :
    ¬ List.Forall₂ (fun a b => f a = .ok b) (a :: as) bs := by
  rw [List.forall₂_cons_left_iff]
  rintro ⟨c, cs, hc, -⟩
  rw [h] at hc
  cases hc

end ReadList

theorem forall₂_mem_left {α β : Type} {R : α → β → Prop} {xs : List α} {ys : List β} {x : α}
    (h : List.Forall₂ R xs ys) (hx : x ∈ xs) : ∃ y ∈ ys, R x y := by
  induction h with
  | nil => cases hx
  | @cons a b xs ys hr _ ih =>
    rcases List.mem_cons.mp hx with rfl | hx
    · exact ⟨b, List.mem_cons_self .., hr⟩
    · obtain ⟨y, hy, hr⟩ := ih hx
      exact ⟨y, List.mem_cons_of_mem _ hy, hr⟩

variable {ι α β γ : Type} {shape : Shape} {reader : ItemReader ι} {own : Text}
  {following o : Outline} {σ : Scopes} {c : Child} {cs : List Child} {kind : Kind}
  {before after : List (Text × Entry)} {sheet sheet' : Sheet ι}

/-! ## Fields -/

/-- A child is a field and is read as an entry. -/
def Enters (shape : Shape) (c : Child) (e : Text × Entry) : Prop :=
  ∃ kind, shape.roleOf c = .field kind ∧ entry kind c.2 = .ok e.2 ∧ e.1 = key c

/-- The fields among children put their entries before others, no name twice. -/
def Puts (shape : Shape) (cs : List Child) (before after : List (Text × Entry)) : Prop :=
  ∃ es, List.Forall₂ (Enters shape) (shape.fieldChildren cs) es ∧ after = es.reverse ++ before ∧
    (after.map Prod.fst).Nodup

theorem Puts.nodup (h : Puts shape cs before after) : (before.map Prod.fst).Nodup := by
  obtain ⟨es, -, rfl, hd⟩ := h
  rw [List.map_append] at hd
  exact (List.nodup_append'.mp hd).2.1

theorem puts_nil (h : (before.map Prod.fst).Nodup) :
    Puts shape [] before after ↔ after = before := by
  constructor
  · rintro ⟨es, hes, rfl, -⟩
    cases hes
    rfl
  · rintro rfl
    exact ⟨[], .nil, rfl, h⟩

theorem puts_other (h : (shape.roleOf c).isField = false) :
    Puts shape (c :: cs) before after ↔ Puts shape cs before after := by
  rw [Puts, Shape.fieldChildren_cons_of_other h, Puts]

theorem puts_field (h : shape.roleOf c = .field kind) :
    Puts shape (c :: cs) before after ↔
      ∃ e, entry kind c.2 = .ok e ∧ Puts shape cs ((key c, e) :: before) after := by
  rw [Puts, Shape.fieldChildren_cons_of_field (by simp [h, Role.isField])]
  constructor
  · rintro ⟨es, hes, rfl, hd⟩
    obtain ⟨⟨name, e⟩, es, ⟨k, hk, he, hname⟩, htail, rfl⟩ := List.forall₂_cons_left_iff.mp hes
    rw [h] at hk
    cases hk
    subst hname
    exact ⟨e, he, es, htail, by simp, hd⟩
  · rintro ⟨e, he, es, hes, rfl, hd⟩
    exact ⟨(key c, e) :: es, .cons ⟨kind, h, he, rfl⟩ hes, by simp, hd⟩

theorem run_isOk_iff (afterTag : Bool) {ps : List Passage} :
    (∃ t, run afterTag ps = .ok t) ↔ ∀ p ∈ ps, p.Resolves := by
  rw [← readRun_isOk_iff afterTag, run]
  cases readRun afterTag ps <;> simp

theorem resolves_of_scalarAfter {text s : Text} (h : scalarAfter text o = .ok s) : o.Resolves := by
  induction o generalizing text with
  | nil => trivial
  | run ps rest ih =>
    obtain ⟨t, ht, h⟩ := bind_eq_ok.mp h
    exact ⟨(run_isOk_iff true).mp ⟨t, ht⟩, ih h⟩
  | doctype rest ih => exact ih h
  | element tag inner rest _ _ =>
    obtain ⟨_, -, h⟩ := bind_eq_ok.mp h
    cases h

theorem resolves_of_entry {e : Entry} (h : entry kind o = .ok e) : o.Resolves := by
  obtain ⟨s, hs, -⟩ := bind_eq_ok.mp h
  exact resolves_of_scalarAfter hs

theorem Puts.resolves (h : Puts shape cs before after) : ∀ c ∈ shape.fieldChildren cs,
    c.2.Resolves := by
  obtain ⟨es, hes, -⟩ := h
  intro c hc
  obtain ⟨e, -, kind, -, he, -⟩ := forall₂_mem_left hes hc
  exact resolves_of_entry he

theorem Sheet.has_iff {name : Text} :
    sheet.has name = true ↔ name ∈ sheet.entries.map Prod.fst := by
  rw [Sheet.has]
  induction sheet.entries with
  | nil => simp
  | cons e es ih =>
    obtain ⟨k, v⟩ := e
    rw [List.lookup_cons, List.map_cons, List.mem_cons]
    by_cases hk : name = k
    · simp [hk]
    · rw [beq_false_of_ne hk, ih]
      exact (or_iff_right hk).symm

theorem Sheet.nodup_put {name : Text} (hd : (sheet.entries.map Prod.fst).Nodup)
    (h : ¬ sheet.has name = true) (e : Entry) :
    ((sheet.put name e).entries.map Prod.fst).Nodup :=
  List.nodup_cons.mpr ⟨mt Sheet.has_iff.mpr h, hd⟩

theorem Puts.not_has {name : Text} {e : Entry}
    (h : Puts shape cs ((name, e) :: sheet.entries) after) : ¬ sheet.has name = true :=
  mt Sheet.has_iff.mp (List.nodup_cons.mp h.nodup).1

/-- What is set aside is taken if no item is in it and its fields can be put. -/
theorem takeAside_iff (hd : (sheet.entries.map Prod.fst).Nodup) (hcs : ∀ c ∈ cs, Bare c.1) :
    takeAside shape [] [] sheet cs = .ok sheet' ↔
      (∀ c ∈ cs, shape.roleOf c ≠ .item) ∧ Puts shape cs sheet.entries sheet'.entries ∧
        sheet'.items = sheet.items := by
  induction cs generalizing sheet with
  | nil =>
    rw [takeAside, puts_nil hd]
    obtain ⟨entries, items⟩ := sheet
    obtain ⟨entries', items'⟩ := sheet'
    simp [eq_comm]
  | cons c cs ih =>
    have hrole : shape.role (localName (tagName c.1)) = shape.roleOf c := rfl
    rw [List.forall_mem_cons] at hcs
    unfold takeAside
    simp only [hrole, List.forall_mem_cons]
    cases hc : shape.roleOf c with
    | unknown =>
      simp only [ih hd hcs.2, puts_other (hc ▸ rfl : (shape.roleOf c).isField = false)]
      simp
    | item => simp
    | field kind =>
      simp only [isNil_bare bare_nil, isNil_bare hcs.1, Bool.or_self, Bool.false_eq_true,
        and_false, ↓reduceIte, puts_field hc]
      split
      · next hhas =>
        refine iff_of_false (fun h => by cases h) ?_
        rintro ⟨-, ⟨e, -, hp⟩, -⟩
        exact hp.not_has hhas
      · next hhas =>
        have hdput := Sheet.nodup_put hd hhas
        rw [bind_eq_ok]
        constructor
        · rintro ⟨e, he, h⟩
          obtain ⟨hrest, hp, hitems⟩ := (ih (hdput e) hcs.2).mp h
          exact ⟨⟨(fun hitem => by cases hitem), hrest⟩, ⟨e, he, hp⟩, hitems⟩
        · rintro ⟨⟨-, hrest⟩, ⟨e, he, hp⟩, hitems⟩
          exact ⟨e, he, (ih (hdput e) hcs.2).mpr ⟨hrest, hp, hitems⟩⟩

/-! ## Lists -/

/-- A result with scopes is of a value. -/
def Yields (x : Except Fault (α × Scopes)) (a : α) : Prop := ∃ σ, x = .ok (a, σ)

theorem yields_bind {x : Except Fault (α × Scopes)} {f : α × Scopes → Except Fault (β × Scopes)}
    {b : β} : Yields (x >>= f) b ↔ ∃ a σ, x = .ok (a, σ) ∧ Yields (f (a, σ)) b := by
  constructor
  · rintro ⟨σ', h⟩
    obtain ⟨⟨a, σ⟩, ha, h⟩ := bind_eq_ok.mp h
    exact ⟨a, σ, ha, σ', h⟩
  · rintro ⟨a, σ, ha, σ', h⟩
    exact ⟨σ', bind_eq_ok.mpr ⟨(a, σ), ha, h⟩⟩

theorem yields_bind_same {x : Except Fault γ} {f : γ → Except Fault (β × Scopes)} {b : β} :
    Yields (x >>= f) b ↔ ∃ a, x = .ok a ∧ Yields (f a) b := by
  constructor
  · rintro ⟨σ', h⟩
    obtain ⟨a, ha, h⟩ := bind_eq_ok.mp h
    exact ⟨a, ha, σ', h⟩
  · rintro ⟨a, ha, σ', h⟩
    exact ⟨σ', bind_eq_ok.mpr ⟨a, ha, h⟩⟩

theorem yields_ok_bind {x : Except Fault γ} {f : γ → Except Fault (β × Scopes)} {a : γ} {b : β}
    (hx : x = .ok a) : Yields (x >>= f) b ↔ Yields (f a) b := by
  rw [hx]
  exact Iff.rfl

theorem yields_iff {x : Except Fault (α × Scopes)} {a : α} :
    Yields x a ↔ x.map Prod.fst = .ok a := by
  cases x with
  | error e => simp [Yields, Except.map]
  | ok p =>
    obtain ⟨b, σ⟩ := p
    simp [Yields, Except.map]

theorem readChild_eq_ok_iff {x : ι} :
    readChild reader c = .ok x ↔ Yields (reader [] [] c.2 .nil) x := yields_iff.symm

theorem yields_reader (hr : Indifferent reader) {tag : Text} {inner : Outline} {x : ι}
    (htag : Bare tag) (hinner : ∀ t ∈ inner.tags, Bare t) :
    Yields (reader σ tag inner following) x ↔ readChild reader (tag, inner) = .ok x := by
  have ha : Alike (reader [] [] inner .nil) (reader σ tag inner following) :=
    hr.alike bare_nil htag hinner
  rw [yields_iff, readChild, ha]

/-- Without attributes there is nothing but references to check. -/
theorem checkAside_iff (ho : ∀ tag ∈ o.tags, Bare tag) : checkAside o = .ok () ↔ o.Resolves := by
  induction o with
  | nil => exact iff_of_true rfl trivial
  | run ps rest ih =>
    rw [checkAside, bind_eq_ok, Outline.Resolves, ← run_isOk_iff true, ← ih ho, exists_and_right]
  | doctype rest ih => exact ih ho
  | element tag inner rest ihi ihr =>
    obtain ⟨htag, hinner, hrest⟩ := Outline.forall_tags_element.mp ho
    rw [checkAside, enter_bare htag, Outline.Resolves, ← ihi hinner, ← ihr hrest]
    cases checkAside inner <;> simp [bind, Except.bind]

/-- From the second item on the children of the items' name are items, and all others are checked
and set aside. -/
theorem readItems_iff (hr : Indifferent reader) (hown : Bare own) {item : Text} {items : List ι}
    {aside : List Child} (ho : ∀ tag ∈ o.tags, Bare tag) (ha : ∀ c ∈ aside, Bare c.1)
    (hs : o.Spaced) :
    Yields (readItems shape reader own item following σ sheet items aside o) sheet' ↔
      ∃ xs, List.Forall₂ (fun c x => readChild reader c = .ok x) (named item o.children) xs ∧
        (∀ c ∈ unnamed item o.children, c.2.Resolves) ∧
        takeAside shape [] [] { sheet with items := some (items.reverse ++ xs) }
          (aside.reverse ++ unnamed item o.children) = .ok sheet' := by
  -- what has been read so far is in `items` and `aside`, the latest first
  induction o generalizing σ items aside with
  | nil =>
    have ha : ∀ c ∈ aside.reverse, Bare c.1 := fun c hc => ha c (List.mem_reverse.mp hc)
    unfold readItems
    rw [takeAside_bare hown ha, yields_bind_same]
    constructor
    · rintro ⟨_, h, σ', hσ⟩
      cases hσ
      exact ⟨[], .nil, (fun _ hd => by cases hd), by simpa [unnamed, Outline.children] using h⟩
    · rintro ⟨xs, hxs, -, h⟩
      cases hxs
      exact ⟨sheet', by simpa [unnamed, Outline.children] using h, σ, rfl⟩
  | run ps rest ih =>
    have hrun : run true ps = .ok none := by rw [run, readRun_space hs.1]
    exact (yields_ok_bind hrun).trans (ih ho ha hs.2)
  | doctype rest ih => exact ih ho ha hs
  | element tag inner rest _ ih =>
    obtain ⟨htag, hinner, hrest⟩ := Outline.forall_tags_element.mp ho
    refine (yields_ok_bind (enter_bare htag)).trans ?_
    rw [Outline.children]
    split
    · next hname =>
      rw [named_cons_of_eq hname, unnamed_cons_of_eq hname, yields_bind]
      constructor
      · rintro ⟨x, σ', hx, h⟩
        obtain ⟨xs, hxs, hresolves, haside⟩ := (ih hrest ha hs).mp h
        exact ⟨x :: xs, .cons ((yields_reader hr htag hinner).mp ⟨σ', hx⟩) hxs, hresolves,
          by simpa using haside⟩
      · rintro ⟨_, hall, hresolves, haside⟩
        obtain ⟨x, xs, hx, hxs, rfl⟩ := List.forall₂_cons_left_iff.mp hall
        obtain ⟨σ', hx⟩ := (yields_reader hr htag hinner).mpr hx
        exact ⟨x, σ', hx, (ih hrest ha hs).mpr ⟨xs, hxs, hresolves, by simpa using haside⟩⟩
    · next hname =>
      have haside : ∀ c ∈ (tag, inner) :: aside, Bare c.1 := by
        rw [List.forall_mem_cons]
        exact ⟨htag, ha⟩
      rw [named_cons_of_ne hname, unnamed_cons_of_ne hname, yields_bind_same,
        List.forall_mem_cons, ← checkAside_iff hinner]
      constructor
      · rintro ⟨_, hinner, h⟩
        obtain ⟨xs, hxs, hresolves, h⟩ := (ih hrest haside hs).mp h
        exact ⟨xs, hxs, ⟨hinner, hresolves⟩, by simpa using h⟩
      · rintro ⟨xs, hxs, ⟨hinner, hresolves⟩, h⟩
        exact ⟨(), hinner, (ih hrest haside hs).mpr ⟨xs, hxs, hresolves, by simpa using h⟩⟩

/-! ## Records -/

/-- The list that children give to a record. -/
structure Listed (shape : Shape) (reader : ItemReader ι) (cs : List Child) (sheet : Sheet ι) :
    Prop where
  items : List.Forall₂ (fun c x => readChild reader c = .ok x) (shape.itemChildren cs) sheet.list
  met : sheet.items = none ↔ shape.itemChildren cs = []
  alike : ∀ c ∈ shape.itemChildren cs, ∀ d ∈ shape.itemChildren cs, tagName c.1 = tagName d.1
  aside : ∀ c ∈ shape.behind cs, c.2.Resolves

theorem listed_nil : Listed shape reader [] sheet ↔ sheet.items = none := by
  refine ⟨fun h => h.met.mpr rfl, fun h => ⟨?_, iff_of_true h rfl, nofun, nofun⟩⟩
  rw [Sheet.list, h]
  exact .nil

theorem listed_other (h : shape.roleOf c ≠ .item) :
    Listed shape reader (c :: cs) sheet ↔ Listed shape reader cs sheet := by
  have hitems : shape.itemChildren (c :: cs) = shape.itemChildren cs :=
    Shape.itemChildren_cons_of_other h
  have hbehind : shape.behind (c :: cs) = shape.behind cs := Shape.behind_cons_of_other h
  constructor
  · rintro ⟨hi, hm, ha, hb⟩
    rw [hitems] at hi hm ha
    rw [hbehind] at hb
    exact ⟨hi, hm, ha, hb⟩
  · rintro ⟨hi, hm, ha, hb⟩
    rw [← hitems] at hi hm ha
    rw [← hbehind] at hb
    exact ⟨hi, hm, ha, hb⟩

/-- The first item gives its name to all of them. -/
theorem listed_item (h : shape.roleOf c = .item) :
    Listed shape reader (c :: cs) sheet ↔ ∃ x xs, sheet.items = some (x :: xs) ∧
      readChild reader c = .ok x ∧
      List.Forall₂ (fun c x => readChild reader c = .ok x) (shape.itemChildren cs) xs ∧
      (∀ d ∈ shape.itemChildren cs, tagName d.1 = tagName c.1) ∧
      ∀ d ∈ cs, shape.roleOf d = .unknown → d.2.Resolves := by
  have hitems : shape.itemChildren (c :: cs) = c :: shape.itemChildren cs :=
    Shape.itemChildren_cons_of_item h
  have hbehind : shape.behind (c :: cs) = cs.filter (shape.roleOf · = .unknown) :=
    Shape.behind_cons_of_item h
  constructor
  · rintro ⟨hi, hm, ha, hb⟩
    rw [hitems] at hi hm ha
    rw [hbehind] at hb
    obtain ⟨x, xs, hx, hxs, hlist⟩ := List.forall₂_cons_left_iff.mp hi
    cases hs : sheet.items with
    | none => exact absurd (hm.mp hs) (List.cons_ne_nil _ _)
    | some ys =>
      rw [Sheet.list, hs, Option.getD_some] at hlist
      subst hlist
      refine ⟨x, xs, rfl, hx, hxs, fun d hd => ?_, fun d hd hrole => ?_⟩
      · exact ha d (List.mem_cons_of_mem _ hd) c (List.mem_cons_self ..)
      · exact hb d (List.mem_filter.mpr ⟨hd, by simpa using hrole⟩)
  · rintro ⟨x, xs, hs, hx, hxs, ha, hb⟩
    have ha : ∀ d ∈ shape.itemChildren (c :: cs), tagName d.1 = tagName c.1 := by
      rw [hitems, List.forall_mem_cons]
      exact ⟨rfl, ha⟩
    refine ⟨?_, ?_, fun d hd d' hd' => (ha d hd).trans (ha d' hd').symm, ?_⟩
    · rw [hitems, Sheet.list, hs]
      exact .cons hx hxs
    · rw [hitems, hs]
      exact iff_of_false (Option.some_ne_none _) (List.cons_ne_nil _ _)
    · rw [hbehind]
      intro d hd
      obtain ⟨hd, hrole⟩ := List.mem_filter.mp hd
      exact hb d hd (by simpa using hrole)

/-- Behind the first item, those of its name are the items, and what is set aside puts its entries
after it. -/
theorem collected_item (h : shape.roleOf c = .item) (hd : (before.map Prod.fst).Nodup)
    (hcs : ∀ c ∈ cs, Bare c.1) :
    Puts shape (c :: cs) before sheet.entries ∧ Listed shape reader (c :: cs) sheet ↔
      ∃ x xs, readChild reader c = .ok x ∧
        List.Forall₂ (fun c x => readChild reader c = .ok x) (named (tagName c.1) cs) xs ∧
        (∀ d ∈ unnamed (tagName c.1) cs, d.2.Resolves) ∧
        takeAside shape [] [] ⟨before, some (x :: xs)⟩ (unnamed (tagName c.1) cs) = .ok sheet := by
  have haside : ∀ d ∈ unnamed (tagName c.1) cs, Bare d.1 :=
    fun d hd => hcs d (List.mem_filter.mp hd).1
  have hputs : Puts shape (unnamed (tagName c.1) cs) before sheet.entries ↔
      Puts shape cs before sheet.entries := by
    rw [Puts, fieldChildren_unnamed h, Puts]
  have htake (items : Option (List ι)) :
      takeAside shape [] [] ⟨before, items⟩ (unnamed (tagName c.1) cs) = .ok sheet ↔
        (∀ d ∈ unnamed (tagName c.1) cs, shape.roleOf d ≠ .item) ∧
          Puts shape cs before sheet.entries ∧ sheet.items = items := by
    rw [takeAside_iff hd haside, hputs]
  simp only [htake, listed_item h, puts_other (by simp [h, Role.isField] :
    (shape.roleOf c).isField = false)]
  constructor
  · rintro ⟨hp, x, xs, hs, hx, hxs, ha, hb⟩
    have hrole : ∀ d ∈ unnamed (tagName c.1) cs, shape.roleOf d ≠ .item := by
      intro d hd hrole
      obtain ⟨hd, hn⟩ := List.mem_filter.mp hd
      exact absurd (ha d (List.mem_filter.mpr ⟨hd, by simpa using hrole⟩)) (by simpa using hn)
    refine ⟨x, xs, hx, named_eq_itemChildren h ha ▸ hxs, fun d hd => ?_, hrole, hp, hs⟩
    have hmem : d ∈ cs := (List.mem_filter.mp hd).1
    cases hd' : shape.roleOf d with
    | item => exact absurd hd' (hrole d hd)
    | unknown => exact hb d hmem hd'
    | field kind => exact hp.resolves d (List.mem_filter.mpr ⟨hmem, by simp [hd', Role.isField]⟩)
  · rintro ⟨x, xs, hx, hxs, hresolves, hrole, hp, hs⟩
    have ha : ∀ d ∈ shape.itemChildren cs, tagName d.1 = tagName c.1 := by
      intro d hd
      obtain ⟨hd, hitem⟩ := List.mem_filter.mp hd
      by_contra hn
      exact hrole d (List.mem_filter.mpr ⟨hd, by simpa using hn⟩) (by simpa using hitem)
    refine ⟨hp, x, xs, hs, hx, named_eq_itemChildren h ha ▸ hxs, ha,
      fun d hd hunknown => hresolves d ?_⟩
    refine List.mem_filter.mpr ⟨hd, ?_⟩
    have hn : tagName d.1 ≠ tagName c.1 := by
      intro hn
      rw [roleOf_congr hn, h] at hunknown
      cases hunknown
    simpa using hn

/-- Fields are put in document order, those behind the first item among them: they are put at the
end, but nothing else is. -/
theorem readFields_iff (hr : Indifferent reader) (hown : Bare own) {afterTag : Bool}
    (hd : (sheet.entries.map Prod.fst).Nodup) (hitems : sheet.items = none)
    (ho : ∀ tag ∈ o.tags, Bare tag) (hs : o.Spaced) :
    Yields (readFields shape reader own following σ afterTag sheet o) sheet' ↔
      Puts shape o.children sheet.entries sheet'.entries ∧
        Listed shape reader o.children sheet' := by
  induction o generalizing σ afterTag sheet with
  | nil =>
    rw [Outline.children, puts_nil hd, listed_nil, ← hitems]
    obtain ⟨entries, items⟩ := sheet
    obtain ⟨entries', items'⟩ := sheet'
    simp [readFields, Yields, eq_comm]
  | run ps rest ih =>
    obtain ⟨t, ht⟩ := (run_isOk_iff afterTag).mpr fun p hp => (hs.1 p hp).resolves
    exact (yields_ok_bind ht).trans (ih hd hitems ho hs.2)
  | doctype rest ih => exact ih hd hitems ho hs
  | element tag inner rest _ ih =>
    obtain ⟨htag, hinner, hrest⟩ := Outline.forall_tags_element.mp ho
    refine (yields_ok_bind (enter_bare htag)).trans ?_
    have hrole : shape.role (localName (tagName tag)) = shape.roleOf (tag, inner) := rfl
    rw [Outline.children]
    cases hc : shape.roleOf (tag, inner) with
    | unknown =>
      simp only [hrole, hc]
      obtain ⟨σ', hskip⟩ := skip_bare hinner ([] :: σ)
      rw [puts_other (by simp [hc, Role.isField]), listed_other (by simp [hc])]
      exact (yields_ok_bind hskip).trans (ih hd hitems hrest hs)
    | item =>
      simp only [hrole, hc]
      have hcs : ∀ c ∈ rest.children, Bare c.1 :=
        fun c hc => hrest _ (Outline.tags_of_mem_children hc).1
      rw [collected_item hc hd hcs, yields_bind]
      constructor
      · rintro ⟨x, σ', hx, h⟩
        obtain ⟨xs, hxs, hresolves, haside⟩ := (readItems_iff hr hown hrest (by simp) hs).mp h
        exact ⟨x, xs, (yields_reader hr htag hinner).mp ⟨σ', hx⟩, hxs, hresolves, haside⟩
      · rintro ⟨x, xs, hx, hxs, hresolves, haside⟩
        obtain ⟨σ', hx⟩ := (yields_reader hr htag hinner).mpr hx
        exact ⟨x, σ', hx, (readItems_iff hr hown hrest (by simp) hs).mpr
          ⟨xs, hxs, hresolves, haside⟩⟩
    | field kind =>
      simp only [hrole, hc, isNil_bare hown, isNil_bare htag]
      rw [puts_field hc, listed_other (by simp [hc])]
      split
      · next hhas =>
        refine iff_of_false (by rintro ⟨_, h⟩; cases h) ?_
        rintro ⟨⟨e, -, hp⟩, -⟩
        exact hp.not_has hhas
      · next hhas =>
        simp only [Bool.or_self, Bool.false_eq_true, and_false, ↓reduceIte]
        have hdput := Sheet.nodup_put hd hhas
        refine yields_bind_same.trans ?_
        rw [← exists_and_right]
        refine exists_congr fun e => ?_
        rw [and_assoc]
        exact and_congr_right fun _ => ih (hdput e) hitems hrest hs

/-- A record is what its children put and list. -/
structure Collected (shape : Shape) (reader : ItemReader ι) (cs : List Child) (sheet : Sheet ι) :
    Prop where
  fields : Puts shape cs [] sheet.entries
  listed : Listed shape reader cs sheet

/-- A record is read from the list of its children. -/
theorem read_iff (hr : Indifferent reader) {tag : Text} {inner : Outline} (htag : Bare tag)
    (hinner : ∀ t ∈ inner.tags, Bare t) (hs : inner.Spaced) :
    Yields (read shape reader σ tag inner following) sheet ↔
      Collected shape reader inner.children sheet := by
  have hblank : ((Sheet.blank : Sheet ι).entries.map Prod.fst).Nodup := List.nodup_nil
  rw [read, attributeFault?_bare htag]
  refine yields_bind.trans ?_
  constructor
  · rintro ⟨_, σ', h, _, hreturn⟩
    cases hreturn
    obtain ⟨hputs, hlisted⟩ := (readFields_iff hr htag hblank rfl hinner hs).mp ⟨σ', h⟩
    exact ⟨hputs, hlisted⟩
  · rintro ⟨hputs, hlisted⟩
    obtain ⟨σ', h⟩ := (readFields_iff hr htag hblank rfl hinner hs).mpr ⟨hputs, hlisted⟩
    exact ⟨sheet, σ', h, σ'.leave, rfl⟩

end RegisterMap.Record
