import RegisterMap.Proofs.Markup.Written
import RegisterMap.Record.Read

/-!
# Records that are read back

A record is written as its fields and then the items of its list, each an
element without attributes. Reading it fills a sheet with the entries of the
fields and with the items (`read_record`), whatever scopes it stands in, which
it leaves as they were.
-/

namespace RegisterMap.Record

open Markup

/-! ## Tags without attributes -/

/-- A tag with nothing but white space after its name has no attributes. -/
def Bare (tag : Text) : Prop := ∀ c ∈ tag.dropWhile (!isBlank ·), isBlank c = true

instance (tag : Text) : Decidable (Bare tag) :=
  decidable_of_iff ((tag.dropWhile (!isBlank ·)).all isBlank = true) List.all_eq_true

theorem bare_nil : Bare [] := by
  intro c hc
  cases hc

theorem bare_of_isName {tag : Text} (h : IsName tag) : Bare tag := by
  have hd : tag.dropWhile (!isBlank ·) = [] :=
    List.dropWhile_eq_nil_iff.mpr fun c hc => by simp [h.not_blank hc]
  intro c hc
  rw [hd] at hc
  cases hc

section Bare

variable {tag : Text} {σ : Scopes}

theorem attributes_bare (h : Bare tag) (unique : Bool) : attributes unique tag = [] := by
  have hd : (tag.dropWhile (!isBlank ·)).dropWhile isBlank = [] := List.dropWhile_eq_nil_iff.mpr h
  rw [attributes, attributesFrom]
  split
  · rfl
  · next hs =>
    rw [Place.skip, hd] at hs
    cases hs

theorem attributeFault?_bare (h : Bare tag) : attributeFault? tag = none := by
  rw [attributeFault?, attributes_bare h]
  rfl

theorem enter_scopes_bare (h : Bare tag) : σ.enter tag = [] :: σ := by
  rw [Scopes.enter, attributes_bare h]
  rfl

theorem enter_bare (h : Bare tag) : enter σ tag = .ok ([] :: σ) := by
  rw [enter, bindingFault?, attributes_bare h, enter_scopes_bare h]
  rfl

theorem isNil_bare (h : Bare tag) : σ.isNil tag = false := by
  rw [Scopes.isNil, attributes_bare h]
  rfl

theorem localName_of_isName (h : IsName tag) : localName tag = tag := by
  rw [localName, splitName, Text.cut_eq_none fun hc => h.ne hc rfl rfl]

end Bare

/-! ## Written text -/

theorem run_escape {s : Text} (hs : s ≠ []) (afterTag : Bool) :
    run afterTag [.plain (escape s)] = .ok (some s) := by
  have hlead : trimLeading [.plain (escape s)] = [.plain (escape s)] := by
    cases he : escape s with
    | nil => exact absurd (escape_eq_nil.mp he) hs
    | cons c e =>
      have hc : isBlank c = false := isBlank_of_mem_escape (he ▸ List.mem_cons_self ..)
      simp [trimLeading, hc]
  have htrail : trimTrailing [.plain (escape s)] = [.plain (escape s)] := by
    rw [trimTrailing,
      Text.trimEndBy_eq_self fun c hc => isBlank_of_mem_escape (List.mem_of_getLast? hc)]
  have hread : readRun afterTag [.plain (escape s)] = .ok (some s) := by
    rw [readRun, hlead, ite_self, htrail]
    split
    · next h => cases h
    · next h => exact absurd (escape_eq_nil.mp (by simpa using h)) hs
    · simp [resolveAll, resolve_escape, bind, Except.bind, pure, Except.pure, Except.map]
  rw [run, hread]

theorem scalar_ofText (s : Text) : scalar (Content.ofText s).outline = .ok s := by
  unfold Content.ofText
  split
  · next h => rw [h]; rfl
  · next h =>
    have ho : (Content.piece (.text (escape s)) .nil).outline = .run [.plain (escape s)] .nil := rfl
    rw [ho, scalar, scalarAfter, run_escape h]
    rfl

theorem byte?_decimal (b : UInt8) : byte? (Text.decimal b.toNat) = some b := by
  have h : ∀ n < 256, byte? (Text.decimal n) = some (.ofNat n) := by decide +kernel
  simpa using h b.toNat b.toNat_lt

/-! ## Fields -/

/-- A field as it is written and as it is read. -/
structure Filled where
  name : Text
  kind : Kind
  text : Text
  entry : Entry

def Filled.written (f : Filled) : Text × Content := (f.name, Content.ofText f.text)

/-- A record of a shape knows the field and reads its text as its entry. -/
structure Filled.Fits (shape : Shape) (f : Filled) : Prop where
  name : IsName f.name
  role : shape.role f.name = .field f.kind
  reads : Record.entry f.kind (Content.ofText f.text).outline = .ok f.entry

theorem entry_text (s : Text) : entry .text (Content.ofText s).outline = .ok (.text s) := by
  rw [entry, scalar_ofText]
  rfl

theorem entry_remark (s : Text) : entry .remark (Content.ofText s).outline = .ok (.text s) := by
  rw [entry, scalar_ofText]
  rfl

theorem entry_byte (b : UInt8) :
    entry .byte (Content.ofText (Text.decimal b.toNat)).outline = .ok (.byte b) := by
  rw [entry, scalar_ofText]
  simp only [bind, Except.bind, byte?_decimal]
  rfl

section Read

variable {ι : Type} {shape : Shape} {reader : ItemReader ι} {own item : Text}
  {following rest : Outline} {σ : Scopes} {afterTag : Bool} {sheet : Sheet ι}

theorem readFields_field {f : Filled} (hf : f.Fits shape) (hown : Bare own)
    (hs : sheet.has f.name = false) :
    readFields shape reader own following σ afterTag sheet
        (.element f.name (Content.ofText f.text).outline rest) =
      readFields shape reader own following σ true (sheet.put f.name f.entry) rest := by
  rw [readFields, enter_bare (bare_of_isName hf.name), tagName_of_isName hf.name,
    localName_of_isName hf.name]
  simp [bind, Except.bind, hf.role, hs, isNil_bare hown, isNil_bare (bare_of_isName hf.name),
    hf.reads]

/-- The entries of fields, the latest first. -/
def entriesOf (fs : List Filled) : List (Text × Entry) :=
  (fs.map fun f => (f.name, f.entry)).reverse

theorem readFields_fields {fs : List Filled} {es : List (Text × Content)}
    (hf : ∀ f ∈ fs, f.Fits shape) (hd : (fs.map (·.name)).Nodup) (hown : Bare own)
    (hs : ∀ f ∈ fs, sheet.has f.name = false) :
    readFields shape reader own following σ true sheet
        (Content.siblings (fs.map Filled.written ++ es)).outline =
      readFields shape reader own following σ true
        { sheet with entries := entriesOf fs ++ sheet.entries } (Content.siblings es).outline := by
  -- the sheet fills from the front: no field still to come is in it
  induction fs generalizing sheet with
  | nil => rfl
  | cons f fs ih =>
    rw [List.map_cons, List.nodup_cons] at hd
    have hput : ∀ g ∈ fs, (sheet.put f.name f.entry).has g.name = false := by
      intro g hg
      have hne : g.name ≠ f.name := fun he => hd.1 (he ▸ List.mem_map_of_mem hg)
      have hg := hs g (List.mem_cons_of_mem _ hg)
      rw [Sheet.has, Sheet.put, List.lookup_cons, beq_false_of_ne hne]
      exact hg
    have hentries : entriesOf fs ++ (sheet.put f.name f.entry).entries =
        entriesOf (f :: fs) ++ sheet.entries := by
      simp [entriesOf, Sheet.put]
    change readFields shape reader own following σ true sheet (.element f.name
      (Content.ofText f.text).outline (Content.siblings (fs.map Filled.written ++ es)).outline) = _
    rw [readFields_field (hf f (List.mem_cons_self ..)) hown (hs f (List.mem_cons_self ..)),
      ih (fun g hg => hf g (List.mem_cons_of_mem _ hg)) hd.2 hput, hentries]
    rfl

/-! ## Items -/

/-- A record of a shape lists the item, and reads it back in any scopes, which it leaves as they
were. -/
structure ItemFits (shape : Shape) (reader : ItemReader ι) (item : Text) (x : ι)
    (inner : Outline) : Prop where
  name : IsName item
  role : shape.role item = .item
  reads : ∀ σ following, reader σ item inner following = .ok (x, σ)

theorem readItems_items {write : ι → Content} {xs items : List ι}
    (hr : ∀ x ∈ xs, ItemFits shape reader item x (write x).outline) :
    readItems shape reader own item following σ sheet items []
        (Content.siblings (xs.map fun x => (item, write x))).outline =
      .ok ({ sheet with items := some (items.reverse ++ xs) }, σ) := by
  induction xs generalizing items with
  | nil =>
    rw [List.append_nil]
    rfl
  | cons x xs ih =>
    have hx := hr x (List.mem_cons_self ..)
    rw [List.map_cons, Content.siblings, Content.outline, readItems,
      enter_bare (bare_of_isName hx.name), tagName_of_isName hx.name]
    simp only [bind, Except.bind, ↓reduceIte, hx.reads]
    rw [ih fun y hy => hr y (List.mem_cons_of_mem _ hy), List.reverse_cons, List.append_assoc,
      List.singleton_append]

theorem readFields_items {write : ι → Content} {xs : List ι}
    (hr : ∀ x ∈ xs, ItemFits shape reader item x (write x).outline) (hs : sheet.items = none) :
    ∃ items, items.getD [] = xs ∧ readFields shape reader own following σ afterTag sheet
        (Content.siblings (xs.map fun x => (item, write x))).outline =
      .ok ({ sheet with items }, σ) := by
  cases xs with
  | nil => exact ⟨none, rfl, by rw [← hs]; rfl⟩
  | cons x xs =>
    have hx := hr x (List.mem_cons_self ..)
    refine ⟨some (x :: xs), rfl, ?_⟩
    rw [List.map_cons, Content.siblings, Content.outline, readFields,
      enter_bare (bare_of_isName hx.name), tagName_of_isName hx.name, localName_of_isName hx.name]
    simp only [bind, Except.bind, hx.role, hx.reads]
    rw [readItems_items fun y hy => hr y (List.mem_cons_of_mem _ hy)]
    rfl

/-- A record is read back from its fields and items. -/
theorem read_record (σ : Scopes) (following : Outline) (write : ι → Content) {fs : List Filled}
    {xs : List ι} (hown : Bare own) (hf : ∀ f ∈ fs, f.Fits shape) (hd : (fs.map (·.name)).Nodup)
    (hr : ∀ x ∈ xs, ItemFits shape reader item x (write x).outline) :
    ∃ sheet : Sheet ι, sheet.entries = entriesOf fs ∧ sheet.list = xs ∧
      read shape reader σ own (Content.siblings
        (fs.map Filled.written ++ xs.map fun x => (item, write x))).outline following =
      .ok (sheet, σ) := by
  have hitems : ∃ items, items.getD [] = xs ∧
      readFields shape reader own following ([] :: σ) true ⟨entriesOf fs, none⟩
        (Content.siblings (xs.map fun x => (item, write x))).outline =
      .ok (⟨entriesOf fs, items⟩, [] :: σ) := readFields_items hr rfl
  obtain ⟨items, hlist, hread⟩ := hitems
  refine ⟨⟨entriesOf fs, items⟩, rfl, hlist, ?_⟩
  rw [read, attributeFault?_bare hown, enter_scopes_bare hown,
    readFields_fields hf hd hown fun f _ => rfl]
  simp only [Sheet.blank, List.append_nil, hread, bind, Except.bind, pure, Except.pure]
  rfl

end Read

end RegisterMap.Record
