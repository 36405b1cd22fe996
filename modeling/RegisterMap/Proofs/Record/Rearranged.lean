import Mathlib.Data.List.Perm.Basic
import RegisterMap.Proofs.Record.Collect

/-!
# Records rearranged

An outline is another one `Rearranged` when it has the same fields in any order,
the same items in order, each rearranged itself, and any unknown children
anywhere. It is then read as the same record, but for what is unknown behind the
first item, which has to be `Settled` (`Stable.record`).
-/

namespace RegisterMap.Record

open Markup

variable {ι κ : Type} {shape : Shape} {reader : ItemReader ι} {c c' : Child} {cs cs' : List Child}
  {before entries : List (Text × Entry)} {sheet : Sheet ι} {o o' : Outline}
  {R : Outline → Outline → Prop} {S : Outline → Prop}

/-! ## Fields in any order -/

theorem lookup_perm {es es' : List (Text × Entry)} (h : es.Perm es')
    (hd : (es.map Prod.fst).Nodup) (name : Text) : es.lookup name = es'.lookup name := by
  induction h with
  | nil => rfl
  | cons e _ ih =>
    rw [List.map_cons, List.nodup_cons] at hd
    rw [List.lookup_cons, List.lookup_cons, ih hd.2]
  | swap e f es =>
    obtain ⟨k, e⟩ := e
    obtain ⟨l, f⟩ := f
    simp only [List.map_cons, List.nodup_cons, List.mem_cons, not_or] at hd
    have hne : l ≠ k := hd.1.1
    simp only [List.lookup_cons]
    by_cases hl : name = l
    · subst hl
      rw [beq_false_of_ne hne]
    · rw [beq_false_of_ne hl]
  | trans h _ ih ih' => exact (ih hd).trans (ih' ((h.map _).nodup_iff.mp hd))

theorem enters_unique : Relator.RightUnique (Enters shape) := by
  rintro c ⟨name, e⟩ ⟨name', e'⟩ ⟨kind, hkind, he, rfl⟩ ⟨kind', hkind', he', rfl⟩
  rw [hkind] at hkind'
  cases hkind'
  dsimp only at he he'
  rw [he] at he'
  cases he'
  rfl

theorem Puts.perm (h : Puts shape cs [] entries)
    (hp : (shape.fieldChildren cs').Perm (shape.fieldChildren cs)) :
    ∃ entries', entries'.Perm entries ∧ ∀ es, Puts shape cs' [] es ↔ es = entries' := by
  obtain ⟨es, hes, rfl, hd⟩ := h
  obtain ⟨es', hes', hperm⟩ := List.perm_comp_forall₂ hp hes
  have hperm : (es'.reverse ++ []).Perm (es.reverse ++ []) := by
    simpa using hperm
  refine ⟨es'.reverse ++ [], hperm, fun fs => ⟨?_, ?_⟩⟩
  · rintro ⟨fs, hfs, rfl, -⟩
    rw [List.right_unique_forall₂' enters_unique hfs hes']
  · rintro rfl
    exact ⟨es', hes', rfl, (hperm.map _).nodup_iff.mpr hd⟩

/-! ## Outlines -/

/-- The fields are the same in any order, and the items in order, each related to itself. -/
structure Rearranged (shape : Shape) (inside : Outline → Outline → Prop) (o o' : Outline) :
    Prop where
  spaced : o.Spaced
  spaced' : o'.Spaced
  fields : (shape.fieldChildren o'.children).Perm (shape.fieldChildren o.children)
  items : List.Forall₂ (fun c c' => tagName c'.1 = tagName c.1 ∧ inside c.2 c'.2)
    (shape.itemChildren o.children) (shape.itemChildren o'.children)

/-- What is unknown behind the first item resolves, and every item is settled. -/
structure Settled (shape : Shape) (inside : Outline → Prop) (o : Outline) : Prop where
  aside : ∀ c ∈ shape.behind o.children, c.2.Resolves
  items : ∀ c ∈ shape.itemChildren o.children, inside c.2

/-- What is read as an item is read so from a related outline too, if that satisfies `S`, and else
is not read. -/
def Stable (reader : ItemReader ι) (R : Outline → Outline → Prop) (S : Outline → Prop) : Prop :=
  ∀ {c c' : Child} {x : ι}, (∀ t ∈ c.2.tags, Bare t) → (∀ t ∈ c'.2.tags, Bare t) → R c.2 c'.2 →
    readChild reader c = .ok x → ∀ y, readChild reader c' = .ok y ↔ y = x ∧ S c'.2

theorem Stable.items (h : Stable reader R S) {xs : List ι}
    (hR : List.Forall₂ (fun c c' => tagName c'.1 = tagName c.1 ∧ R c.2 c'.2) cs cs')
    (hcs : ∀ c ∈ cs, ∀ t ∈ c.2.tags, Bare t) (hcs' : ∀ c ∈ cs', ∀ t ∈ c.2.tags, Bare t)
    (hxs : List.Forall₂ (fun c x => readChild reader c = .ok x) cs xs) (ys : List ι) :
    List.Forall₂ (fun c x => readChild reader c = .ok x) cs' ys ↔
      ys = xs ∧ ∀ c ∈ cs', S c.2 := by
  induction hR generalizing xs ys with
  | nil =>
    cases hxs
    rw [List.forall₂_nil_left_iff]
    exact (and_iff_left nofun).symm
  | @cons c c' cs cs' hc _ ih =>
    obtain ⟨x, xs, hx, htail, rfl⟩ := List.forall₂_cons_left_iff.mp hxs
    rw [List.forall_mem_cons] at hcs hcs'
    have hitem := h hcs.1 hcs'.1 hc.2 hx
    have hrest := ih hcs.2 hcs'.2 htail
    rw [List.forall_mem_cons, List.forall₂_cons_left_iff]
    constructor
    · rintro ⟨y, ys, hy, hys, rfl⟩
      obtain ⟨rfl, hS⟩ := (hitem y).mp hy
      obtain ⟨rfl, hall⟩ := (hrest ys).mp hys
      exact ⟨rfl, hS, hall⟩
    · rintro ⟨rfl, hS, hall⟩
      exact ⟨x, xs, (hitem x).mpr ⟨rfl, hS⟩, (hrest xs).mpr ⟨rfl, hall⟩, rfl⟩

theorem Rearranged.listed (h : Rearranged shape R o o') (hst : Stable reader R S)
    (ho : ∀ t ∈ o.tags, Bare t) (ho' : ∀ t ∈ o'.tags, Bare t)
    (hl : Listed shape reader o.children sheet) (sheet' : Sheet ι) :
    Listed shape reader o'.children sheet' ↔
      sheet'.items = sheet.items ∧ Settled shape S o' := by
  have htags {o : Outline} (ho : ∀ t ∈ o.tags, Bare t) :
      ∀ c ∈ shape.itemChildren o.children, ∀ t ∈ c.2.tags, Bare t :=
    fun c hc t ht => ho t ((Outline.tags_of_mem_children (List.mem_filter.mp hc).1).2 t ht)
  have hitems := hst.items h.items (htags ho) (htags ho') hl.items
  have hnil : shape.itemChildren o'.children = [] ↔ shape.itemChildren o.children = [] := by
    rw [← List.length_eq_zero_iff, ← List.length_eq_zero_iff, h.items.length_eq]
  constructor
  · intro hl'
    obtain ⟨hlist, hS⟩ := (hitems sheet'.list).mp hl'.items
    refine ⟨?_, hl'.aside, hS⟩
    have hnone : sheet'.items = none ↔ sheet.items = none := by rw [hl'.met, hnil, hl.met]
    cases hs : sheet.items with
    | none => exact hnone.mpr hs
    | some xs =>
      cases hs' : sheet'.items with
      | none =>
        rw [hnone.mp hs'] at hs
        cases hs
      | some ys =>
        rw [Sheet.list, Sheet.list, hs, hs'] at hlist
        exact congrArg some hlist
  · rintro ⟨heq, hS⟩
    have hlist : sheet'.list = sheet.list := by rw [Sheet.list, Sheet.list, heq]
    refine ⟨(hitems sheet'.list).mpr ⟨hlist, hS.items⟩, by rw [heq, hl.met, hnil], ?_, hS.aside⟩
    have hname : ∀ c' ∈ shape.itemChildren o'.children, ∃ c ∈ shape.itemChildren o.children,
        tagName c'.1 = tagName c.1 := by
      intro c' hc'
      obtain ⟨c, hc, hcc'⟩ := forall₂_mem_left h.items.flip hc'
      exact ⟨c, hc, hcc'.1⟩
    intro c hc d hd
    obtain ⟨e, he, hce⟩ := hname c hc
    obtain ⟨f, hf, hdf⟩ := hname d hd
    rw [hce, hdf, hl.alike e he f hf]

/-- The sheets have the same fields and the same list. -/
structure Sheet.Same (s s' : Sheet ι) : Prop where
  fields : ∀ name, s'.entries.lookup name = s.entries.lookup name
  list : s'.list = s.list

namespace Sheet.Same

variable {s s' : Sheet ι}

theorem text (h : s.Same s') (field : Text) : s'.text field = s.text field := by
  rw [Sheet.text, h.fields, Sheet.text]

theorem byte (h : s.Same s') (field : Text) : s'.byte field = s.byte field := by
  rw [Sheet.byte, h.fields, Sheet.byte]

theorem text? (h : s.Same s') (field : Text) : s'.text? field = s.text? field := by
  rw [Sheet.text?, h.fields, Sheet.text?]

end Sheet.Same

/-- A record is read from its rearranged outline exactly if that is settled. -/
theorem Rearranged.collected (h : Rearranged shape R o o') (hst : Stable reader R S)
    (ho : ∀ t ∈ o.tags, Bare t) (ho' : ∀ t ∈ o'.tags, Bare t)
    (hc : Collected shape reader o.children sheet) :
    ∃ sheet' : Sheet ι, sheet.Same sheet' ∧
      ∀ s, Collected shape reader o'.children s ↔ s = sheet' ∧ Settled shape S o' := by
  obtain ⟨entries', hperm, hputs⟩ := hc.fields.perm h.fields
  have hlisted := h.listed hst ho ho' hc.listed
  have hd : (sheet.entries.map Prod.fst).Nodup := by
    obtain ⟨es, -, -, hd⟩ := hc.fields
    exact hd
  refine ⟨⟨entries', sheet.items⟩, ⟨fun name => (lookup_perm hperm.symm hd name).symm, rfl⟩,
    fun s => ⟨fun hs => ?_, ?_⟩⟩
  · obtain ⟨hitems, hS⟩ := (hlisted s).mp hs.listed
    have hentries := (hputs s.entries).mp hs.fields
    obtain ⟨es, items⟩ := s
    exact ⟨by rw [← hentries, ← hitems], hS⟩
  · rintro ⟨rfl, hS⟩
    exact ⟨(hputs _).mpr rfl, (hlisted _).mpr ⟨rfl, hS⟩⟩

/-- The reader of a record whose list is stable is stable. -/
theorem Stable.record (hr : Indifferent reader) (hst : Stable reader R S)
    {ofSheet : Sheet ι → Except Fault κ} (hof : ∀ s s', s.Same s' → ofSheet s' = ofSheet s) :
    Stable (fun σ tag inner following => do
      let (sheet, σ) ← read shape reader σ tag inner following
      return (← ofSheet sheet, σ)) (Rearranged shape R) (Settled shape S) := by
  have hread {c : Child} {y : κ} (hc : ∀ t ∈ c.2.tags, Bare t) (hs : c.2.Spaced) :
      readChild (fun σ tag inner following => do
        let (sheet, σ) ← read shape reader σ tag inner following
        return (← ofSheet sheet, σ)) c = .ok y ↔
        ∃ sheet, Collected shape reader c.2.children sheet ∧ ofSheet sheet = .ok y := by
    rw [readChild_eq_ok_iff]
    refine yields_bind.trans ?_
    constructor
    · rintro ⟨sheet, σ, h, hy⟩
      obtain ⟨v, hv, _, hreturn⟩ := yields_bind_same.mp hy
      cases hreturn
      exact ⟨sheet, (read_iff hr bare_nil hc hs).mp ⟨σ, h⟩, hv⟩
    · rintro ⟨sheet, hcollected, hy⟩
      obtain ⟨σ, h⟩ := (read_iff hr bare_nil hc hs).mpr hcollected
      exact ⟨sheet, σ, h, yields_bind_same.mpr ⟨y, hy, σ, rfl⟩⟩
  intro c c' x hc hc' hR hx y
  obtain ⟨sheet, hcollected, hsheet⟩ := (hread hc hR.spaced).mp hx
  obtain ⟨sheet', hsame, hiff⟩ := hR.collected hst hc hc' hcollected
  rw [hread hc' hR.spaced']
  simp only [hiff]
  constructor
  · rintro ⟨s, ⟨rfl, hS⟩, hs⟩
    rw [hof _ _ hsame, hsheet] at hs
    exact ⟨(Except.ok.inj hs).symm, hS⟩
  · rintro ⟨rfl, hS⟩
    exact ⟨sheet', ⟨rfl, hS⟩, by rw [hof _ _ hsame, hsheet]⟩

end RegisterMap.Record

namespace RegisterMap

open Markup Record

theorem noItem_stable : Stable noItem (fun _ _ => True) (fun _ => True) :=
  fun _ _ _ _ _ => iff_of_true rfl ⟨rfl, trivial⟩

/-! ## Values -/

namespace Value

def Rearranged : Outline → Outline → Prop := Record.Rearranged shape fun _ _ => True

/-- A value lists nothing, so all of it is settled. -/
def Settled : Outline → Prop := Record.Settled shape fun _ => True

theorem stable : Stable item Rearranged Settled :=
  noItem_stable.record noItem_indifferent fun s s' h => by
    simp only [ofSheet, h.text]

end Value

/-! ## Bitfields -/

namespace Bitfield

/-- The outlines of a bitfield that is rearranged, as its values may be. -/
def Rearranged : Outline → Outline → Prop := Record.Rearranged shape Value.Rearranged

def Settled : Outline → Prop := Record.Settled shape Value.Settled

theorem stable : Stable item Rearranged Settled :=
  Value.stable.record Value.item_indifferent fun s s' h => by
    simp only [ofSheet, h.text, h.byte, h.text?, h.list]

end Bitfield

/-! ## Registers -/

namespace Register

/-- The outlines of a register that is rearranged, as its bitfields may be. -/
def Rearranged : Outline → Outline → Prop := Record.Rearranged shape Bitfield.Rearranged

def Settled : Outline → Prop := Record.Settled shape Bitfield.Settled

theorem stable : Stable item Rearranged Settled :=
  Bitfield.stable.record Bitfield.item_indifferent fun s s' h => by
    simp only [ofSheet, h.text, h.text?, h.list]

end Register

end RegisterMap
