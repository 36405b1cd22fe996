import RegisterMap.Proofs.Layout.Blocks
import RegisterMap.Proofs.Text.Basic

/-!
# Plain layouts

A name is plain when it has only ASCII letters, digits and `_`. The layout of a
device with plain names, and with no line feeds in the texts that are written as
they are, has plain names again, and no line feed anywhere (`Device.Plain.layout`).
-/

namespace RegisterMap

namespace Text

/-- ASCII letters, digits and `_`. -/
def isPlain (c : Char) : Bool := c.isAlphanum || c == '_'

def Plain (s : Text) : Prop := ∀ c ∈ s, isPlain c = true

instance (s : Text) : Decidable (Plain s) :=
  decidable_of_iff (s.all isPlain = true) List.all_eq_true

variable {c : Char} {s t : Text}

theorem Plain.not_mem (h : Plain s) (hc : isPlain c = false) : c ∉ s := by
  intro hm
  rw [h c hm] at hc
  cases hc

theorem Plain.append (hs : Plain s) (ht : Plain t) : Plain (s ++ t) := by
  intro c hc
  rcases List.mem_append.mp hc with hc | hc
  · exact hs c hc
  · exact ht c hc

theorem Plain.sublist (h : Plain s) (ht : t.Sublist s) : Plain t := fun c hc => h c (ht.subset hc)

theorem toNat_lt_of_isPlain (h : isPlain c = true) : c.toNat < 128 := by
  change (((decide (65 ≤ c.toNat ∧ c.toNat ≤ 90) || (decide (97 ≤ c.toNat) &&
    decide (c.toNat ≤ 122))) || (decide (48 ≤ c.toNat) && decide (c.toNat ≤ 57))) ||
    c == '_') = true at h
  simp only [Bool.or_eq_true, Bool.and_eq_true, decide_eq_true_eq, beq_iff_eq] at h
  rcases h with ((⟨-, h⟩ | ⟨-, h⟩) | ⟨-, h⟩) | rfl
  · omega
  · omega
  · omega
  · decide

/-- What holds of all ASCII characters can be decided. -/
@[elab_as_elim]
theorem of_ascii {P : Char → Prop} (hc : c.toNat < 128) (h : ∀ n < 128, P (.ofNat n)) : P c := by
  rw [← Char.ofNat_toNat c]
  exact h _ hc

theorem isBlank_of_isPlain (h : isPlain c = true) : isBlank c = false := by
  have hc : isPlain c = true → isBlank c = false :=
    of_ascii (toNat_lt_of_isPlain h) (by decide +kernel)
  exact hc h

theorem Plain.trim (h : Plain s) : Text.trim s = s :=
  trimBy_eq_self (fun _ hc => isBlank_of_isPlain (h _ (List.mem_of_head? hc)))
    fun _ hc => isBlank_of_isPlain (h _ (List.mem_of_getLast? hc))

theorem isPlain_toLower_toUpper (h : isPlain c = true) :
    isPlain c.toLower = true ∧ isPlain c.toUpper = true := by
  have hc : isPlain c = true → isPlain c.toLower = true ∧ isPlain c.toUpper = true :=
    of_ascii (toNat_lt_of_isPlain h) (by decide +kernel)
  exact hc h

theorem plain_lower (h : isPlain c = true) : Plain (lower c) := by
  rw [lower, if_pos (toNat_lt_of_isPlain h)]
  intro d hd
  rw [List.mem_singleton.mp hd]
  exact (isPlain_toLower_toUpper h).1

theorem plain_upper (h : isPlain c = true) : Plain (upper c) := by
  rw [upper, if_pos (toNat_lt_of_isPlain h)]
  intro d hd
  rw [List.mem_singleton.mp hd]
  exact (isPlain_toLower_toUpper h).2

theorem plain_lowercaseAfter (h : Plain s) (cased : Bool) : Plain (lowercaseAfter cased s) := by
  induction s generalizing cased with
  | nil => exact fun c hc => by cases hc
  | cons c s ih =>
    have hc : isPlain c = true := h c (List.mem_cons_self ..)
    have hs : Plain s := fun d hd => h d (List.mem_cons_of_mem _ hd)
    have hsigma : c ≠ 'Σ' := by
      rintro rfl
      cases hc
    rw [lowercaseAfter, if_neg hsigma]
    exact (plain_lower hc).append (ih hs _)

theorem plain_capitalized (h : Plain s) : Plain (capitalized s) := by
  cases s with
  | nil => exact fun c hc => by cases hc
  | cons c s =>
    refine (plain_upper (h c (List.mem_cons_self ..))).append fun d hd => ?_
    obtain ⟨e, he, hd⟩ := List.mem_flatMap.mp hd
    exact plain_lower (h e (List.mem_cons_of_mem _ he)) d hd

end Text

namespace Names

variable {name : Text}

theorem plain_getter (h : Text.Plain name) : Text.Plain (getter name) :=
  Text.plain_lowercaseAfter h false

theorem plain_typeName (h : Text.Plain name) : Text.Plain (typeName name) := by
  intro c hc
  obtain ⟨p, hp, hc⟩ := List.mem_flatMap.mp hc
  exact Text.plain_capitalized (h.sublist (Text.sublist_of_mem_pieces hp)) c hc

end Names

theorem Reset.plain_literal (b : UInt8) : Text.Plain (literal b) := by
  have h : ∀ n < 256, Text.Plain (literal (.ofNat n)) := by decide +kernel
  simpa using h b.toNat b.toNat_lt

/-! ## Prose -/

/-- Documentation lines are lines. -/
theorem Prose.not_mem_docLines {s l : Text} (h : l ∈ docLines s) : '\n' ∉ l := by
  obtain ⟨k, hk, rfl⟩ := List.mem_map.mp h
  exact fun hn => Text.not_mem_of_mem_lines hk ((Text.trimEndBy_sublist _ k).subset hn)

theorem not_mem_describe {description : Option Text} {l : Text} (h : l ∈ describe description) :
    '\n' ∉ l := by
  cases description with
  | none => cases h
  | some s => exact Prose.not_mem_docLines h

theorem not_mem_trim {s : Text} (h : '\n' ∉ s) : '\n' ∉ Text.trim s :=
  fun hn => h ((Text.trimBy_sublist _ s).subset hn)

/-! ## Devices -/

/-- Plain names, and no line feed in what is written as it is. -/
structure Bitfield.Plain (f : Bitfield) : Prop where
  name : Text.Plain f.name
  reset : '\n' ∉ f.reset
  numbers : ∀ v ∈ f.values, '\n' ∉ v.number

structure Register.Plain (r : Register) : Prop where
  name : Text.Plain r.name
  address : '\n' ∉ r.address
  bitfields : ∀ f ∈ r.bitfields, f.Plain

def Device.Plain (d : Device) : Prop := ∀ r ∈ d.registers, r.Plain

instance (f : Bitfield) : Decidable f.Plain :=
  decidable_of_iff (Text.Plain f.name ∧ '\n' ∉ f.reset ∧ ∀ v ∈ f.values, '\n' ∉ v.number)
    ⟨fun h => ⟨h.1, h.2.1, h.2.2⟩, fun h => ⟨h.name, h.reset, h.numbers⟩⟩

instance (r : Register) : Decidable r.Plain :=
  decidable_of_iff (Text.Plain r.name ∧ '\n' ∉ r.address ∧ ∀ f ∈ r.bitfields, f.Plain)
    ⟨fun h => ⟨h.1, h.2.1, h.2.2⟩, fun h => ⟨h.name, h.address, h.bitfields⟩⟩

instance (d : Device) : Decidable d.Plain :=
  inferInstanceAs (Decidable (∀ r ∈ d.registers, r.Plain))

/-! ## Layouts -/

/-- Plain names, and no line feed in what is documented. -/
structure Accessor.Plain (a : Accessor) : Prop where
  getter : Text.Plain a.getter
  setter : Text.Plain a.setter
  ordered : a.span.lsb ≤ a.span.msb
  description : ∀ l ∈ a.description, '\n' ∉ l
  values : ∀ v ∈ a.values, '\n' ∉ v.number ∧ '\n' ∉ v.brief
  reset : '\n' ∉ a.reset

structure Block.Plain (b : Block) : Prop where
  typeName : Text.Plain b.typeName
  address : '\n' ∉ b.address
  description : ∀ l ∈ b.description, '\n' ∉ l
  reset : Text.Plain b.reset
  accessors : ∀ a ∈ b.accessors, a.Plain

def Layout.Plain (l : Layout) : Prop := ∀ b ∈ l.blocks, b.Plain

theorem exists_of_forall₂ {α β : Type} {R : α → β → Prop} {xs : List α} {ys : List β} {y : β}
    (h : List.Forall₂ R xs ys) (hy : y ∈ ys) : ∃ x ∈ xs, R x y := by
  induction h with
  | nil => cases hy
  | @cons x z xs ys hr _ ih =>
    rcases List.mem_cons.mp hy with rfl | hy
    · exact ⟨x, List.mem_cons_self .., hr⟩
    · obtain ⟨w, hw, hr⟩ := ih hy
      exact ⟨w, List.mem_cons_of_mem _ hw, hr⟩

theorem Value.not_mem_documented_brief (v : Value) : '\n' ∉ v.documented.brief :=
  Text.not_mem_join (by decide) fun _ => Prose.not_mem_docLines

theorem Value.documented_plain {v : Value} (h : '\n' ∉ v.number) :
    '\n' ∉ v.documented.number ∧ '\n' ∉ v.documented.brief :=
  ⟨not_mem_trim h, v.not_mem_documented_brief⟩

theorem Accessor.Of.plain {f : Bitfield} {a : Accessor} (h : a.Of f) (hf : f.Plain) : a.Plain := by
  have hname : Text.Plain (Text.trim f.name) := hf.name.sublist (Text.trimBy_sublist _ f.name)
  have hgetter : Text.Plain a.getter := by
    rw [h.getter]
    exact Names.plain_getter hname
  refine ⟨hgetter, ?_, h.ordered, ?_, ?_, ?_⟩
  · by_cases hw : f.access = "R/W".toList
    · rw [h.writable.mpr hw]
      exact Text.Plain.append (by decide) hgetter
    · rw [h.readOnly.mpr hw]
      decide
  · rw [h.description]
    exact fun _ => not_mem_describe
  · rw [h.values]
    intro v hv
    obtain ⟨w, hw, rfl⟩ := List.mem_map.mp hv
    exact Value.documented_plain (hf.numbers w hw)
  · rw [h.reset]
    exact not_mem_trim hf.reset

theorem Block.Of.plain {r : Register} {b : Block} (h : b.Of r) (hr : r.Plain) : b.Plain := by
  refine ⟨?_, ?_, ?_, ?_, fun a ha => ?_⟩
  · rw [h.typeName]
    exact Names.plain_typeName (hr.name.sublist (Text.trimBy_sublist _ r.name))
  · rw [h.address]
    exact not_mem_trim hr.address
  · rw [h.description]
    exact fun _ => not_mem_describe
  · obtain ⟨v, -, hv, -⟩ := h.reset
    rw [hv]
    exact Reset.plain_literal v
  · obtain ⟨f, hf, hof⟩ := exists_of_forall₂ h.accessors ha
    exact hof.plain (hr.bitfields f hf)

theorem Device.Plain.layout {d : Device} {l : Layout} (h : d.Plain) (hl : d.layout = .ok l) :
    l.Plain := by
  intro b hb
  obtain ⟨r, hr, hbr⟩ := exists_of_forall₂ (Device.of_layout hl) hb
  exact hbr.plain (h r hr)

end RegisterMap
