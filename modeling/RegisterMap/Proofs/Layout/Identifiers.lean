import RegisterMap.Proofs.Layout.Declared
import RegisterMap.Proofs.Text.Letters

/-!
# Names that are identifiers

An identifier begins with a letter or an underscore, goes on with parts, and is
neither a lone underscore nor a keyword. Deriving a name keeps the characters of
a raw name what they are, and rejects none of them. So the names of generated
code are identifiers as far as the raw names are, keywords apart
(`generate_identifiers`).
-/

namespace RegisterMap

open Text

namespace Names

/-- The keywords of the 2021 edition, in use and reserved. -/
def keywords : List Text :=
  ["as", "break", "const", "continue", "crate", "else", "enum", "extern", "false", "fn", "for",
   "if", "impl", "in", "let", "loop", "match", "mod", "move", "mut", "pub", "ref", "return", "self",
   "Self", "static", "struct", "super", "trait", "true", "type", "unsafe", "use", "where", "while",
   "async", "await", "dyn", "abstract", "become", "box", "do", "final", "macro", "override", "priv",
   "try", "typeof", "unsized", "virtual", "yield"].map String.toList

def isBegin (c : Char) : Bool := isLetter c || c == '_'

/-- An identifier, or a keyword. -/
structure Shaped (name : Text) : Prop where
  begins : name.head?.any isBegin = true
  parts : name.all isPart = true
  named : name ≠ ['_']

structure Identifier (name : Text) : Prop where
  shaped : Shaped name
  free : name ∉ keywords

/-- Parts, and without its underscores a letter first. -/
structure TypeShaped (name : Text) : Prop where
  begins : (name.filter (· ≠ '_')).head?.any (fun c => isLetter c || c == subscript) = true
  parts : name.all isPart = true

instance (name : Text) : Decidable (Shaped name) :=
  decidable_of_iff (name.head?.any isBegin = true ∧ name.all isPart = true ∧ name ≠ ['_'])
    ⟨fun h => ⟨h.1, h.2.1, h.2.2⟩, fun h => ⟨h.begins, h.parts, h.named⟩⟩

theorem identifier_iff {name : Text} : Identifier name ↔ Shaped name ∧ name ∉ keywords :=
  ⟨fun h => ⟨h.shaped, h.free⟩, fun h => ⟨h.1, h.2⟩⟩

instance (name : Text) : Decidable (Identifier name) :=
  decidable_of_iff (Shaped name ∧ keywords.contains name = false)
    (by rw [identifier_iff, ← Bool.not_eq_true, List.contains_iff_mem])

end Names

namespace Text

variable {c : Char} {s t : Text}

/-! ## Lower case -/

theorem lowercaseAfter_cons (cased : Bool) (c : Char) (s : Text) : ∃ m cased', Keeps c m ∧
    lowercaseAfter cased (c :: s) = m ++ lowercaseAfter cased' s := by
  rw [lowercaseAfter]
  split
  · next hc =>
    subst hc
    obtain ⟨⟨h, hsmall, hfinal⟩, -⟩ := letters_apart
    split
    · exact ⟨['ς'], true, .of_letters h hfinal rfl, rfl⟩
    · exact ⟨['σ'], true, .of_letters h hsmall rfl, rfl⟩
  · exact ⟨lower c, _, keeps_lower c, rfl⟩

theorem parts_lowercaseAfter (cased : Bool) (s : Text) :
    (lowercaseAfter cased s).all isPart = s.all isPart := by
  induction s generalizing cased with
  | nil => rfl
  | cons c s ih =>
    obtain ⟨m, cased', hm, heq⟩ := lowercaseAfter_cons cased c s
    rw [heq, List.all_append, hm.parts, ih, List.all_cons]

theorem lowercaseAfter_eq_nil {cased : Bool} (h : lowercaseAfter cased s = []) : s = [] := by
  cases s with
  | nil => rfl
  | cons c s =>
    obtain ⟨m, cased', hm, heq⟩ := lowercaseAfter_cons cased c s
    obtain ⟨d, t, rfl, -, -⟩ := hm.letter
    rw [heq] at h
    cases h

theorem shaped_lowercase (s : Text) : Names.Shaped (lowercase s) ↔ Names.Shaped s := by
  have hparts : (lowercase s).all isPart = s.all isPart := parts_lowercaseAfter false s
  cases s with
  | nil => exact Iff.rfl
  | cons c s =>
    obtain ⟨m, cased', hm, heq⟩ := lowercaseAfter_cons false c s
    obtain ⟨d, t, rfl, hletter, hunder⟩ := hm.letter
    have heq : lowercase (c :: s) = d :: (t ++ lowercaseAfter cased' s) := heq
    have hbegin : Names.isBegin d = Names.isBegin c := by
      have hd : (d == '_') = (c == '_') := Bool.eq_iff_iff.mpr (by simpa using hunder)
      rw [Names.isBegin, Names.isBegin, hletter, hd]
    have hlone : lowercase (c :: s) = ['_'] ↔ c :: s = ['_'] := by
      constructor
      · intro h
        rw [heq] at h
        obtain ⟨hd, ht⟩ := List.cons.inj h
        rw [hunder.mp hd, lowercaseAfter_eq_nil (List.append_eq_nil_iff.mp ht).2]
      · intro h
        rw [h]
        decide
    constructor
    · rintro ⟨hb, hp, hn⟩
      rw [heq] at hb
      exact ⟨hbegin.symm.trans hb, hparts.symm.trans hp, mt hlone.mpr hn⟩
    · rintro ⟨hb, hp, hn⟩
      refine ⟨?_, hparts.trans hp, mt hlone.mp hn⟩
      rw [heq]
      exact hbegin.trans hb

/-! ## Words -/

theorem parts_upper (c : Char) : (upper c).all isPart = isPart c := by
  by_cases hc : c = subscript
  · obtain ⟨-, ⟨-, hpart, hiota⟩, -⟩ := letters_apart
    rw [hc, upper_subscript, List.all_cons, hpart, isPart, hiota]
    rfl
  · exact (keeps_upper hc).parts

theorem parts_capitalized (s : Text) : (capitalized s).all isPart = s.all isPart := by
  cases s with
  | nil => rfl
  | cons c s =>
    have hrest : (s.flatMap lower).all isPart = s.all isPart := by
      rw [List.all_flatMap]
      exact congrArg (List.all s) (funext fun c => (keeps_lower c).parts)
    rw [capitalized, List.all_append, parts_upper, hrest, List.all_cons]

theorem parts_pieces (s : Text) : (pieces '_' s).all (·.all isPart) = s.all isPart := by
  induction s with
  | nil => rfl
  | cons c s ih =>
    rw [pieces, List.all_cons]
    split
    · next hc =>
      rw [List.all_cons, ih, hc, letters_apart.2.2.2]
      rfl
    · cases hp : pieces '_' s with
      | nil =>
        rw [hp] at ih
        rw [← ih]
        simp
      | cons p ps =>
        rw [hp] at ih
        rw [← ih]
        simp [Bool.and_assoc]

/-- The upper case of a letter begins with one, and that of the iota subscript too. -/
theorem begins_upper (c : Char) : ∃ d t, upper c = d :: t ∧
    isLetter d = (isLetter c || c == subscript) ∧ (d = '_' ↔ c = '_') := by
  by_cases hc : c = subscript
  · subst hc
    obtain ⟨-, ⟨hletter, -, hiota⟩, -⟩ := letters_apart
    exact ⟨'\u0399', [], upper_subscript, by rw [hletter, hiota]; decide, by decide⟩
  · obtain ⟨d, t, heq, hletter, hunder⟩ := (keeps_upper hc).letter
    refine ⟨d, t, heq, ?_, hunder⟩
    rw [hletter, beq_eq_false_iff_ne.mpr hc, Bool.or_false]

end Text

namespace Names

variable {name : Text}

theorem parts_typeName (name : Text) : (typeName name).all isPart = name.all isPart := by
  rw [typeName, List.all_flatMap, ← parts_pieces name]
  exact congrArg (List.all _) (funext parts_capitalized)

theorem typeName_underscore (name : Text) : typeName ('_' :: name) = typeName name := by
  rw [typeName, pieces, if_pos rfl]
  rfl

theorem typeName_cons {c : Char} (hc : c ≠ '_') (name : Text) :
    ∃ t, typeName (c :: name) = upper c ++ t := by
  rw [typeName, pieces, if_neg hc]
  cases pieces '_' name with
  | nil => exact ⟨[], by simp [capitalized]⟩
  | cons p ps => exact ⟨_, List.append_assoc ..⟩

/-- A type name begins as the raw name without its underscores does, in upper case. -/
theorem begins_typeName (name : Text) : (typeName name).head?.any isBegin =
    (name.filter (· ≠ '_')).head?.any fun c => isLetter c || c == subscript := by
  induction name with
  | nil => rfl
  | cons c name ih =>
    by_cases hc : c = '_'
    · subst hc
      rw [typeName_underscore, ih, List.filter_cons_of_neg (by decide)]
    · obtain ⟨t, ht⟩ := typeName_cons hc name
      obtain ⟨d, u, hu, hletter, hunder⟩ := begins_upper c
      have hd : (d == '_') = false := beq_eq_false_iff_ne.mpr (mt hunder.mp hc)
      rw [ht, hu, List.filter_cons_of_pos (by simpa using hc)]
      show isBegin d = (isLetter c || c == subscript)
      rw [isBegin, hletter, hd, Bool.or_false]

theorem typeName_ne_underscore (name : Text) : typeName name ≠ ['_'] := by
  induction name with
  | nil => exact nofun
  | cons c name ih =>
    by_cases hc : c = '_'
    · subst hc
      rwa [typeName_underscore]
    · obtain ⟨t, ht⟩ := typeName_cons hc name
      obtain ⟨d, u, hu, -, hunder⟩ := begins_upper c
      rw [ht, hu]
      intro h
      exact hc (hunder.mp (List.cons.inj h).1)

theorem identifier_getter (name : Text) :
    Identifier (getter name) ↔ Shaped name ∧ getter name ∉ keywords := by
  rw [identifier_iff, getter, shaped_lowercase]

theorem identifier_typeName (name : Text) :
    Identifier (typeName name) ↔ TypeShaped name ∧ typeName name ∉ keywords := by
  rw [identifier_iff]
  refine and_congr_left fun _ => ⟨fun h => ⟨?_, ?_⟩, fun h => ⟨?_, ?_, typeName_ne_underscore name⟩⟩
  · rw [← begins_typeName]
    exact h.begins
  · rw [← parts_typeName]
    exact h.parts
  · rw [begins_typeName]
    exact h.begins
  · rw [parts_typeName]
    exact h.parts

/-- A setter is no keyword, whatever follows its prefix. -/
theorem identifier_setter (name : Text) :
    Identifier ("set_".toList ++ getter name) ↔ name.all isPart = true := by
  have hset : "set_".toList.all isPart = true ∧ isBegin 's' = true := by decide +kernel
  have hparts : (getter name).all isPart = name.all isPart := parts_lowercaseAfter false name
  have hkeywords : ∀ k ∈ keywords, ¬ "set_".toList <+: k := by decide
  constructor
  · intro h
    have hall := h.shaped.parts
    rwa [List.all_append, hset.1, hparts, Bool.true_and] at hall
  · intro h
    refine ⟨⟨hset.2, ?_, ?_⟩, fun hk => hkeywords _ hk (List.prefix_append _ _)⟩
    · rw [List.all_append, hset.1, hparts, h]
      rfl
    · intro he
      cases he

end Names

open Names in
/-- Of the names in generated code those are identifiers whose raw names allow it: a getter, unless
it is a keyword, if the raw name is shaped as one; a setter, if the raw name is of parts; a type
name, unless it is a keyword, if moreover a letter is first in the raw name without its
underscores. -/
theorem generate_identifiers {h : Header} {document code : Text}
    (hg : generate h document = .ok code) :
    ∃ d l, Device.load document = .ok d ∧ d.layout = .ok l ∧ code = l.render h ∧
      List.Forall₂ (fun r b =>
        (Identifier b.typeName ↔ TypeShaped (trim r.name) ∧ b.typeName ∉ keywords) ∧
        List.Forall₂ (fun f a =>
          (Identifier a.getter ↔ Shaped (trim f.name) ∧ a.getter ∉ keywords) ∧
          (a.setter ≠ noSetter → (Identifier a.setter ↔ (trim f.name).all isPart = true)))
          r.bitfields b.accessors) d.registers l.blocks := by
  obtain ⟨d, l, hd, hl, hcode⟩ := generate_ok hg
  refine ⟨d, l, hd, hl, hcode, (Device.of_layout hl).imp fun r b hb => ⟨?_, ?_⟩⟩
  · rw [hb.typeName]
    exact identifier_typeName (trim r.name)
  · refine hb.accessors.imp fun f a ha => ⟨?_, fun hw => ?_⟩
    · rw [ha.getter]
      exact identifier_getter (trim f.name)
    · have hset : a.setter = "set_".toList ++ a.getter :=
        ha.writable.mpr (not_not.mp (mt ha.readOnly.mpr hw))
      rw [hset, ha.getter]
      exact identifier_setter (trim f.name)

/-- A device with bitfields named as a keyword in upper case and with a digit first. -/
def reservedDevice : Device where
  name := "D".toList
  registers :=
    [{ name := "R".toList, address := "0".toList, description := none, reset := "0".toList,
       bitfields :=
         [⟨"TYPE".toList, 7, 4, "R/W".toList, "0".toList, none, []⟩,
          ⟨"2PIN".toList, 3, 0, "R".toList, "0".toList, none, []⟩] }]

def reserved : Text := reservedDevice.written

def reservedBlock : Block where
  typeName := "R".toList
  address := "0".toList
  description := []
  reset := "0x00".toList
  accessors :=
    [⟨"type".toList, "set_type".toList, ⟨7, 4⟩, [], [], "0".toList⟩,
     ⟨"2pin".toList, "_".toList, ⟨3, 0⟩, [], [], "0".toList⟩]

def reservedLayout : Layout := ⟨"D".toList, [reservedBlock]⟩

theorem code_of_reserved :
    generate .none reserved = .ok (reservedLayout.render .none) := by
  decide +kernel

/-- Its code declares the getters `type` and `2pin`. -/
theorem generate_reserved :
    generate .none reserved = .ok (reservedLayout.render .none) ∧
      Device.load reserved = .ok reservedDevice ∧ reservedDevice.layout = .ok reservedLayout ∧
      reservedBlock ∈ reservedLayout.blocks ∧
      reservedBlock.getters = ["type".toList, "2pin".toList] ∧
      ¬ Names.Identifier "type".toList ∧ ¬ Names.Identifier "2pin".toList := by
  refine ⟨code_of_reserved, by decide +kernel, by decide +kernel, by decide, by decide, ?_, ?_⟩
  · exact fun h => h.free (by decide)
  · exact fun h => absurd h.shaped.begins (by decide +kernel)

theorem generate_identifiers_reserved :
    ∃ d l, Device.load reserved = .ok d ∧ d.layout = .ok l ∧
      reservedLayout.render .none = l.render .none ∧
      List.Forall₂ (fun r b =>
        (Names.Identifier b.typeName ↔
          Names.TypeShaped (trim r.name) ∧ b.typeName ∉ Names.keywords) ∧
        List.Forall₂ (fun f a =>
          (Names.Identifier a.getter ↔
            Names.Shaped (trim f.name) ∧ a.getter ∉ Names.keywords) ∧
          (a.setter ≠ Names.noSetter →
            (Names.Identifier a.setter ↔ (trim f.name).all isPart = true)))
          r.bitfields b.accessors) d.registers l.blocks :=
  generate_identifiers code_of_reserved

end RegisterMap
