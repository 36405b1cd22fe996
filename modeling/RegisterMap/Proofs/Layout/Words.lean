import Mathlib.Logic.Relation
import RegisterMap.Proofs.Layout.Plain
import RegisterMap.Proofs.Text.Letters

/-!
# Words of type names

A type name begins each word of its register's name with a capital, and has no
other capitals when the words are of ASCII letters and digits. So the words can
be told apart in it, and two such names derive the same type name exactly if
their words are the same but for case. These are the names that are the same but
for case and for underscores at the ends or side by side
(`Names.typeName_collides`).
-/

namespace RegisterMap

open Text

namespace Names

variable {s t name : Text} {w : Text} {ws vs : List Text} {c : Char}

/-! ## Words -/

/-- What stands between the underscores of a name, where that is not empty. -/
def words (name : Text) : List Text := (pieces '_' name).filter (· ≠ [])

/-- A letter, and letters and digits after it. -/
structure IsWord (w : Text) : Prop where
  begins : w.head?.any Char.isAlpha = true
  all : ∀ c ∈ w, c.isAlphanum = true

instance (w : Text) : Decidable (IsWord w) :=
  decidable_of_iff (w.head?.any Char.isAlpha = true ∧ w.all Char.isAlphanum = true)
    ⟨fun h => ⟨h.1, List.all_eq_true.mp h.2⟩, fun h => ⟨h.begins, List.all_eq_true.mpr h.all⟩⟩

/-- All words of a name are of ASCII letters and digits, a letter first. -/
def Worded (name : Text) : Prop := ∀ w ∈ words name, IsWord w

instance (name : Text) : Decidable (Worded name) :=
  inferInstanceAs (Decidable (∀ w ∈ words name, IsWord w))

def lowered (w : Text) : Text := w.map Char.toLower

theorem words_append_cons (s t : Text) : words (s ++ '_' :: t) = words s ++ words t := by
  rw [words, pieces_append_cons, List.filter_append, words, words]

/-- Pieces that are empty have no part in a type name. -/
theorem typeName_eq (name : Text) : typeName name = (words name).flatMap capitalized := by
  unfold typeName words
  induction pieces '_' name with
  | nil => rfl
  | cons p ps ih =>
    rw [List.flatMap_cons, ih, List.filter_cons]
    split
    · rfl
    · next hp =>
      have hp : p = [] := by simpa using hp
      rw [hp]
      rfl

/-! ## Case -/

/-- The cases of an ASCII character can be had from each other. -/
theorem toLower_of_lt (h : c.toNat < 128) :
    c.toLower.toNat < 128 ∧ c.toLower.toLower = c.toLower ∧ c.toUpper.toLower = c.toLower ∧
      c.toLower.toUpper = c.toUpper :=
  of_ascii h (by decide +kernel)

/-- A letter has a capital, and what is in lower case is none. -/
theorem isUpper_of_lt (h : c.toNat < 128) :
    (c.isAlpha = true → c.toUpper.isUpper = true) ∧ c.toLower.isUpper = false :=
  of_ascii h (by decide +kernel)

theorem capitalized_cons (h : ∀ d ∈ c :: s, d.toNat < 128) :
    capitalized (c :: s) = c.toUpper :: lowered s := by
  obtain ⟨hc, hs⟩ := List.forall_mem_cons.mp h
  have hlower : s.flatMap lower = lowered s := by
    rw [lowered, List.map_eq_flatMap]
    exact List.flatMap_congr fun d hd => if_pos (hs d hd)
  rw [capitalized, hlower, upper, if_pos hc, List.singleton_append]

theorem lowered_lowered (h : ∀ d ∈ w, d.toNat < 128) : lowered (lowered w) = lowered w := by
  rw [lowered, lowered, List.map_map]
  exact List.map_congr_left fun d hd => (toLower_of_lt (h d hd)).2.1

theorem lowered_capitalized (h : ∀ d ∈ w, d.toNat < 128) :
    lowered (capitalized w) = lowered w := by
  cases w with
  | nil => rfl
  | cons c s =>
    obtain ⟨hc, hs⟩ := List.forall_mem_cons.mp h
    rw [capitalized_cons h, lowered, List.map_cons, (toLower_of_lt hc).2.2.1]
    exact congrArg (c.toLower :: ·) (lowered_lowered hs)

theorem capitalized_lowered (h : ∀ d ∈ w, d.toNat < 128) :
    capitalized (lowered w) = capitalized w := by
  cases w with
  | nil => rfl
  | cons c s =>
    obtain ⟨hc, hs⟩ := List.forall_mem_cons.mp h
    have hlowered : ∀ d ∈ c.toLower :: lowered s, d.toNat < 128 := by
      intro d hd
      obtain ⟨e, he, rfl⟩ := List.mem_map.mp (show d ∈ (c :: s).map Char.toLower from hd)
      exact (toLower_of_lt (h e he)).1
    rw [lowered, List.map_cons, ← lowered, capitalized_cons hlowered, capitalized_cons h,
      (toLower_of_lt hc).2.2.2, lowered_lowered hs]

theorem IsWord.ascii (h : IsWord w) : ∀ c ∈ w, c.toNat < 128 := fun c hc =>
  toNat_lt_of_isPlain (by rw [isPlain, h.all c hc]; rfl)

/-! ## Capitals -/

/-- A capital and no other one after it. -/
def Capital (w : Text) : Prop := ∃ c s, w = c :: s ∧ c.isUpper = true ∧ ∀ d ∈ s, d.isUpper = false

theorem IsWord.capital (h : IsWord w) : Capital (capitalized w) := by
  cases w with
  | nil => exact absurd h.begins nofun
  | cons c s =>
    obtain ⟨hc, hs⟩ := List.forall_mem_cons.mp h.ascii
    refine ⟨_, _, capitalized_cons h.ascii, (isUpper_of_lt hc).1 h.begins, fun d hd => ?_⟩
    obtain ⟨e, he, rfl⟩ := List.mem_map.mp hd
    exact (isUpper_of_lt (hs e he)).2

/-- What follows a word begins with a capital. -/
theorem isUpper_head (hw : ∀ w ∈ ws, Capital w) (hc : ws.flatten.head? = some c) :
    c.isUpper = true := by
  cases ws with
  | nil => cases hc
  | cons w ws =>
    obtain ⟨d, s, rfl, hd, -⟩ := hw w (List.mem_cons_self ..)
    cases hc
    exact hd

/-- The first word ends before the next capital. -/
theorem takeWhile_capital (hs : ∀ d ∈ s, d.isUpper = false)
    (ht : ∀ c, t.head? = some c → c.isUpper = true) : (s ++ t).takeWhile (!·.isUpper) = s := by
  rw [List.takeWhile_append_of_pos fun d hd => by rw [hs d hd]; rfl]
  cases t with
  | nil => exact List.append_nil s
  | cons c t => rw [List.takeWhile_cons_of_neg (by rw [ht c rfl]; nofun), List.append_nil]

/-- Words that are put together are told apart by their capitals. -/
theorem eq_of_flatten (hw : ∀ w ∈ ws, Capital w) (hv : ∀ v ∈ vs, Capital v)
    (h : ws.flatten = vs.flatten) : ws = vs := by
  induction ws generalizing vs with
  | nil =>
    cases vs with
    | nil => rfl
    | cons v vs =>
      obtain ⟨d, u, rfl, -, -⟩ := hv v (List.mem_cons_self ..)
      cases h
  | cons w ws ih =>
    obtain ⟨c, s, rfl, -, hs⟩ := hw w (List.mem_cons_self ..)
    cases vs with
    | nil => cases h
    | cons v vs =>
      obtain ⟨d, u, rfl, -, hu⟩ := hv v (List.mem_cons_self ..)
      have hws : ∀ w ∈ ws, Capital w := fun w hmem => hw w (List.mem_cons_of_mem _ hmem)
      have hvs : ∀ v ∈ vs, Capital v := fun v hmem => hv v (List.mem_cons_of_mem _ hmem)
      rw [List.flatten_cons, List.flatten_cons, List.cons_append, List.cons_append] at h
      obtain ⟨rfl, htail⟩ := List.cons.inj h
      have hsu : s = u := by
        rw [← takeWhile_capital hs fun _ => isUpper_head hws, htail,
          takeWhile_capital hu fun _ => isUpper_head hvs]
      subst hsu
      rw [ih hws hvs (List.append_cancel_left htail)]

/-- Two names derive the same type name exactly if they have the same words, but for case. -/
theorem typeName_eq_iff (hs : Worded s) (ht : Worded t) :
    typeName s = typeName t ↔ (words s).map lowered = (words t).map lowered := by
  have capital {name : Text} (hn : Worded name) :
      ∀ w ∈ (words name).map capitalized, Capital w := by
    intro w hw
    obtain ⟨v, hv, rfl⟩ := List.mem_map.mp hw
    exact (hn v hv).capital
  have lower {name : Text} (hn : Worded name) :
      ((words name).map capitalized).map lowered = (words name).map lowered := by
    rw [List.map_map]
    exact List.map_congr_left fun w hw => lowered_capitalized (hn w hw).ascii
  have raise {name : Text} (hn : Worded name) :
      ((words name).map lowered).map capitalized = (words name).map capitalized := by
    rw [List.map_map]
    exact List.map_congr_left fun w hw => capitalized_lowered (hn w hw).ascii
  rw [typeName_eq, typeName_eq, List.flatMap_def, List.flatMap_def]
  constructor
  · intro h
    rw [← lower hs, ← lower ht, eq_of_flatten (capital hs) (capital ht) h]
  · intro h
    rw [← raise hs, ← raise ht, h]

/-! ## Respelling -/

/-- The second name is the first with letters in another case, or with one underscore more, at an
end or beside another. -/
inductive Respells : Text → Text → Prop
  | letters {s t : Text} : lowered s = lowered t → Respells s t
  | leading (s : Text) : Respells s ('_' :: s)
  | trailing (s : Text) : Respells s (s ++ ['_'])
  | doubled (s t : Text) : Respells (s ++ '_' :: t) (s ++ '_' :: '_' :: t)

/-- Names that differ at most in letter case and in leading, trailing and doubled underscores. -/
def Respelled : Text → Text → Prop := Relation.EqvGen Respells

theorem words_lowered (s : Text) : words (lowered s) = (words s).map lowered := by
  have hsep (c : Char) : c.toLower = '_' ↔ c = '_' :=
    ⟨fun h => eq_of_toLower h (by decide), fun h => by rw [h]; decide⟩
  rw [words, lowered, pieces_map hsep, List.filter_map, words]
  refine congrArg (List.map lowered) (List.filter_congr fun w _ => ?_)
  simp

theorem Respells.words (h : Respells s t) : (words s).map lowered = (words t).map lowered := by
  cases h with
  | letters h => rw [← words_lowered, h, words_lowered]
  | leading =>
    have hlead := words_append_cons [] s
    rw [List.nil_append] at hlead
    rw [hlead]
    rfl
  | trailing => rw [words_append_cons, List.map_append]; exact (List.append_nil _).symm
  | doubled u v =>
    have hdouble := words_append_cons [] v
    rw [List.nil_append] at hdouble
    rw [words_append_cons, words_append_cons, hdouble]
    rfl

namespace Respelled

theorem words (h : Respelled s t) : (words s).map lowered = (Names.words t).map lowered := by
  induction h with
  | rel _ _ h => exact h.words
  | refl _ => rfl
  | symm _ _ _ ih => exact ih.symm
  | trans _ _ _ _ _ first second => exact first.trans second

theorem refl (s : Text) : Respelled s s := Relation.EqvGen.refl s

theorem of_respells (h : Respells s t) : Respelled s t := .rel _ _ h

theorem symm (h : Respelled s t) : Respelled t s := Relation.EqvGen.symm _ _ h

theorem trans {u : Text} (h : Respelled s t) (h' : Respelled t u) : Respelled s u :=
  Relation.EqvGen.trans _ _ _ h h'

/-- What follows an underscore may be respelled on its own. -/
theorem append_left (p : Text) (h : Respelled s t) : Respelled (p ++ '_' :: s) (p ++ '_' :: t) := by
  induction h with
  | rel s t h =>
    refine of_respells ?_
    cases h with
    | letters h =>
      refine .letters ?_
      simp only [lowered, List.map_append, List.map_cons] at h ⊢
      rw [h]
    | leading => exact .doubled p s
    | trailing =>
      rw [← List.cons_append, ← List.append_assoc]
      exact .trailing _
    | doubled u v =>
      rw [← List.cons_append, ← List.append_assoc, ← List.cons_append, ← List.append_assoc]
      exact .doubled _ v
  | refl s => exact refl _
  | symm _ _ _ ih => exact ih.symm
  | trans _ _ _ _ _ first second => exact first.trans second

end Respelled

/-- Pieces that are empty may be left out. -/
theorem respelled_join (ps : List Text) :
    Respelled (join ['_'] ps) (join ['_'] (ps.filter (· ≠ []))) := by
  induction ps with
  | nil => exact .refl _
  | cons p ps ih =>
    rw [List.filter_cons]
    cases ps with
    | nil =>
      split
      · exact .refl _
      · next hp => rw [show p = [] by simpa using hp]; exact .refl _
    | cons q ps =>
      have hjoin (q : Text) (qs : List Text) :
          join ['_'] (p :: q :: qs) = p ++ '_' :: join ['_'] (q :: qs) := by
        rw [join, List.append_assoc, List.singleton_append]
      rw [hjoin]
      refine (ih.append_left p).trans ?_
      generalize (q :: ps).filter (· ≠ []) = rs
      split
      · cases rs with
        | nil => exact (Respelled.of_respells (.trailing p)).symm
        | cons r rs => rw [hjoin]; exact .refl _
      · next hp =>
        rw [show p = [] by simpa using hp]
        exact (Respelled.of_respells (.leading _)).symm

theorem respelled_iff : Respelled s t ↔ (words s).map lowered = (words t).map lowered := by
  have joined (name : Text) : Respelled name (join ['_'] (words name)) := by
    have hjoin := respelled_join (pieces '_' name)
    rwa [join_pieces] at hjoin
  refine ⟨Respelled.words, fun h => (joined s).trans (.trans ?_ (joined t).symm)⟩
  refine .of_respells (.letters ?_)
  rw [lowered, lowered, map_join, map_join]
  exact congrArg (join _) h

theorem Worded.plain (h : Worded name) : Plain name := by
  intro c hc
  by_contra hplain
  rw [← join_pieces '_' name] at hc
  refine not_mem_join (fun hsep => hplain ?_) (fun p hp hcp => hplain ?_) hc
  · rw [List.mem_singleton.mp hsep]
    rfl
  · have hword : p ∈ words name :=
      List.mem_filter.mpr ⟨hp, by simpa using List.ne_nil_of_mem hcp⟩
    rw [isPlain, (h p hword).all c hcp]
    rfl

end Names

namespace Device

variable {d : Device}

/-- Registers that are valid have a layout together, unless two have the same type name. -/
theorem layout_of_valid (h : ∀ r ∈ d.registers, r.Valid) :
    ((∃ l, d.layout = .ok l) ∧ d.registers.Pairwise fun r s => r.typeName ≠ s.typeName) ∨
    ∃ r s, [r, s].Sublist d.registers ∧ r.typeName = s.typeName ∧
      d.layout = .error (.sameType r.name s.name s.typeName) := by
  rcases d.layout_cases with ⟨hv, l, hl, -⟩ | ⟨e, he, before, s, after, hrs, -, hs⟩
  · exact .inl ⟨⟨l, hl⟩, List.pairwise_map.mp hv.distinct⟩
  · cases hs with
    | alone hf => exact absurd (h s (by rw [hrs]; simp)) hf.not_valid
    | @repeated r _ hr hname =>
      refine .inr ⟨r, s, ?_, hname, he⟩
      rw [hrs]
      exact (List.singleton_sublist.mpr hr).append (List.singleton_sublist.mpr (by simp))

/-- Valid registers are refused for their type names exactly if two of these are the same, and have
a layout otherwise. -/
theorem sameType_iff (h : ∀ r ∈ d.registers, r.Valid) :
    ((∃ first second name, d.layout = .error (.sameType first second name)) ↔
      ∃ r s, [r, s].Sublist d.registers ∧ r.typeName = s.typeName) ∧
    ((∃ l, d.layout = .ok l) ↔
      ¬ ∃ r s, [r, s].Sublist d.registers ∧ r.typeName = s.typeName) := by
  rcases layout_of_valid h with ⟨⟨l, hl⟩, hp⟩ | ⟨r, s, hsub, hname, he⟩
  · have hdistinct : ¬ ∃ r s, [r, s].Sublist d.registers ∧ r.typeName = s.typeName := by
      rintro ⟨r, s, hsub, hname⟩
      exact List.pairwise_iff_forall_sublist.mp hp hsub hname
    exact ⟨iff_of_false (by simp [hl]) hdistinct, iff_of_true ⟨l, hl⟩ hdistinct⟩
  · exact ⟨iff_of_true ⟨_, _, _, he⟩ ⟨r, s, hsub, hname⟩,
      iff_of_false (by simp [he]) (not_not.mpr ⟨r, s, hsub, hname⟩)⟩

end Device

/-- Names of words derive the same type name exactly if their words are the same but for case. So a
device whose registers are valid and have such names is refused for its type names exactly if two
of the names differ at most in letter case and in leading, trailing and doubled underscores, and has
a layout otherwise. -/
theorem Names.typeName_collides :
    (∀ s t, Worded s → Worded t →
      (typeName s = typeName t ↔ (words s).map lowered = (words t).map lowered)) ∧
    ∀ d : Device, (∀ r ∈ d.registers, Worded r.name ∧ r.Valid) →
      ((∃ first second name, d.layout = .error (.sameType first second name)) ↔
        ∃ r s, [r, s].Sublist d.registers ∧ Respelled r.name s.name) ∧
      ((∃ l, d.layout = .ok l) ↔
        ¬ ∃ r s, [r, s].Sublist d.registers ∧ Respelled r.name s.name) := by
  refine ⟨fun s t => typeName_eq_iff, fun d h => ?_⟩
  have hcollide (r s : Register) (hsub : [r, s].Sublist d.registers) :
      r.typeName = s.typeName ↔ Respelled r.name s.name := by
    have hr := (h r (hsub.subset (by simp))).1
    have hs := (h s (hsub.subset (by simp))).1
    rw [Register.typeName, Register.typeName, hr.plain.trim, hs.plain.trim, typeName_eq_iff hr hs,
      respelled_iff]
  have hpairs : (∃ r s, [r, s].Sublist d.registers ∧ r.typeName = s.typeName) ↔
      ∃ r s, [r, s].Sublist d.registers ∧ Respelled r.name s.name :=
    exists₂_congr fun r s => and_congr_right (hcollide r s)
  rw [← hpairs]
  exact Device.sameType_iff fun r hr => (h r hr).2

/-- Registers of one word or two, the last one named as the first but for case and underscores. -/
def Names.spellings : Device where
  name := []
  registers := ["A_B1", "AB1", "_a__b1_"].map fun name =>
    ⟨name.toList, [], none, "0".toList, []⟩

theorem Names.typeName_collides_spellings :
    typeName "A_B1".toList ≠ typeName "AB1".toList ∧
    (∀ r ∈ spellings.registers, Worded r.name ∧ r.Valid) ∧
    ∃ first second name, spellings.layout = .error (.sameType first second name) := by
  obtain ⟨hnames, hdevice⟩ := typeName_collides
  have hvalid : ∀ r ∈ spellings.registers, Worded r.name ∧ r.Valid := by
    have hall : ∀ r ∈ spellings.registers, Worded r.name ∧ r.typeName ≠ [] ∧
        Reset.parse? r.reset = some 0 ∧ r.bitfields = [] := by
      decide +kernel
    intro r hr
    obtain ⟨hworded, hname, hreset, hbitfields⟩ := hall r hr
    exact ⟨hworded, hname, ⟨0, hreset⟩, hbitfields ▸ Sound.nil⟩
  refine ⟨?_, hvalid, (hdevice spellings hvalid).1.mpr ?_⟩
  · rw [ne_eq, hnames _ _ (by decide) (by decide)]
    decide
  · exact ⟨_, _, .cons_cons _ (.cons _ (.cons_cons _ .slnil)), respelled_iff.mpr (by decide)⟩

end RegisterMap
