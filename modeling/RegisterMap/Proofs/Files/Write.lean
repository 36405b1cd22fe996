import Mathlib.Tactic.Conv
import RegisterMap.Files.Basic
import RegisterMap.Proofs.Text.Basic

/-!
# Written files

A tree `Rewrites` another when it differs in one file at most, and that file
holds the text. Writing does this (`write_rewrites`). No path that leads to a
spot leads elsewhere afterwards, so all other files are read as before.
-/

namespace RegisterMap

namespace Files

variable {fs gs : Files} {s t : Spot} {path text name : Text} {names : List Text}

/-! ## Paths -/

/-- A name that goes down from a directory. -/
def IsProper (name : Text) : Prop := name ≠ [] ∧ name ≠ ['.'] ∧ name ≠ Spot.up

instance (name : Text) : Decidable (IsProper name) :=
  inferInstanceAs (Decidable (name ≠ [] ∧ name ≠ ['.'] ∧ name ≠ Spot.up))

/-- A path goes on from a directory, and may end at anything. -/
theorem walk_proper (hn : IsProper name) : fs.walk s (name :: names) = .ok t ↔
    if fs.node? (s ++ [name]) = some .directory then fs.walk (s ++ [name]) names = .ok t
    else names = [] ∧ s ++ [name] = t := by
  obtain ⟨h1, h2, h3⟩ := hn
  conv_lhs => unfold walk
  simp only [h1, h2, h3, or_self, ↓reduceIte]
  cases hd : fs.node? (s ++ [name]) with
  | none => cases names <;> simp
  | some node =>
    cases node with
    | directory => simp
    | file content => cases names <;> simp

/-- Where names lead depends on what is a directory, not on what files hold. -/
theorem walk_eq_ok_iff (h : ∀ t, gs.node? t = some .directory ↔ fs.node? t = some .directory) :
    gs.walk s names = .ok t ↔ fs.walk s names = .ok t := by
  induction names generalizing s with
  | nil => exact Iff.rfl
  | cons name names ih =>
    by_cases hn : IsProper name
    · rw [walk_proper hn, walk_proper hn]
      simp only [h, ih]
    · unfold walk
      by_cases h1 : name = [] ∨ name = ['.']
      · simp only [h1, ↓reduceIte, ih]
      · have h2 : name = Spot.up := by
          rw [not_or] at h1
          simpa [IsProper, h1.1, h1.2] using hn
        simp only [h2, ↓reduceIte]
        split
        · exact ih
        · exact ih

theorem spot_eq_ok_iff (h : ∀ t, gs.node? t = some .directory ↔ fs.node? t = some .directory) :
    gs.spot path = .ok t ↔ fs.spot path = .ok t := by
  unfold spot
  split
  · exact Iff.rfl
  · exact walk_eq_ok_iff h

/-- A path leads to a spot of its last name, if that goes down. -/
theorem getLast?_of_walk (hn : IsProper name) (h : fs.walk s (names ++ [name]) = .ok t) :
    t.getLast? = some name := by
  induction names generalizing s with
  | nil =>
    rw [List.nil_append, walk_proper hn] at h
    split at h
    · cases h
      exact List.getLast?_concat
    · rw [← h.2]
      exact List.getLast?_concat
  | cons other names ih =>
    rw [List.cons_append] at h
    by_cases ho : IsProper other
    · rw [walk_proper ho] at h
      split at h
      · exact ih h
      · exact absurd h.1 (by simp)
    · unfold walk at h
      split at h
      · exact ih h
      · split at h
        · exact ih h
        · next h1 h2 =>
          rw [not_or] at h1
          exact absurd ⟨h1.1, h1.2, h2⟩ ho

/-! ## Reading -/

theorem read_eq_ok_iff : fs.read path = .ok text ↔
    ∃ s, fs.spot path = .ok s ∧ fs.node? s = some (.file (.text text)) := by
  unfold read
  rw [bind_eq_ok]
  refine exists_congr fun s => and_congr_right fun _ => ?_
  split
  · next u hu =>
    rw [hu]
    simp [pure, Except.pure]
  · next hu =>
    rw [hu]
    simp [throw, throwThe, MonadExceptOf.throw]
  · next hu =>
    rw [hu]
    simp [throw, throwThe, MonadExceptOf.throw]
  · next hu =>
    rw [hu]
    simp [throw, throwThe, MonadExceptOf.throw]

/-- What a path reads as is what its spot holds. -/
theorem read_congr (hf : fs.spot path = .ok s) (hg : gs.spot path = .ok s)
    (hn : gs.node? s = fs.node? s) : gs.read path = fs.read path := by
  unfold read
  rw [hf, hg]
  simp only [bind, Except.bind, hn]

/-! ## Writing -/

/-- `gs` is `fs` but for the file at a spot, where a path leads and which holds a text. -/
structure Rewrites (fs gs : Files) (path text : Text) (s : Spot) : Prop where
  leads : fs.spot path = .ok s
  file : fs.node? s ≠ some .directory
  holds : gs.node? s = some (.file (.text text))
  others : ∀ t, t ≠ s → gs.node? t = fs.node? t

namespace Rewrites

variable (h : Rewrites fs gs path text s)

include h

theorem directory_iff (t : Spot) :
    gs.node? t = some .directory ↔ fs.node? t = some .directory := by
  by_cases ht : t = s
  · subst ht
    simp [h.holds, h.file]
  · rw [h.others t ht]

theorem spot_iff {p : Text} {t : Spot} : gs.spot p = .ok t ↔ fs.spot p = .ok t :=
  spot_eq_ok_iff h.directory_iff

theorem read : gs.read path = .ok text :=
  read_eq_ok_iff.mpr ⟨s, h.spot_iff.mpr h.leads, h.holds⟩

theorem read_other {p : Text} {t : Spot} (hp : fs.spot p = .ok t) (ht : t ≠ s) :
    gs.read p = fs.read p :=
  read_congr hp (h.spot_iff.mpr hp) (h.others t ht)

end Rewrites

theorem isBase_of_node? (h : fs.node? s ≠ some .directory) : s.isBase = false := by
  cases hb : s.isBase with
  | false => rfl
  | true =>
    rw [node?, hb] at h
    exact absurd rfl h

theorem node?_set {node : Option Node} (hs : fs.node? s ≠ some .directory) (t : Spot) :
    (fs.set s node).node? t = if t = s then node else fs.node? t := by
  have hb := isBase_of_node? hs
  unfold node? set
  by_cases ht : t = s
  · subst ht
    simp [hb]
  · simp [ht]

theorem outputSpot_eq_ok_iff : fs.outputSpot path = .ok s ↔
    asksDirectory path = false ∧ fs.spot path = .ok s ∧ fs.node? s ≠ some .directory := by
  unfold outputSpot
  rw [bind_eq_ok]
  cases ha : asksDirectory path with
  | true => simp [throw, throwThe, MonadExceptOf.throw]
  | false =>
    simp only [Bool.false_eq_true, false_and, ↓reduceIte, false_or, true_and]
    constructor
    · rintro ⟨t, ht, h⟩
      split at h
      · cases h
      · next hd =>
        cases h
        exact ⟨ht, hd⟩
    · rintro ⟨hs, hd⟩
      exact ⟨s, hs, by rw [if_neg hd]; rfl⟩

theorem write_eq_ok_iff {content : FileContent} : fs.write path content = .ok gs ↔
    ∃ s, fs.outputSpot path = .ok s ∧ gs = fs.set s (some (.file content)) := by
  unfold write
  rw [bind_eq_ok]
  refine exists_congr fun s => and_congr_right fun _ => ?_
  simp [pure, Except.pure, eq_comm]

theorem write_rewrites (h : fs.write path (.text text) = .ok gs) :
    asksDirectory path = false ∧ ∃ s, Rewrites fs gs path text s := by
  obtain ⟨s, hs, rfl⟩ := write_eq_ok_iff.mp h
  obtain ⟨ha, hs, hd⟩ := outputSpot_eq_ok_iff.mp hs
  refine ⟨ha, s, hs, hd, ?_, fun t ht => ?_⟩
  · rw [node?_set hd, if_pos rfl]
  · rw [node?_set hd, if_neg ht]

/-- Writing what a file holds changes nothing. -/
theorem write_of_read (ha : asksDirectory path = false) (h : fs.read path = .ok text) :
    fs.write path (.text text) = .ok fs := by
  obtain ⟨s, hs, hn⟩ := read_eq_ok_iff.mp h
  have hd : fs.node? s ≠ some .directory := by simp [hn]
  refine write_eq_ok_iff.mpr ⟨s, outputSpot_eq_ok_iff.mpr ⟨ha, hs, hd⟩, ?_⟩
  have hnode : fs.node s = some (.file (.text text)) := by
    rw [node?, isBase_of_node? hd] at hn
    exact hn
  obtain ⟨node⟩ := fs
  unfold set
  congr
  funext t
  by_cases ht : t = s
  · subst ht
    simpa using hnode
  · simp [ht]

end Files

end RegisterMap
