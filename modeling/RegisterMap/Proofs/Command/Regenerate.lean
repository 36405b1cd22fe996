import Mathlib.Data.List.Basic
import Mathlib.Logic.Relation
import RegisterMap.Proofs.Command.Changes
import RegisterMap.Proofs.Text.Basic

/-!
# Regenerated targets

A target is up to date when its output holds the code of its source. Writing
targets whose files lie apart makes all of them up to date, as no later write
reaches what an earlier target reads. Targets that are up to date pass the
check and are written without a change, and they stay so while their files read
as they do (`Target.regenerated`).
-/

namespace RegisterMap

open Files

variable {fs gs : Files} {root path text code : Text}

/-! ## Files that lie apart -/

/-- The paths lead to no file of both. -/
def Files.Apart (fs : Files) (p q : Text) : Prop := ∀ s, fs.spot p = .ok s → fs.spot q ≠ .ok s

/-- A path leads to a file of its last name. -/
theorem Files.getLast?_of_spot {name : Text} {s : Spot} (hn : IsProper name)
    (hl : (Text.pieces '/' path).getLast? = some name) (h : fs.spot path = .ok s) :
    s.getLast? = some name := by
  obtain ⟨names, hnames⟩ := List.getLast?_eq_some_iff.mp hl
  unfold spot at h
  split at h
  · cases h
  · rw [hnames] at h
    exact getLast?_of_walk hn h

theorem Files.apart_of_names {p q name name' : Text}
    (hp : (Text.pieces '/' p).getLast? = some name) (hn : IsProper name)
    (hq : (Text.pieces '/' q).getLast? = some name') (hn' : IsProper name') (h : name ≠ name') :
    fs.Apart p q := by
  intro s hs hs'
  have hlast := getLast?_of_spot hn hp hs
  rw [getLast?_of_spot hn' hq hs'] at hlast
  exact h (Option.some.inj hlast).symm

/-- The same files lie apart in a tree with one rewritten. -/
theorem Files.Rewrites.apart_iff {p q : Text} {s : Spot} (h : Rewrites fs gs path text s) :
    gs.Apart p q ↔ fs.Apart p q := by
  unfold Apart
  simp only [h.spot_iff, ne_eq]

theorem Files.Apart.symm {p q : Text} (h : fs.Apart p q) : fs.Apart q p :=
  fun s hq hp => h s hp hq

/-- What is read elsewhere is read from the tree as rewritten. -/
theorem Files.Rewrites.read_apart {p s : Text} {spot : Spot} (h : Rewrites fs gs path text spot)
    (ha : fs.Apart p path) : gs.read p = .ok s ↔ fs.read p = .ok s := by
  have hread {t : Spot} (ht : fs.spot p = .ok t) : gs.read p = fs.read p :=
    h.read_other ht fun he => ha t ht (he ▸ h.leads)
  constructor
  · intro hg
    obtain ⟨t, ht, -⟩ := read_eq_ok_iff.mp hg
    rw [← hread (h.spot_iff.mp ht), hg]
  · intro hf
    obtain ⟨t, ht, -⟩ := read_eq_ok_iff.mp hf
    rw [hread ht, hf]

/-- The files at the paths read the same. -/
def Files.SameAt (paths : List Text) (fs gs : Files) : Prop := ∀ p ∈ paths, gs.read p = fs.read p

instance (paths : List Text) : Decidable (SameAt paths fs gs) :=
  inferInstanceAs (Decidable (∀ p ∈ paths, gs.read p = fs.read p))

/-- Files read the same after any number of steps that leave them alone. -/
theorem Files.sameAt_of_chain {paths : List Text}
    (h : Relation.ReflTransGen (SameAt paths) fs gs) : SameAt paths fs gs := by
  induction h with
  | refl => exact fun p _ => rfl
  | tail _ hs ih => exact fun p hp => (hs p hp).trans (ih p hp)

/-! ## Targets -/

theorem read_of_generateFile {header : Header}
    (h : (generateFile fs header path).result = .ok code) : ∃ s, fs.read path = .ok s := by
  cases hr : fs.read path with
  | ok s => exact ⟨s, rfl⟩
  | error e =>
    unfold generateFile loadFile at h
    rw [hr] at h
    cases h

namespace Target

variable {t : Target} {ts : List Target}

/-- The outputs of targets are different files, and none of them is a source. -/
structure Apart (fs : Files) (root : Text) (ts : List Target) : Prop where
  outputs : ts.Pairwise fun t u => fs.Apart (t.outputPath root) (u.outputPath root)
  sources : ∀ t ∈ ts, ∀ u ∈ ts, fs.Apart (t.sourcePath root) (u.outputPath root)

/-- The output of a target holds the code of its source. -/
structure UpToDate (fs : Files) (root : Text) (t : Target) (code : Text) : Prop where
  generates : (generateFile fs .standard (t.sourcePath root)).result = .ok code
  holds : fs.read (t.outputPath root) = .ok code
  names : asksDirectory (t.outputPath root) = false

def paths (root : Text) (ts : List Target) : List Text :=
  ts.flatMap fun t => [t.sourcePath root, t.outputPath root]

theorem UpToDate.of_sameAt (h : UpToDate fs root t code) (ht : t ∈ ts)
    (hs : SameAt (paths root ts) fs gs) : UpToDate gs root t code := by
  have hsource : t.sourcePath root ∈ paths root ts :=
    List.mem_flatMap.mpr ⟨t, ht, List.mem_cons_self ..⟩
  have houtput : t.outputPath root ∈ paths root ts :=
    List.mem_flatMap.mpr ⟨t, ht, List.mem_cons_of_mem _ (List.mem_cons_self ..)⟩
  refine ⟨?_, ?_, h.names⟩
  · rw [generateFile_congr (hs _ hsource), h.generates]
  · rw [hs _ houtput, h.holds]

theorem read_writeAll {p s : Text} (ha : ∀ t ∈ ts, fs.Apart p (t.outputPath root)) :
    (writeAll fs root ts).files.read p = .ok s ↔ fs.read p = .ok s := by
  induction ts generalizing fs with
  | nil => exact Iff.rfl
  | cons t ts ih =>
    rcases writeAll_cons fs root t with ⟨e, -, hstop⟩ | ⟨code, gs, -, hw, hnext⟩
    · rw [(hstop ts).2]
    · obtain ⟨-, spot, hr⟩ := write_rewrites hw
      rw [(hnext ts).2, ih fun u hu => hr.apart_iff.mpr (ha u (List.mem_cons_of_mem _ hu)),
        hr.read_apart (ha t (List.mem_cons_self ..))]

theorem upToDate_of_writeAll (ha : Apart fs root ts) (h : (writeAll fs root ts).fault = none) :
    ∀ t ∈ ts, ∃ code, UpToDate (writeAll fs root ts).files root t code := by
  induction ts generalizing fs with
  | nil => exact fun t ht => by cases ht
  | cons t ts ih =>
    rcases writeAll_cons fs root t with ⟨e, -, hstop⟩ | ⟨code, gs, hcode, hw, hnext⟩
    · cases h.symm.trans (hstop ts).1
    obtain ⟨hf, hfiles⟩ := hnext ts
    obtain ⟨hnames, spot, hr⟩ := write_rewrites hw
    obtain ⟨hhead, hpairs⟩ := List.pairwise_cons.mp ha.outputs
    rw [hfiles]
    intro u hu
    rcases List.mem_cons.mp hu with rfl | hu
    · -- the source is apart from all outputs, and its output from those after it
      obtain ⟨s, hs⟩ := read_of_generateFile hcode
      have hsource : (writeAll gs root ts).files.read (u.sourcePath root) = .ok s := by
        refine (read_writeAll fun v hv => hr.apart_iff.mpr ?_).mpr ((hr.read_apart ?_).mpr hs)
        · exact ha.sources u (List.mem_cons_self ..) v (List.mem_cons_of_mem _ hv)
        · exact ha.sources u (List.mem_cons_self ..) u (List.mem_cons_self ..)
      refine ⟨code, ?_, ?_, hnames⟩
      · rw [generateFile_congr (hsource.trans hs.symm), hcode]
      · exact (read_writeAll fun v hv => hr.apart_iff.mpr (hhead v hv)).mpr hr.read
    · refine ih ⟨hpairs.imp hr.apart_iff.mpr, fun v hv w hw => hr.apart_iff.mpr ?_⟩ (hf ▸ h) u hu
      exact ha.sources v (List.mem_cons_of_mem _ hv) w (List.mem_cons_of_mem _ hw)

theorem checkAll_of_upToDate (h : ∀ t ∈ ts, ∃ code, UpToDate fs root t code) :
    (checkAll fs root [] ts).result = .ok () := by
  induction ts with
  | nil => rfl
  | cons t ts ih =>
    obtain ⟨code, ht⟩ := h t (List.mem_cons_self ..)
    have hequal : (t.compare fs root code).2 = true := by
      simp only [compare, ht.holds, ↓reduceIte]
    unfold checkAll
    dsimp only
    rw [ht.generates]
    dsimp only
    rw [hequal]
    exact ih fun u hu => h u (List.mem_cons_of_mem _ hu)

theorem writeAll_of_upToDate (h : ∀ t ∈ ts, ∃ code, UpToDate fs root t code) :
    (writeAll fs root ts).fault = none ∧ (writeAll fs root ts).files = fs := by
  induction ts with
  | nil => exact ⟨rfl, rfl⟩
  | cons t ts ih =>
    obtain ⟨code, ht⟩ := h t (List.mem_cons_self ..)
    unfold writeAll
    dsimp only
    rw [ht.generates]
    dsimp only
    rw [write_of_read ht.names ht.holds]
    exact ih fun u hu => h u (List.mem_cons_of_mem _ hu)

theorem runAll_of_upToDate (h : ∀ t ∈ ts, ∃ code, UpToDate fs root t code) (check : Bool) :
    (runAll fs root ts check).fault = none ∧ (runAll fs root ts check).files = fs := by
  cases check with
  | true =>
    refine ⟨?_, runAll_check_files fs root ts⟩
    rw [runAll, if_pos rfl]
    dsimp only
    rw [checkAll_of_upToDate h]
  | false => exact writeAll_of_upToDate h

theorem below_cases (root path : Text) :
    below root path = path ∨ ∃ dir, below root path = dir ++ '/' :: path := by
  unfold below
  split
  · exact .inl rfl
  · split
    · next h =>
      rcases h with rfl | h
      · exact .inl rfl
      · obtain ⟨dir, rfl⟩ := List.getLast?_eq_some_iff.mp h
        exact .inr ⟨dir, by simp⟩
    · exact .inr ⟨root, rfl⟩

/-- A path keeps its last name below a root. -/
theorem getLast?_pieces_below (root path : Text) :
    (Text.pieces '/' (below root path)).getLast? = (Text.pieces '/' path).getLast? := by
  rcases below_cases root path with h | ⟨dir, h⟩
  · rw [h]
  · have hne : Text.pieces '/' path ≠ [] := by
      rw [Text.pieces_eq_splitOn]
      exact List.splitOn_ne_nil '/' path
    rw [h, Text.pieces_append_cons, List.getLast?_append_of_ne_nil _ hne]

theorem apart_below {p q name name' : Text} (fs : Files) (root : Text)
    (hp : (Text.pieces '/' p).getLast? = some name) (hn : IsProper name)
    (hq : (Text.pieces '/' q).getLast? = some name') (hn' : IsProper name') (h : name ≠ name') :
    fs.Apart (below root p) (below root q) :=
  apart_of_names ((getLast?_pieces_below root p).trans hp) hn
    ((getLast?_pieces_below root q).trans hq) hn' h

/-- The outputs of the driver lie apart in every tree. -/
theorem driver_apart (fs : Files) (root : Text) : Apart fs root driver := by
  refine ⟨List.pairwise_singleton .., fun t ht u hu => ?_⟩
  rw [List.mem_singleton.mp ht, List.mem_singleton.mp hu]
  have hsource : (Text.pieces '/' "hw/cc1200.xml".toList).getLast? = some "cc1200.xml".toList := by
    decide
  have houtput : (Text.pieces '/' "registers/generated/src/regs.rs".toList).getLast? =
      some "regs.rs".toList := by
    decide
  exact apart_below fs root hsource (by decide) houtput (by decide) (by decide)

/-- Targets whose files are different ones of the root lie apart in every tree. -/
theorem apart_of_distinct (fs : Files) (root : Text)
    (hn : ∀ t ∈ ts, ∀ p ∈ [t.source, t.output], IsProper p ∧ '/' ∉ p)
    (ho : ts.Pairwise fun t u => t.output ≠ u.output)
    (hs : ∀ t ∈ ts, ∀ u ∈ ts, t.source ≠ u.output) : Apart fs root ts := by
  have last {p : Text} (hp : '/' ∉ p) : (Text.pieces '/' p).getLast? = some p := by
    rw [Text.pieces_of_not_mem hp, List.getLast?_singleton]
  have apart {p q : Text} (hp : IsProper p ∧ '/' ∉ p) (hq : IsProper q ∧ '/' ∉ q) (h : p ≠ q) :
      fs.Apart (below root p) (below root q) :=
    apart_below fs root (last hp.2) hp.1 (last hq.2) hq.1 h
  refine ⟨ho.imp_of_mem fun ht hu h => ?_, fun t ht u hu => ?_⟩
  · exact apart (hn _ ht _ (by simp)) (hn _ hu _ (by simp)) h
  · exact apart (hn t ht _ (by simp)) (hn u hu _ (by simp)) (hs t ht u hu)

end Target

/-! ## The program -/

theorem run_command (fs : Files) (root : Text) {args : List Text} {verbose : Bool} {c : Command}
    (h : Request.ofArguments args = .ok (.run verbose c)) :
    (run fs root args).files = (c.run fs root).files ∧
      (run fs root args).exit = (c.run fs root).exit := by
  rw [run_eq_finish fs root h]
  exact ⟨rfl, rfl⟩

/-- Steps of a session that leave the files at paths alone, one by one. -/
theorem Session.chain {paths : List Text} {steps : List Step}
    (h : ∀ n < steps.length,
      SameAt paths (runFrom fs (steps.take n)).1 (runFrom fs (steps.take (n + 1))).1) :
    Relation.ReflTransGen (SameAt paths) fs (runFrom fs steps).1 := by
  have after (n : Nat) (hn : n ≤ steps.length) :
      Relation.ReflTransGen (SameAt paths) fs (runFrom fs (steps.take n)).1 := by
    induction n with
    | zero => exact .refl
    | succ n ih => exact .tail (ih (Nat.le_of_succ_le hn)) (h n hn)
  simpa using after steps.length le_rfl

namespace Target

/-- Regenerating makes the check pass. After a write run over targets whose files lie apart has
succeeded, and any number of steps that leave their files alone, each output holds the code of its
source, checking the targets succeeds and so does another write run, and neither changes a file.
The targets of the driver lie apart in every tree, so after a run of it has exited with 0 each of
its runs and checks does, with the files as they were. -/
theorem regenerated (root : Text) :
    (∀ fs ts gs, Apart fs root ts → (runAll fs root ts false).fault = none →
      Relation.ReflTransGen (SameAt (paths root ts)) (runAll fs root ts false).files gs →
      (∀ t ∈ ts, ∃ code, UpToDate gs root t code) ∧
      ∀ check, (runAll gs root ts check).fault = none ∧ (runAll gs root ts check).files = gs) ∧
    (∀ fs, Apart fs root driver) ∧
    ∀ fs gs args verbose, Request.ofArguments args = .ok (.run verbose (.regGenDriver false)) →
      (run fs root args).exit = 0 →
      Relation.ReflTransGen (SameAt (paths root driver)) (run fs root args).files gs →
      (∀ t ∈ driver, ∃ code, UpToDate gs root t code) ∧
      ∀ again v c, Request.ofArguments again = .ok (.run v c) →
        (∃ check, c = .regGenDriver check) ∨ c = .precheckin →
        (run gs root again).exit = 0 ∧ (run gs root again).files = gs := by
  have general (fs ts gs) (ha : Apart fs root ts) (h : (runAll fs root ts false).fault = none)
      (hgs : Relation.ReflTransGen (SameAt (paths root ts)) (runAll fs root ts false).files gs) :
      (∀ t ∈ ts, ∃ code, UpToDate gs root t code) ∧
        ∀ check, (runAll gs root ts check).fault = none ∧ (runAll gs root ts check).files = gs := by
    have hcurrent : ∀ t ∈ ts, ∃ code, UpToDate gs root t code := by
      intro t ht
      obtain ⟨code, hcode⟩ := upToDate_of_writeAll ha h t ht
      exact ⟨code, hcode.of_sameAt ht (sameAt_of_chain hgs)⟩
    exact ⟨hcurrent, runAll_of_upToDate hcurrent⟩
  refine ⟨general, fun fs => driver_apart fs root, ?_⟩
  intro fs gs args verbose hargs hexit hgs
  have hrun := run_command fs root hargs
  rw [hrun.1] at hgs
  rw [hrun.2, Outcome.exit_eq_zero] at hexit
  obtain ⟨hcurrent, hdriver⟩ := general fs driver gs (driver_apart fs root) hexit hgs
  refine ⟨hcurrent, fun again v c hagain hc => ?_⟩
  obtain ⟨hfiles, hcode⟩ := run_command gs root hagain
  rw [hfiles, hcode, Outcome.exit_eq_zero]
  rcases hc with ⟨check, rfl⟩ | rfl
  · exact hdriver check
  · exact hdriver true

def pair : List Target :=
  [⟨"a.xml".toList, "a.rs".toList⟩, ⟨"b.xml".toList, "b.rs".toList⟩]

/-- The documents of the pair, that of the driver, and a directory for its output. -/
def project : Files :=
  Session.files [.write "proj/a.xml".toList (.text Session.document),
    .write "proj/b.xml".toList (.text Session.document),
    .write "proj/hw/cc1200.xml".toList (.text Session.document),
    .makeDirectory "proj/registers/generated/src".toList]

def elsewhere : List Session.Step :=
  [.write "proj/hw/notes".toList (.text []), .remove "proj/b.xml".toList]

theorem regenerated_project :
    (∀ t ∈ pair, ∃ code, UpToDate (runAll project Session.root pair false).files Session.root t
      code) ∧
    (runAll (runAll project Session.root pair false).files Session.root pair true).fault = none ∧
    ∃ gs, gs = (Session.runFrom (run project Session.root ["reg-gen-driver".toList]).files
        elsewhere).1 ∧
      (run gs Session.root ["reg-gen-driver".toList, "--check".toList]).exit = 0 ∧
      (run gs Session.root ["reg-gen-driver".toList]).files = gs ∧
      (run gs Session.root ["precheckin".toList]).exit = 0 := by
  obtain ⟨hlist, -, hprogram⟩ := regenerated Session.root
  have hapart : Apart project Session.root pair :=
    apart_of_distinct _ _ (by decide) (by decide) (by decide)
  obtain ⟨hcurrent, hcheck⟩ := hlist project pair _ hapart (by decide +kernel) .refl
  refine ⟨hcurrent, (hcheck true).1, ?_⟩
  have hargs : Request.ofArguments ["reg-gen-driver".toList] =
      .ok (.run false (.regGenDriver false)) := by decide +kernel
  have hchain : Relation.ReflTransGen (SameAt (paths Session.root driver))
      (run project Session.root ["reg-gen-driver".toList]).files
      (Session.runFrom (run project Session.root ["reg-gen-driver".toList]).files elsewhere).1 :=
    Session.chain (by decide +kernel)
  obtain ⟨-, hnext⟩ := hprogram project _ _ false hargs (by decide +kernel) hchain
  refine ⟨_, rfl, ?_, ?_, ?_⟩
  · exact (hnext _ false (.regGenDriver true) (by decide +kernel) (.inl ⟨_, rfl⟩)).1
  · exact (hnext _ false _ hargs (.inl ⟨_, rfl⟩)).2
  · exact (hnext _ false .precheckin (by decide +kernel) (.inr rfl)).1

end Target

end RegisterMap
