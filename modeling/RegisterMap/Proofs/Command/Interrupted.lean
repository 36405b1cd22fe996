import RegisterMap.Proofs.Command.Check
import RegisterMap.Proofs.Command.Printed
import RegisterMap.Proofs.Command.Regenerate

/-!
# Write runs that stop

Targets are generated and written one by one. A run that stops at a target whose
code cannot be generated has written those before it, and leaves the files that
a run over them alone leaves. So it changes nothing only if they were all
current (`Target.interrupted`).
-/

namespace RegisterMap

open Files

namespace Target

variable {fs gs : Files} {root text : Text} {t : Target} {ts before after : List Target}
  {e : TaskFault}

/-! ## Where a run stops -/

/-- After some targets are written the run goes on from the files with their outputs. -/
theorem writeAll_append (h : (writeAll fs root before).fault = none) (after : List Target) :
    (writeAll fs root (before ++ after)).fault =
        (writeAll (writeAll fs root before).files root after).fault ∧
      (writeAll fs root (before ++ after)).files =
        (writeAll (writeAll fs root before).files root after).files := by
  induction before generalizing fs with
  | nil => exact ⟨rfl, rfl⟩
  | cons t before ih =>
    rcases writeAll_cons fs root t with ⟨e, -, hstop⟩ | ⟨code, gs, -, -, hnext⟩
    · cases h.symm.trans (hstop before).1
    · rw [List.cons_append, (hnext _).1, (hnext _).2, (hnext _).2]
      exact ih ((hnext _).1.symm.trans h)

/-- Targets are written, and the code of the next one is not generated. -/
structure StopsAt (fs : Files) (root : Text) (before : List Target) (t : Target) (e : TaskFault) :
    Prop where
  written : (writeAll fs root before).fault = none
  fails : t.code (writeAll fs root before).files root = .error e

theorem StopsAt.stops (h : StopsAt fs root before t e) (hts : ts = before ++ t :: after) :
    (runAll fs root ts false).fault = some e ∧
      (runAll fs root ts false).files = (writeAll fs root before).files := by
  obtain ⟨hfault, hfiles⟩ := writeAll_append h.written (t :: after)
  have hfails := h.fails
  unfold code at hfails
  rw [runAll, if_neg Bool.false_ne_true, hts, hfault, hfiles, writeAll, hfails]
  exact ⟨rfl, rfl⟩

/-- A run that fails, and not to write a file, stops at a target. -/
theorem exists_stopsAt (h : (writeAll fs root ts).fault = some e)
    (hgenerated : ∀ path f, e ≠ .write path f) :
    ∃ before t after, ts = before ++ t :: after ∧ StopsAt fs root before t e := by
  induction ts generalizing fs with
  | nil => cases h
  | cons t ts ih =>
    rcases writeAll_cons fs root t with ⟨e, hfails, hstop⟩ | ⟨code, gs, -, -, hnext⟩
    · cases (hstop ts).1.symm.trans h
      rcases hfails with hcode | ⟨f, rfl⟩
      · exact ⟨[], t, ts, rfl, rfl, hcode⟩
      · exact absurd rfl (hgenerated _ f)
    · obtain ⟨before, u, after, rfl, hu⟩ := ih ((hnext ts).1.symm.trans h)
      refine ⟨t :: before, u, after, rfl, (hnext before).1.trans hu.written, ?_⟩
      rw [(hnext before).2]
      exact hu.fails

/-! ## What it leaves -/

theorem Apart.of_append (h : Apart fs root (before ++ after)) : Apart fs root before :=
  ⟨(List.pairwise_append.mp h.outputs).1, fun t ht u hu =>
    h.sources t (List.mem_append_left _ ht) u (List.mem_append_left _ hu)⟩

/-- The code of a target that has been written is that of its source as it was. -/
theorem code_of_writeAll (ha : Apart fs root ts) (h : (writeAll fs root ts).fault = none)
    (ht : t ∈ ts) : ∃ text, t.code fs root = .ok text ∧
      (writeAll fs root ts).files.read (t.outputPath root) = .ok text := by
  obtain ⟨text, hup⟩ := upToDate_of_writeAll ha h t ht
  obtain ⟨s, hs⟩ := read_of_generateFile hup.generates
  have hsource := (read_writeAll fun u hu => ha.sources t ht u hu).mp hs
  refine ⟨text, ?_, hup.holds⟩
  rw [code, ← generateFile_congr (hs.trans hsource.symm), hup.generates]

/-- Writing changes nothing exactly if all targets are current. -/
theorem writeAll_files_eq_iff (ha : Apart fs root ts) (h : (writeAll fs root ts).fault = none) :
    (writeAll fs root ts).files = fs ↔ ∀ t ∈ ts, t.Current fs root := by
  constructor
  · intro hfiles t ht
    obtain ⟨text, hcode, hread⟩ := code_of_writeAll ha h ht
    rw [hfiles] at hread
    exact (current_iff hcode).mpr hread
  · intro hcurrent
    refine (writeAll_of_upToDate fun t ht => ?_).2
    obtain ⟨written, hup⟩ := upToDate_of_writeAll ha h t ht
    obtain ⟨text, hcode, -⟩ := code_of_writeAll ha h ht
    exact ⟨text, hcode, (current_iff hcode).mp (hcurrent t ht), hup.names⟩

/-- A write run fails because the code of a target is not generated exactly if it stops at one. It
then leaves what a run over the targets before that one leaves. If the files of the targets lie
apart, each output before it holds the code of its source, the outputs from it on are read as
before, and no file has changed exactly if all targets before it were current. -/
theorem interrupted (fs : Files) (root : Text) (ts : List Target) (e : TaskFault)
    (hgenerated : ∀ path f, e ≠ .write path f) :
    ((runAll fs root ts false).fault = some e ↔
      ∃ before t after, ts = before ++ t :: after ∧ StopsAt fs root before t e) ∧
    ∀ before t after, ts = before ++ t :: after → StopsAt fs root before t e →
      (runAll fs root ts false).files = (runAll fs root before false).files ∧
      (Apart fs root ts →
        (∀ u ∈ before, ∃ text, u.code fs root = .ok text ∧
          (runAll fs root ts false).files.read (u.outputPath root) = .ok text) ∧
        (∀ u ∈ t :: after, ∀ text,
          (runAll fs root ts false).files.read (u.outputPath root) = .ok text ↔
            fs.read (u.outputPath root) = .ok text) ∧
        ((runAll fs root ts false).files = fs ↔ ∀ u ∈ before, u.Current fs root)) := by
  refine ⟨⟨fun h => exists_stopsAt h hgenerated, ?_⟩, ?_⟩
  · rintro ⟨before, t, after, hts, hstop⟩
    exact (hstop.stops hts).1
  · rintro before t after rfl hstop
    obtain ⟨-, hfiles⟩ := hstop.stops rfl
    refine ⟨hfiles, fun ha => ?_⟩
    rw [hfiles]
    refine ⟨fun u hu => code_of_writeAll ha.of_append hstop.written hu, fun u hu text => ?_,
      writeAll_files_eq_iff ha.of_append hstop.written⟩
    exact read_writeAll fun v hv => ((List.pairwise_append.mp ha.outputs).2.2 v hv u hu).symm

/-- The first document of the pair can be loaded, and the second one is empty. -/
def halfway : Files :=
  Session.files [.write "proj/a.xml".toList (.text Session.document),
    .write "proj/b.xml".toList (.text []), .write "proj/a.rs".toList (.text "previous".toList)]

def emptyFault : TaskFault := .load "proj/b.xml".toList .noRoot

theorem stopsAt_halfway : StopsAt halfway Session.root [⟨"a.xml".toList, "a.rs".toList⟩]
    ⟨"b.xml".toList, "b.rs".toList⟩ emptyFault :=
  ⟨by decide +kernel, by decide +kernel⟩

theorem apart_halfway : Apart halfway Session.root pair :=
  apart_of_distinct _ _ (by decide) (by decide) (by decide)

theorem code_halfway : code halfway Session.root ⟨"a.xml".toList, "a.rs".toList⟩ =
    .ok (Session.documentLayout.render .standard) := by
  have hload : loadFile halfway (sourcePath Session.root ⟨"a.xml".toList, "a.rs".toList⟩) =
      .ok Session.documentDevice := by
    decide +kernel
  rw [code, generateFile_of_layout hload Session.layout_documentDevice]

/-- The run over the pair fails at the second document and has replaced the first output. -/
theorem runAll_halfway :
    (runAll halfway Session.root pair false).fault = some emptyFault ∧
    halfway.read "proj/a.rs".toList = .ok "previous".toList ∧
    (runAll halfway Session.root pair false).files.read "proj/a.rs".toList =
      .ok (Session.documentLayout.render .standard) ∧
    Session.documentLayout.render .standard ≠ "previous".toList := by
  have hpair : pair = [_] ++ _ :: [] := rfl
  obtain ⟨hfault, hfiles⟩ := stopsAt_halfway.stops hpair
  obtain ⟨text, hcode, hread⟩ := code_of_writeAll apart_halfway.of_append stopsAt_halfway.written
    (List.mem_cons_self ..)
  rw [← Except.ok.inj (code_halfway.symm.trans hcode), ← hfiles] at hread
  exact ⟨hfault, by decide +kernel, hread, by decide +kernel⟩

theorem interrupted_halfway :
    StopsAt halfway Session.root [⟨"a.xml".toList, "a.rs".toList⟩]
      ⟨"b.xml".toList, "b.rs".toList⟩ emptyFault ∧
    (runAll halfway Session.root pair false).fault = some emptyFault ∧
    (runAll halfway Session.root pair false).files ≠ halfway := by
  obtain ⟨hfails, hleaves⟩ := interrupted halfway Session.root pair emptyFault nofun
  refine ⟨stopsAt_halfway, hfails.mpr ⟨_, _, [], rfl, stopsAt_halfway⟩, ?_⟩
  rw [ne_eq, ((hleaves _ _ [] rfl stopsAt_halfway).2 apart_halfway).2.2]
  intro hcurrent
  have hread := (current_iff code_halfway).mp (hcurrent _ (List.mem_cons_self ..))
  exact absurd hread (by decide +kernel)

end Target

end RegisterMap
