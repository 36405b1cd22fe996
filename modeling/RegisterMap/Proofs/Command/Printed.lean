import RegisterMap.Proofs.Code.Append
import RegisterMap.Proofs.Command.Changes

/-!
# Printed code

Code is printed on the stream that the log goes to, after the log. So what a run
prints ends in the code that it would have written to a file, and is never that
code alone (`run_prints`).
-/

namespace RegisterMap

open Files

variable {fs gs : Files} {root input path code : Text} {header : Header} {d : Device} {l : Layout}
  {verbose : Bool}

/-! ## The log of generated code -/

def Notice.begun (input : Text) : Notice :=
  ⟨.info, .regGen, "Generating registers from: ".toList ++ input⟩

def Notice.wrote (path : Text) : Notice :=
  ⟨.info, .regGen, "Output written to: ".toList ++ path⟩

/-- What is logged of a layout: its blocks one by one, and that it is complete. -/
def Layout.notices (d : Device) (l : Layout) : List Notice :=
  ((d.registers.zip l.blocks).map fun (r, b) => Notice.derived r b) ++ [.generated l]

/-- What shows of the log of generated code: the input, its blocks if asked for, and their number. -/
def Layout.report (verbose : Bool) (input : Text) (d : Device) (l : Layout) : Text :=
  (Notice.begun input).render ++
    (if verbose then (d.registers.zip l.blocks).flatMap fun (r, b) => (Notice.derived r b).render
      else []) ++
    (Notice.generated l).render

/-- The code of a file is that of the layout of the device that it describes. -/
theorem generateFile_of_layout (hd : loadFile fs path = .ok d) (hl : d.layout = .ok l)
    (header : Header) : generateFile fs header path = ⟨l.notices d, .ok (l.render header)⟩ := by
  obtain ⟨-, hblocks⟩ := Device.derivation_of_layout hl
  unfold generateFile Layout.notices
  rw [hd]
  dsimp only
  rw [hl, hblocks]

theorem layout_of_generateFile (h : (generateFile fs header path).result = .ok code) :
    ∃ d l, loadFile fs path = .ok d ∧ d.layout = .ok l := by
  unfold generateFile at h
  cases hd : loadFile fs path with
  | error e => rw [hd] at h; cases h
  | ok d =>
    rw [hd] at h
    dsimp only at h
    cases hl : d.layout with
    | error e => rw [hl] at h; cases h
    | ok l => exact ⟨d, l, rfl, hl⟩

theorem showLog_append (verbose : Bool) (log more : List Notice) :
    showLog verbose (log ++ more) = showLog verbose log ++ showLog verbose more := by
  rw [showLog, List.filter_append, List.flatMap_append, showLog, showLog]

theorem showLog_info {n : Notice} (hn : n.level = .info) (verbose : Bool) :
    showLog verbose [n] = n.render := by
  simp [showLog, hn]

/-- Of the blocks only a verbose run speaks. -/
theorem showLog_derived (verbose : Bool) (ps : List (Register × Block)) :
    showLog verbose (ps.map fun (r, b) => Notice.derived r b) =
      if verbose then ps.flatMap fun (r, b) => (Notice.derived r b).render else [] := by
  cases verbose with
  | true => simp [showLog, List.flatMap_map]
  | false =>
    rw [showLog, List.filter_eq_nil_iff.mpr, List.flatMap_nil]
    · rfl
    · intro n hn
      obtain ⟨⟨r, b⟩, -, rfl⟩ := List.mem_map.mp hn
      exact Bool.false_ne_true

theorem showLog_report (verbose : Bool) (input : Text) (d : Device) (l : Layout) :
    showLog verbose (.begun input :: l.notices d) = l.report verbose input d := by
  have hbegun : (Notice.begun input).level = .info := rfl
  have hgenerated : (Notice.generated l).level = .info := rfl
  rw [Layout.notices, ← List.singleton_append, showLog_append, showLog_append, showLog_derived,
    showLog_info hbegun, showLog_info hgenerated, Layout.report, List.append_assoc]

/-- A run speaks of its input first. -/
theorem Layout.report_ne_nil (verbose : Bool) (input : Text) (d : Device) (l : Layout) :
    l.report verbose input d ≠ [] := by
  unfold report Notice.render
  simp

/-! ## Printing and writing -/

theorem regGen_none (hd : loadFile fs input = .ok d) (hl : d.layout = .ok l) (header : Header) :
    regGen fs input none header = ⟨fs, .begun input :: l.notices d, l.render header, none⟩ := by
  unfold regGen
  rw [generateFile_of_layout hd hl]
  rfl

theorem regGen_some (hd : loadFile fs input = .ok d) (hl : d.layout = .ok l)
    (hw : fs.write path (.text (l.render header)) = .ok gs) :
    regGen fs input (some path) header =
      ⟨gs, .begun input :: l.notices d ++ [.wrote path], [], none⟩ := by
  unfold regGen
  rw [generateFile_of_layout hd hl]
  dsimp only
  rw [hw]
  rfl

theorem layout_of_regGen {output : Option Text}
    (h : (regGen fs input output header).fault = none) :
    ∃ d l, loadFile fs input = .ok d ∧ d.layout = .ok l := by
  cases hcode : (generateFile fs header input).result with
  | ok code => exact layout_of_generateFile hcode
  | error e =>
    unfold regGen at h
    dsimp only at h
    rw [hcode] at h
    cases h

theorem write_of_regGen (hd : loadFile fs input = .ok d) (hl : d.layout = .ok l)
    (h : (regGen fs input (some path) header).fault = none) :
    ∃ gs, fs.write path (.text (l.render header)) = .ok gs := by
  cases hw : fs.write path (.text (l.render header)) with
  | ok gs => exact ⟨gs, rfl⟩
  | error e =>
    unfold regGen at h
    rw [generateFile_of_layout hd hl] at h
    dsimp only at h
    rw [hw] at h
    cases h

def Header.asked (noHeader : Bool) : Header := if noHeader then .none else .standard

theorem run_printing (fs : Files) (root : Text) {args : List Text} {noHeader : Bool}
    (hargs : Request.ofArguments args = .ok (.run verbose (.regGen input none noHeader)))
    (hd : loadFile fs input = .ok d) (hl : d.layout = .ok l) :
    run fs root args =
      ⟨fs, 0, l.report verbose input d ++ l.render (.asked noHeader), []⟩ := by
  rw [run_eq_finish fs root hargs, Command.run, regGen_none hd hl, ← showLog_report]
  rfl

theorem run_writing (fs : Files) (root : Text) {args : List Text} {noHeader : Bool}
    (hargs : Request.ofArguments args = .ok (.run verbose (.regGen input (some path) noHeader)))
    (hd : loadFile fs input = .ok d) (hl : d.layout = .ok l)
    (hw : fs.write path (.text (l.render (.asked noHeader))) = .ok gs) :
    run fs root args =
      ⟨gs, 0, l.report verbose input d ++ (Notice.wrote path).render, []⟩ := by
  have hwrote : (Notice.wrote path).level = .info := rfl
  rw [run_eq_finish fs root hargs, Command.run, ← Header.asked, regGen_some hd hl hw,
    ← showLog_report, ← showLog_info hwrote verbose, ← showLog_append, Outcome.finish,
    List.append_nil]
  rfl

/-- A run that prints and one that writes, of the same input and header, deliver the same code: the
file holds it, and what is printed ends in it. Before it the log is printed, with the input, the
blocks if asked for and their number, so that what is printed is never what the file holds. -/
theorem run_prints (fs : Files) (root : Text) {printing writing : List Text} {input path : Text}
    {noHeader v w : Bool}
    (hp : Request.ofArguments printing = .ok (.run v (.regGen input none noHeader)))
    (hw : Request.ofArguments writing = .ok (.run w (.regGen input (some path) noHeader)))
    (hprinted : (run fs root printing).exit = 0) (hwritten : (run fs root writing).exit = 0) :
    ∃ d l code, loadFile fs input = .ok d ∧ d.layout = .ok l ∧
      code = l.render (if noHeader then .none else .standard) ∧
      (run fs root writing).files.read path = .ok code ∧
      (run fs root writing).stdout = l.report w input d ++ (Notice.wrote path).render ∧
      (run fs root printing).files = fs ∧
      (run fs root printing).stdout = l.report v input d ++ code ∧
      (run fs root printing).stdout ≠ code := by
  rw [run_eq_finish fs root hp] at hprinted
  rw [run_eq_finish fs root hw] at hwritten
  obtain ⟨d, l, hd, hl⟩ := layout_of_regGen (Outcome.exit_eq_zero.mp hprinted)
  obtain ⟨gs, hgs⟩ := write_of_regGen hd hl (Outcome.exit_eq_zero.mp hwritten)
  obtain ⟨-, spot, hrewrites⟩ := write_rewrites hgs
  rw [run_printing fs root hp hd hl, run_writing fs root hw hd hl hgs]
  refine ⟨d, l, _, hd, hl, rfl, hrewrites.read, rfl, rfl, rfl, ?_⟩
  rw [ne_eq, Header.asked, List.append_left_eq_self]
  exact l.report_ne_nil v input d

namespace Session

/-- The tree with one document in it. -/
def documented : Files := files [.write inputPath (.text document)]

def documentDevice : Device :=
  ⟨"D".toList, [⟨"R".toList, "0".toList, none, "0".toList, []⟩]⟩

def documentLayout : Layout :=
  ⟨"D".toList, [⟨"R".toList, "0".toList, [], "0x00".toList, []⟩]⟩

def printing : List Text := ["reg-gen", "-i", "a.xml", "--no-header"].map String.toList

def writing : List Text := printing ++ ["-o", "a.rs"].map String.toList

theorem load_documented : RegisterMap.loadFile documented inputPath = .ok documentDevice := by
  decide +kernel

theorem layout_documentDevice : documentDevice.layout = .ok documentLayout := by
  decide +kernel

theorem write_documented : ∃ gs, documented.write "a.rs".toList
    (.text (documentLayout.render (.asked true))) = .ok gs :=
  ⟨_, rfl⟩

theorem request_printing :
    Request.ofArguments printing = .ok (.run false (.regGen inputPath none true)) := by
  decide +kernel

theorem request_writing : Request.ofArguments writing =
    .ok (.run false (.regGen inputPath (some "a.rs".toList) true)) := by
  decide +kernel

end Session

open Session in
/-- Of the code that is written two lines of the log come first when it is printed. -/
theorem run_reports :
    (run documented Session.root printing).exit = 0 ∧
    (run documented Session.root writing).exit = 0 ∧
    (run documented Session.root writing).files.read "a.rs".toList =
      .ok (documentLayout.render .none) ∧
    (run documented Session.root printing).stdout =
      "INFO  [xtask::reg_gen] Generating registers from: a.xml\n".toList ++
        "INFO  [registers_generator::codegen] Generated 1 registers for D\n".toList ++
        documentLayout.render .none ∧
    (run documented Session.root printing).stdout ≠ documentLayout.render .none := by
  obtain ⟨gs, hgs⟩ := write_documented
  obtain ⟨-, spot, hrewrites⟩ := write_rewrites hgs
  rw [run_printing _ _ request_printing load_documented layout_documentDevice,
    run_writing _ _ request_writing load_documented layout_documentDevice hgs]
  refine ⟨rfl, rfl, hrewrites.read, ?_, ?_⟩
  · decide +kernel
  · rw [ne_eq, Header.asked, if_pos rfl, List.append_left_eq_self]
    exact documentLayout.report_ne_nil _ _ _

open Session in
/-- A verbose run prints the code that a quiet one writes, after its own log. -/
theorem run_prints_documented :
    ∃ code, (run documented Session.root writing).files.read "a.rs".toList = .ok code ∧
      (run documented Session.root ("-v".toList :: printing)).stdout ≠ code ∧
      ∃ d l, (run documented Session.root ("-v".toList :: printing)).stdout =
        Layout.report true inputPath d l ++ code := by
  have hverbose : Request.ofArguments ("-v".toList :: printing) =
      .ok (.run true (.regGen inputPath none true)) := by
    decide +kernel
  have hprinted : (run documented Session.root ("-v".toList :: printing)).exit = 0 := by
    rw [run_printing _ _ hverbose load_documented layout_documentDevice]
  have hwritten : (run documented Session.root writing).exit = 0 := by
    obtain ⟨gs, hgs⟩ := write_documented
    rw [run_writing _ _ request_writing load_documented layout_documentDevice hgs]
  obtain ⟨d, l, code, -, -, -, hread, -, -, hstdout, hne⟩ :=
    run_prints documented Session.root hverbose request_writing hprinted hwritten
  exact ⟨code, hread, hne, d, l, hstdout⟩

end RegisterMap
