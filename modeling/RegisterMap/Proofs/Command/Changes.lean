import RegisterMap.Proofs.Command.Arguments
import RegisterMap.Proofs.Files.Write
import RegisterMap.Session

/-!
# What the program changes

A run of the program may be asked to write one file, its `Writing`, and the
arguments say so (`Writing.Asked`). If it exits with 0 that file holds the code
generated from the input as it was before, and no other file is changed;
otherwise no file is (`Framed`). This holds of every run in every session, and
the steps that only read change nothing (`Session.changes`).
-/

namespace RegisterMap

open Files

variable {fs gs : Files} {root path : Text}

/-! ## Tasks -/

theorem generateFile_congr (h : gs.read path = fs.read path) (header : Header) :
    generateFile gs header path = generateFile fs header path := by
  unfold generateFile loadFile
  rw [h]

/-- A file that is to be written: the input and the header of its code, and its path. -/
structure Writing where
  input : Text
  header : Header
  output : Text
  deriving DecidableEq

/-- How a run with an exit code may change the files. -/
structure Framed (fs gs : Files) (writing : Option Writing) (exit : Nat) : Prop where
  failed : exit ≠ 0 → gs = fs
  idle : writing = none → gs = fs
  wrote : ∀ w, writing = some w → exit = 0 → ∃ code spot,
    (generateFile fs w.header w.input).result = .ok code ∧ gs.read w.output = .ok code ∧
      Rewrites fs gs w.output code spot

theorem Framed.same (writing : Option Writing) {exit : Nat} (h : writing ≠ none → exit ≠ 0) :
    Framed fs fs writing exit :=
  ⟨fun _ => rfl, fun _ => rfl, fun w hw he => absurd he (h (by simp [hw]))⟩

theorem Framed.of_write {w : Writing} {code : Text}
    (hcode : (generateFile fs w.header w.input).result = .ok code)
    (hw : fs.write w.output (.text code) = .ok gs) : Framed fs gs (some w) 0 := by
  obtain ⟨-, spot, hr⟩ := write_rewrites hw
  refine ⟨fun h => absurd rfl h, nofun, fun v hv _ => ?_⟩
  cases hv
  exact ⟨code, spot, hcode, hr.read, hr⟩

def Outcome.exit (o : Outcome) : Nat := if o.fault.isSome then 1 else 0

theorem Outcome.exit_eq_zero {o : Outcome} : o.exit = 0 ↔ o.fault = none := by
  unfold exit
  cases o.fault <;> simp

theorem regGen_framed (fs : Files) (input : Text) (output : Option Text) (header : Header) :
    Framed fs (regGen fs input output header).files (output.map fun path => ⟨input, header, path⟩)
      (regGen fs input output header).exit := by
  unfold regGen
  dsimp only
  split
  · exact .same _ fun _ => by simp [Outcome.exit]
  · exact .same _ fun h => absurd rfl h
  · next code path hcode =>
    split
    · exact .same _ fun _ => by simp [Outcome.exit]
    · next gs hw => exact .of_write hcode hw

namespace Target

/-- Whatever targets follow, the first one fails, with its code or at the write, and changes nothing,
or its code is written and the run goes on from there. -/
theorem writeAll_cons (fs : Files) (root : Text) (t : Target) :
    (∃ e, ((generateFile fs .standard (t.sourcePath root)).result = .error e ∨
        ∃ f, e = .write (t.outputPath root) f) ∧
      ∀ ts, (writeAll fs root (t :: ts)).fault = some e ∧
        (writeAll fs root (t :: ts)).files = fs) ∨
    ∃ code gs, (generateFile fs .standard (t.sourcePath root)).result = .ok code ∧
      fs.write (t.outputPath root) (.text code) = .ok gs ∧
      ∀ ts, (writeAll fs root (t :: ts)).fault = (writeAll gs root ts).fault ∧
        (writeAll fs root (t :: ts)).files = (writeAll gs root ts).files := by
  cases hcode : (generateFile fs .standard (t.sourcePath root)).result with
  | error e =>
    refine .inl ⟨e, .inl rfl, fun ts => ?_⟩
    rw [writeAll, hcode]
    exact ⟨rfl, rfl⟩
  | ok code =>
    cases hw : fs.write (t.outputPath root) (.text code) with
    | error f =>
      refine .inl ⟨_, .inr ⟨f, rfl⟩, fun ts => ?_⟩
      rw [writeAll, hcode]
      dsimp only
      rw [hw]
      exact ⟨rfl, rfl⟩
    | ok gs =>
      refine .inr ⟨code, gs, rfl, hw, fun ts => ?_⟩
      rw [writeAll, hcode]
      dsimp only
      rw [hw]
      exact ⟨rfl, rfl⟩

theorem writeAll_framed (fs : Files) (root : Text) (t : Target) :
    Framed fs (writeAll fs root [t]).files
      (some ⟨t.sourcePath root, .standard, t.outputPath root⟩) (writeAll fs root [t]).exit := by
  rcases writeAll_cons fs root t with ⟨e, -, hstop⟩ | ⟨code, gs, hcode, hw, hnext⟩
  · obtain ⟨hf, hfiles⟩ := hstop []
    rw [hfiles, Outcome.exit, hf]
    exact .same _ fun _ => Nat.one_ne_zero
  · obtain ⟨hf, hfiles⟩ := hnext []
    rw [hfiles, Outcome.exit, hf]
    exact .of_write hcode hw

theorem runAll_check_files (fs : Files) (root : Text) (ts : List Target) :
    (runAll fs root ts true).files = fs := by
  rw [runAll, if_pos rfl]
  dsimp only
  split
  · rfl
  · rfl

end Target

/-! ## Commands -/

/-- What a command below a root is to write. -/
def Command.writing? (root : Text) : Command → Option Writing
  | regGen input (some output) noHeader =>
    some ⟨input, if noHeader then .none else .standard, output⟩
  | regGenDriver false =>
    some ⟨Target.below root "hw/cc1200.xml".toList, .standard,
      Target.below root "registers/generated/src/regs.rs".toList⟩
  | _ => none

def writing? (root : Text) (args : List Text) : Option Writing :=
  match Request.ofArguments args with
  | .ok (.run _ command) => command.writing? root
  | _ => none

/-- The arguments ask for the file. The command is `reg-gen`, whose code has no header if `--no-header`
stands after its name, and else the usual one; or it is the driver, and no `--check` stands after its
name. -/
def Writing.Asked (root : Text) (args : List Text) (w : Writing) : Prop :=
  ∃ name after, args.dropWhile (·.head? = some '-') = name :: after ∧
    (name = Command.regGenName ∧ (Switch.noHeader.argument ∈ after → w.header = .none) ∧
        (Switch.noHeader.argument ∉ after → w.header = .standard) ∨
      name = Command.driverName ∧ Switch.check.argument ∉ after ∧
        (Command.regGenDriver false).writing? root = some w)

theorem writing?_asked {args : List Text} {w : Writing} (h : writing? root args = some w) :
    w.Asked root args := by
  unfold writing? at h
  split at h
  · next verbose command hargs =>
    obtain ⟨name, after, hafter, hshows⟩ := Request.ofArguments_run hargs
    refine ⟨name, after, hafter, ?_⟩
    cases command with
    | regGen input output noHeader =>
      obtain ⟨hname, hgiven⟩ := hshows
      cases output with
      | none => cases h
      | some path =>
        cases h
        refine .inl ⟨hname, fun hmem => ?_, fun hmem => ?_⟩
        · exact if_pos (hgiven.mpr hmem)
        · exact if_neg fun hn => hmem (hgiven.mp hn)
    | regGenDriver check =>
      obtain ⟨hname, hgiven⟩ := hshows
      cases check with
      | true => cases h
      | false => exact .inr ⟨hname, fun hmem => Bool.noConfusion (hgiven.mpr hmem), h⟩
    | precheckin => cases h
  · cases h

theorem writing?_arguments {c : Command} (hc : c.Named) (root : Text) :
    writing? root c.arguments = c.writing? root := by
  unfold writing?
  rw [Request.ofArguments_arguments hc]

theorem Command.run_framed (fs : Files) (root : Text) (c : Command) :
    Framed fs (c.run fs root).files (c.writing? root) (c.run fs root).exit := by
  cases c with
  | regGen input output noHeader =>
    have h := regGen_framed fs input output (if noHeader then .none else .standard)
    cases output with
    | none => exact h
    | some path => exact h
  | regGenDriver check =>
    cases check with
    | true =>
      rw [run, Target.runAll_check_files]
      exact .same _ fun h => absurd rfl h
    | false => exact Target.writeAll_framed fs root _
  | precheckin =>
    rw [run, Target.runAll_check_files]
    exact .same _ fun h => absurd rfl h

theorem run_eq_finish (fs : Files) (root : Text) {args : List Text} {verbose : Bool} {c : Command}
    (h : Request.ofArguments args = .ok (.run verbose c)) :
    run fs root args = (c.run fs root).finish verbose := by
  unfold run
  rw [h]

/-- A run of the program changes the file that it is to write, and only if it succeeds. -/
theorem run_framed (fs : Files) (root : Text) (args : List Text) :
    Framed fs (run fs root args).files (writing? root args) (run fs root args).exit := by
  unfold run writing?
  split
  · next h => rw [h]; exact .same _ fun h => absurd rfl h
  · next h => rw [h]; exact .same _ fun h => absurd rfl h
  · next h => rw [h]; exact .same _ fun h => absurd rfl h
  · next command h => rw [h]; exact command.run_framed fs root

/-! ## Sessions -/

namespace Session

def files (steps : List Step) : Files := (runFrom .empty steps).1

theorem runFrom_append (fs : Files) (ss us : List Step) :
    runFrom fs (ss ++ us) =
      ((runFrom (runFrom fs ss).1 us).1,
        (runFrom fs ss).2 ++ (runFrom (runFrom fs ss).1 us).2) := by
  induction ss generalizing fs with
  | nil => rfl
  | cons s ss ih =>
    rw [List.cons_append, runFrom]
    simp only [ih]
    rfl

theorem files_concat (before : List Step) (s : Step) :
    files (before ++ [s]) = (step (files before) s).1 := by
  rw [files, runFrom_append]
  rfl

/-- The program changes what it says. In a session, whatever steps were before, a run that fails
leaves all files as they were, and one that succeeds changes at most the file that its arguments ask
for, which then holds the code generated from the input before the run. Steps that read change
nothing. Whatever a command with paths is to write can be asked for. -/
theorem changes (before : List Step) :
    (∀ path, files (before ++ [.read path]) = files before) ∧
    (∀ path, files (before ++ [.loadFile path]) = files before) ∧
    (∀ path header, files (before ++ [.generateFile path header]) = files before) ∧
    (∀ args after, ∃ exit stdout stderr rest,
      answers (before ++ .run args :: after) =
        answers before ++ .finished exit stdout stderr :: rest ∧
      Framed (files before) (files (before ++ [.run args])) (writing? Session.root args) exit) ∧
    (∀ args w, writing? Session.root args = some w → w.Asked Session.root args) ∧
    ∀ c : Command, c.Named → writing? Session.root c.arguments = c.writing? Session.root := by
  refine ⟨fun path => files_concat before _, fun path => files_concat before _,
    fun path header => files_concat before _, fun args after => ?_, fun _ _ => writing?_asked,
    fun _ hc => writing?_arguments hc Session.root⟩
  have hanswers : answers (before ++ .run args :: after) = answers before ++
      (step (files before) (.run args)).2 ::
        (runFrom (step (files before) (.run args)).1 after).2 := by
    rw [answers, runFrom_append]
    rfl
  refine ⟨_, _, _, _, hanswers, ?_⟩
  rw [files_concat]
  exact run_framed (files before) Session.root args

def document : Text :=
  "<registerdefinition><devicename>D</devicename><Register><Name>R</Name>".toList ++
    "<Address>0</Address><Reset>0</Reset></Register></registerdefinition>".toList

def inputPath : Text := "a.xml".toList

def outputPath : Text := "b.rs".toList

def prepared : List Step := [.write inputPath (.text document)]

def inPlace : List Text := ["reg-gen".toList, "-i".toList, inputPath, "-o".toList, inputPath]

/-- Generates code beside the document. -/
def beside : Command := .regGen inputPath (some outputPath) true

def absent : Command := .regGen outputPath (some inputPath) false

/-- The code of a document may be written to the document's own file, or beside it and without a
header. A run whose input is not there leaves the file that it was to write. -/
theorem changes_in_place :
    (∃ code, (RegisterMap.generateFile (files prepared) .standard inputPath).result = .ok code ∧
      (files (prepared ++ [.run inPlace])).read inputPath = .ok code) ∧
    (∃ code, (RegisterMap.generateFile (files prepared) .none inputPath).result = .ok code ∧
      (files (prepared ++ [.run beside.arguments])).read outputPath = .ok code) ∧
    Writing.Asked Session.root beside.arguments ⟨inputPath, .none, outputPath⟩ ∧
    (run (files prepared) Session.root absent.arguments).exit = 1 ∧
    files (prepared ++ [.run absent.arguments]) = files prepared := by
  obtain ⟨-, -, -, hruns, hasked, harguments⟩ := changes prepared
  have hrun : ∀ args, Framed (files prepared) (files (prepared ++ [.run args]))
      (writing? Session.root args) (run (files prepared) Session.root args).exit := by
    intro args
    obtain ⟨exit, stdout, stderr, rest, hanswers, hframed⟩ := hruns args []
    have hanswer := (List.cons.inj (List.cons.inj hanswers).2).1
    rwa [← (Answer.finished.inj hanswer).1] at hframed
  have hbeside := harguments beside ⟨by decide, by decide⟩
  refine ⟨?_, ?_, hasked _ _ hbeside, by decide +kernel, (hrun _).failed (by decide +kernel)⟩
  · have hwriting : writing? Session.root inPlace = some ⟨inputPath, .standard, inputPath⟩ := by
      decide +kernel
    obtain ⟨code, spot, hcode, hread, -⟩ := (hrun inPlace).wrote _ hwriting (by decide +kernel)
    exact ⟨code, hcode, hread⟩
  · obtain ⟨code, spot, hcode, hread, -⟩ :=
      (hrun beside.arguments).wrote _ hbeside (by decide +kernel)
    exact ⟨code, hcode, hread⟩

end Session

end RegisterMap
