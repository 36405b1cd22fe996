import RegisterMap.Command.Fault
import RegisterMap.Command.Log

/-!
# Tasks

`generateFile` generates the code of a file. `regGen` writes or prints it.
`Target.runAll` goes through targets: it writes each target's output, or checks
that each is up to date.
-/

namespace RegisterMap

/-- A result and what was logged on the way to it. -/
structure Logged (α : Type) where
  log : List Notice
  result : Except TaskFault α

def loadFile (fs : Files) (path : Text) : Except TaskFault Device := do
  let document ← (fs.read path).mapError (.read path)
  (Device.load document).mapError (.load path)

def generateFile (fs : Files) (header : Header) (path : Text) : Logged Text :=
  match loadFile fs path with
  | .error e => ⟨[], .error e⟩
  | .ok device =>
    let derived :=
      (device.registers.zip device.derivation.blocks).map fun (r, b) => Notice.derived r b
    match device.layout with
    | .error e => ⟨derived, .error (.layout path e)⟩
    | .ok layout => ⟨derived ++ [.generated layout], .ok (layout.render header)⟩

/-- What a task leaves: the files, the log, what it prints, and its fault if it fails. -/
structure Outcome where
  files : Files
  log : List Notice
  printed : Text
  fault : Option TaskFault

/-- Generates the code of `input` and writes it to `output`, or prints it where there is none. -/
def regGen (fs : Files) (input : Text) (output : Option Text) (header : Header) : Outcome :=
  let start : Notice := ⟨.info, .regGen, "Generating registers from: ".toList ++ input⟩
  let code := generateFile fs header input
  let log := start :: code.log
  match code.result, output with
  | .error e, _ => ⟨fs, log, [], some e⟩
  | .ok text, none => ⟨fs, log, text, none⟩
  | .ok text, some path =>
    match fs.write path (.text text) with
    | .error e => ⟨fs, log, [], some (.write path e)⟩
    | .ok fs => ⟨fs, log ++ [⟨.info, .regGen, "Output written to: ".toList ++ path⟩], [], none⟩

/-- A register definition and the code generated from it, by their paths below a root. -/
structure Target where
  source : Text
  output : Text
  deriving DecidableEq, Repr

namespace Target

/-- A path taken below a root. One from the root of the tree stays as it is; nothing is put between
the two where the root is empty or ends in a slash. -/
def below (root path : Text) : Text :=
  if path.head? = some '/' then path
  else if root = [] ∨ root.getLast? = some '/' then root ++ path
  else root ++ '/' :: path

def sourcePath (root : Text) (t : Target) : Text := below root t.source

def outputPath (root : Text) (t : Target) : Text := below root t.output

def started (t : Target) : Notice :=
  ⟨.info, .regGenDriver, "Generating ".toList ++ t.output ++ " from ".toList ++ t.source⟩

/-- Compares the output with the code: the log, and whether they are equal. -/
def compare (fs : Files) (root : Text) (t : Target) (code : Text) : List Notice × Bool :=
  match fs.read (t.outputPath root) with
  | .ok text =>
    if text = code then
      ([⟨.info, .regGenDriver, "  ✓ ".toList ++ t.output ++ " is up to date".toList⟩], true)
    else ([], false)
  | .error e =>
    ([⟨.warn, .regGenDriver,
      "Failed to read ".toList ++ t.outputPath root ++ ": ".toList ++ e.message⟩], false)

/-- Checks targets, after some whose stale outputs are given, the latest first. -/
def checkAll (fs : Files) (root : Text) (stale : List Text) : List Target → Logged Unit
  | [] => ⟨[], if stale = [] then .ok () else .error (.stale stale.reverse)⟩
  | t :: ts =>
    let code := generateFile fs .standard (t.sourcePath root)
    match code.result with
    | .error e => ⟨t.started :: code.log, .error e⟩
    | .ok text =>
      let (log, equal) := t.compare fs root text
      let rest := checkAll fs root (if equal then stale else t.output :: stale) ts
      ⟨t.started :: code.log ++ log ++ rest.log, rest.result⟩

def written (t : Target) (code : Text) : Notice :=
  ⟨.info, .regGenDriver, "  ✓ Generated ".toList ++ t.output ++ " (".toList ++
    Text.decimal (Text.byteSize code) ++ " bytes)".toList⟩

def writeAll (fs : Files) (root : Text) : List Target → Outcome
  | [] => ⟨fs, [], [], none⟩
  | t :: ts =>
    let code := generateFile fs .standard (t.sourcePath root)
    let log := t.started :: code.log
    match code.result with
    | .error e => ⟨fs, log, [], some e⟩
    | .ok text =>
      match fs.write (t.outputPath root) (.text text) with
      | .error e => ⟨fs, log, [], some (.write (t.outputPath root) e)⟩
      | .ok fs =>
        let rest := writeAll fs root ts
        { rest with log := log ++ t.written text :: rest.log }

/-- Writes the targets below a root, or checks that they are up to date. -/
def runAll (fs : Files) (root : Text) (targets : List Target) (check : Bool) : Outcome :=
  if check then
    let checked := checkAll fs root [] targets
    match checked.result with
    | .ok () => ⟨fs, checked.log, [], none⟩
    | .error e => ⟨fs, checked.log, [], some e⟩
  else writeAll fs root targets

def driver : List Target :=
  [⟨"hw/cc1200.xml".toList, "registers/generated/src/regs.rs".toList⟩]

end Target

end RegisterMap
