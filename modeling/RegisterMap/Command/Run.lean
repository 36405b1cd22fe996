import RegisterMap.Command.Task
import RegisterMap.Command.Usage

/-!
# Running the program

The program answers a command line with an exit code, two output streams and
the files it leaves. The log goes to standard output, before what is printed;
a task that fails logs its fault last and exits with 1, a command line at fault
exits with 2. The pages of help are not modelled: a run that asks for help
succeeds and prints nothing.
-/

namespace RegisterMap

structure Run where
  files : Files
  exit : Nat
  stdout : Text
  /-- Its first line. -/
  stderr : Text

def Command.run (fs : Files) (root : Text) : Command → Outcome
  | regGen input output noHeader =>
    RegisterMap.regGen fs input output (if noHeader then .none else .standard)
  | regGenDriver check => Target.runAll fs root Target.driver check
  | precheckin => Target.runAll fs root Target.driver true

/-- The log of an outcome, its fault last. -/
def Outcome.notices (o : Outcome) : List Notice :=
  match o.fault with
  | none => o.log
  | some e => o.log ++ [⟨.error, .program, e.message⟩]

def Outcome.finish (verbose : Bool) (o : Outcome) : Run where
  files := o.files
  exit := if o.fault.isSome then 1 else 0
  stdout := showLog verbose o.notices ++ o.printed
  stderr := []

def versionText : Text := "xtask 0.1.0\n".toList

def run (fs : Files) (root : Text) (args : List Text) : Run :=
  match Request.ofArguments args with
  | .error e => ⟨fs, 2, [], e.message.firstLine⟩
  | .ok .version => ⟨fs, 0, versionText, []⟩
  | .ok .help => ⟨fs, 0, [], []⟩
  | .ok (.run verbose command) => (command.run fs root).finish verbose

end RegisterMap
