import RegisterMap.Command.Run
import RegisterMap.Files.Change

/-!
# Sessions

A session changes and reads a file tree, starting from an empty one, and runs
the library and the program on it. The program's root is the directory `proj`.
-/

namespace RegisterMap.Session

def root : Text := "proj".toList

inductive Step where
  | write (path : Text) (content : FileContent)
  | makeDirectory (path : Text)
  | remove (path : Text)
  | read (path : Text)
  | loadFile (path : Text)
  | generateFile (path : Text) (header : Header)
  | run (args : List Text)

inductive Answer where
  | done
  | content (text : Option Text)
  | device (result : Except TaskFault Device)
  | code (result : Except TaskFault Text)
  | finished (exit : Nat) (stdout stderr : Text)

/-- The files after a step, and the answer. A change that fails leaves the files as they were. -/
def step (fs : Files) : Step → Files × Answer
  | .write path content =>
    match fs.place path content with
    | .ok fs => (fs, .done)
    | .error _ => (fs, .done)
  | .makeDirectory path => (fs.makeDirectory path, .done)
  | .remove path =>
    match fs.remove path with
    | .ok fs => (fs, .done)
    | .error _ => (fs, .done)
  | .read path => (fs, .content (fs.read path).toOption)
  | .loadFile path => (fs, .device (RegisterMap.loadFile fs path))
  | .generateFile path header => (fs, .code (RegisterMap.generateFile fs header path).result)
  | .run args =>
    let r := RegisterMap.run fs root args
    (r.files, .finished r.exit r.stdout r.stderr)

def runFrom (fs : Files) : List Step → Files × List Answer
  | [] => (fs, [])
  | s :: ss =>
    let (fs, answer) := step fs s
    let (fs, answers) := runFrom fs ss
    (fs, answer :: answers)

def answers (steps : List Step) : List Answer := (runFrom .empty steps).2

end RegisterMap.Session
