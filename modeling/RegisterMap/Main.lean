import RegisterMap.Command.Run

/-!
# The program

Takes a snapshot of the files that a command line is about, runs the program on
it, and writes back the output that has changed. The project's root is the
current directory.
-/

namespace RegisterMap

def Main.root : Text := ['.']

/-- The paths that a command reads and writes. -/
def Command.paths (root : Text) : Command → List Text
  | regGen input output _ => input :: output.toList
  | _ => Target.driver.flatMap fun t => [t.sourcePath root, t.outputPath root]

namespace Main

/-- What stands at a path of the system. -/
def probe (path : Text) : IO (Option Node) := do
  try
    let bytes ← IO.FS.readBinFile (String.ofList path)
    return some (.file (.ofBytes bytes.toList))
  catch
    | .noFileOrDirectory .. => return none
    | _ => return some .directory

/-- Adds what stands on the way of the names after `path`. -/
def snapshot (fs : Files) (path : Text) (spot : Spot) : List Text → IO Files
  | [] => return fs
  | name :: names => do
    let path := path ++ name
    if name = [] ∨ name = ['.'] then snapshot fs (path ++ ['/']) spot names
    else if name = Spot.up then snapshot fs (path ++ ['/']) spot.parent names
    else
      let here := spot ++ [name]
      snapshot (fs.set here (← probe path)) (path ++ ['/']) here names

def filesOf : Except UsageFault Request → IO Files
  | .ok (.run _ command) =>
    (command.paths root).foldlM (fun fs path => snapshot fs [] (Spot.start path) (Text.pieces '/' path)) .empty
  | _ => return .empty

/-- Writes the file at a path if it has changed. -/
def writeBack (before after : Files) (path : Text) : IO Unit := do
  match before.read path, after.read path with
  | .ok old, .ok new =>
    if old ≠ new then IO.FS.writeFile (String.ofList path) (String.ofList new)
  | .error _, .ok new => IO.FS.writeFile (String.ofList path) (String.ofList new)
  | _, _ => return

end Main

end RegisterMap

open RegisterMap in
def main (args : List String) : IO UInt32 := do
  let args := args.map String.toList
  let request := Request.ofArguments args
  let files ← Main.filesOf request
  let r := run files Main.root args
  if let .ok (.run _ command) := request then
    for path in command.paths Main.root do
      Main.writeBack files r.files path
  IO.print (String.ofList r.stdout)
  unless r.stderr.isEmpty do
    IO.eprintln (String.ofList r.stderr)
  return UInt32.ofNat r.exit
