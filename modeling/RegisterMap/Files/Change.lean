import RegisterMap.Files.Basic

/-!
# Changes to a file tree

Directories are made with those above them. Removing a directory removes what
it holds.
-/

namespace RegisterMap.Files

/-- Makes a directory of every spot on the way of the names that is free. -/
def makeDirectories (fs : Files) (spot : Spot) : List Text → Files
  | [] => fs
  | name :: names =>
    if name = [] ∨ name = ['.'] then fs.makeDirectories spot names
    else if name = Spot.up then fs.makeDirectories spot.parent names
    else
      let here := spot ++ [name]
      let fs := if (fs.node? here).isNone then fs.set here (some .directory) else fs
      fs.makeDirectories here names

def makeDirectory (fs : Files) (path : Text) : Files :=
  fs.makeDirectories (Spot.start path) (Text.pieces '/' path)

def makeParents (fs : Files) (path : Text) : Files :=
  fs.makeDirectories (Spot.start path) (Text.pieces '/' path).dropLast

/-- Writes a file and the directories above it. -/
def place (fs : Files) (path : Text) (content : FileContent) : Except FileFault Files :=
  (fs.makeParents path).write path content

/-- Removes a file, or a directory with all it holds. -/
def remove (fs : Files) (path : Text) : Except FileFault Files := do
  let spot ← fs.spot path
  return ⟨fun s => if spot.isPrefixOf s then none else fs.node s⟩

end RegisterMap.Files
