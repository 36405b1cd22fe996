import RegisterMap.Files.Basic
import RegisterMap.Generate

/-!
# Faults of a task

A task fails on a file, on what the file holds, or because generated code is
out of date. A message names the path before the cause.
-/

namespace RegisterMap

inductive TaskFault where
  | read (path : Text) (fault : FileFault)
  | load (path : Text) (fault : DocumentFault)
  | layout (path : Text) (fault : LayoutFault)
  | write (path : Text) (fault : FileFault)
  /-- The outputs that differ from what is generated. -/
  | stale (outputs : List Text)
  deriving DecidableEq, Repr

def TaskFault.message : TaskFault → Text
  | read path f => "Failed to read ".toList ++ path ++ ": ".toList ++ f.message
  | load path f => "Failed to load ".toList ++ path ++ ": ".toList ++ f.message
  | layout path f => "Failed to generate registers from ".toList ++ path ++ ": ".toList ++ f.message
  | write path f => "Failed to write ".toList ++ path ++ ": ".toList ++ f.message
  | stale outputs =>
    "Generated registers are stale: ".toList ++ Text.join ", ".toList outputs ++
      ". Run `cargo xtask reg-gen-driver`".toList

end RegisterMap
