import RegisterMap.Text.Basic

/-!
# File trees

A tree maps spots to files and directories. A path is walked name by name from
the current directory, or from the root if it begins with a slash: every name
before the last must be a directory's, `.` stays and `..` goes back. What a path
leads to is a `Spot`, which need not exist.
-/

namespace RegisterMap

/-- What a file holds: UTF-8 text, or bytes that are none. -/
inductive FileContent where
  | text (s : Text)
  | bytes (bs : List UInt8)
  deriving DecidableEq, Repr

def FileContent.ofBytes (bs : List UInt8) : FileContent :=
  match String.fromUTF8? ⟨bs.toArray⟩ with
  | some s => .text s.toList
  | none => .bytes bs

inductive Node where
  | file (content : FileContent)
  | directory
  deriving DecidableEq, Repr

inductive FileFault where
  | notFound
  | isDirectory
  | notDirectory
  | notText
  deriving DecidableEq, Repr

def FileFault.message : FileFault → Text
  | notFound => "No such file or directory (os error 2)".toList
  | isDirectory => "Is a directory (os error 21)".toList
  | notDirectory => "Not a directory (os error 20)".toList
  | notText => "stream did not contain valid UTF-8".toList

/-- The names on the way from the current directory, after one `..` for each
directory above it, or after `/` for the root. -/
abbrev Spot := List Text

namespace Spot

def root : Spot := [['/']]

def up : Text := ['.', '.']

/-- The current directory, one above it, or the root. -/
def isBase (s : Spot) : Bool := s == root || s.all (· == up)

/-- The spot that holds a spot. The root holds itself. -/
def parent (s : Spot) : Spot :=
  if s = root then root
  else if s.isBase then s ++ [up]
  else s.dropLast

def start (path : Text) : Spot := if path.head? = some '/' then root else []

end Spot

/-- A base is a directory of every tree, whatever the map says of it. -/
structure Files where
  node : Spot → Option Node

namespace Files

/-- Nothing but the bases. -/
def empty : Files := ⟨fun _ => none⟩

def node? (fs : Files) (spot : Spot) : Option Node :=
  if spot.isBase then some .directory else fs.node spot

/-- Puts a node at a spot, or takes it away. -/
def set (fs : Files) (spot : Spot) (node : Option Node) : Files :=
  ⟨fun s => if s = spot then node else fs.node s⟩

/-- Where names lead from a spot that is a directory. -/
def walk (fs : Files) (spot : Spot) : List Text → Except FileFault Spot
  | [] => .ok spot
  | name :: names =>
    if name = [] ∨ name = ['.'] then fs.walk spot names
    else if name = Spot.up then fs.walk spot.parent names
    else
      match fs.node? (spot ++ [name]), names with
      | some .directory, names => fs.walk (spot ++ [name]) names
      | some (.file _), [] => .ok (spot ++ [name])
      | some (.file _), _ :: _ => .error .notDirectory
      | none, [] => .ok (spot ++ [name])
      | none, _ :: _ => .error .notFound

/-- Where a path leads. -/
def spot (fs : Files) (path : Text) : Except FileFault Spot :=
  if path = [] then .error .notFound else fs.walk (Spot.start path) (Text.pieces '/' path)

/-- The text of the file that a path leads to. -/
def read (fs : Files) (path : Text) : Except FileFault Text := do
  match fs.node? (← fs.spot path) with
  | some (.file (.text s)) => return s
  | some (.file (.bytes _)) => throw .notText
  | some .directory => throw .isDirectory
  | none => throw .notFound

/-- A path that ends in a slash after a name asks for a directory. -/
def asksDirectory (path : Text) : Bool := path.getLast? = some '/'

/-- The path less the slashes at its end. -/
def bare (path : Text) : Text := Text.trimEndBy (· == '/') path

/-- Where a path to be written leads. -/
def outputSpot (fs : Files) (path : Text) : Except FileFault Spot := do
  let spot ← fs.spot (if asksDirectory path ∧ bare path ≠ [] then bare path else path)
  if asksDirectory path ∨ fs.node? spot = some .directory then throw .isDirectory
  else return spot

def write (fs : Files) (path : Text) (content : FileContent) : Except FileFault Files := do
  return fs.set (← fs.outputSpot path) (some (.file content))

end Files

end RegisterMap
