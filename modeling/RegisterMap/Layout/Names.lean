import RegisterMap.Device.Basic
import RegisterMap.Text.Case

/-!
# Names of types and accessors

A register's type is named by its words, each capitalized; words stand between
underscores. A bitfield's getter is its name in lower case, and its setter has
`set_` before that. A read-only bitfield has `_` in place of a setter.
-/

namespace RegisterMap.Names

def typeName (name : Text) : Text :=
  (Text.pieces '_' name).flatMap Text.capitalized

def getter (name : Text) : Text := Text.lowercase name

/-- Stands where a read-only bitfield has no setter. -/
def noSetter : Text := ['_']

def setter (name : Text) (access : Access) : Text :=
  match access with
  | .readWrite => "set_".toList ++ getter name
  | .readOnly => noSetter

end RegisterMap.Names
