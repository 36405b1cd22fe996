import RegisterMap.Markup.Token

/-!
# Attributes

The attributes of a tag follow its name. A fault does not end them: reading
goes on at the next place where a key can begin. Positions in faults count
bytes from the start of the tag.
-/

namespace RegisterMap.Markup

inductive AttributeFault where
  | noEquals (position : Nat)
  | noValue (position : Nat)
  | unquoted (position : Nat)
  | openQuote (position : Nat) (quote : Char)
  | duplicate (position first : Nat)
  deriving DecidableEq, Repr

/-- A key, and a value with its references as written. -/
structure Attribute where
  key : Text
  value : Text
  deriving DecidableEq, Repr

def AttributeFault.message : AttributeFault → Text
  | noEquals p => place p ++ "attribute key must be directly followed by `=` or space".toList
  | noValue p => place p ++ "`=` must be followed by an attribute value".toList
  | unquoted p => place p ++ "attribute value must be enclosed in `\x22` or `'`".toList
  | openQuote p q =>
    place p ++ "missing closing quote `".toList ++ [q] ++ "` in attribute value".toList
  | duplicate p first =>
    place p ++ "duplicated attribute, previous declaration at position ".toList ++
      Text.decimal first
where
  place (p : Nat) : Text := "position ".toList ++ Text.decimal p ++ ": ".toList

/-- A place in a tag: the bytes before it, and the text from there on. -/
structure Place where
  position : Nat
  rest : Text

/-- The place after the characters of a class. -/
def Place.skip (p : Char → Bool) (a : Place) : Place :=
  ⟨a.position + Text.byteSize (a.rest.takeWhile p), a.rest.dropWhile p⟩

theorem Place.skip_length (p : Char → Bool) (a : Place) :
    (a.skip p).rest.length ≤ a.rest.length :=
  (List.dropWhile_sublist p).length_le

/-- A key character. -/
def isKey (c : Char) : Bool := !(c == '=' || isBlank c)

/-- The place of the next white space. -/
def Place.toBlank (a : Place) : Place := a.skip (!isBlank ·)

/-- Keys read so far, each with the position of its first use. -/
abbrev Keys := List (Text × Nat)

/-- What is found at a key, and the place where the next key is looked for. -/
abbrev Found := Except AttributeFault Attribute × Option Place

/-- The value after a key and its `=`. -/
def readValue (key : Text) (a : Place) : Found :=
  match a.rest with
  | [] => (.error (.noValue a.position), none)
  | q :: s =>
    if q = '\x22' ∨ q = '\x27' then
      match s.dropWhile (· ≠ q) with
      | [] => (.error (.openQuote (a.position + Text.byteSize a.rest) q), none)
      | _ :: rest =>
        let value := s.takeWhile (· ≠ q)
        (.ok ⟨key, value⟩, some ⟨a.position + Text.byteSize value + 2, rest⟩)
    else (.error (.unquoted a.position), some a.toBlank)

/-- The attribute of a key, with the text from the end of the key on. A missing `=` is a fault
at the place where it is looked for, past the white space after the key. -/
def readAttribute (keys : Keys) (key : Text) (start : Nat) (stop : Place) : Found × Keys :=
  let equals := stop.skip isBlank
  match equals.rest with
  | [] => ((.error (.noEquals equals.position), none), keys)
  | c :: rest =>
    if c = '=' then
      match keys.lookup key with
      | some first => ((.error (.duplicate start first), some equals.toBlank), keys)
      | none =>
        (readValue key (Place.skip isBlank ⟨equals.position + 1, rest⟩), (key, start) :: keys)
    else ((.error (.noEquals equals.position), some equals), keys)

theorem readValue_length {key : Text} {a next : Place} (h : (readValue key a).2 = some next) :
    next.rest.length ≤ a.rest.length := by
  unfold readValue at h
  split at h
  · cases h
  · rename_i q s hs
    split at h
    · split at h
      · cases h
      · rename_i c rest hd
        have hl := (List.dropWhile_sublist (· ≠ q) (l := s)).length_le
        rw [hd] at hl
        cases h
        rw [hs]
        simp at hl ⊢
        omega
    · cases h
      exact Place.skip_length _ _

theorem readAttribute_length {keys : Keys} {key : Text} {start : Nat} {stop next : Place}
    (h : (readAttribute keys key start stop).1.2 = some next) :
    next.rest.length ≤ stop.rest.length := by
  have hb := Place.skip_length isBlank stop
  simp only [readAttribute] at h
  split at h
  · cases h
  · rename_i c rest hr
    split at h
    · split at h
      · cases h
        exact Nat.le_trans (Place.skip_length _ _) hb
      · have hv := readValue_length h
        have hs := Place.skip_length isBlank ⟨(stop.skip isBlank).position + 1, rest⟩
        rw [hr] at hb
        simp at hb hs
        omega
    · cases h
      exact hb

/-- The attributes and faults from a place on. Where `unique`, a repeated key is a fault. -/
def attributesFrom (unique : Bool) (keys : Keys) (a : Place) :
    List (Except AttributeFault Attribute) :=
  match _h : (a.skip isBlank).rest with
  | [] => []
  | c :: s =>
    let start := (a.skip isBlank).position
    let key := c :: s.takeWhile isKey
    let stop : Place := ⟨start + Text.byteSize key, s.dropWhile isKey⟩
    match _hn : readAttribute (if unique then keys else []) key start stop with
    | ((found, none), _) => [found]
    | ((found, some next), keys) => found :: attributesFrom unique keys next
termination_by a.rest.length
decreasing_by
  have hb := Place.skip_length isBlank a
  have hk := (List.dropWhile_sublist isKey (l := s)).length_le
  have hl : next.rest.length ≤ (s.dropWhile isKey).length :=
    readAttribute_length (congrArg (·.1.2) _hn)
  rw [_h] at hb
  simp at hb
  omega

/-- The attributes and faults of a tag. Where `unique`, a repeated key is a fault. -/
def attributes (unique : Bool) (tag : Text) : List (Except AttributeFault Attribute) :=
  attributesFrom unique [] ⟨Text.byteSize (tagName tag), tag.dropWhile (!isBlank ·)⟩

def attributeFault? (tag : Text) : Option AttributeFault :=
  (attributes true tag).findSome? fun
    | .error e => some e
    | .ok _ => none

end RegisterMap.Markup
