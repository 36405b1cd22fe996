import RegisterMap.Text.Blank
import RegisterMap.Text.WordTable

/-!
# Tables in prose

An opening tag is `<table`, in any case, with no word character after it; a
closing tag is `</table`, in any case, white space, and `>`. `dropTables`
removes each block from an opening tag to the first closing tag after it, from
the left. An opening tag that nothing closes is plain text.
-/

namespace RegisterMap.Prose

/-- The text does not go on with a word character. -/
def endsWord : Text → Bool
  | [] => true
  | c :: _ => !Text.isWord c

def afterOpening? (s : Text) : Option Text :=
  match Text.afterAnyCase? "<table".toList s with
  | some rest => if endsWord rest then some rest else none
  | none => none

def afterClosing? (s : Text) : Option Text :=
  match Text.afterAnyCase? "</table".toList s with
  | some rest =>
    match rest.dropWhile Text.isBlank with
    | '>' :: rest => some rest
    | _ => none
  | none => none

/-- What follows the first closing tag. -/
def closed? : Text → Option Text
  | [] => none
  | c :: s => (afterClosing? (c :: s)).or (closed? s)

/-- What follows the block that a text begins with. -/
def afterBlock? (s : Text) : Option Text := (afterOpening? s).bind closed?

theorem afterOpening?_length {s rest : Text} (h : afterOpening? s = some rest) :
    rest.length < s.length := by
  unfold afterOpening? at h
  split at h
  · rename_i r hr
    have := Text.afterAnyCase?_length hr
    split at h
    · cases h; simp at this; omega
    · cases h
  · cases h

theorem afterClosing?_length {s rest : Text} (h : afterClosing? s = some rest) :
    rest.length < s.length := by
  unfold afterClosing? at h
  split at h
  · rename_i r hr
    have hw := Text.afterAnyCase?_length hr
    split at h
    · rename_i rest' hd
      have hl := (List.dropWhile_sublist Text.isBlank (l := r)).length_le
      rw [hd] at hl
      cases h
      simp at hw hl
      omega
    · cases h
  · cases h

theorem closed?_length {s rest : Text} (h : closed? s = some rest) : rest.length < s.length := by
  induction s with
  | nil => cases h
  | cons c s ih =>
    unfold closed? at h
    cases hc : afterClosing? (c :: s) with
    | some r => rw [hc] at h; cases h; exact afterClosing?_length hc
    | none => rw [hc] at h; have := ih h; simp; omega

theorem afterBlock?_length {s rest : Text} (h : afterBlock? s = some rest) :
    rest.length < s.length := by
  obtain ⟨r, ho, hc⟩ := Option.bind_eq_some_iff.1 h
  exact Nat.lt_trans (closed?_length hc) (afterOpening?_length ho)

/-- The text less its table blocks. -/
def dropTables : Text → Text
  | [] => []
  | c :: s =>
    match _h : afterBlock? (c :: s) with
    | some rest => dropTables rest
    | none => c :: dropTables s
termination_by s => s.length
decreasing_by
  · exact afterBlock?_length _h
  · simp

end RegisterMap.Prose
