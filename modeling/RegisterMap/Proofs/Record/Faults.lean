import RegisterMap.Device.Record

/-!
# Faults of reading

Markup is judged when a text is parsed. Reading a record from what has been
parsed has faults of its own, but none of markup (`clear_read`).
-/

namespace RegisterMap.Record

open Markup

def Fault.ofMarkup : Fault → Bool
  | badMarkup _ => true
  | _ => false

variable {α β : Type} {x : Except Fault α}

/-- Fails, if at all, with no fault of markup. -/
def Clear (x : Except Fault α) : Prop := ∀ e, x = .error e → e.ofMarkup = false

theorem clear_ok (a : α) : Clear (.ok a : Except Fault α) := fun _ h => by cases h

theorem clear_error {e : Fault} (h : e.ofMarkup = false) : Clear (.error e : Except Fault α) :=
  fun _ he => by cases he; exact h

theorem Clear.bind {f : α → Except Fault β} (hx : Clear x) (hf : ∀ a, Clear (f a)) :
    Clear (x >>= f) := by
  cases x with
  | error e => exact clear_error (hx e rfl)
  | ok a => exact hf a

theorem Clear.map {f : α → β} (hx : Clear x) : Clear (x.map f) := by
  cases x with
  | error e => exact clear_error (hx e rfl)
  | ok a => exact clear_ok (f a)

/-! ## Parts of a record -/

theorem clear_enter (σ : Scopes) (tag : Text) : Clear (enter σ tag) := by
  unfold enter
  split
  · exact clear_error rfl
  · exact clear_ok _

theorem clear_run (afterTag : Bool) (ps : List Passage) : Clear (run afterTag ps) := by
  unfold run
  split
  · exact clear_ok _
  · exact clear_error rfl

theorem clear_scalarAfter (text : Text) (o : Outline) : Clear (scalarAfter text o) := by
  induction o generalizing text with
  | nil => exact clear_ok text
  | run ps rest ih => exact (clear_run true ps).bind fun t => ih _
  | doctype rest ih => exact ih text
  | element tag inner rest => exact (clear_enter [] tag).bind fun _ => clear_error rfl

theorem clear_entry (kind : Kind) (inner : Outline) : Clear (entry kind inner) := by
  refine (clear_scalarAfter [] inner).bind fun s => ?_
  cases kind with
  | text => exact clear_ok _
  | remark => exact clear_ok _
  | byte =>
    cases byte? s with
    | some b => exact clear_ok _
    | none => exact clear_error rfl

theorem clear_skip (σ : Scopes) (inner : Outline) : Clear (skip σ inner) := by
  unfold skip
  split
  · exact clear_ok _
  · exact clear_ok _
  · exact clear_ok _
  · exact (clear_enter σ _).bind fun _ => clear_ok _

theorem clear_checkAside (o : Outline) : Clear (checkAside o) := by
  induction o with
  | nil => exact clear_ok ()
  | run ps rest ih => exact (clear_run true ps).bind fun _ => ih
  | doctype rest ih => exact ih
  | element tag inner rest ihi ihr =>
    exact (clear_enter [] tag).bind fun _ => ihi.bind fun _ => ihr

/-! ## Records -/

variable {ι : Type} {shape : Shape} {reader : ItemReader ι} {own item : Text}
  {following : Outline}

theorem clear_takeAside (σ : Scopes) (sheet : Sheet ι) (cs : List Child) :
    Clear (takeAside shape own σ sheet cs) := by
  induction cs generalizing sheet with
  | nil => exact clear_ok sheet
  | cons c cs ih =>
    obtain ⟨tag, inner⟩ := c
    unfold takeAside
    dsimp only
    split
    · exact ih sheet
    · exact clear_error rfl
    · split
      · exact clear_error rfl
      · split
        · exact ih _
        · exact (clear_entry _ inner).bind fun e => ih _

theorem clear_readItems (hr : ∀ σ tag inner following, Clear (reader σ tag inner following))
    (σ : Scopes) (sheet : Sheet ι) (items : List ι) (aside : List Child) (o : Outline) :
    Clear (readItems shape reader own item following σ sheet items aside o) := by
  induction o generalizing σ items aside with
  | nil => exact (clear_takeAside _ _ _).bind fun _ => clear_ok _
  | run ps rest ih =>
    refine (clear_run true ps).bind fun t => ?_
    cases t with
    | none => exact ih σ items aside
    | some s => exact clear_error rfl
  | doctype rest ih => exact ih σ items aside
  | element tag inner rest _ ih =>
    refine (clear_enter [] tag).bind fun _ => ?_
    split
    · exact (hr σ tag inner rest).bind fun x => ih _ _ _
    · exact (clear_checkAside inner).bind fun _ => ih _ _ _

theorem clear_readFields (hr : ∀ σ tag inner following, Clear (reader σ tag inner following))
    (σ : Scopes) (afterTag : Bool) (sheet : Sheet ι) (o : Outline) :
    Clear (readFields shape reader own following σ afterTag sheet o) := by
  induction o generalizing σ afterTag sheet with
  | nil => exact clear_ok _
  | run ps rest ih => exact (clear_run afterTag ps).bind fun _ => ih _ _ _
  | doctype rest ih => exact ih _ _ _
  | element tag inner rest _ ih =>
    refine (clear_enter σ tag).bind fun inside => ?_
    dsimp only
    split
    · exact (clear_skip inside inner).bind fun _ => ih _ _ _
    · exact (hr σ tag inner rest).bind fun x => clear_readItems hr _ _ _ _ _
    · split
      · exact clear_error rfl
      · split
        · exact (clear_skip inside inner).bind fun _ => ih _ _ _
        · exact (clear_entry _ inner).bind fun e => ih _ _ _

/-- Reading a record has no fault of markup, if reading its items has none. -/
theorem clear_read (hr : ∀ σ tag inner following, Clear (reader σ tag inner following))
    (σ : Scopes) (tag : Text) (inner following : Outline) :
    Clear (read shape reader σ tag inner following) := by
  unfold read
  split
  · exact clear_error rfl
  · exact (clear_readFields hr _ _ _ _).bind fun _ => clear_ok _

/-! ## Sheets -/

theorem clear_text (sheet : Sheet ι) (field : Text) : Clear (sheet.text field) := by
  unfold Sheet.text
  split
  · exact clear_ok _
  · exact clear_error rfl

theorem clear_byte (sheet : Sheet ι) (field : Text) : Clear (sheet.byte field) := by
  unfold Sheet.byte
  split
  · exact clear_ok _
  · exact clear_error rfl

end RegisterMap.Record

namespace RegisterMap

open Markup Record

theorem Value.clear_item (σ : Scopes) (tag : Text) (inner following : Outline) :
    Clear (Value.item σ tag inner following) := by
  refine (clear_read (fun σ _ _ _ => clear_ok _) σ tag inner following).bind fun r => ?_
  refine Clear.bind ?_ fun _ => clear_ok _
  exact (clear_text _ _).bind fun _ => (clear_text _ _).bind fun _ => clear_ok _

theorem Bitfield.clear_item (σ : Scopes) (tag : Text) (inner following : Outline) :
    Clear (Bitfield.item σ tag inner following) := by
  refine (clear_read Value.clear_item σ tag inner following).bind fun r => ?_
  refine Clear.bind ?_ fun _ => clear_ok _
  exact (clear_text _ _).bind fun _ => (clear_byte _ _).bind fun _ => (clear_byte _ _).bind fun _ =>
    (clear_text _ _).bind fun _ => (clear_text _ _).bind fun _ => clear_ok _

theorem Register.clear_item (σ : Scopes) (tag : Text) (inner following : Outline) :
    Clear (Register.item σ tag inner following) := by
  refine (clear_read Bitfield.clear_item σ tag inner following).bind fun r => ?_
  refine Clear.bind ?_ fun _ => clear_ok _
  exact (clear_text _ _).bind fun _ => (clear_text _ _).bind fun _ => (clear_text _ _).bind fun _ =>
    clear_ok _

end RegisterMap
