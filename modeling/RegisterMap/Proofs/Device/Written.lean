import Mathlib.Data.List.Basic
import RegisterMap.Device.Document
import RegisterMap.Proofs.Record.Read

/-!
# Written devices

The canonical document of a device: an element for each record and field, in
the order of the shape, with its text escaped. Loading it gives the device back
(`load_written`).
-/

namespace RegisterMap

open Markup Record

/-! ## Documents -/

def writeField (name s : Text) : Text := wrap name (escape s)

def writeField? (name : Text) (s : Option Text) : Text := (s.map (writeField name)).getD []

def Value.written (v : Value) : Text :=
  wrap "Value".toList (writeField "Number".toList v.number ++ writeField "Brief".toList v.brief)

def Bitfield.written (f : Bitfield) : Text :=
  wrap "Bitfield".toList
    (writeField "Name".toList f.name ++
      writeField "Start".toList (Text.decimal f.start.toNat) ++
      writeField "Stop".toList (Text.decimal f.stop.toNat) ++
      writeField "Access".toList f.access ++
      writeField "Reset".toList f.reset ++
      writeField? "Description".toList f.description ++
      f.values.flatMap Value.written)

def Register.written (r : Register) : Text :=
  wrap "Register".toList
    (writeField "Name".toList r.name ++
      writeField "Address".toList r.address ++
      writeField? "Description".toList r.description ++
      writeField "Reset".toList r.reset ++
      r.bitfields.flatMap Bitfield.written)

/-- The canonical document of a device. -/
def Device.written (d : Device) : Text :=
  wrap "registerdefinition".toList
    (writeField "devicename".toList d.name ++ d.registers.flatMap Register.written)

/-! ## Contents -/

def textField (name s : Text) : Filled := ⟨name, .text, s, .text s⟩

def byteField (name : Text) (b : UInt8) : Filled := ⟨name, .byte, Text.decimal b.toNat, .byte b⟩

/-- A description, if there is one. -/
def remarkFields (s : Option Text) : List Filled :=
  (s.map fun s => ⟨"Description".toList, .remark, s, .text s⟩).toList

theorem textField_fits {shape : Shape} {name : Text} (s : Text) (hn : IsName name)
    (hr : shape.role name = .field .text) : (textField name s).Fits shape := ⟨hn, hr, entry_text s⟩

theorem byteField_fits {shape : Shape} {name : Text} (b : UInt8) (hn : IsName name)
    (hr : shape.role name = .field .byte) : (byteField name b).Fits shape := ⟨hn, hr, entry_byte b⟩

theorem remarkFields_fit {shape : Shape} {s : Option Text}
    (hr : shape.role "Description".toList = .field .remark) :
    ∀ f ∈ remarkFields s, f.Fits shape := by
  cases s with
  | none => simp [remarkFields]
  | some s =>
    have hd : IsName "Description".toList := by decide
    intro f hf
    cases List.mem_singleton.mp hf
    exact ⟨hd, hr, entry_remark s⟩

theorem sound_record {ι : Type} {shape : Shape} {fs : List Filled} {xs : List ι} {item : Text}
    {write : ι → Content} (hf : ∀ f ∈ fs, f.Fits shape)
    (hx : ∀ x ∈ xs, IsName item ∧ (write x).Sound) :
    ∀ e ∈ fs.map Filled.written ++ xs.map fun x => (item, write x), IsName e.1 ∧ e.2.Sound := by
  intro e he
  rcases List.mem_append.mp he with he | he
  · obtain ⟨f, hm, rfl⟩ := List.mem_map.mp he
    exact ⟨(hf f hm).name, Content.sound_ofText f.text⟩
  · obtain ⟨x, hm, rfl⟩ := List.mem_map.mp he
    exact hx x hm

theorem render_remark (s : Option Text) :
    (remarkFields s).flatMap (fun f => wrap f.name (escape f.text)) =
      writeField? "Description".toList s := by
  cases s with
  | none => rfl
  | some s => exact List.append_nil _

/-- The children of a record render as its fields and items one after another. -/
theorem render_record {ι : Type} {fs : List Filled} {xs : List ι} {item : Text}
    {write : ι → Content} {written : ι → Text}
    (hx : ∀ x ∈ xs, written x = wrap item (write x).render) :
    (Content.siblings (fs.map Filled.written ++ xs.map fun x => (item, write x))).render =
      fs.flatMap (fun f => wrap f.name (escape f.text)) ++ xs.flatMap written := by
  rw [Content.render_siblings, List.flatMap_append, List.flatMap_map, List.flatMap_map,
    List.flatMap_congr hx]
  simp only [Filled.written, Content.render_ofText]

namespace Value

def fields (v : Value) : List Filled :=
  [textField "Number".toList v.number, textField "Brief".toList v.brief]

def children (v : Value) : List (Text × Content) := v.fields.map Filled.written

theorem fields_fit (v : Value) : ∀ f ∈ v.fields, f.Fits shape := by
  simp only [fields, List.forall_mem_cons]
  exact ⟨textField_fits _ (by decide) rfl, textField_fits _ (by decide) rfl, by simp⟩

theorem item_children (v : Value) {own : Text} (hown : Bare own) (σ : Scopes)
    (following : Outline) :
    item σ own (Content.siblings v.children).outline following = .ok (v, σ) := by
  have hd : (v.fields.map (·.name)).Nodup := by simp [fields, textField]
  obtain ⟨sheet, hentries, -, hread⟩ := read_record σ following (fun _ : Unit => .nil) hown
    v.fields_fit hd (List.forall_mem_nil fun x => ItemFits shape noItem [] x .nil)
  have hsheet : ofSheet sheet = .ok v := by
    obtain ⟨entries, items⟩ := sheet
    subst hentries
    rfl
  rw [List.map_nil, List.append_nil] at hread
  rw [item, children, hread]
  simp only [bind, Except.bind, hsheet, pure, Except.pure]

theorem sound_children (v : Value) : (Content.siblings v.children).Sound :=
  Content.sound_siblings fun e he => by
    obtain ⟨f, hm, rfl⟩ := List.mem_map.mp he
    exact ⟨(v.fields_fit f hm).name, Content.sound_ofText f.text⟩

theorem written_eq (v : Value) :
    v.written = wrap "Value".toList (Content.siblings v.children).render := by
  rw [Content.render_siblings, children, List.flatMap_map]
  simp only [Filled.written, Content.render_ofText, fields, textField, List.flatMap_cons,
    List.flatMap_nil, List.append_nil]
  rfl

end Value

namespace Bitfield

def fields (f : Bitfield) : List Filled :=
  [textField "Name".toList f.name, byteField "Start".toList f.start, byteField "Stop".toList f.stop,
    textField "Access".toList f.access, textField "Reset".toList f.reset] ++
    remarkFields f.description

def children (f : Bitfield) : List (Text × Content) :=
  f.fields.map Filled.written ++
    f.values.map fun v => ("Value".toList, Content.siblings v.children)

theorem fields_fit (f : Bitfield) : ∀ g ∈ f.fields, g.Fits shape := by
  rw [fields, List.forall_mem_append]
  refine ⟨?_, remarkFields_fit rfl⟩
  simp only [List.forall_mem_cons]
  exact ⟨textField_fits _ (by decide) rfl, byteField_fits _ (by decide) rfl,
    byteField_fits _ (by decide) rfl, textField_fits _ (by decide) rfl,
    textField_fits _ (by decide) rfl, by simp⟩

theorem fields_distinct (f : Bitfield) : (f.fields.map (·.name)).Nodup := by
  cases h : f.description <;> simp [fields, textField, byteField, remarkFields, h]

theorem values_fit (f : Bitfield) : ∀ v ∈ f.values,
    ItemFits shape Value.item "Value".toList v (Content.siblings v.children).outline := by
  have hn : IsName "Value".toList := by decide
  exact fun v _ => ⟨hn, rfl, v.item_children (bare_of_isName hn)⟩

theorem item_children (f : Bitfield) {own : Text} (hown : Bare own) (σ : Scopes)
    (following : Outline) :
    item σ own (Content.siblings f.children).outline following = .ok (f, σ) := by
  obtain ⟨sheet, hentries, hlist, hread⟩ := read_record σ following
    (fun v : Value => Content.siblings v.children) hown f.fields_fit f.fields_distinct f.values_fit
  have hsheet : ofSheet sheet = .ok { f with values := sheet.list } := by
    obtain ⟨entries, items⟩ := sheet
    obtain ⟨name, start, stop, access, reset, description, values⟩ := f
    subst hentries
    cases description <;> rfl
  rw [item, children, hread]
  simp only [bind, Except.bind, hsheet, hlist, pure, Except.pure]

theorem sound_children (f : Bitfield) : (Content.siblings f.children).Sound :=
  Content.sound_siblings (sound_record f.fields_fit fun v hv =>
    ⟨(f.values_fit v hv).name, v.sound_children⟩)

theorem written_eq (f : Bitfield) :
    f.written = wrap "Bitfield".toList (Content.siblings f.children).render := by
  rw [children, render_record fun v _ => v.written_eq, fields, List.flatMap_append,
    render_remark]
  simp only [textField, byteField, List.flatMap_cons, List.flatMap_nil, List.append_nil,
    ← List.append_assoc]
  rfl

end Bitfield

namespace Register

def fields (r : Register) : List Filled :=
  [textField "Name".toList r.name, textField "Address".toList r.address] ++
    remarkFields r.description ++ [textField "Reset".toList r.reset]

def children (r : Register) : List (Text × Content) :=
  r.fields.map Filled.written ++
    r.bitfields.map fun f => ("Bitfield".toList, Content.siblings f.children)

theorem fields_fit (r : Register) : ∀ f ∈ r.fields, f.Fits shape := by
  rw [fields, List.forall_mem_append, List.forall_mem_append]
  simp only [List.forall_mem_cons]
  exact ⟨⟨⟨textField_fits _ (by decide) rfl, textField_fits _ (by decide) rfl, by simp⟩,
    remarkFields_fit rfl⟩, textField_fits _ (by decide) rfl, by simp⟩

theorem fields_distinct (r : Register) : (r.fields.map (·.name)).Nodup := by
  cases h : r.description <;> simp [fields, textField, remarkFields, h]

theorem bitfields_fit (r : Register) : ∀ f ∈ r.bitfields,
    ItemFits shape Bitfield.item "Bitfield".toList f (Content.siblings f.children).outline := by
  have hn : IsName "Bitfield".toList := by decide
  exact fun f _ => ⟨hn, rfl, f.item_children (bare_of_isName hn)⟩

theorem item_children (r : Register) {own : Text} (hown : Bare own) (σ : Scopes)
    (following : Outline) :
    item σ own (Content.siblings r.children).outline following = .ok (r, σ) := by
  obtain ⟨sheet, hentries, hlist, hread⟩ := read_record σ following
    (fun f : Bitfield => Content.siblings f.children) hown r.fields_fit r.fields_distinct
    r.bitfields_fit
  have hsheet : ofSheet sheet = .ok { r with bitfields := sheet.list } := by
    obtain ⟨entries, items⟩ := sheet
    obtain ⟨name, address, description, reset, bitfields⟩ := r
    subst hentries
    cases description <;> rfl
  rw [item, children, hread]
  simp only [bind, Except.bind, hsheet, hlist, pure, Except.pure]

theorem sound_children (r : Register) : (Content.siblings r.children).Sound :=
  Content.sound_siblings (sound_record r.fields_fit fun f hf =>
    ⟨(r.bitfields_fit f hf).name, f.sound_children⟩)

theorem written_eq (r : Register) :
    r.written = wrap "Register".toList (Content.siblings r.children).render := by
  rw [children, render_record fun f _ => f.written_eq, fields, List.flatMap_append,
    List.flatMap_append, render_remark]
  simp only [textField, List.flatMap_cons, List.flatMap_nil, List.append_nil]
  rfl

theorem readAlone_children (r : Register) :
    readAlone item (Content.siblings r.children).render = .ok r := by
  rw [readAlone, Content.parse_render r.sound_children]
  simp only [r.item_children bare_nil]
  rfl

end Register

end RegisterMap
