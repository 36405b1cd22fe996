import Mathlib.Data.List.Nodup
import RegisterMap.Proofs.Cell.Spans

/-!
# Runs of a cell

The fields of each cell of the driver divide its byte among them
(`divided_of_mem_all`). So a step does to a field what it says of it and nothing
else (`Divided.read_step`), and after any run a field holds what the last step
on it has left there (`Divided.read_run`).
-/

namespace RegisterMap

variable {t : CellType} {f : Field} {s : CellStep} {g h : Text}

/-- The bits of a cell are divided among its fields, each under a getter of its own. -/
structure CellType.Divided (t : CellType) : Prop where
  tiles : Field.Tiles 8 t.fields
  distinct : (t.fields.map (·.getter)).Nodup

theorem CellType.divided_of_mem_all (ht : t ∈ all) : t.Divided := by
  have hall : ∀ t ∈ all, Field.Tiles 8 t.fields ∧ (t.fields.map (·.getter)).Nodup := by decide
  exact ⟨(hall t ht).1, (hall t ht).2⟩

/-! ## What steps leave -/

/-- What a step leaves in a field: the low bits of a value set, or the bits of a byte put in. -/
def CellStep.leaves? (f : Field) : CellStep → Option Nat
  | get _ => none
  | set getter value =>
    if f.getter = getter ∧ f.writable = true then some (value.toNat % 2 ^ f.width) else none
  | replace raw => some (f.read raw)

def CellStep.replaced? : CellStep → Option UInt8
  | replace raw => some raw
  | _ => none

/-- What the last step on a field has left there. -/
def Field.held (f : Field) (start : UInt8) (steps : List CellStep) : Nat :=
  ((steps.filterMap (·.leaves? f)).getLast?).getD (f.read start)

/-- The byte last put in. -/
def lastRaw (start : UInt8) (steps : List CellStep) : UInt8 :=
  ((steps.filterMap CellStep.replaced?).getLast?).getD start

/-- The cell has no accessor for the step. -/
def CellType.Refuses (t : CellType) : CellStep → Prop
  | .get getter => ∀ f ∈ t.fields, f.getter ≠ getter
  | .set getter _ => ∀ f ∈ t.fields, f.getter = getter → f.writable = false
  | .replace _ => False

theorem Field.held_cons (f : Field) (start : UInt8) (s : CellStep) (steps : List CellStep) :
    f.held start (s :: steps) =
      ((steps.filterMap (·.leaves? f)).getLast?).getD ((s.leaves? f).getD (f.read start)) := by
  unfold held
  cases hs : s.leaves? f with
  | none =>
    rw [List.filterMap_cons_none hs]
    rfl
  | some v =>
    rw [List.filterMap_cons_some hs, List.getLast?_cons]
    rfl

/-- Only a byte that is put in is left in a field that cannot be written. -/
theorem Field.held_readOnly (hf : f.writable = false) (start : UInt8) (steps : List CellStep) :
    f.held start steps = f.read (lastRaw start steps) := by
  have hleaves : (fun s : CellStep => s.leaves? f) = fun s => s.replaced?.map f.read := by
    funext s
    cases s with
    | get getter => rfl
    | set getter value => exact if_neg fun hw => Bool.false_ne_true (hf.symm.trans hw.2)
    | replace raw => rfl
  rw [held, hleaves, lastRaw, ← List.map_filterMap, List.getLast?_map, Option.getD_map]

/-! ## Steps -/

namespace CellType.Divided

theorem field?_eq_some_iff (hd : t.Divided) : t.field? g = some f ↔ f ∈ t.fields ∧ f.getter = g := by
  constructor
  · intro hf
    exact ⟨List.mem_of_find?_eq_some hf, by simpa using List.find?_some hf⟩
  · rintro ⟨hf, rfl⟩
    cases he : t.field? f.getter with
    | none =>
      have hn : ∀ f' ∈ t.fields, f'.getter ≠ f.getter := by simpa using List.find?_eq_none.mp he
      exact absurd rfl (hn f hf)
    | some f' =>
      have hf' := List.mem_of_find?_eq_some he
      have hgetter : f'.getter = f.getter := by simpa using List.find?_some he
      rw [List.inj_on_of_nodup_map hd.distinct hf' hf hgetter]

theorem fits (hd : t.Divided) (hf : f ∈ t.fields) : f.Fits := hd.tiles.fits hf

theorem apart (hd : t.Divided) {f' : Field} (hf : f ∈ t.fields) (hf' : f' ∈ t.fields)
    (hne : f.getter ≠ f'.getter) : f.Apart f' :=
  hd.tiles.apart hf hf' fun he => hne (congrArg Field.getter he)

/-- A field that can be written is written, and nothing else is changed by a setter. -/
theorem step_set (hd : t.Divided) (raw : UInt8) (g : Text) (v : Reading) :
    (∃ f ∈ t.fields, f.getter = g ∧ f.writable = true ∧
      t.step raw (.set g v) = (f.write raw v.toNat, .raw (f.write raw v.toNat))) ∨
    (t.Refuses (.set g v) ∧ t.step raw (.set g v) = (raw, .noAccessor)) := by
  cases he : t.field? g with
  | none =>
    have hnone : ∀ f ∈ t.fields, f.getter ≠ g := by simpa using List.find?_eq_none.mp he
    exact .inr ⟨fun f hf hg => absurd hg (hnone f hf), by rw [step, he]⟩
  | some f =>
    obtain ⟨hf, hg⟩ := hd.field?_eq_some_iff.mp he
    cases hw : f.writable with
    | true => exact .inl ⟨f, hf, hg, hw, by rw [step, he]; simp only [hw, ↓reduceIte]⟩
    | false =>
      refine .inr ⟨fun f' hf' hg' => ?_, by rw [step, he]; simp only [hw, Bool.false_eq_true, ↓reduceIte]⟩
      rw [List.inj_on_of_nodup_map hd.distinct hf' hf (hg'.trans hg.symm), hw]

theorem step_get (hd : t.Divided) (raw : UInt8) (g : Text) :
    (∃ f ∈ t.fields, f.getter = g ∧ t.step raw (.get g) = (raw, .value (f.reading raw))) ∨
    (t.Refuses (.get g) ∧ t.step raw (.get g) = (raw, .noAccessor)) := by
  cases he : t.field? g with
  | none =>
    have hnone : ∀ f ∈ t.fields, f.getter ≠ g := by simpa using List.find?_eq_none.mp he
    exact .inr ⟨hnone, by rw [step, he]⟩
  | some f =>
    obtain ⟨hf, hg⟩ := hd.field?_eq_some_iff.mp he
    exact .inl ⟨f, hf, hg, by rw [step, he]⟩

theorem step_getter (hd : t.Divided) (hf : f ∈ t.fields) (raw : UInt8) :
    t.step raw (.get f.getter) = (raw, .value (f.reading raw)) := by
  rw [step, hd.field?_eq_some_iff.mpr ⟨hf, rfl⟩]

/-- A step leaves in a field what it says, and else what was there. -/
theorem read_step (hd : t.Divided) (hf : f ∈ t.fields) (raw : UInt8) (s : CellStep) :
    f.read (t.step raw s).1 = (s.leaves? f).getD (f.read raw) := by
  cases s with
  | get g =>
    rcases hd.step_get raw g with ⟨f', -, -, he⟩ | ⟨-, he⟩
    · rw [he]
      rfl
    · rw [he]
      rfl
  | set g v =>
    rcases hd.step_set raw g v with ⟨f', hf', rfl, hw, he⟩ | ⟨hr, he⟩
    · rw [he]
      by_cases hg : f.getter = f'.getter
      · have hff' : f = f' := List.inj_on_of_nodup_map hd.distinct hf hf' hg
        subst hff'
        rw [CellStep.leaves?, if_pos ⟨rfl, hw⟩]
        exact Field.read_write (hd.fits hf) raw v.toNat
      · rw [CellStep.leaves?, if_neg fun h => hg h.1]
        exact Field.read_write_apart (hd.fits hf') (hd.fits hf)
          (hd.apart hf' hf (Ne.symm hg)) raw v.toNat
    · have hn : ¬ (f.getter = g ∧ f.writable = true) := by
        rintro ⟨hg, hw⟩
        rw [hr f hf hg] at hw
        cases hw
      rw [he, CellStep.leaves?, if_neg hn]
      rfl
  | replace raw' => rfl

/-- A step that the cell refuses has no accessor and changes nothing. -/
theorem step_refused (hd : t.Divided) (raw : UInt8) (s : CellStep) :
    (t.Refuses s → (t.step raw s).1 = raw) ∧ ((t.step raw s).2 = .noAccessor ↔ t.Refuses s) := by
  cases s with
  | get g =>
    rcases hd.step_get raw g with ⟨f, hf, hg, he⟩ | ⟨hr, he⟩
    · rw [he]
      exact ⟨fun _ => rfl, iff_of_false nofun fun hr => hr f hf hg⟩
    · rw [he]
      exact ⟨fun _ => rfl, iff_of_true rfl hr⟩
  | set g v =>
    rcases hd.step_set raw g v with ⟨f, hf, hg, hw, he⟩ | ⟨hr, he⟩
    · have hn : ¬ t.Refuses (.set g v) := fun hr => by
        rw [hr f hf hg] at hw
        cases hw
      rw [he]
      exact ⟨fun hr => absurd hr hn, iff_of_false nofun hn⟩
    · rw [he]
      exact ⟨fun _ => rfl, iff_of_true rfl hr⟩
  | replace raw' => exact ⟨nofun, iff_of_false nofun nofun⟩

theorem step_comm (hd : t.Divided) (hne : g ≠ h) (raw : UInt8) (v w : Reading) :
    (t.step (t.step raw (.set g v)).1 (.set h w)).1 =
      (t.step (t.step raw (.set h w)).1 (.set g v)).1 := by
  rcases hd.step_set raw g v with ⟨f, hf, rfl, hw, hset⟩ | ⟨hr, hset⟩
  · rcases hd.step_set raw h w with ⟨f', hf', rfl, hw', hset'⟩ | ⟨hr', hset'⟩
    · have set_f (raw : UInt8) : (t.step raw (.set f.getter v)).1 = f.write raw v.toNat := by
        rw [step, hd.field?_eq_some_iff.mpr ⟨hf, rfl⟩]
        simp only [hw, ↓reduceIte]
      have set_f' (raw : UInt8) : (t.step raw (.set f'.getter w)).1 = f'.write raw w.toNat := by
        rw [step, hd.field?_eq_some_iff.mpr ⟨hf', rfl⟩]
        simp only [hw', ↓reduceIte]
      rw [set_f, set_f', set_f', set_f]
      exact Field.write_comm (hd.fits hf) (hd.fits hf') (hd.apart hf hf' hne) raw _ _
    · rw [hset', (hd.step_refused _ _).1 hr']
  · rw [hset, (hd.step_refused _ (.set g v)).1 hr]

/-! ## Runs -/

/-- After a run a field reads what the last step on it has left there. -/
theorem read_run (hd : t.Divided) (hf : f ∈ t.fields) (start : UInt8) (steps : List CellStep) :
    f.read (t.run start steps).1 = f.held start steps := by
  induction steps generalizing start with
  | nil => rfl
  | cons s steps ih =>
    show f.read (t.run (t.step start s).1 steps).1 = _
    rw [ih, Field.held_cons, ← hd.read_step hf]
    rfl

end CellType.Divided

theorem CellType.run_append (t : CellType) (start : UInt8) (steps after : List CellStep) :
    (t.run start (steps ++ after)).1 = (t.run (t.run start steps).1 after).1 := by
  induction steps generalizing start with
  | nil => rfl
  | cons s steps ih => exact ih (t.step start s).1

/--
After any run of a cell of the driver

* a getter gives what the last step on its field has left there,
* the bits of a field that cannot be written are those of the byte last put in,
* the byte is the sum of what its fields hold, each at its place,
* a step fails where the cell has no accessor for it, and may then be left out,
* two neighbouring setters of different fields may change places.
-/
theorem CellType.run_recalls (ht : t ∈ all) (start : UInt8) (steps : List CellStep) :
    (∀ f ∈ t.fields, t.step (t.run start steps).1 (.get f.getter) = ((t.run start steps).1,
      .value (if f.width = 1 then .flag (f.held start steps = 1)
        else .number (f.held start steps)))) ∧
    (∀ f ∈ t.fields, f.writable = false → ∀ i, f.Has i →
      (t.run start steps).1.toNat.testBit i = (lastRaw start steps).toNat.testBit i) ∧
    (t.run start steps).1.toNat = (t.fields.map fun f => f.held start steps * 2 ^ f.lsb).sum ∧
    (∀ s, ((t.step (t.run start steps).1 s).2 = .noAccessor ↔ t.Refuses s) ∧
      (t.Refuses s → ∀ after,
        (t.run start (steps ++ s :: after)).1 = (t.run start (steps ++ after)).1)) ∧
    ∀ g h v w after, g ≠ h →
      (t.run start (steps ++ .set g v :: .set h w :: after)).1 =
        (t.run start (steps ++ .set h w :: .set g v :: after)).1 := by
  have hd := divided_of_mem_all ht
  refine ⟨fun f hf => ?_, fun f hf hw i hi => ?_, ?_, fun s => ⟨?_, fun hr after => ?_⟩,
    fun g h v w after hne => ?_⟩
  · rw [hd.step_getter hf, Field.reading, hd.read_run hf]
  · -- the bit is seen through the field
    have hread : f.read (t.run start steps).1 = f.read (lastRaw start steps) :=
      (hd.read_run hf start steps).trans (f.held_readOnly hw start steps)
    have hbit := congrArg (Nat.testBit · (i - f.lsb)) hread
    have hin : i - f.lsb < f.width := by
      obtain ⟨hlow, hhigh⟩ := hi
      unfold Field.width
      omega
    simpa only [Field.testBit_read, hin, decide_true, Bool.true_and, Nat.sub_add_cancel hi.1]
      using hbit
  · have hsum := hd.tiles.sum (t.run start steps).1
    rw [Nat.mod_eq_of_lt (UInt8.toNat_lt _)] at hsum
    rw [hsum]
    refine congrArg List.sum (List.map_congr_left fun f hf => ?_)
    rw [hd.read_run hf]
  · exact (hd.step_refused _ s).2
  · rw [run_append, run_append]
    show (t.run (t.step _ s).1 after).1 = _
    rw [(hd.step_refused _ s).1 hr]
  · rw [run_append, run_append]
    show (t.run (t.step (t.step _ (.set g v)).1 (.set h w)).1 after).1 = _
    rw [hd.step_comm hne]
    rfl

theorem CellType.run_recalls_fifoCfg :
    fifoCfg ∈ all ∧ fifoCfg.step
      (fifoCfg.run 0x80 [.set "fifo_thr".toList (.number 0x1FF), .get "sync".toList]).1
      (.get "fifo_thr".toList) = (0xFF, .value (.number 0x7F)) := by
  have ht : fifoCfg ∈ all := by decide
  refine ⟨ht, ?_⟩
  have hget := (run_recalls ht 0x80
    [.set "fifo_thr".toList (.number 0x1FF), .get "sync".toList]).1 ⟨"fifo_thr".toList, 6, 0, true⟩
    (by decide)
  exact hget.trans (by decide)

end RegisterMap
