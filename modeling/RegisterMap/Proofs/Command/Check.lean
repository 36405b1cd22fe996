import Mathlib.Tactic.ByContra
import RegisterMap.Proofs.Command.Changes

/-!
# Checked targets

Checking goes through all targets unless the code of one cannot be generated,
and keeps the outputs that do not hold the code of their sources, byte by byte.
So it succeeds exactly if every target is `Current`, reports the first fault of
generation, or else all stale outputs in order, and changes nothing
(`Target.checked`).
-/

namespace RegisterMap

open Files

variable {fs : Files} {root path text : Text} {bs : List UInt8}

/-! ## Bytes of files -/

theorem fromUTF8?_eq_some_iff {b : ByteArray} {t : String} :
    String.fromUTF8? b = some t ↔ b = t.toByteArray := by
  unfold String.fromUTF8?
  constructor
  · intro h
    split at h
    · cases h
      rfl
    · cases h
  · rintro rfl
    exact dif_pos t.isValidUTF8

/-- A file is read as the text that its bytes encode. -/
theorem FileContent.ofBytes_eq_text_iff : ofBytes bs = .text text ↔ bs = Text.bytes text := by
  have hencode : (⟨(Text.bytes text).toArray⟩ : ByteArray) = (String.ofList text).toByteArray := by
    apply ByteArray.ext
    simp [List.utf8Encode, Text.bytes]
  unfold ofBytes
  constructor
  · intro h
    split at h
    · next t ht =>
      cases h
      rw [String.ofList_toList, ← fromUTF8?_eq_some_iff.mp ht] at hencode
      simpa using hencode.symm
    · cases h
  · rintro rfl
    rw [fromUTF8?_eq_some_iff.mpr hencode]
    exact congrArg FileContent.text String.toList_ofList

/-- A file of these bytes is where the path leads. -/
def Files.HasBytes (fs : Files) (path : Text) (bs : List UInt8) : Prop :=
  ∃ s, fs.spot path = .ok s ∧ fs.node? s = some (.file (.ofBytes bs))

theorem Files.hasBytes_iff : fs.HasBytes path (Text.bytes text) ↔ fs.read path = .ok text := by
  rw [HasBytes, read_eq_ok_iff, FileContent.ofBytes_eq_text_iff.mpr rfl]

namespace Target

variable {t : Target} {ts before after : List Target} {stale : List Text}
  {e : TaskFault}

/-! ## One target -/

def code (fs : Files) (root : Text) (t : Target) : Except TaskFault Text :=
  (generateFile fs .standard (t.sourcePath root)).result

/-- The output of a target is the code of its source, byte by byte. -/
def Current (fs : Files) (root : Text) (t : Target) : Prop :=
  ∃ text, t.code fs root = .ok text ∧ fs.HasBytes (t.outputPath root) (Text.bytes text)

theorem current_iff (h : t.code fs root = .ok text) :
    t.Current fs root ↔ fs.read (t.outputPath root) = .ok text := by
  constructor
  · rintro ⟨found, hfound, hbytes⟩
    cases h.symm.trans hfound
    exact hasBytes_iff.mp hbytes
  · exact fun hread => ⟨text, h, hasBytes_iff.mpr hread⟩

instance (fs : Files) (root : Text) (t : Target) : Decidable (t.Current fs root) :=
  match h : t.code fs root with
  | .ok text => decidable_of_iff' _ (current_iff h)
  | .error _ => isFalse fun ⟨_, ht, _⟩ => by rw [h] at ht; cases ht

theorem compare_eq_true_iff (h : t.code fs root = .ok text) :
    (t.compare fs root text).2 = true ↔ t.Current fs root := by
  rw [current_iff h, compare]
  split
  · next found hfound =>
    rw [hfound, Except.ok.injEq]
    split
    · next heq => exact iff_of_true rfl heq
    · next hne => exact iff_of_false nofun hne
  · next f hf =>
    rw [hf]
    exact iff_of_false nofun nofun

/-! ## Checking -/

theorem checkAll_cons_error (h : t.code fs root = .error e) (stale : List Text) :
    (checkAll fs root stale (t :: ts)).result = .error e := by
  unfold code at h
  rw [checkAll, h]

theorem checkAll_cons_ok (h : t.code fs root = .ok text) (stale : List Text) :
    (checkAll fs root stale (t :: ts)).result =
      (checkAll fs root (if t.Current fs root then stale else t.output :: stale) ts).result := by
  have hcompare := compare_eq_true_iff h
  unfold code at h
  rw [checkAll, h]
  simp only [hcompare]

def staleOutputs (fs : Files) (root : Text) (ts : List Target) : List Text :=
  (ts.filter fun t => ¬ t.Current fs root).map (·.output)

theorem staleOutputs_cons (t : Target) (ts : List Target) :
    staleOutputs fs root (t :: ts) =
      if t.Current fs root then staleOutputs fs root ts
      else t.output :: staleOutputs fs root ts := by
  by_cases h : t.Current fs root <;> simp [staleOutputs, h]

theorem staleOutputs_eq_nil_iff : staleOutputs fs root ts = [] ↔ ∀ t ∈ ts, t.Current fs root := by
  simp [staleOutputs]

theorem checkAll_of_code (h : ∀ t ∈ ts, ∃ text, t.code fs root = .ok text) (stale : List Text) :
    (checkAll fs root stale ts).result =
      (checkAll fs root ((staleOutputs fs root ts).reverse ++ stale) []).result := by
  induction ts generalizing stale with
  | nil => rfl
  | cons t ts ih =>
    obtain ⟨⟨text, ht⟩, hts⟩ := List.forall_mem_cons.mp h
    rw [checkAll_cons_ok ht, ih hts, staleOutputs_cons]
    split
    · rfl
    · rw [List.reverse_cons, List.append_assoc, List.singleton_append]

/-- Targets before one whose code is not generated are passed over. -/
theorem checkAll_append_error (h : ∀ t ∈ before, ∃ text, t.code fs root = .ok text)
    (he : t.code fs root = .error e) (stale : List Text) :
    (checkAll fs root stale (before ++ t :: after)).result = .error e := by
  induction before generalizing stale with
  | nil => exact checkAll_cons_error he stale
  | cons u before ih =>
    obtain ⟨⟨text, hu⟩, hbefore⟩ := List.forall_mem_cons.mp h
    rw [List.cons_append, checkAll_cons_ok hu]
    exact ih hbefore _

theorem code_of_checkAll {stale : List Text} (h : (checkAll fs root stale ts).result = .ok ()) :
    ∀ t ∈ ts, ∃ text, t.code fs root = .ok text := by
  induction ts generalizing stale with
  | nil => exact nofun
  | cons t ts ih =>
    cases ht : t.code fs root with
    | error e =>
      rw [checkAll_cons_error ht] at h
      cases h
    | ok text =>
      rw [checkAll_cons_ok ht] at h
      exact List.forall_mem_cons.mpr ⟨⟨text, ht⟩, ih h⟩

theorem checkAll_verdict (h : ∀ t ∈ ts, ∃ text, t.code fs root = .ok text) :
    (checkAll fs root [] ts).result =
      if staleOutputs fs root ts = [] then .ok ()
      else .error (.stale (staleOutputs fs root ts)) := by
  rw [checkAll_of_code h, checkAll]
  simp only [List.append_nil, List.reverse_eq_nil_iff, List.reverse_reverse]

/-- A check has the fault of its comparisons, if they have one. -/
theorem runAll_check_fault (fs : Files) (root : Text) (ts : List Target) :
    (checkAll fs root [] ts).result =
      ((runAll fs root ts true).fault.map .error).getD (.ok ()) := by
  rw [runAll, if_pos rfl]
  dsimp only
  split
  · next h => exact h
  · next h => exact h

theorem runAll_check_eq_none_iff :
    (runAll fs root ts true).fault = none ↔ (checkAll fs root [] ts).result = .ok () := by
  rw [runAll_check_fault]
  cases (runAll fs root ts true).fault <;> simp

theorem runAll_check_eq_some_iff :
    (runAll fs root ts true).fault = some e ↔ (checkAll fs root [] ts).result = .error e := by
  rw [runAll_check_fault]
  cases (runAll fs root ts true).fault <;> simp

/-- Checking changes no file. It succeeds exactly if the code of every target is generated and is
what its output holds, byte by byte; the first target whose code is not generated is the fault; and
if there is none but some outputs are not the code, or are no text or no files, the fault lists
these outputs, once for each target and in order. -/
theorem checked (fs : Files) (root : Text) (ts : List Target) :
    (runAll fs root ts true).files = fs ∧
    ((runAll fs root ts true).fault = none ↔ ∀ t ∈ ts, t.Current fs root) ∧
    (∀ before t after e, ts = before ++ t :: after →
      (∀ u ∈ before, ∃ text, u.code fs root = .ok text) → t.code fs root = .error e →
      (runAll fs root ts true).fault = some e) ∧
    ((∀ t ∈ ts, ∃ text, t.code fs root = .ok text) → (∃ t ∈ ts, ¬ t.Current fs root) →
      (runAll fs root ts true).fault =
        some (.stale ((ts.filter fun t => ¬ t.Current fs root).map (·.output)))) := by
  refine ⟨runAll_check_files fs root ts, ?_, ?_, ?_⟩
  · rw [runAll_check_eq_none_iff]
    constructor
    · intro h
      rw [checkAll_verdict (code_of_checkAll h)] at h
      split at h
      · next hnil => exact staleOutputs_eq_nil_iff.mp hnil
      · cases h
    · intro h
      rw [checkAll_verdict fun t ht => (h t ht).imp fun _ hc => hc.1,
        if_pos (staleOutputs_eq_nil_iff.mpr h)]
  · rintro before t after e rfl hbefore he
    exact runAll_check_eq_some_iff.mpr (checkAll_append_error hbefore he [])
  · rintro hcode ⟨t, ht, hstale⟩
    rw [runAll_check_eq_some_iff, checkAll_verdict hcode,
      if_neg fun hnil => hstale (staleOutputs_eq_nil_iff.mp hnil t ht)]
    rfl

def copies : List Target :=
  ["a.rs", "b.rs", "c.rs", "d.rs"].map fun output => ⟨"a.xml".toList, output.toList⟩

/-- Only the first copy is up to date: the second is other text, the third no text, and the last is
missing. -/
def outdated : Files :=
  Session.files [.write "proj/a.xml".toList (.text Session.document),
    .run (["reg-gen", "-i", "proj/a.xml", "-o", "proj/a.rs"].map String.toList),
    .write "proj/b.rs".toList (.text Session.document),
    .write "proj/c.rs".toList (.ofBytes [0xFF])]

theorem checked_outdated :
    (runAll outdated Session.root copies true).fault =
      some (.stale (["b.rs", "c.rs", "d.rs"].map String.toList)) ∧
    (runAll outdated Session.root (copies ++ [⟨"e.xml".toList, "a.rs".toList⟩]) true).fault =
      some (.read "proj/e.xml".toList .notFound) := by
  have hcode : ∀ t ∈ copies, ∃ text, t.code outdated Session.root = .ok text := by
    have hok : ∀ t ∈ copies, (t.code outdated Session.root).isOk = true := by decide +kernel
    intro t ht
    cases hc : t.code outdated Session.root with
    | ok text => exact ⟨text, rfl⟩
    | error e =>
      have := hok t ht
      rw [hc] at this
      cases this
  have houtputs : (copies.filter fun t => ¬ t.Current outdated Session.root).map (·.output) =
      ["b.rs", "c.rs", "d.rs"].map String.toList := by decide +kernel
  have hstale : ∃ t ∈ copies, ¬ t.Current outdated Session.root := by
    by_contra! hall
    rw [← staleOutputs, staleOutputs_eq_nil_iff.mpr hall] at houtputs
    cases houtputs
  constructor
  · rw [← houtputs]
    exact (checked outdated Session.root copies).2.2.2 hcode hstale
  · exact (checked outdated Session.root _).2.2.1 copies _ [] _ rfl hcode (by decide +kernel)

end Target

end RegisterMap
