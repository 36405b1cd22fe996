import RegisterMap.Proofs.Device.Rearranged

/-!
# Children of the root

A document is loaded child by child. The first child that fails is the fault,
a register's under its name or its place among the registers (`FirstFault`);
where none fails, every register is kept, and the last name. That no child is a
name is found only then (`Device.load_children`).
-/

namespace RegisterMap

open Markup Record

section Lists

variable {α β ε : Type} {R : α → β → Prop} {f : α → Except ε β} {xs : List α} {ys : List β}

theorem forall₂_getLast? (h : List.Forall₂ R xs ys) : Option.Rel R xs.getLast? ys.getLast? := by
  rw [List.getLast?_eq_head?_reverse, List.getLast?_eq_head?_reverse]
  generalize hxs : xs.reverse = us, hys : ys.reverse = vs
  have hr : List.Forall₂ R us vs := by
    rw [← hxs, ← hys]
    exact List.forall₂_reverse_iff.mpr h
  cases hr with
  | nil => exact .none
  | cons hr _ => exact .some hr

theorem exists_forall₂_ok_iff :
    (∃ ys, List.Forall₂ (fun x y => f x = .ok y) xs ys) ↔ ∀ x ∈ xs, ∃ y, f x = .ok y := by
  induction xs with
  | nil => simp
  | cons x xs ih =>
    rw [List.forall_mem_cons, ← ih]
    constructor
    · rintro ⟨_, hy | ⟨hy, hys⟩⟩
      exact ⟨⟨_, hy⟩, _, hys⟩
    · rintro ⟨⟨y, hy⟩, ys, hys⟩
      exact ⟨y :: ys, .cons hy hys⟩

end Lists

namespace Document

variable {s root content l document : Text} {e : Element} {es before after : List Element}
  {name : Option Text} {index place : Nat} {f : DocumentFault} {rs : List Register}

/-- A name whose references resolve, a register that loads, or an unknown child. -/
structure Loads (e : Element) : Prop where
  deviceName : e.name = "devicename".toList → ∃ n, resolve e.content = .ok n
  register : e.name = "Register".toList → ∃ r, readAlone Register.item e.content = .ok r

/-- The fault of a child. A register that fails is the one of a place among the registers. -/
inductive Fails (place : Nat) (e : Element) : DocumentFault → Prop
  | deviceName {f : ReferenceFault} : e.name = "devicename".toList → resolve e.content = .error f →
      Fails place e (.deviceName f)
  | register {l : Text} {f : RegisterFault} : e.name = "Register".toList →
      register e.content = .error f → Labels e.content place l → Fails place e (.register l f)

/-- The fault of the first child that fails. So many registers stand before the children. -/
def FirstFault (index : Nat) (es : List Element) (f : DocumentFault) : Prop :=
  ∃ before e after, es = before ++ e :: after ∧ (∀ b ∈ before, Loads b) ∧
    Fails (index + (contentsOf "Register".toList before).length + 1) e f

/-- What loading gives, by the children of the root. -/
inductive Gives (es : List Element) : Except DocumentFault Device → Prop
  /-- All registers, and the last name. -/
  | device {s n : Text} {rs : List Register} : (∀ e ∈ es, Loads e) →
      (contentsOf "devicename".toList es).getLast? = some s → resolve s = .ok n →
      List.Forall₂ (fun s r => readAlone Register.item s = .ok r)
        (contentsOf "Register".toList es) rs →
      Gives es (.ok { name := Text.trim n, registers := rs })
  /-- The first fault, though there may be others. -/
  | fault {f : DocumentFault} : FirstFault 0 es f → Gives es (.error f)
  /-- No name, which is a fault only if no child fails. -/
  | unnamed : (∀ e ∈ es, Loads e) → contentsOf "devicename".toList es = [] →
      Gives es (.error .noDeviceName)

/-! ## Labels -/

theorem find?_name {d : Element} (hd : d.name = "Name".toList)
    (hb : ∀ b ∈ before, b.name ≠ "Name".toList) :
    (before ++ d :: after).find? (·.name = "Name".toList) = some d := by
  refine List.find?_eq_some_iff_append.mpr ⟨decide_eq_true hd, before, after, rfl, ?_⟩
  simpa only [Bool.not_eq_true', decide_eq_false_iff_not] using hb

theorem Labels.eq_label (h : Labels content (index + 1) l) : l = label content index := by
  cases h with
  | name hc hd hb hr =>
    simp only [label, childName?, hc, find?_name hd hb, hr, Option.getD_some]
  | unresolved hc hd hb hr =>
    simp only [label, childName?, hc, find?_name hd hb, hr, Option.getD_none]
  | @unnamed es hc hn =>
    have hf : es.find? (·.name = "Name".toList) = none :=
      List.find?_eq_none.mpr (by simpa only [decide_eq_true_eq] using hn)
    simp only [label, childName?, hc, hf, Option.getD_none]

theorem labels_iff (hc : ∃ es, childElements content = .ok es) :
    Labels content (index + 1) l ↔ l = label content index := by
  obtain ⟨es, hes⟩ := hc
  refine ⟨Labels.eq_label, ?_⟩
  rintro rfl
  exact label_labels hes index

/-! ## Children -/

theorem register_ne_deviceName : "Register".toList ≠ "devicename".toList := by decide

theorem mem_contentsOf {n : Text} : s ∈ contentsOf n es ↔ ∃ e ∈ es, e.name = n ∧ e.content = s := by
  simp [contentsOf, and_assoc]

theorem Fails.not_loads (h : Fails place e f) : ¬ Loads e := by
  intro hl
  cases h with
  | deviceName hname hf =>
    obtain ⟨n, hn⟩ := hl.deviceName hname
    cases hn.symm.trans hf
  | register hname hf _ =>
    obtain ⟨r, hr⟩ := hl.register hname
    cases (register_eq_ok_iff.mpr hr).symm.trans hf

theorem fails_deviceName_iff (h : e.name = "devicename".toList) :
    Fails place e f ↔ ∃ g, resolve e.content = .error g ∧ f = .deviceName g := by
  constructor
  · rintro (⟨-, hf⟩ | ⟨hname, -, -⟩)
    · exact ⟨_, hf, rfl⟩
    · exact absurd (hname.symm.trans h) register_ne_deviceName
  · rintro ⟨g, hg, rfl⟩
    exact .deviceName h hg

theorem fails_register_iff (h : e.name = "Register".toList)
    (hc : ∃ es, childElements e.content = .ok es) : Fails (index + 1) e f ↔
      ∃ g, register e.content = .error g ∧ f = .register (label e.content index) g := by
  constructor
  · rintro (⟨hname, -⟩ | ⟨-, hf, hl⟩)
    · exact absurd (h.symm.trans hname) register_ne_deviceName
    · exact ⟨_, hf, by rw [hl.eq_label]⟩
  · rintro ⟨g, hg, rfl⟩
    exact .register h hg ((labels_iff hc).mpr rfl)

theorem loads_deviceName_iff (h : e.name = "devicename".toList) :
    Loads e ↔ ∃ n, resolve e.content = .ok n := by
  refine ⟨fun hl => hl.deviceName h, fun hn => ⟨fun _ => hn, fun hname => ?_⟩⟩
  exact absurd (hname.symm.trans h) register_ne_deviceName

theorem loads_register_iff (h : e.name = "Register".toList) :
    Loads e ↔ ∃ r, register e.content = .ok r := by
  simp only [register_eq_ok_iff]
  refine ⟨fun hl => hl.register h, fun hr => ⟨fun hname => ?_, fun _ => hr⟩⟩
  exact absurd (h.symm.trans hname) register_ne_deviceName

/-! ## The first fault -/

theorem not_firstFault_nil : ¬ FirstFault index [] f := by
  rintro ⟨before, e, after, hes, -⟩
  exact List.append_ne_nil_of_right_ne_nil _ (List.cons_ne_nil _ _) hes.symm

theorem firstFault_cons_of_not_loads (h : ¬ Loads e) :
    FirstFault index (e :: es) f ↔ Fails (index + 1) e f := by
  constructor
  · rintro ⟨before, d, after, hes, hb, hf⟩
    cases before with
    | nil =>
      obtain ⟨rfl, rfl⟩ := List.cons.inj hes
      exact hf
    | cons b before =>
      obtain ⟨rfl, rfl⟩ := List.cons.inj hes
      exact absurd (hb e (List.mem_cons_self ..)) h
  · exact fun hf => ⟨[], e, es, rfl, nofun, hf⟩

/-- The children after one that loads stand after one register more if that is one. -/
theorem firstFault_cons_of_loads (h : Loads e) : FirstFault index (e :: es) f ↔
    FirstFault (index + (contentsOf "Register".toList [e]).length) es f := by
  have hlength (before : List Element) :
      index + (contentsOf "Register".toList (e :: before)).length + 1 =
        index + (contentsOf "Register".toList [e]).length +
          (contentsOf "Register".toList before).length + 1 := by
    have happend : contentsOf "Register".toList (e :: before) =
        contentsOf "Register".toList [e] ++ contentsOf "Register".toList before := by
      rw [contentsOf, contentsOf, contentsOf, ← List.map_append, ← List.filter_append,
        List.singleton_append]
    rw [happend, List.length_append, ← Nat.add_assoc index]
  constructor
  · rintro ⟨before, d, after, hes, hb, hf⟩
    cases before with
    | nil =>
      obtain ⟨rfl, rfl⟩ := List.cons.inj hes
      exact absurd h hf.not_loads
    | cons b before =>
      obtain ⟨rfl, rfl⟩ := List.cons.inj hes
      exact ⟨before, d, after, rfl, (List.forall_mem_cons.mp hb).2, hlength before ▸ hf⟩
  · rintro ⟨before, d, after, rfl, hb, hf⟩
    exact ⟨e :: before, d, after, rfl, List.forall_mem_cons.mpr ⟨h, hb⟩, hlength before ▸ hf⟩

/-- Children whose contents are sound are taken up to the first fault. -/
theorem takeChildren_eq_error_iff (hc : ∀ e ∈ es, ∃ cs, childElements e.content = .ok cs) :
    takeChildren name index es = .error f ↔ FirstFault index es f := by
  induction es generalizing name index with
  | nil => exact iff_of_false (fun h => by cases h) not_firstFault_nil
  | cons e es ih =>
    obtain ⟨hce, hces⟩ := List.forall_mem_cons.mp hc
    rw [takeChildren]
    split
    · next hname =>
      have hne : e.name ≠ "Register".toList := hname ▸ register_ne_deviceName.symm
      split
      · next g hg =>
        have hl : ¬ Loads e := by simp [loads_deviceName_iff hname, hg]
        rw [firstFault_cons_of_not_loads hl, fails_deviceName_iff hname, hg]
        simp [eq_comm]
      · next n hn =>
        rw [firstFault_cons_of_loads ((loads_deviceName_iff hname).mpr ⟨n, hn⟩),
          contentsOf_cons_of_ne hne, ih hces]
        rfl
    · next hname =>
      split
      · next hregister =>
        split
        · next g hg =>
          have hl : ¬ Loads e := by simp [loads_register_iff hregister, hg]
          rw [firstFault_cons_of_not_loads hl, fails_register_iff hregister hce, hg]
          simp [eq_comm]
        · next r hr =>
          have hmap {g : Option Text × List Register → Option Text × List Register}
              {x : Except DocumentFault (Option Text × List Register)} :
              x.map g = .error f ↔ x = .error f := by
            cases x <;> simp [Except.map]
          rw [firstFault_cons_of_loads ((loads_register_iff hregister).mpr ⟨r, hr⟩),
            contentsOf_cons_of_eq hregister, hmap, ih hces]
          rfl
      · next hregister =>
        rw [firstFault_cons_of_loads ⟨fun h => absurd h hname, fun h => absurd h hregister⟩,
          contentsOf_cons_of_ne hregister, ih hces]
        rfl

/-! ## Loading -/

/-- All children load if the names and the registers do, each kind apart. -/
theorem forall_loads_iff : (∀ e ∈ es, Loads e) ↔
    (∃ ns, List.Forall₂ (fun s n => resolve s = .ok n) (contentsOf "devicename".toList es) ns) ∧
      ∃ rs, List.Forall₂ (fun s r => readAlone Register.item s = .ok r)
        (contentsOf "Register".toList es) rs := by
  rw [exists_forall₂_ok_iff, exists_forall₂_ok_iff]
  constructor
  · intro h
    constructor
    · intro s hs
      obtain ⟨e, he, hname, rfl⟩ := mem_contentsOf.mp hs
      exact (h e he).deviceName hname
    · intro s hs
      obtain ⟨e, he, hname, rfl⟩ := mem_contentsOf.mp hs
      exact (h e he).register hname
  · rintro ⟨hnames, hregisters⟩ e he
    exact ⟨fun hname => hnames _ (mem_contentsOf.mpr ⟨e, he, hname, rfl⟩),
      fun hname => hregisters _ (mem_contentsOf.mpr ⟨e, he, hname, rfl⟩)⟩

section Names

variable {ss ns : List Text} {n : Text}

theorem lastName_eq_some_iff (h : List.Forall₂ (fun s n => resolve s = .ok n) ss ns) :
    (ns.map Text.trim).getLast? = some n ↔
      ∃ s m, ss.getLast? = some s ∧ resolve s = .ok m ∧ n = Text.trim m := by
  rw [List.getLast?_map]
  have hlast := forall₂_getLast? h
  generalize ss.getLast? = last, ns.getLast? = lastName at hlast
  cases hlast with
  | none => simp
  | some hm => simp [hm, eq_comm]

theorem lastName_eq_none_iff (h : List.Forall₂ (fun s n => resolve s = .ok n) ss ns) :
    (ns.map Text.trim).getLast? = none ↔ ss = [] := by
  rw [List.getLast?_eq_none_iff, List.map_eq_nil_iff]
  cases h <;> simp

end Names

theorem load_eq_takeChildren (hr : rootContent document = .ok root)
    (hes : childElements root = .ok es) : Device.load document =
      (takeChildren none 0 es).bind fun
        | (some name, registers) => .ok { name, registers }
        | (none, _) => .error .noDeviceName := by
  unfold Device.load
  simp only [hr, hes, bind, Except.bind, Except.mapError]
  cases takeChildren none 0 es with
  | error f => rfl
  | ok found =>
    obtain ⟨name, rs⟩ := found
    cases name <;> rfl

theorem gives_load (hr : rootContent document = .ok root) (hes : childElements root = .ok es)
    (hc : ∀ e ∈ es, ∃ cs, childElements e.content = .ok cs) : Gives es (Device.load document) := by
  rw [load_eq_takeChildren hr hes]
  cases ht : takeChildren none 0 es with
  | error f => exact .fault ((takeChildren_eq_error_iff hc).mp ht)
  | ok found =>
    obtain ⟨name, rs⟩ := found
    obtain ⟨ns, hns, hname, hrs⟩ := takeChildren_eq_ok_iff.mp ht
    have hloads := forall_loads_iff.mpr ⟨⟨ns, hns⟩, rs, hrs⟩
    rw [Option.or_none, eq_comm] at hname
    cases name with
    | none => exact .unnamed hloads ((lastName_eq_none_iff hns).mp hname)
    | some name =>
      obtain ⟨s, n, hs, hn, rfl⟩ := (lastName_eq_some_iff hns).mp hname
      exact .device hloads hs hn hrs

theorem Gives.load_eq {x : Except DocumentFault Device} (h : Gives es x)
    (hr : rootContent document = .ok root) (hes : childElements root = .ok es)
    (hc : ∀ e ∈ es, ∃ cs, childElements e.content = .ok cs) : Device.load document = x := by
  rw [load_eq_takeChildren hr hes]
  cases h with
  | @device s n rs hloads hs hn hrs =>
    obtain ⟨⟨ns, hns⟩, -⟩ := forall_loads_iff.mp hloads
    have hname := (lastName_eq_some_iff hns).mpr ⟨s, n, hs, hn, rfl⟩
    have ht : takeChildren none 0 es = .ok (some (Text.trim n), rs) :=
      takeChildren_eq_ok_iff.mpr ⟨ns, hns, by rw [Option.or_none, hname], hrs⟩
    rw [ht, Except.bind]
  | fault hf => rw [(takeChildren_eq_error_iff hc).mpr hf, Except.bind]
  | unnamed hloads hnone =>
    obtain ⟨⟨ns, hns⟩, rs, hrs⟩ := forall_loads_iff.mp hloads
    have hname := (lastName_eq_none_iff hns).mpr hnone
    have ht : takeChildren none 0 es = .ok (none, rs) :=
      takeChildren_eq_ok_iff.mpr ⟨ns, hns, by rw [Option.or_none, hname], hrs⟩
    rw [ht, Except.bind]

/-- A device is among what the children give if all load and one is a name. -/
theorem exists_gives_ok_iff : (∃ d, Gives es (.ok d)) ↔
    (∀ e ∈ es, Loads e) ∧ ∃ e ∈ es, e.name = "devicename".toList := by
  constructor
  · rintro ⟨_, ⟨hloads, hs, -, -⟩⟩
    obtain ⟨e, he, hname, -⟩ := mem_contentsOf.mp (List.mem_of_getLast? hs)
    exact ⟨hloads, e, he, hname⟩
  · rintro ⟨hloads, e, he, hname⟩
    obtain ⟨-, rs, hrs⟩ := forall_loads_iff.mp hloads
    have hmem : e.content ∈ contentsOf "devicename".toList es :=
      mem_contentsOf.mpr ⟨e, he, hname, rfl⟩
    have hs := List.getLast?_eq_some_getLast (List.ne_nil_of_mem hmem)
    obtain ⟨d, hd, hdname, hcontent⟩ := mem_contentsOf.mp (List.mem_of_getLast? hs)
    obtain ⟨n, hn⟩ := (hloads d hd).deviceName hdname
    exact ⟨_, .device hloads hs (hcontent ▸ hn) hrs⟩

end Document

namespace Device

open Document

/-- All registers are kept, or the first fault is given. Once the root of a document is read, a
device is loaded exactly if every name among the children resolves, every register among them loads
and there is a name. Then it has all registers in order and is called by the last name. Else the
fault is that of the first child that fails, a register's under the name of the register or else
its place among the registers; or, if no child fails, that there is no name. -/
theorem load_children {document root : Text} (h : rootContent document = .ok root) :
    ∃ es, childElements root = .ok es ∧
      ((∃ d, load document = .ok d) ↔
        (∀ e ∈ es, Loads e) ∧ ∃ e ∈ es, e.name = "devicename".toList) ∧
      ∀ x, load document = x ↔ Gives es x := by
  obtain ⟨c, hc, rfl⟩ := (Holds.root h).sound
  have hes := childElements_render hc
  have hcontents : ∀ e ∈ c.elements, ∃ cs, childElements e.content = .ok cs := by
    intro e he
    obtain ⟨inner, hinner, hrender⟩ := hc.of_mem_elements he
    exact ⟨inner.elements, hrender ▸ childElements_render hinner⟩
  have hgives : ∀ x, load document = x ↔ Gives c.elements x := by
    intro x
    refine ⟨?_, fun hx => hx.load_eq h hes hcontents⟩
    rintro rfl
    exact gives_load h hes hcontents
  refine ⟨c.elements, hes, ?_, hgives⟩
  simp only [hgives]
  exact exists_gives_ok_iff

def namelessRegister : Text := "<Address/><Reset/>".toList

def namedRegister : Text := "<Name>R</Name>".toList ++ namelessRegister

/-- Two names, an unknown child, and two registers of which the second has no name. -/
def interleaved : Text :=
  "<devicename>A</devicename><Note/>".toList ++ wrap "Register".toList namedRegister ++
    "<devicename> B&lt; </devicename>".toList ++ wrap "Register".toList namelessRegister

theorem load_children_second :
    load (wrap rootName interleaved) =
      .error (.register "#2".toList (.record (.missing "Name".toList))) := by
  have hroot : rootContent (wrap rootName interleaved) = .ok interleaved := by decide +kernel
  obtain ⟨es, hes, -, hgives⟩ := load_children hroot
  have hchildren : childElements interleaved = .ok ([⟨"devicename".toList, ['A']⟩,
      ⟨"Note".toList, []⟩, ⟨"Register".toList, namedRegister⟩,
      ⟨"devicename".toList, " B&lt; ".toList⟩] ++ ⟨"Register".toList, namelessRegister⟩ :: []) := by
    decide +kernel
  rw [hchildren] at hes
  cases hes
  have hA : resolve ['A'] = .ok ['A'] := by decide +kernel
  have hB : resolve " B&lt; ".toList = .ok " B< ".toList := by decide +kernel
  have hnamed : register namedRegister = .ok ⟨['R'], [], none, [], []⟩ := by decide +kernel
  have hnameless : register namelessRegister = .error (.record (.missing "Name".toList)) := by
    decide +kernel
  have hunnamed : childElements namelessRegister =
      .ok [⟨"Address".toList, []⟩, ⟨"Reset".toList, []⟩] := by decide +kernel
  refine (hgives _).mpr (.fault ⟨_, _, [], rfl, ?_, .register rfl hnameless ?_⟩)
  · simp only [List.forall_mem_cons, List.not_mem_nil, false_implies, implies_true, and_true]
    refine ⟨?_, ?_, ?_, ?_⟩
    · exact (loads_deviceName_iff rfl).mpr ⟨_, hA⟩
    · exact ⟨fun h => absurd h (by decide), fun h => absurd h (by decide)⟩
    · exact (loads_register_iff rfl).mpr ⟨_, hnamed⟩
    · exact (loads_deviceName_iff rfl).mpr ⟨_, hB⟩
  · exact .unnamed hunnamed (by decide)

end Device

end RegisterMap
