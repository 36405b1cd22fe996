import Mathlib.Data.List.TakeWhile
import RegisterMap.Command.Usage
import RegisterMap.Proofs.Text.Basic

/-!
# Arguments and the command they give

Each argument that is read adds to the switches seen (`Taken.Adds`). The command
is the first argument that is not written as a switch, and a switch that has
neither a value nor a short form is seen if and only if it stands after it
(`Request.ofArguments_run`). In the other direction every command is read from
the arguments that spell it out (`Request.ofArguments_arguments`).
-/

namespace RegisterMap

variable {g : Grammar} {s s' : Switch} {t u : Taken} {p q : Switch → Prop}

namespace Switch

def argument (s : Switch) : Text := '-' :: '-' :: s.long

/-- Only its argument stands for the switch. -/
structure Lone (s : Switch) : Prop where
  takesValue : s.takesValue = false
  short? : s.short? = none

theorem lone_noHeader : noHeader.Lone := ⟨rfl, rfl⟩

theorem lone_check : check.Lone := ⟨rfl, rfl⟩

theorem eq_of_long (h : s.long = s'.long) : s = s' := by
  revert h
  cases s <;> cases s' <;> decide

theorem ne_equals (s : Switch) : ∀ c ∈ s.long, decide (c ≠ '=') = true :=
  List.all_eq_true.mp (by cases s <;> rfl)

theorem long_ne_nil (s : Switch) : s.long ≠ [] := by
  cases s <;> decide

theorem Lone.ne (hs : s.Lone) (h : s'.takesValue = true) : s ≠ s' := by
  rintro rfl
  rw [hs.takesValue] at h
  cases h

end Switch

namespace Taken

/-- A switch that is pending is known and has a value. -/
def Waits (g : Grammar) (t : Taken) : Prop :=
  ∀ s value, t.pending = some (s, value) → s ∈ g.switches ∧ s.takesValue = true

theorem Waits.of_none (h : t.pending = none) : t.Waits g := by
  intro s value hp
  rw [h] at hp
  cases hp

/-- Of the switches with neither a value nor a short form, those of `p` have been seen on the way
from `t` to `u`. -/
structure Adds (g : Grammar) (p : Switch → Prop) (t u : Taken) : Prop where
  waits : u.Waits g
  has_iff : ∀ s : Switch, s.Lone → (u.has s = true ↔ t.has s = true ∨ p s)

theorem Adds.refl (ht : t.Waits g) : Adds g (fun _ => False) t t :=
  ⟨ht, fun s _ => by rw [or_false]⟩

theorem Adds.trans {v : Taken} (h : Adds g p t u) (k : Adds g q u v) :
    Adds g (fun s => p s ∨ q s) t v :=
  ⟨k.waits, fun s hs => by rw [k.has_iff s hs, h.has_iff s hs, or_assoc]⟩

theorem Adds.congr (h : Adds g p t u) (hpq : ∀ s : Switch, s.Lone → (p s ↔ q s)) : Adds g q t u :=
  ⟨h.waits, fun s hs => by rw [h.has_iff s hs, hpq s hs]⟩

/-! ## One switch -/

theorem enter_eq_ok {value : Option Text} (h : t.enter s value = .ok u) :
    u = { t with seen := (s, value.getD []) :: t.seen } := by
  unfold enter at h
  split at h
  · cases h
  · cases h
  · split at h
    · cases h
    · split at h
      · cases h
      · split at h
        · cases h
        · exact (Except.ok.inj h).symm

theorem enter_adds {value : Option Text} (ht : t.pending = none) (h : t.enter s' value = .ok u) :
    u.pending = none ∧ Adds g (· = s') t u := by
  cases enter_eq_ok h
  refine ⟨ht, .of_none ht, fun s hs => ?_⟩
  unfold has
  rw [List.lookup_cons]
  by_cases hss : s = s'
  · simp [hss]
  · simp [hss, beq_false_of_ne hss]

theorem settle_adds (ht : t.Waits g) (h : t.settle = .ok u) :
    u.pending = none ∧ Adds g (fun _ => False) t u := by
  unfold settle at h
  split at h
  · next hp =>
    cases h
    exact ⟨hp, .refl ht⟩
  · next s' value hp =>
    obtain ⟨hu, hadds⟩ := enter_adds (g := g) rfl h
    have hother := hadds.congr fun s hs => iff_false_intro (hs.ne (ht s' value hp).2)
    exact ⟨hu, .of_none hu, hother.has_iff⟩

theorem take_adds {value : Option Text} (ht : t.Waits g) (h : t.take s' value = .ok u) :
    u.pending = none ∧ Adds g (· = s') t u := by
  obtain ⟨v, hv, h⟩ := bind_eq_ok.mp h
  obtain ⟨hnone, hsettle⟩ := settle_adds ht hv
  obtain ⟨hu, henter⟩ := enter_adds (g := g) hnone h
  exact ⟨hu, (hsettle.trans henter).congr fun s _ => by rw [false_or]⟩

theorem await_adds (ht : t.Waits g) (hmem : s' ∈ g.switches) (hs' : s'.takesValue = true)
    (h : t.await s' = .ok u) : Adds g (fun _ => False) t u := by
  obtain ⟨v, hv, h⟩ := bind_eq_ok.mp h
  cases h
  refine ⟨fun s value hp => ?_, (settle_adds ht hv).2.has_iff⟩
  cases hp
  exact ⟨hmem, hs'⟩

theorem value_adds (arg : Text) (ht : t.Waits g) (h : t.awaits? = some s) :
    Adds g (fun _ => False) t { t with pending := some (s, some arg) } := by
  have hp : t.pending = some (s, none) := by
    unfold awaits? at h
    split at h
    · next hp => rw [hp, Option.some.inj h]
    · cases h
  refine ⟨fun s' value hv => ?_, fun s' _ => by rw [or_false]; rfl⟩
  cases hv
  exact ht s none hp

end Taken

open Taken

/-! ## One argument -/

theorem takeLong_adds {arg : Text} (ht : t.Waits g) (h : takeLong g t arg = .ok u) :
    Adds g (fun s => arg = s.long) t u := by
  have hwhole : ∀ s : Switch, arg = s.long → arg.dropWhile (· ≠ '=') = [] := by
    rintro s rfl
    exact List.dropWhile_eq_nil_iff.mpr s.ne_equals
  unfold takeLong at h
  dsimp only at h
  split at h
  · cases h
  · next s' v hfind hv =>
    -- an argument with a value in it is no switch's name, and its switch takes the value
    split at h
    · next hs' =>
      refine ((take_adds ht h).2).congr fun s hs => iff_of_false (hs.ne hs') fun harg => ?_
      rw [hwhole s harg] at hv
      cases hv
    · cases h
  · next s' hfind hv =>
    have hmem := List.mem_of_find?_eq_some hfind
    have harg : arg = s'.long := by
      have hname : s'.long = arg.takeWhile (· ≠ '=') := by simpa using List.find?_some hfind
      have hrest : arg.dropWhile (· ≠ '=') = [] := by
        split at hv
        · assumption
        · cases hv
      rw [hname]
      exact (List.takeWhile_eq_self_iff.mpr (List.dropWhile_eq_nil_iff.mp hrest)).symm
    split at h
    · next hs' =>
      refine (await_adds ht hmem hs' h).congr fun s hs => ?_
      exact iff_of_false not_false fun he => hs.ne hs' (Switch.eq_of_long (he ▸ harg))
    · refine ((take_adds ht h).2).congr fun s hs => ⟨fun he => he ▸ harg, fun he => ?_⟩
      exact Switch.eq_of_long (he ▸ harg)

theorem takeShort_adds {arg : Text} (ht : t.Waits g) (h : takeShort g t arg = .ok u) :
    Adds g (fun _ => False) t u := by
  induction arg generalizing t with
  | nil =>
    cases h
    exact .refl ht
  | cons c rest ih =>
    unfold takeShort at h
    split at h
    · cases h
    · next s' hfind =>
      have hshort : s'.short? = some c := by simpa using List.find?_some hfind
      have hne : ∀ s : Switch, s.Lone → s ≠ s' := by
        rintro s hs rfl
        rw [hs.short?] at hshort
        cases hshort
      split at h
      · next hs' =>
        split at h
        · exact await_adds ht (List.mem_of_find?_eq_some hfind) hs' h
        · exact (take_adds ht h).2.congr fun s hs => iff_false_intro (hne s hs)
        · exact (take_adds ht h).2.congr fun s hs => iff_false_intro (hne s hs)
      · obtain ⟨v, hv, h⟩ := bind_eq_ok.mp h
        have hfirst := (take_adds ht hv).2
        exact (hfirst.trans (ih hfirst.waits h)).congr fun s hs => by simp [hne s hs]

/-! ## All arguments -/

theorem Taken.Adds.cons {arg : Text} {args : List Text} {v : Taken} (h : Adds g p t v)
    (k : Adds g (fun s => s.argument ∈ args) v u)
    (hp : ∀ s : Switch, s.Lone → (p s ↔ s.argument = arg)) :
    Adds g (fun s => s.argument ∈ arg :: args) t u :=
  (h.trans k).congr fun s hs => by rw [List.mem_cons, hp s hs]

theorem takeArguments_adds {trailing : Bool} {args : List Text} (ht : t.Waits g)
    (h : takeArguments g t trailing args = .ok (u, none)) :
    Adds g (fun s => s.argument ∈ args) t u := by
  -- only a long switch is written as an argument of one; every other argument adds nothing
  fun_induction takeArguments g t trailing args with
  | case1 t trailing =>
    obtain ⟨v, hv, h⟩ := bind_eq_ok.mp h
    cases h
    exact (settle_adds ht hv).2.congr fun s _ => by simp
  | case2 => cases h
  | case3 => cases h
  | case4 t trailing args _ _ ih =>
    refine (Adds.refl ht).cons (ih ht h) fun s _ => iff_of_false not_false fun he => ?_
    exact s.long_ne_nil (List.cons.inj (List.cons.inj he).2).2
  | case5 t trailing args _ long _ _ ih =>
    obtain ⟨v, hv, h⟩ := bind_eq_ok.mp h
    have hlong := takeLong_adds ht hv
    refine hlong.cons (ih v hlong.waits h) fun s _ => ?_
    simp [Switch.argument, eq_comm]
  | case6 t trailing args _ c short _ hc _ ih =>
    obtain ⟨v, hv, h⟩ := bind_eq_ok.mp h
    have hshort := takeShort_adds ht hv
    refine hshort.cons (ih v hshort.waits h) fun s _ => iff_of_false not_false fun he => ?_
    exact hc (List.cons.inj (List.cons.inj he).2).1.symm
  | case7 t trailing args _ arg s' _ hlong _ hawaits _ ih =>
    have hvalue := value_adds arg ht hawaits
    refine hvalue.cons (ih hvalue.waits h) fun s _ => iff_of_false not_false fun he => ?_
    exact hlong s.long he.symm
  | case8 => cases h

/-- No switch has a value, and no command is written as one. -/
structure Grammar.Valueless (g : Grammar) : Prop where
  switches : ∀ s ∈ g.switches, s.takesValue = false
  commands : ∀ name ∈ g.commands, name.head? ≠ some '-'

/-- A command that is found is known. Where no switch has a value it is the first argument that is not
written as one. -/
theorem takeArguments_command {trailing : Bool} {args rest : List Text} {name : Text}
    (ht : t.Waits g) (h : takeArguments g t trailing args = .ok (u, some (name, rest))) :
    name ∈ g.commands ∧
      (g.Valueless → args.dropWhile (·.head? = some '-') = name :: rest) := by
  fun_induction takeArguments g t trailing args with
  | case1 t trailing =>
    obtain ⟨v, hv, h⟩ := bind_eq_ok.mp h
    cases h
  | case2 => cases h
  | case3 t trailing arg args _ hmem =>
    cases h
    exact ⟨hmem.2, fun hg => List.dropWhile_cons_of_neg (by simpa using hg.commands _ hmem.2)⟩
  | case4 t trailing args _ _ ih => exact ih ht h
  | case5 t trailing args _ long _ _ ih =>
    obtain ⟨v, hv, h⟩ := bind_eq_ok.mp h
    exact ih v (takeLong_adds ht hv).waits h
  | case6 t trailing args _ c short _ hc _ ih =>
    obtain ⟨v, hv, h⟩ := bind_eq_ok.mp h
    exact ih v (takeShort_adds ht hv).waits h
  | case7 t trailing args _ arg s' _ _ _ hawaits _ ih =>
    have hwaits := (value_adds arg ht hawaits).waits
    refine ⟨(ih hwaits h).1, fun hg => ?_⟩
    obtain ⟨hmem, htakes⟩ := hwaits s' (some arg) rfl
    rw [hg.switches s' hmem] at htakes
    cases htakes
  | case8 => cases h

theorem takeArguments_of_no_command {trailing : Bool} {args : List Text}
    {found : Option (Text × List Text)} (hg : g.commands = []) (ht : t.Waits g)
    (h : takeArguments g t trailing args = .ok (u, found)) : found = none := by
  cases found with
  | none => rfl
  | some found =>
    have hmem := (takeArguments_command ht h).1
    rw [hg] at hmem
    cases hmem

/-! ## From arguments to a command -/

theorem Command.commands_inner (name : Text) : (inner name).commands = [] := by
  unfold inner
  split
  · rfl
  · split
    · rfl
    · rfl

/-- A command has the name, and of its switches without a value those of `given`. -/
def Command.Shows (name : Text) (given : Switch → Prop) : Command → Prop
  | regGen _ _ noHeader => name = regGenName ∧ (noHeader = true ↔ given .noHeader)
  | regGenDriver check => name = driverName ∧ (check = true ↔ given .check)
  | precheckin => name = precheckinName

theorem Command.shows_of_ofTaken {c : Command} {name : Text} (hname : name ∈ outer.commands)
    (hhelp : name ≠ helpName) (hadds : Adds g p ⟨[], none⟩ t) (h : ofTaken name t = .ok c) :
    c.Shows name p := by
  have hiff : ∀ s : Switch, s.Lone → (t.has s = true ↔ p s) := fun s hs => by
    rw [hadds.has_iff s hs]
    exact ⟨fun h => h.resolve_left nofun, .inr⟩
  unfold ofTaken at h
  split at h
  · next hreg =>
    split at h
    · cases h
    · cases h
      exact ⟨hreg, hiff .noHeader Switch.lone_noHeader⟩
  · next hreg =>
    split at h
    · next hdriver =>
      cases h
      exact ⟨hdriver, hiff .check Switch.lone_check⟩
    · next hdriver =>
      cases h
      have hlast : name = precheckinName := by simpa [outer, hreg, hdriver, hhelp] using hname
      exact hlast

/-- The name of a command that is read is the first argument that is not written as a switch, and of
its switches without a value the command has those that stand after the name. -/
theorem Request.ofArguments_run {args : List Text} {verbose : Bool} {c : Command}
    (h : Request.ofArguments args = .ok (.run verbose c)) : ∃ name after,
    args.dropWhile (·.head? = some '-') = name :: after ∧ c.Shows name (·.argument ∈ after) := by
  have hread : readArguments args = .ok (.run verbose c) := by
    unfold ofArguments at h
    split at h
    · next hr => rw [hr, Except.ok.inj h]
    · cases h
    · cases h
    · cases h
  obtain ⟨⟨t, command⟩, ht, hread⟩ := bind_eq_ok.mp hread
  cases command with
  | none => cases hread
  | some found =>
    obtain ⟨name, after⟩ := found
    dsimp only at hread
    split at hread
    · cases hread
    · next hhelp =>
      -- after the command's name there are switches only
      obtain ⟨⟨u, inside⟩, hu, hread⟩ := bind_eq_ok.mp hread
      obtain ⟨c', hc, hread⟩ := bind_eq_ok.mp hread
      cases hread
      cases takeArguments_of_no_command (Command.commands_inner name) (.of_none rfl) hu
      obtain ⟨hname, hfirst⟩ := takeArguments_command (.of_none rfl) ht
      refine ⟨name, after, hfirst ⟨by decide, by decide⟩, ?_⟩
      exact Command.shows_of_ofTaken hname hhelp (takeArguments_adds (.of_none rfl) hu) hc

/-! ## From a command to arguments -/

/-- The arguments that spell a command out. -/
def Command.arguments : Command → List Text
  | regGen input output noHeader =>
    regGenName :: (Switch.input.argument ++ '=' :: input) ::
      ((output.map fun path => Switch.output.argument ++ '=' :: path).toList ++
        if noHeader then [Switch.noHeader.argument] else [])
  | regGenDriver check => driverName :: if check then [Switch.check.argument] else []
  | precheckin => [precheckinName]

/-- The paths of a command are not empty. -/
def Command.Named : Command → Prop
  | regGen input output _ => input ≠ [] ∧ output ≠ some []
  | _ => True

theorem Grammar.find_long (h : s ∈ g.switches) :
    g.switches.find? (·.long = s.long) = some s := by
  cases hf : g.switches.find? (·.long = s.long) with
  | none =>
    have hne := List.find?_eq_none.mp hf s h
    exact absurd (decide_eq_true rfl) hne
  | some s' =>
    have heq : s'.long = s.long := by simpa using List.find?_some hf
    rw [Switch.eq_of_long heq]

theorem Taken.take_eq (hp : t.pending = none) (s : Switch) (value : Option Text) :
    t.take s value = t.enter s value := by
  unfold take settle
  rw [hp]
  rfl

theorem takeArguments_long {arg : Text} (harg : arg ≠ []) (hg : g.commands = []) (t : Taken)
    (args : List Text) :
    takeArguments g t false (('-' :: '-' :: arg) :: args) =
      (takeLong g t arg >>= fun u => takeArguments g u false args) := by
  cases arg with
  | nil => exact absurd rfl harg
  | cons c arg =>
    conv => lhs; unfold takeArguments
    simp [hg]

variable {seen : List (Switch × Text)}

theorem takeArguments_value {value : Text} (hg : g.commands = []) (h : s ∈ g.switches)
    (hs : s.takesValue = true) (hnew : has ⟨seen, none⟩ s = false) (hv : value ≠ [])
    (args : List Text) :
    takeArguments g ⟨seen, none⟩ false ((s.argument ++ '=' :: value) :: args) =
      takeArguments g ⟨(s, value) :: seen, none⟩ false args := by
  have hname : (s.long ++ '=' :: value).takeWhile (· ≠ '=') = s.long := by
    rw [List.takeWhile_append_of_pos s.ne_equals]
    simp
  have hvalue : (s.long ++ '=' :: value).dropWhile (· ≠ '=') = '=' :: value := by
    rw [List.dropWhile_append_of_pos s.ne_equals]
    simp
  have hlong : takeLong g ⟨seen, none⟩ (s.long ++ '=' :: value) =
      .ok ⟨(s, value) :: seen, none⟩ := by
    unfold takeLong
    simp only [hname, hvalue, Grammar.find_long h, hs, if_true, take_eq]
    cases s <;> simp_all [enter, Switch.takesValue]
  rw [Switch.argument, List.cons_append, List.cons_append, takeArguments_long (by simp) hg, hlong]
  rfl

theorem takeArguments_lone (hg : g.commands = []) (h : s ∈ g.switches) (hs : s.Lone)
    (hnew : has ⟨seen, none⟩ s = false) (args : List Text) :
    takeArguments g ⟨seen, none⟩ false (s.argument :: args) =
      takeArguments g ⟨(s, []) :: seen, none⟩ false args := by
  have hname : s.long.takeWhile (· ≠ '=') = s.long := List.takeWhile_eq_self_iff.mpr s.ne_equals
  have hvalue : s.long.dropWhile (· ≠ '=') = [] := List.dropWhile_eq_nil_iff.mpr s.ne_equals
  have hlong : takeLong g ⟨seen, none⟩ s.long = .ok ⟨(s, []) :: seen, none⟩ := by
    obtain ⟨hvalueless, hshort⟩ := hs
    unfold takeLong
    simp only [hname, hvalue, Grammar.find_long h, hvalueless, take_eq]
    cases s <;> simp_all [enter, Switch.takesValue, Switch.short?]
  rw [Switch.argument, takeArguments_long s.long_ne_nil hg, hlong]
  rfl

theorem takeArguments_flag (hg : g.commands = []) (h : s ∈ g.switches) (hs : s.Lone) (given : Bool)
    (hnew : has ⟨seen, none⟩ s = false) :
    takeArguments g ⟨seen, none⟩ false (if given then [s.argument] else []) =
      .ok (⟨if given then (s, []) :: seen else seen, none⟩, none) := by
  cases given with
  | false => rfl
  | true => exact (takeArguments_lone hg h hs hnew []).trans rfl

theorem takeArguments_name {name : Text} (h : name ∈ g.commands) (args : List Text) :
    takeArguments g ⟨[], none⟩ false (name :: args) = .ok (⟨[], none⟩, some (name, args)) := by
  unfold takeArguments
  simp [awaits?, h]

theorem Request.ofArguments_cons {name : Text} {args : List Text} {c : Command}
    (hname : name ∈ Command.outer.commands) (hhelp : name ≠ Command.helpName)
    (hargs : takeArguments (Command.inner name) ⟨[], none⟩ false args = .ok (⟨seen, none⟩, none))
    (hverbose : has ⟨seen, none⟩ .verbose = false)
    (hc : Command.ofTaken name ⟨seen, none⟩ = .ok c) :
    Request.ofArguments (name :: args) = .ok (.run false c) := by
  have hread : readArguments (name :: args) = .ok (.run false c) := by
    refine bind_eq_ok.mpr ⟨_, takeArguments_name hname args, ?_⟩
    dsimp only
    rw [if_neg hhelp]
    refine bind_eq_ok.mpr ⟨_, hargs, bind_eq_ok.mpr ⟨c, hc, ?_⟩⟩
    rw [hverbose]
    rfl
  rw [Request.ofArguments, hread]

/-- A command with paths is read from the arguments that spell it out. -/
theorem Request.ofArguments_arguments {c : Command} (hc : c.Named) :
    Request.ofArguments c.arguments = .ok (.run false c) := by
  cases c with
  | regGen input output noHeader =>
    obtain ⟨hinput, houtput⟩ := hc
    have hflag {seen : List (Switch × Text)} (hnew : has ⟨seen, none⟩ .noHeader = false) :=
      takeArguments_flag (g := Command.inner Command.regGenName) rfl (by decide) Switch.lone_noHeader
        noHeader hnew
    cases output with
    | none =>
      refine ofArguments_cons (by decide) (by decide)
        ((takeArguments_value rfl (by decide) rfl rfl hinput _).trans (hflag rfl)) ?_ ?_
      · cases noHeader <;> rfl
      · cases noHeader <;> rfl
    | some path =>
      have hpath : path ≠ [] := fun he => houtput (congrArg some he)
      refine ofArguments_cons (by decide) (by decide)
        ((takeArguments_value rfl (by decide) rfl rfl hinput _).trans
          ((takeArguments_value rfl (by decide) rfl rfl hpath _).trans (hflag rfl))) ?_ ?_
      · cases noHeader <;> rfl
      · cases noHeader <;> rfl
  | regGenDriver check =>
    refine ofArguments_cons (by decide) (by decide)
      (takeArguments_flag rfl (by decide) Switch.lone_check check rfl) ?_ ?_
    · cases check <;> rfl
    · cases check <;> rfl
  | precheckin => exact ofArguments_cons (by decide) (by decide) rfl rfl rfl

end RegisterMap
