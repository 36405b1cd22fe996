import RegisterMap.Text.Plain

/-!
# Usage

The command line names one of three commands, after switches that hold for all
of them and before its own. A switch is long (`--input`) or short (`-i`); its
value stands in the next argument or in its own (`--input=F`, `-iF`), and short
switches may share an argument. What a switch still waits for, or has been
given, is settled when the next switch is taken or the arguments end.
-/

namespace RegisterMap

inductive Switch where
  | verbose
  | help
  | version
  | input
  | output
  | noHeader
  | check
  deriving DecidableEq, Repr

inductive UsageFault where
  | noArguments
  | noCommand
  | unknownCommand (name : Text)
  | unexpectedArgument (arg : Text)
  | missingArguments
  | valueWanted (switch : Switch)
  | repeated (switch : Switch)
  | unexpectedValue (switch : Switch) (value : Text)
  deriving DecidableEq, Repr

inductive Command where
  | regGen (input : Text) (output : Option Text) (noHeader : Bool)
  | regGenDriver (check : Bool)
  | precheckin
  deriving DecidableEq, Repr

inductive Request where
  | version
  | help
  | run (verbose : Bool) (command : Command)
  deriving DecidableEq, Repr

namespace Switch

def long : Switch → Text
  | verbose => "verbose".toList
  | help => "help".toList
  | version => "version".toList
  | input => "input".toList
  | output => "output".toList
  | noHeader => "no-header".toList
  | check => "check".toList

def short? : Switch → Option Char
  | verbose => some 'v'
  | help => some 'h'
  | version => some 'V'
  | input => some 'i'
  | output => some 'o'
  | noHeader => none
  | check => none

def takesValue : Switch → Bool
  | input => true
  | output => true
  | _ => false

/-- The switch as messages name it. -/
def label (s : Switch) : Text :=
  "--".toList ++ s.long ++ if s.takesValue then " <FILE>".toList else []

end Switch

/-- What is said of a fault. What an argument holds is shown as plain text. -/
def UsageFault.message : UsageFault → Text
  | noArguments => "Usage: xtask [OPTIONS] <COMMAND>".toList
  | noCommand => "error: 'xtask' requires a subcommand but one was not provided".toList
  | unknownCommand name => "error: unrecognized subcommand '".toList ++ name.plain ++ "'".toList
  | unexpectedArgument arg => "error: unexpected argument '".toList ++ arg.plain ++ "' found".toList
  | missingArguments => "error: the following required arguments were not provided:".toList
  | valueWanted s =>
    "error: a value is required for '".toList ++ s.label ++ "' but none was supplied".toList
  | repeated s =>
    "error: the argument '".toList ++ s.label ++ "' cannot be used multiple times".toList
  | unexpectedValue s value =>
    "error: unexpected value '".toList ++ value.plain ++ "' for '".toList ++ s.label ++
      "' found; no more were expected".toList

/-- What ends the reading of arguments early. -/
inductive Stop where
  | fault (fault : UsageFault)
  | help
  | version
  deriving DecidableEq, Repr

/-- The switches and commands known at a place of the command line. -/
structure Grammar where
  switches : List Switch
  commands : List Text

/-- The switches read so far, and the one that is not settled, with its value if it has come. -/
structure Taken where
  seen : List (Switch × Text)
  pending : Option (Switch × Option Text)
  deriving DecidableEq, Repr

namespace Taken

def has (t : Taken) (s : Switch) : Bool := (t.seen.lookup s).isSome

def value? (t : Taken) (s : Switch) : Option Text := t.seen.lookup s

def enter (t : Taken) (s : Switch) (value : Option Text) : Except Stop Taken :=
  match s, value with
  | .help, _ => .error .help
  | .version, _ => .error .version
  | s, value =>
    if s.takesValue && value.isNone then .error (.fault (.valueWanted s))
    else if t.has s then .error (.fault (.repeated s))
    else if value = some [] then .error (.fault (.valueWanted s))
    else .ok { t with seen := (s, value.getD []) :: t.seen }

/-- Settles the switch that is pending. -/
def settle (t : Taken) : Except Stop Taken :=
  match t.pending with
  | none => .ok t
  | some (s, value) => { t with pending := none }.enter s value

def take (t : Taken) (s : Switch) (value : Option Text) : Except Stop Taken := do
  (← t.settle).enter s value

/-- Takes a switch whose value is to come. -/
def await (t : Taken) (s : Switch) : Except Stop Taken := do
  return { (← t.settle) with pending := some (s, none) }

def awaits? (t : Taken) : Option Switch :=
  match t.pending with
  | some (s, none) => some s
  | _ => none

end Taken

/-- Takes a long switch, as it stands after `--`. -/
def takeLong (g : Grammar) (t : Taken) (arg : Text) : Except Stop Taken :=
  let name := arg.takeWhile (· ≠ '=')
  let value := match arg.dropWhile (· ≠ '=') with
    | [] => none
    | _ :: v => some v
  match g.switches.find? (·.long = name), value with
  | none, _ => .error (.fault (.unexpectedArgument ("--".toList ++ name)))
  | some s, some v =>
    if s.takesValue then t.take s (some v) else .error (.fault (.unexpectedValue s v))
  | some s, none => if s.takesValue then t.await s else t.take s none

/-- Takes short switches, as they stand after `-`. -/
def takeShort (g : Grammar) (t : Taken) : Text → Except Stop Taken
  | [] => .ok t
  | c :: rest =>
    match g.switches.find? (·.short? = some c) with
    | none => .error (.fault (.unexpectedArgument ['-', c]))
    | some s =>
      if s.takesValue then
        match rest with
        | [] => t.await s
        | '=' :: v => t.take s (some v)
        | v => t.take s (some v)
      else do takeShort g (← t.take s none) rest

/-- What is said of an argument that is neither a switch nor a value. -/
def stray (g : Grammar) (trailing : Bool) (arg : Text) : UsageFault :=
  if g.commands = [] ∨ (trailing ∧ arg ∈ g.commands) then .unexpectedArgument arg
  else .unknownCommand arg

/-- Takes arguments up to a command, which comes with the arguments after it. After `--` there are
no switches. -/
def takeArguments (g : Grammar) (t : Taken) (trailing : Bool) :
    List Text → Except Stop (Taken × Option (Text × List Text))
  | [] => do return (← t.settle, none)
  | arg :: args =>
    if trailing then .error (.fault (stray g trailing arg))
    else if t.awaits?.isNone ∧ arg ∈ g.commands then .ok (t, some (arg, args))
    else
      match arg, t.awaits? with
      | ['-', '-'], _ => takeArguments g t true args
      | '-' :: '-' :: long, _ => do takeArguments g (← takeLong g t long) false args
      | '-' :: c :: short, _ => do takeArguments g (← takeShort g t (c :: short)) false args
      | arg, some s => takeArguments g { t with pending := some (s, some arg) } false args
      | arg, none => .error (.fault (stray g trailing arg))

namespace Command

def regGenName : Text := "reg-gen".toList

def driverName : Text := "reg-gen-driver".toList

def precheckinName : Text := "precheckin".toList

def helpName : Text := "help".toList

/-- What may stand before the command. -/
def outer : Grammar :=
  ⟨[.verbose, .help, .version], [regGenName, driverName, precheckinName, helpName]⟩

/-- What may stand after a command. -/
def inner (name : Text) : Grammar :=
  if name = regGenName then ⟨[.input, .output, .noHeader, .verbose, .help], []⟩
  else if name = driverName then ⟨[.check, .verbose, .help], []⟩
  else ⟨[.verbose, .help], []⟩

/-- The command of a name and its switches. -/
def ofTaken (name : Text) (t : Taken) : Except Stop Command :=
  if name = regGenName then
    match t.value? .input with
    | none => .error (.fault .missingArguments)
    | some input => .ok (.regGen input (t.value? .output) (t.has .noHeader))
  else if name = driverName then .ok (.regGenDriver (t.has .check))
  else .ok .precheckin

end Command

/-- What the words after `help` come to: they name a command, which has no commands of its own.
There are no switches among them. -/
def readHelp (commands : List Text) : List Text → Stop
  | [] => .help
  | word :: words =>
    if word ∈ commands then readHelp [] words else .fault (.unknownCommand word)

/-- The request of a command line, by the rules of its two places. -/
def readArguments (args : List Text) : Except Stop Request := do
  let (t, command) ← takeArguments Command.outer ⟨[], none⟩ false args
  match command with
  | none => throw (.fault (if t.seen = [] then .noArguments else .noCommand))
  | some (name, args) =>
    if name = Command.helpName then throw (readHelp Command.outer.commands args)
    else
      let (u, _) ← takeArguments (Command.inner name) ⟨[], none⟩ false args
      let command ← Command.ofTaken name u
      return .run (t.has .verbose || u.has .verbose) command

def Request.ofArguments (args : List Text) : Except UsageFault Request :=
  match readArguments args with
  | .ok r => .ok r
  | .error .help => .ok .help
  | .error .version => .ok .version
  | .error (.fault e) => .error e

end RegisterMap
