import RegisterMap.Layout.Basic
import RegisterMap.Device.Basic

/-!
# Log

A notice has a level, a source and a message. Debug notices show only when asked
for.
-/

namespace RegisterMap

inductive Level where
  | error
  | warn
  | info
  | debug
  deriving DecidableEq, Repr

/-- Where a notice comes from. -/
inductive Source where
  | program
  | regGen
  | regGenDriver
  | generator
  | derivation
  deriving DecidableEq, Repr

structure Notice where
  level : Level
  source : Source
  message : Text
  deriving DecidableEq, Repr

/-- The name of a level, five characters wide. -/
def Level.label : Level → Text
  | error => "ERROR".toList
  | warn => "WARN ".toList
  | info => "INFO ".toList
  | debug => "DEBUG".toList

def Source.label : Source → Text
  | program => "xtask".toList
  | regGen => "xtask::reg_gen".toList
  | regGenDriver => "xtask::reg_gen_driver".toList
  | generator => "registers_generator::codegen".toList
  | derivation => "registers_generator::codegen::generate".toList

def Notice.render (n : Notice) : Text :=
  n.level.label ++ " [".toList ++ n.source.label ++ "] ".toList ++ n.message ++ ['\n']

def showLog (verbose : Bool) (log : List Notice) : Text :=
  (log.filter fun n => verbose || n.level ≠ .debug).flatMap Notice.render

/-- A register has become a block. -/
def Notice.derived (r : Register) (b : Block) : Notice :=
  ⟨.debug, .derivation, "Derived ".toList ++ r.name ++ " as ".toList ++ b.typeName ++
    " (".toList ++ Text.decimal b.accessors.length ++ " bitfields)".toList⟩

/-- A layout is complete. -/
def Notice.generated (l : Layout) : Notice :=
  ⟨.info, .generator, "Generated ".toList ++ Text.decimal l.blocks.length ++
    " registers for ".toList ++ l.name⟩

end RegisterMap
