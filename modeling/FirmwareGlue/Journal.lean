/-!
# Progress records

Loading and generation can be followed through records. Each has a level; a reader chooses the
least severe level that it wants to see. Records never influence what is generated.
-/

namespace FirmwareGlue

/-- How severe a record is, the most severe first. -/
inductive Level where
  | warn
  | info
  | debug
  deriving DecidableEq

namespace Level

def spelling : Level → String
  | warn => "WARN"
  | info => "INFO"
  | debug => "DEBUG"

/-- The rank of a level; more severe ones have a lower rank. -/
def rank : Level → Nat
  | warn => 0
  | info => 1
  | debug => 2

end Level

structure Record where
  level : Level
  message : String
  deriving DecidableEq

/-- Whether a record is at least as severe as a level. -/
def Record.reaches (r : Record) (threshold : Level) : Bool :=
  r.level.rank ≤ threshold.rank

end FirmwareGlue
