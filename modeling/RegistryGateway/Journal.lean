import RegistryGateway.Platform
import RegistryGateway.Timestamp

/-! What a run draws on and what it leaves behind: a source of identifiers, the time of day and a
clock on one side, log records on the other. -/

namespace RegistryGateway

inductive Level
  | notSet
  | debug
  | info
  | warning
  | error
  | critical
  deriving DecidableEq

namespace Level

def name : Level → String
  | .notSet => "NOTSET"
  | .debug => "DEBUG"
  | .info => "INFO"
  | .warning => "WARNING"
  | .error => "ERROR"
  | .critical => "CRITICAL"

/-- The rank of a level: a record is passed on when its rank is not below the logger's. -/
def rank : Level → Nat
  | .notSet => 0
  | .debug => 10
  | .info => 20
  | .warning => 30
  | .error => 40
  | .critical => 50

end Level

/-- A record that a part of the gateway logged under its own name. -/
structure LogRecord where
  level : Level
  logger : String
  message : String
  deriving DecidableEq

/-- What a run draws on: how many identifiers were issued, the time of day, and the readings of the
clock still to come, in seconds. -/
structure Sources where
  issued : Nat
  now : Timestamp
  clock : List Double

namespace Sources

/-- An identifier that was not issued before. -/
def fresh [Platform] (s : Sources) : String × Sources :=
  (Platform.identifier (s.issued + 1), { s with issued := s.issued + 1 })

/-- A reading of the clock, zero when none is left. -/
def tick (s : Sources) : Double × Sources :=
  match s.clock with
  | [] => (.zero, s)
  | reading :: rest => (reading, { s with clock := rest })

end Sources

end RegistryGateway
