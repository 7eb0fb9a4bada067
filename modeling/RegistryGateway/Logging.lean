import RegistryGateway.Journal
import RegistryGateway.Settings
import RegistryGateway.Text.Quoted

/-! The configuration of logging: which records are passed on, and where to.  Setting logging up
puts the one handler of the service in the place of all others, or fails. -/

namespace RegistryGateway

inductive Handler
  | standardOutput
  /-- A handler that something else installed. -/
  | foreign (name : String)
  deriving DecidableEq

/-- The level of a logger as a number, which need not be that of a level with a name. -/
structure Threshold where
  rank : Int
  deriving DecidableEq

def Level.threshold (level : Level) : Threshold := ⟨level.rank⟩

/-- The state of logging: the level and the handlers of the root, and the levels set for others. -/
structure Logging where
  rootLevel : Threshold
  handlers : List Handler
  levels : Assoc Threshold

structure UnknownLevel where
  text : String
  deriving DecidableEq

def UnknownLevel.message (e : UnknownLevel) : String := s!"Unknown level: {quotedText e.text}"

namespace Level

/-- The level with a name; two levels have a second name. -/
def ofName? : String → Option Level
  | "CRITICAL" => some .critical
  | "FATAL" => some .critical
  | "ERROR" => some .error
  | "WARN" => some .warning
  | "WARNING" => some .warning
  | "INFO" => some .info
  | "DEBUG" => some .debug
  | "NOTSET" => some .notSet
  | _ => none

end Level

namespace Logging

def initial : Logging := ⟨Level.warning.threshold, [], []⟩

/-- The loggers that only add noise for each request. -/
def quietLoggers : List String := ["uvicorn.access", "httpx", "httpcore"]

def levelOf (l : Logging) (logger : String) : Threshold :=
  (l.levels.get? logger).getD Level.notSet.threshold

/-- The text that a set-up goes by: the argument, or the setting when that is missing or empty. -/
def levelText (settings : Settings) (level : Option String) : String :=
  upper (match level with
    | none => settings.logLevel
    | some text => if text = "" then settings.logLevel else text)

/-- A change of logging that may fail.  What it did before it failed stays done. -/
abbrev Change := ExceptT UnknownLevel (StateM Logging) Unit

/-- The level of the root becomes the one with a name. -/
def setRootLevel (name : String) : Change :=
  match Level.ofName? name with
  | none => throw ⟨name⟩
  | some level => modify fun l => { l with rootLevel := level.threshold }

def setLevel (level : Level) (logger : String) : Change :=
  modify fun l => { l with levels := l.levels.put logger level.threshold }

/-- One occurrence of a handler is removed. -/
def removeHandler (handler : Handler) : Change :=
  modify fun l => { l with handlers := l.handlers.erase handler }

/-- A handler is added unless it is there. -/
def addHandler (handler : Handler) : Change :=
  modify fun l =>
    if l.handlers.contains handler then l else { l with handlers := l.handlers ++ [handler] }

/-- Sets logging up for the service.  The handlers are removed one after the other, as they were
found before the first of them was removed. -/
def setUp (settings : Settings) (level : Option String) : Change := do
  setRootLevel (levelText settings level)
  let found := (← get).handlers
  found.forM removeHandler
  addHandler .standardOutput
  quietLoggers.forM (setLevel .warning)

/-- The outcome of a change, and the logging that it leaves. -/
def Change.apply (change : Change) (l : Logging) : Except UnknownLevel Unit × Logging :=
  change.run.run l

/-- The logging that a set-up leaves when it succeeds. -/
def configure (settings : Settings) (level : Option String) (l : Logging) :
    Except UnknownLevel Logging :=
  match (setUp settings level).apply l with
  | (.error e, _) => .error e
  | (.ok (), next) => .ok next

def configured (settings : Settings) : LogRecord :=
  ⟨.debug, "app.core.logging",
    s!"Logging configured for {settings.serviceName} ({settings.environment})"⟩

/-- The names above a logger, nearest first: what stands before one of its points.  A point that
directly precedes the one just used is passed over. -/
def parents : Nat → List Char → List (List Char)
  | 0, _ => []
  | fuel + 1, name =>
    let above := (name.reverse.dropWhile (· ≠ '.')).drop 1
    if above.isEmpty then []
    else above.reverse :: parents fuel above.tail.reverse

/-- The level that decides about a logger's records: its own, the nearest one above that is set, or
that of the root. -/
def effectiveLevel (l : Logging) (logger : String) : Threshold :=
  let names := logger.toList :: parents logger.length logger.toList
  let levels := names.map fun name => l.levelOf (String.ofList name)
  (levels.find? (· ≠ Level.notSet.threshold)).getD l.rootLevel

/-- Whether a record is passed on to the handlers. -/
def passes (l : Logging) (r : LogRecord) : Bool :=
  (l.effectiveLevel r.logger).rank ≤ r.level.rank

/-- The name that a logger appears under: the one without a name is the root. -/
def displayName (logger : String) : String := if logger = "" then "root" else logger

/-- The line of a record logged at a time. -/
def line (now : Timestamp) (r : LogRecord) : String :=
  s!"{String.ofList now.secondsChars}+0000 [{r.level.name}] [{displayName r.logger}] {r.message}\n"

/-- What a record adds to the standard output: a line for each handler that writes there. -/
def write (l : Logging) (now : Timestamp) (r : LogRecord) : String :=
  if l.passes r then String.join (List.replicate (l.handlers.count .standardOutput) (line now r))
  else ""

/-- Configures logging some times in turn; each configuration reports itself. -/
def configureAll (settings : Settings) (now : Timestamp) :
    List (Option String) → Logging → Except UnknownLevel (Logging × String)
  | [], l => .ok (l, "")
  | level :: rest, l =>
    match l.configure settings level with
    | .error e => .error e
    | .ok next =>
      match configureAll settings now rest next with
      | .error e => .error e
      | .ok (final, output) => .ok (final, next.write now (configured settings) ++ output)

end Logging

end RegistryGateway
