import RegistryGateway.Trace.RequestTrace
import RegistryGateway.Journal
import RegistryGateway.Json.Text
import RegistryGateway.Json.Display

/-! Where traces go.  A sink keeps a trace, or logs it as a line of text or of JSON; what goes wrong
while a line is made becomes a warning instead. -/

namespace RegistryGateway

/-- What became of an emitted trace: kept traces and log records, or a refusal. -/
structure Emission where
  kept : List RequestTrace
  logs : List LogRecord
  refusal : Option String

/-- A destination of traces. -/
inductive TraceSink
  /-- Keeps the traces. -/
  | memory
  /-- Logs each trace as a line of JSON. -/
  | json
  /-- Logs a line for each trace and, when verbose, one for each layer. -/
  | logging (verbose : Bool)
  /-- A sink given from outside. -/
  | custom (behaviour : RequestTrace → Emission)

namespace TraceSink

/-- A sink that refuses every trace with a message. -/
def broken (message : String) : TraceSink := .custom fun _ => ⟨[], [], some message⟩

instance (sink : TraceSink) : Decidable (sink = .memory) :=
  match sink with
  | .memory => isTrue rfl
  | .json | .logging _ | .custom _ => isFalse nofun

def logger : String := "observability.sink"

def record (level : Level) (message : String) : LogRecord := ⟨level, logger, message⟩

/-- The level of a summary line by the status of its trace. -/
def summaryLevel (status : Int) : Level :=
  if 500 ≤ status then .error else if 400 ≤ status then .warning else .info

/-- The label and the end of each layer, in order. -/
def layerSummary (entries : List LayerEntry) : String :=
  " -> ".intercalate (entries.map fun e => s!"{e.layer}:{e.status}")

/-- The line that sums up a trace with this status and these layers; an empty error is left out. -/
def summary (t : RequestTrace) (status : String) (entries : List LayerEntry) : String :=
  let line := s!"[{t.traceId}] {t.method} {t.path} -> {status} ({layerSummary entries})"
  match t.error with
  | none => line
  | some error => if error = "" then line else s!"{line} error={quotedText error}"

/-- The line about one layer of a trace. -/
def layerLine (t : RequestTrace) (e : LayerEntry) : String :=
  s!"[{t.traceId}]   {e.toJson.display}"

/-- What is logged of a trace: some records, and what kept the rest from being made. -/
abbrev Records := List LogRecord × Option TraceFault

def summaryRecord (t : RequestTrace) (entries : List LayerEntry) : Except TraceFault LogRecord :=
  match t.status.display with
  | .error f => .error f
  | .ok shown =>
    match t.status.codeFor .atLeast with
    | .error f => .error f
    | .ok status => .ok (record (summaryLevel status) (summary t shown entries))

/-- A record for each layer, up to the first that has no text. -/
def layerRecords (t : RequestTrace) : List LayerEntry → Records
  | [] => ([], none)
  | e :: rest =>
    if e.hasText then
      let (records, fault) := layerRecords t rest
      (record .debug (layerLine t e) :: records, fault)
    else ([], some .oversized)

/-- The records of a trace as lines of text.  Each is logged before the next is made. -/
def lineRecords (verbose : Bool) (t : RequestTrace) : Records :=
  match t.entriesFor .label with
  | .error f => ([], some f)
  | .ok entries =>
    match summaryRecord t entries with
    | .error f => ([], some f)
    | .ok summary =>
      let (records, fault) := if verbose then layerRecords t entries else ([], none)
      (summary :: records, fault)

/-- The record of a trace as a line of JSON. -/
def jsonRecords (t : RequestTrace) : Records :=
  match t.toJson with
  | .error f => ([], some f)
  | .ok v => if t.hasText then ([record .info v.wire], none) else ([], some .oversized)

/-- The records, and a warning if there should have been more. -/
def withWarning (what : String) (records : Records) : List LogRecord :=
  records.1 ++ (records.2.map fun f =>
    record .warning s!"[TRACE] Failed to emit {what}: {f.message}").toList

def emit (sink : TraceSink) (t : RequestTrace) : Emission :=
  match sink with
  | .memory => ⟨[t], [], none⟩
  | .json => ⟨[], withWarning "JSON trace" (jsonRecords t), none⟩
  | .logging verbose => ⟨[], withWarning "trace" (lineRecords verbose t), none⟩
  | .custom behaviour => behaviour t

end TraceSink

end RegistryGateway
