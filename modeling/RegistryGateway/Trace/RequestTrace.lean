import RegistryGateway.Text.Digits
import RegistryGateway.Trace.Layer

/-! The summary of one handled request.  A trace may be malformed: a layer may be a mere name, and
the status may be text; what depends on such a part then fails. -/

namespace RegistryGateway

/-- A layer of a trace: an entry, or a mere name. -/
inductive TraceLayer
  | entry (entry : LayerEntry)
  | name (name : String)
  deriving DecidableEq

/-- The status of a trace: a number, or text. -/
inductive TraceStatus
  | code (code : Int)
  | text (text : String)
  deriving DecidableEq

/-- The comparisons that a status takes part in. -/
inductive Comparison
  | less
  | atLeast
  deriving DecidableEq

/-- The parts that a layer is asked for. -/
inductive LayerPart
  | label
  | members
  deriving DecidableEq

inductive TraceFault
  /-- A layer that is a mere name lacks a part. -/
  | lacks (part : LayerPart)
  /-- A status that is text has no place in the order of numbers. -/
  | unordered (comparison : Comparison)
  /-- An integer has more digits than can be turned into text. -/
  | oversized
  deriving DecidableEq

def TraceFault.message : TraceFault → String
  | .lacks .label => "'str' object has no attribute 'layer'"
  | .lacks .members => "'str' object has no attribute 'to_dict'"
  | .unordered .less => "'<' not supported between instances of 'str' and 'int'"
  | .unordered .atLeast => "'>=' not supported between instances of 'str' and 'int'"
  | .oversized =>
    s!"Exceeds the limit ({digitLimit} digits) for integer string conversion; " ++
      "use sys.set_int_max_str_digits() to increase the limit"

/-- The summary of one handled request. -/
structure RequestTrace where
  executionId : String
  traceId : String
  method : String
  path : String
  status : TraceStatus
  layers : List TraceLayer
  error : Option String
  deriving DecidableEq

namespace TraceLayer

/-- The entry of a layer, needed for one of its parts. -/
def entryFor (part : LayerPart) : TraceLayer → Except TraceFault LayerEntry
  | .entry e => .ok e
  | .name _ => .error (.lacks part)

end TraceLayer

namespace TraceStatus

/-- The number of a status, needed for a comparison. -/
def codeFor (comparison : Comparison) : TraceStatus → Except TraceFault Int
  | .code n => .ok n
  | .text _ => .error (.unordered comparison)

def toJson : TraceStatus → Json
  | .code n => .int n
  | .text s => .str s

/-- The status as it appears in a line of text. -/
def display : TraceStatus → Except TraceFault String
  | .code n => if hasText n then .ok (toString n) else .error .oversized
  | .text s => .ok s

end TraceStatus

namespace RequestTrace

/-- The entries of all layers, needed for one of their parts. -/
def entriesFor (part : LayerPart) (t : RequestTrace) : Except TraceFault (List LayerEntry) :=
  t.layers.mapM (·.entryFor part)

/-- A request succeeded when its status is below 400. -/
def success (t : RequestTrace) : Except TraceFault Bool :=
  match t.status.codeFor .less with
  | .ok code => .ok (code < 400)
  | .error f => .error f

/-- The members of a trace; the status is looked at before the layers. -/
def toJson (t : RequestTrace) : Except TraceFault Json :=
  match t.success with
  | .error f => .error f
  | .ok success =>
    match t.entriesFor .members with
    | .error f => .error f
    | .ok entries =>
      .ok (.obj
        [("execution_id", .str t.executionId), ("trace_id", .str t.traceId),
          ("method", .str t.method), ("path", .str t.path), ("status_code", t.status.toJson),
          ("success", .bool success), ("layers", .arr (entries.map LayerEntry.toJson)),
          ("error", .ofOption t.error)])

/-- Whether every integer of a trace can be turned into text. -/
def hasText (t : RequestTrace) : Bool :=
  let status := match t.status with
    | .code n => RegistryGateway.hasText n
    | .text _ => true
  status && t.layers.all fun
    | .entry e => e.hasText
    | .name _ => true

end RequestTrace

end RegistryGateway
