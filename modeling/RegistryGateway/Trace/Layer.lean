import RegistryGateway.Json.Value
import RegistryGateway.Text.Digits

/-! The processing stages that a request passed through. -/

namespace RegistryGateway

/-- One processing stage: its label, how it ended, and how long it took if that was measured. -/
structure LayerEntry where
  layer : String
  status : String
  durationMs : Option Int
  deriving DecidableEq

namespace LayerEntry

def routing : String := "AGENT_ROUTING"

def completed (layer : String) (durationMs : Option Int) : LayerEntry :=
  ⟨layer, "completed", durationMs⟩

def failed (layer : String) (durationMs : Option Int) : LayerEntry :=
  ⟨layer, "failed", durationMs⟩

/-- An unmeasured duration is left out. -/
def toJson (e : LayerEntry) : Json :=
  .obj ([("layer", .str e.layer), ("status", .str e.status)] ++
    match e.durationMs with
    | none => []
    | some ms => [("duration_ms", .int ms)])

/-- Whether the duration of a layer, if it was measured, can be turned into text. -/
def hasText (e : LayerEntry) : Bool := e.durationMs.all RegistryGateway.hasText

end LayerEntry

end RegistryGateway
