import RegistryGateway.Proofs.Exit

/-! Tracing does not show.  A sink is handed the trace of a request between the making of its
response and its return, and may keep it, log it, or refuse it.  Whatever looks on, and whether
anything does, responses, sources and calls are the same, at every step of every run. -/

namespace RegistryGateway

/-- What looks on while a request is handled: where its trace goes, if it is traced. -/
structure Observer where
  sink : TraceSink
  enabled : Bool

/-- What can be seen of a handled request other than logs and traces: the response or the fault, the
sources left, and the calls made. -/
def Handled.visible (h : Handled) : Except UrlFault OutboundResponse × Sources × List AgentCall :=
  (h.outcome, h.sources, h.calls)

namespace Router

def watchedBy (r : Router) (o : Observer) : Router :=
  { r with sink := o.sink, traceEnabled := o.enabled }

variable [Platform]

/-- Handles requests in turn while observers look on.  Each may depend on all that was handled
before, logs and traces included. -/
def handleWatched (r : Router) (watch : List Handled → Observer) (before : List Handled) :
    List InboundRequest → Sources → List Handled
  | [], _ => []
  | request :: rest, s =>
    let handled := (r.watchedBy (watch before)).handle request s
    handled :: handleWatched r watch (before ++ [handled]) rest handled.sources

/-- An observer that stays looks on along a run of its own router. -/
theorem handleWatched_const (r : Router) (o : Observer) (before : List Handled)
    (requests : List InboundRequest) (s : Sources) :
    r.handleWatched (fun _ => o) before requests s = (r.watchedBy o).handleAll requests s := by
  induction requests generalizing before s with
  | nil => rfl
  | cons request rest ih => rw [handleWatched, handleAll, ih]

/-- Nothing is seen of who looks on while one request is handled. -/
theorem handle_visible (r : Router) (o : Observer) (request : InboundRequest) (s : Sources) :
    ((r.watchedBy o).handle request s).visible = (r.handle request s).visible := by
  by_cases hm : request.method = "OPTIONS"
  · rw [handle_options _ s hm, handle_options _ s hm]
  cases hp : request.resolvePath with
  | error fault => rw [handle_unresolved _ s hm hp, handle_unresolved _ s hm hp]
  | ok path =>
    have hmetadata : (r.watchedBy o).metadata request s = r.metadata request s := rfl
    have hdispatched : (r.watchedBy o).dispatched request path s = r.dispatched request path s :=
      rfl
    rw [handle_resolved _ s hm hp, handle_resolved _ s hm hp, hmetadata, hdispatched]
    rfl

/-- Nor is anything seen along a run, where each request is handled with the sources that the one
before it left. -/
theorem handleWatched_visible (r : Router) (watch : List Handled → Observer)
    (before : List Handled) (requests : List InboundRequest) (s : Sources) :
    (r.handleWatched watch before requests s).map Handled.visible =
      (r.handleAll requests s).map Handled.visible := by
  induction requests generalizing before s with
  | nil => rfl
  | cons request rest ih =>
    have hvisible := r.handle_visible (watch before) request s
    have hsources : ((r.watchedBy (watch before)).handle request s).sources =
        (r.handle request s).sources := congrArg (·.2.1) hvisible
    rw [handleWatched, handleAll, List.map_cons, List.map_cons, hvisible, ih, hsources]

end Router

end RegistryGateway
