import RegistryGateway.Proofs.Duration

/-! Runs of an agent.  `Executor.Ends` lists the ways in which a run ends, each with what it leaves
behind, and `run_ends` says that there are no others.  With a steady clock a run fails only when no
agent is registered or the agent fails. -/

namespace RegistryGateway

namespace Sources

@[simp] theorem tick_now (s : Sources) : s.tick.2.now = s.now := by
  simp only [tick]
  split <;> rfl

/-- A reading depends on the clock only. -/
theorem tick_of_clock {s t : Sources} (h : s.clock = t.clock) :
    s.tick.1 = t.tick.1 ∧ s.tick.2.clock = t.tick.2.clock := by
  cases ht : t.clock <;> simp [tick, h, ht]

theorem Steady.of_clock {s t : Sources} (hs : s.Steady) (h : s.clock = t.clock) : t.Steady := by
  obtain ⟨hfirst, hclock⟩ := tick_of_clock h
  obtain ⟨hsecond, -⟩ := tick_of_clock hclock
  simpa only [Steady, hfirst, hsecond] using hs

end Sources

namespace AgentRegistry

/-- An agent is found under its own name. -/
theorem name_of_get? {registry : AgentRegistry} {name : String} {agent : Agent}
    (h : registry.get? name = some agent) : agent.name = name := by
  simpa using List.find?_some h

variable [Platform]

/-- Asked for by name with a body, no agent is registered, the agent fails, or its typed output
cannot be written. -/
def Fails (registry : AgentRegistry) (name : String) (body : Json) (s : Sources) (e : Failure) :
    Prop :=
  (registry.get? name = none ∧ e = .unknownAgent name) ∨
    ∃ agent, registry.get? name = some agent ∧ ((agent.execute body s).1 = .error e ∨
      (agent.execute body s).1 = .ok (.record (.error e)))

/-- Asked for by name with a body, the agent gives some data: a typed output as it is written, and
any other value as it is. -/
def Gives (registry : AgentRegistry) (name : String) (body : Json) (s : Sources) (data : Json) :
    Prop :=
  ∃ agent, registry.get? name = some agent ∧
    ((agent.execute body s).1 = .ok (.plain data) ∨
      (agent.execute body s).1 = .ok (.record (.ok data)))

section

variable {registry : AgentRegistry} {name : String} {body : Json} {s : Sources} {e : Failure}
  {data : Json}

theorem gives_iff :
    registry.Gives name body s data ↔ ∃ agent output, registry.get? name = some agent ∧
      (agent.execute body s).1 = .ok output ∧ output.data = .ok data := by
  constructor
  · rintro ⟨agent, hget, hplain | hrecord⟩
    · exact ⟨agent, _, hget, hplain, rfl⟩
    · exact ⟨agent, _, hget, hrecord, rfl⟩
  · rintro ⟨agent, output, hget, houtput, hdata⟩
    cases output with
    | plain v =>
      cases hdata
      exact ⟨agent, hget, .inl houtput⟩
    | record written =>
      cases hdata
      exact ⟨agent, hget, .inr houtput⟩

/-- An agent that answers fails when its output cannot be written. -/
theorem fails_of_output {agent : Agent} {output : AgentOutput}
    (hget : registry.get? name = some agent) (houtput : (agent.execute body s).1 = .ok output)
    (e : Failure) : registry.Fails name body s e ↔ output.data = .error e := by
  cases output <;> simp [Fails, hget, houtput, AgentOutput.data]

/-- An agent that answers gives what is written. -/
theorem gives_of_output {agent : Agent} {output : AgentOutput}
    (hget : registry.get? name = some agent) (houtput : (agent.execute body s).1 = .ok output)
    (data : Json) : registry.Gives name body s data ↔ output.data = .ok data := by
  simp [gives_iff, hget, houtput]

/-- There is at most one failure. -/
theorem Fails.iff (h : registry.Fails name body s e) (e' : Failure) :
    registry.Fails name body s e' ↔ e = e' := by
  obtain ⟨hget, rfl⟩ | ⟨agent, hget, he | he⟩ := h
  · simp [Fails, hget, eq_comm]
  · simp [Fails, hget, he]
  · simp [Fails, hget, he]

/-- At most one value is given. -/
theorem Gives.iff (h : registry.Gives name body s data) (data' : Json) :
    registry.Gives name body s data' ↔ data = data' := by
  obtain ⟨agent, output, hget, ho, hdata⟩ := gives_iff.mp h
  simp [gives_of_output hget ho, hdata]

/-- An agent that fails gives nothing. -/
theorem Fails.not_gives (h : registry.Fails name body s e) :
    ¬registry.Gives name body s data := by
  obtain ⟨hget, -⟩ | ⟨agent, hget, he | he⟩ := h
  · simp [Gives, hget]
  · simp [Gives, hget, he]
  · simp [Gives, hget, he]

end

end AgentRegistry

namespace Agent

/-- Both parts of a computation succeed where the whole does. -/
theorem bind_eq_ok {α β : Type} {first : Except Failure α} {next : α → Except Failure β} {b : β}
    (h : first >>= next = .ok b) : ∃ a, first = .ok a ∧ next a = .ok b := by
  cases first with
  | error e => cases h
  | ok a => exact ⟨a, rfl, h⟩

variable [Platform]

/-- A value is written with null for its doubles that are not finite, unless the platform cannot
write it. -/
theorem written?_eq_ok_iff {v w : Json} :
    v.written? = .ok w ↔ Platform.writeFault? v = none ∧ v.finite = w := by
  rw [Json.written?]
  cases Platform.writeFault? v <;> simp

/-- Of its sources, an agent draws identifiers only. -/
theorem execute_sources (a : Agent) (body : Json) (s : Sources) :
    ∃ issued, (a.execute body s).2 = { s with issued := issued } := by
  cases a with
  | bootstrap baseUrl =>
    simp only [execute, bootstrap.answer]
    split
    · exact ⟨_, rfl⟩
    · exact ⟨_, rfl⟩
  | index | reputation | custom => exact ⟨_, rfl⟩

@[simp] theorem execute_clock (a : Agent) (body : Json) (s : Sources) :
    (a.execute body s).2.clock = s.clock := by
  obtain ⟨issued, h⟩ := a.execute_sources body s
  rw [h]

@[simp] theorem execute_now (a : Agent) (body : Json) (s : Sources) :
    (a.execute body s).2.now = s.now := by
  obtain ⟨issued, h⟩ := a.execute_sources body s
  rw [h]

end Agent

namespace AgentResult

/-- What is wrong with a negative duration. -/
def negativeDuration : Failure :=
  .misfit "AgentResult" [⟨["duration_ms"], .outOfBound (.atLeast 0)⟩]

/-- Any data and layer make a result with a duration that is not negative. -/
theorem make_eq [Platform] (data : Json) (layer : String) (ms : Int) :
    make data layer ms = if 0 ≤ ms then .ok ⟨data, layer, ms⟩ else .error negativeDuration := by
  by_cases h : 0 ≤ ms <;>
    simp [make, negativeDuration, toJson, Contract.agentResult, Contract.required, Shape.check,
      Shape.checkFields, Shape.both, Shape.under, Shape.scalar, Shape.toInteger, Shape.within,
      Shape.fail, Misfit.under, Assoc.get?, Bound.allowsInteger, Except.bind, h]

end AgentResult

namespace Executor

/-- The record of a call that was answered. -/
def completion (name : String) (ms : Int) : LogRecord :=
  ⟨.debug, logger, s!"Agent {name} completed in {ms}ms"⟩

variable [Platform]

/-- The ways in which the run of an agent ends. -/
inductive Ends (registry : AgentRegistry) (name : String) (body : Json) (s : Sources) : Run → Prop
  | unregistered :
      registry.get? name = none → Ends registry name body s ⟨.error (.unknownAgent name), s, [], []⟩
  | failed {agent : Agent} {e : Failure} :
      registry.get? name = some agent →
      (agent.execute body s.tick.2).1 = .error e →
      Ends registry name body s
        ⟨.error e, (agent.execute body s.tick.2).2, [], [⟨agent, body⟩]⟩
  | unmeasured {agent : Agent} {output : AgentOutput} {e : Failure} :
      registry.get? name = some agent →
      (agent.execute body s.tick.2).1 = .ok output →
      milliseconds s.tick.1 s.tick.2.tick.1 = .error e →
      Ends registry name body s
        ⟨.error e, (agent.execute body s.tick.2).2.tick.2, [], [⟨agent, body⟩]⟩
  | unwritten {agent : Agent} {output : AgentOutput} {ms : Int} {e : Failure} :
      registry.get? name = some agent →
      (agent.execute body s.tick.2).1 = .ok output →
      milliseconds s.tick.1 s.tick.2.tick.1 = .ok ms → output.data = .error e →
      Ends registry name body s
        ⟨.error e, (agent.execute body s.tick.2).2.tick.2, [], [⟨agent, body⟩]⟩
  | backwards {agent : Agent} {output : AgentOutput} {ms : Int} {data : Json} :
      registry.get? name = some agent →
      (agent.execute body s.tick.2).1 = .ok output →
      milliseconds s.tick.1 s.tick.2.tick.1 = .ok ms → output.data = .ok data → ms < 0 →
      Ends registry name body s
        ⟨.error AgentResult.negativeDuration, (agent.execute body s.tick.2).2.tick.2,
          [completion name ms], [⟨agent, body⟩]⟩
  | answered {agent : Agent} {output : AgentOutput} {ms : Int} {data : Json} :
      registry.get? name = some agent →
      (agent.execute body s.tick.2).1 = .ok output →
      milliseconds s.tick.1 s.tick.2.tick.1 = .ok ms → output.data = .ok data → 0 ≤ ms →
      Ends registry name body s
        ⟨.ok ⟨data, agent.layer, ms⟩, (agent.execute body s.tick.2).2.tick.2,
          [completion name ms], [⟨agent, body⟩]⟩

theorem run_ends (registry : AgentRegistry) (name : String) (body : Json) (s : Sources) :
    Ends registry name body s (run registry name body s) := by
  cases hget : registry.get? name with
  | none =>
    simp only [run, AgentRegistry.require, hget]
    exact .unregistered hget
  | some agent =>
    have hclock : (agent.execute body s.tick.2).2.tick.1 = s.tick.2.tick.1 :=
      (Sources.tick_of_clock (agent.execute_clock body s.tick.2)).1
    simp only [run, AgentRegistry.require, hget]
    rcases hx : agent.execute body s.tick.2 with ⟨result, after⟩
    rw [hx] at hclock
    cases result with
    | error e =>
      have h := Ends.failed (s := s) hget (congrArg Prod.fst hx)
      rwa [hx] at h
    | ok output =>
      simp only [hclock]
      cases hms : milliseconds s.tick.1 s.tick.2.tick.1 with
      | error e =>
        have h := Ends.unmeasured hget (congrArg Prod.fst hx) hms
        rwa [hx] at h
      | ok ms =>
        cases hdata : output.data with
        | error e =>
          have h := Ends.unwritten hget (congrArg Prod.fst hx) hms hdata
          rwa [hx] at h
        | ok data =>
          simp only [AgentResult.make_eq]
          split
          next hpos =>
            have h := Ends.answered hget (congrArg Prod.fst hx) hms hdata hpos
            rwa [hx] at h
          next hneg =>
            have h := Ends.backwards hget (congrArg Prod.fst hx) hms hdata (Int.not_le.mp hneg)
            rwa [hx] at h

/-- A result bears the label of the name it was asked for and a duration that is not negative. -/
theorem result_of_run {registry : AgentRegistry} {name : String} {body : Json} {s : Sources}
    {result : AgentResult} (h : (run registry name body s).result = .ok result) :
    result.layer = Contract.layerName name ∧ 0 ≤ result.durationMs := by
  have hends := run_ends registry name body s
  generalize run registry name body s = run at h hends
  cases hends with
  | answered hget _ _ _ hpos =>
    cases h
    exact ⟨congrArg Contract.layerName (AgentRegistry.name_of_get? hget), hpos⟩
  | unregistered | failed | unmeasured | unwritten | backwards => cases h

/-- The data of a result are given by the agent, whatever the clock shows. -/
theorem gives_of_run {registry : AgentRegistry} {name : String} {body : Json} {s : Sources}
    {result : AgentResult} (h : (run registry name body s).result = .ok result) :
    registry.Gives name body s.tick.2 result.data := by
  have hends := run_ends registry name body s
  generalize run registry name body s = run at h hends
  cases hends with
  | answered hget ho _ hdata =>
    cases h
    exact AgentRegistry.gives_iff.mpr ⟨_, _, hget, ho, hdata⟩
  | unregistered | failed | unmeasured | unwritten | backwards => cases h

/-- With a steady clock, a run fails as the agent or its output does, or for want of an agent. -/
theorem run_error_iff {registry : AgentRegistry} {name : String} {body : Json} {s : Sources}
    (hs : s.Steady) (e : Failure) :
    (run registry name body s).result = .error e ↔ registry.Fails name body s.tick.2 e := by
  have hends := run_ends registry name body s
  obtain ⟨ms, hpos, hms⟩ := milliseconds_nonneg hs.1 hs.2
  generalize run registry name body s = run at hends ⊢
  cases hends with
  | unregistered hget => simp [AgentRegistry.Fails, hget, eq_comm]
  | failed hget he => simp [AgentRegistry.Fails, hget, he]
  | unmeasured _ _ hbad => rw [hms] at hbad; cases hbad
  | unwritten hget ho _ hdata => simp [AgentRegistry.fails_of_output hget ho, hdata]
  | backwards _ _ hbad _ hneg => rw [hms] at hbad; cases hbad; omega
  | answered hget ho _ hdata => simp [AgentRegistry.fails_of_output hget ho, hdata]

/-- With a steady clock, the data of a run are those that the agent gives. -/
theorem run_ok_iff {registry : AgentRegistry} {name : String} {body : Json} {s : Sources}
    (hs : s.Steady) (data : Json) :
    (∃ result, (run registry name body s).result = .ok result ∧ result.data = data) ↔
      registry.Gives name body s.tick.2 data := by
  have hends := run_ends registry name body s
  obtain ⟨ms, hpos, hms⟩ := milliseconds_nonneg hs.1 hs.2
  generalize run registry name body s = run at hends ⊢
  cases hends with
  | unregistered hget => simp [AgentRegistry.Gives, hget]
  | failed hget he => simp [AgentRegistry.Gives, hget, he]
  | unmeasured _ _ hbad => rw [hms] at hbad; cases hbad
  | unwritten hget ho _ hdata => simp [AgentRegistry.gives_of_output hget ho, hdata]
  | backwards _ _ hbad _ hneg => rw [hms] at hbad; cases hbad; omega
  | answered hget ho _ hdata => simp [AgentRegistry.gives_of_output hget ho, hdata]

/-- A run calls the registered agent once, on the body, and nothing when there is none. -/
theorem run_calls (registry : AgentRegistry) (name : String) (body : Json) (s : Sources) :
    (run registry name body s).calls =
      ((registry.get? name).map fun agent => ⟨agent, body⟩).toList := by
  have hends := run_ends registry name body s
  generalize run registry name body s = run at hends ⊢
  cases hends with
  | unregistered hget => simp [hget]
  | failed hget | unmeasured hget | unwritten hget | backwards hget | answered hget =>
    simp [hget]

/-- A run leaves the time of day as it is. -/
@[simp] theorem run_now (registry : AgentRegistry) (name : String) (body : Json) (s : Sources) :
    (run registry name body s).sources.now = s.now := by
  have hends := run_ends registry name body s
  generalize run registry name body s = run at hends
  cases hends with
  | unregistered | failed | unmeasured | unwritten | backwards | answered => simp

end Executor

end RegistryGateway
