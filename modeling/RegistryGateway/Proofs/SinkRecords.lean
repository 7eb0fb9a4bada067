import RegistryGateway.Proofs.Legibility
import RegistryGateway.Proofs.WireFormat

/-! What the sinks log.  A trace is well formed when its status is a number and its layers are
entries, and malformed when its status is text or some layer is a mere name.  A sink has looked at
the status and at all layers before it logs anything, so a malformed trace leaves a warning and
nothing else. -/

namespace RegistryGateway

/-! ## Well-formed and malformed traces -/

namespace RequestTrace

variable {t : RequestTrace} {status : Int} {entries : List LayerEntry}

/-- A trace has a number for a status, and entries for layers. -/
structure WellFormed (t : RequestTrace) (status : Int) (entries : List LayerEntry) : Prop where
  status : t.status = .code status
  layers : t.layers = entries.map .entry

/-- A trace has text for a status, or a mere name among its layers. -/
def Malformed (t : RequestTrace) : Prop :=
  (∃ text, t.status = .text text) ∨ ∃ name, .name name ∈ t.layers

theorem exists_entries_iff (layers : List TraceLayer) :
    (∃ entries : List LayerEntry, layers = entries.map .entry) ↔ ∀ name, .name name ∉ layers := by
  constructor
  · rintro ⟨entries, rfl⟩ name hname
    obtain ⟨e, -, he⟩ := List.mem_map.mp hname
    cases he
  · intro h
    induction layers with
    | nil => exact ⟨[], rfl⟩
    | cons layer rest ih =>
      obtain ⟨entries, rfl⟩ := ih fun name hname => h name (.tail _ hname)
      cases layer with
      | entry e => exact ⟨e :: entries, rfl⟩
      | name name => exact absurd (.head _) (h name)

/-- Every trace is either of the two and none is both. -/
theorem wellFormed_iff (t : RequestTrace) :
    (∃ status entries, t.WellFormed status entries) ↔ ¬t.Malformed := by
  rw [Malformed, not_or, not_exists, not_exists, ← exists_entries_iff]
  constructor
  · rintro ⟨status, entries, h⟩
    refine ⟨fun text htext => ?_, entries, h.layers⟩
    rw [h.status] at htext
    cases htext
  · rintro ⟨htext, entries, hlayers⟩
    cases hstatus : t.status with
    | code status => exact ⟨status, entries, hstatus, hlayers⟩
    | text text => exact absurd hstatus (htext text)

theorem entriesFor_of_entries (part : LayerPart) (h : t.layers = entries.map .entry) :
    t.entriesFor part = .ok entries := by
  rw [entriesFor, h]
  clear h
  induction entries with
  | nil => rfl
  | cons e rest ih =>
    rw [List.map_cons, List.mapM_cons, ih]
    rfl

/-- One mere name is enough for the layers to fail. -/
theorem entriesFor_of_name (part : LayerPart) {name : String} (h : .name name ∈ t.layers) :
    t.entriesFor part = .error (.lacks part) := by
  rw [entriesFor]
  generalize t.layers = layers at h
  induction layers with
  | nil => cases h
  | cons layer rest ih =>
    rw [List.mapM_cons]
    cases layer with
    | name other => rfl
    | entry e =>
      obtain h | h := List.mem_cons.mp h
      · cases h
      · rw [ih h]
        rfl

/-- The members that a well-formed trace is written as. -/
def members (t : RequestTrace) (status : Int) (entries : List LayerEntry) : List (String × Json) :=
  [("execution_id", .str t.executionId), ("trace_id", .str t.traceId), ("method", .str t.method),
    ("path", .str t.path), ("status_code", .int status), ("success", .bool (status < 400)),
    ("layers", .arr (entries.map LayerEntry.toJson)), ("error", .ofOption t.error)]

theorem WellFormed.toJson (h : t.WellFormed status entries) :
    t.toJson = .ok (.obj (t.members status entries)) := by
  simp only [RequestTrace.toJson, success, h.status, TraceStatus.codeFor,
    entriesFor_of_entries .members h.layers]
  rfl

theorem Malformed.toJson (h : t.Malformed) : ∃ f, t.toJson = .error f := by
  obtain ⟨text, htext⟩ | ⟨name, hname⟩ := h
  · exact ⟨_, by rw [RequestTrace.toJson, success, htext]; rfl⟩
  · rw [RequestTrace.toJson]
    cases t.success with
    | error f => exact ⟨f, rfl⟩
    | ok success => exact ⟨_, by rw [entriesFor_of_name .members hname]⟩

/-- A well-formed trace has a text when its status and the durations of its layers have one. -/
theorem WellFormed.hasText_iff (h : t.WellFormed status entries) :
    t.hasText = true ↔
      RegistryGateway.hasText status = true ∧ ∀ e ∈ entries, e.hasText = true := by
  simp [hasText, h.status, h.layers]

theorem WellFormed.summaryRecord (h : t.WellFormed status entries)
    (hstatus : RegistryGateway.hasText status = true) :
    TraceSink.summaryRecord t entries =
      .ok (TraceSink.record (TraceSink.summaryLevel status)
        (TraceSink.summary t (toString status) entries)) := by
  simp only [TraceSink.summaryRecord, h.status, TraceStatus.display, hstatus, if_true,
    TraceStatus.codeFor]

theorem WellFormed.lineRecords (h : t.WellFormed status entries)
    (hstatus : RegistryGateway.hasText status = true) (verbose : Bool) :
    TraceSink.lineRecords verbose t =
      let (records, fault) := if verbose then TraceSink.layerRecords t entries else ([], none)
      (TraceSink.record (TraceSink.summaryLevel status)
        (TraceSink.summary t (toString status) entries) :: records, fault) := by
  simp only [TraceSink.lineRecords, entriesFor_of_entries .label h.layers,
    h.summaryRecord hstatus]

/-- Nothing is logged as text of a trace whose status has no text. -/
theorem WellFormed.lineRecords_of_oversized (h : t.WellFormed status entries)
    (hstatus : RegistryGateway.hasText status = false) (verbose : Bool) :
    TraceSink.lineRecords verbose t = ([], some .oversized) := by
  simp only [TraceSink.lineRecords, entriesFor_of_entries .label h.layers,
    TraceSink.summaryRecord, h.status, TraceStatus.display, hstatus, Bool.false_eq_true, if_false]

theorem Malformed.lineRecords (h : t.Malformed) (verbose : Bool) :
    ∃ f, TraceSink.lineRecords verbose t = ([], some f) := by
  rw [TraceSink.lineRecords]
  cases hentries : t.entriesFor .label with
  | error f => exact ⟨f, rfl⟩
  | ok entries =>
    obtain ⟨text, htext⟩ | ⟨name, hname⟩ := h
    · exact ⟨.unordered .atLeast, by simp only [TraceSink.summaryRecord, htext]; rfl⟩
    · rw [entriesFor_of_name .label hname] at hentries
      cases hentries

theorem WellFormed.jsonRecords (h : t.WellFormed status entries) :
    TraceSink.jsonRecords t =
      if t.hasText then
        ([TraceSink.record .info (Json.obj (t.members status entries)).wire], none)
      else ([], some .oversized) := by
  rw [TraceSink.jsonRecords, h.toJson]

/-! ## The written form of a trace -/

/-- A mild condition holds throughout what a trace with a text is written as. -/
theorem WellFormed.all_members {p : Json → Bool} (hp : Json.Mild p)
    (h : t.WellFormed status entries) (htext : t.hasText = true) :
    (Json.obj (t.members status entries)).all p = true := by
  have hint {i : Int} (hi : RegistryGateway.hasText i = true) : p (.int i) = true :=
    hp.int i ((RegistryGateway.hasText_iff i).mp hi)
  obtain ⟨hstatus, hentries⟩ := h.hasText_iff.mp htext
  have hlayer (e : LayerEntry) (he : e.hasText = true) : e.toJson.all p = true := by
    rw [LayerEntry.toJson]
    cases hms : e.durationMs with
    | none => simp [Json.all, Json.allMembers, hp.obj, hp.str, Assoc.keys]
    | some ms =>
      have htext : RegistryGateway.hasText ms = true := by simpa [LayerEntry.hasText, hms] using he
      simp [Json.all, Json.allMembers, hp.obj, hp.str, hint htext, Assoc.keys]
  have hlayers : Json.allItems p (entries.map LayerEntry.toJson) = true := by
    clear h htext
    induction entries with
    | nil => rfl
    | cons e rest ih =>
      rw [List.forall_mem_cons] at hentries
      exact Bool.and_eq_true_iff.mpr ⟨hlayer e hentries.1, ih hentries.2⟩
  have herror : (Json.ofOption t.error).all p = true := by
    cases t.error with
    | none => exact hp.null
    | some error => exact hp.str error
  simp [members, Json.all, Json.allMembers, hp.obj, hp.arr, hp.str, hp.bool, hint hstatus, hlayers,
    herror, Assoc.keys]

theorem WellFormed.finite_members (h : t.WellFormed status entries) (htext : t.hasText = true) :
    (Json.obj (t.members status entries)).allFinite = true := by
  rw [← Json.all_finiteDouble]
  exact h.all_members Json.finiteDouble_mild htext

end RequestTrace

/-! ## Records -/

namespace TraceSink

/-- The level of a summary tells whether its status is that of a failure, of a refusal or of a
success. -/
structure Graded (status : Int) (level : Level) : Prop where
  error_iff : level = .error ↔ 500 ≤ status
  warning_iff : level = .warning ↔ 400 ≤ status ∧ status < 500
  info_iff : level = .info ↔ status < 400

theorem summaryLevel_graded (status : Int) : Graded status (summaryLevel status) := by
  rw [summaryLevel]
  split
  · exact ⟨by simpa, by simp; omega, by simp; omega⟩
  · split
    · exact ⟨by simp; omega, by simp; omega, by simp; omega⟩
    · exact ⟨by simp; omega, by simp; omega, by simp; omega⟩

section

variable (t : RequestTrace)

theorem layerRecords_of_hasText {entries : List LayerEntry}
    (h : ∀ e ∈ entries, e.hasText = true) :
    layerRecords t entries = (entries.map fun e => record .debug (layerLine t e), none) := by
  induction entries with
  | nil => rfl
  | cons e rest ih =>
    rw [List.forall_mem_cons] at h
    rw [layerRecords, if_pos h.1, ih h.2]
    rfl

/-- The layers in front of the first without a text are logged. -/
theorem layerRecords_of_oversized {before : List LayerEntry} {e : LayerEntry}
    (after : List LayerEntry) (hbefore : ∀ b ∈ before, b.hasText = true)
    (he : e.hasText = false) :
    layerRecords t (before ++ e :: after) =
      (before.map fun b => record .debug (layerLine t b), some .oversized) := by
  induction before with
  | nil => rw [List.nil_append, layerRecords, he]; rfl
  | cons b rest ih =>
    rw [List.forall_mem_cons] at hbefore
    rw [List.cons_append, layerRecords, if_pos hbefore.1, ih hbefore.2]
    rfl

/-- A trace of which nothing can be logged leaves a warning. -/
theorem withWarning_of_fault (what : String) (f : TraceFault) :
    ∃ message, withWarning what ([], some f) = [record .warning message] := ⟨_, rfl⟩

end

/-- A line of JSON holds a value: its characters are printable ASCII, and the reader takes the value
off it. -/
structure Holds (line : String) (v : Json) : Prop where
  graphic : line.toList.all isGraphic = true
  decoded : Json.decode (Utf8.encode line.toList) = .ok v

theorem wire_holds {t : RequestTrace} {status : Int} {entries : List LayerEntry}
    (h : t.WellFormed status entries) (htext : t.hasText = true) :
    Holds (Json.obj (t.members status entries)).wire (.obj (t.members status entries)) := by
  have hfinite := h.finite_members htext
  have hkeys := h.all_members Json.distinctKeys_mild htext
  rw [Json.wire]
  refine ⟨?_, ?_⟩
  · rw [String.toList_ofList]
    exact Json.all_isGraphic_chars _ hfinite
  · rw [String.toList_ofList]
    exact Json.decode_written hkeys hfinite (h.all_members Json.withinDigits_mild htext)

/-- What the sinks make of a trace, and that they make something of every trace.  An integer that
has too many digits for a text takes the record that it belongs to, and the records after that
one. -/
structure Accounts (t : RequestTrace) : Prop where
  forms : (∃ status entries, t.WellFormed status entries) ↔ ¬t.Malformed
  returns : ∀ sink ∈ [logging false, logging true, json], (sink.emit t).refusal = none
  lines : ∀ status entries, t.WellFormed status entries → hasText status = true →
    ∃ level, Graded status level ∧
      ((logging false).emit t).logs = [record level (summary t (toString status) entries)] ∧
      ((∀ e ∈ entries, e.hasText = true) →
        ((logging true).emit t).logs = record level (summary t (toString status) entries) ::
          entries.map fun e => record .debug (layerLine t e))
  values : ∀ status entries, t.WellFormed status entries → t.hasText = true →
    ∃ v line, t.toJson = .ok v ∧ (json.emit t).logs = [record .info line] ∧ Holds line v
  malformed : t.Malformed → ∀ sink ∈ [logging false, logging true, json],
    ∃ message, (sink.emit t).logs = [record .warning message]
  oversized_status : ∀ status entries, t.WellFormed status entries → hasText status = false →
    ∀ sink ∈ [logging false, logging true, json],
      ∃ message, (sink.emit t).logs = [record .warning message]
  oversized_layer : ∀ status before e after, t.WellFormed status (before ++ e :: after) →
    hasText status = true → (∀ b ∈ before, b.hasText = true) → e.hasText = false →
    ∃ level message, Graded status level ∧
      ((logging true).emit t).logs =
        record level (summary t (toString status) (before ++ e :: after)) ::
          (before.map fun b => record .debug (layerLine t b)) ++ [record .warning message] ∧
      ∃ message, (json.emit t).logs = [record .warning message]

end TraceSink

end RegistryGateway
