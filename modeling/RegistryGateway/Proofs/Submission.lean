import RegistryGateway.Proofs.Progress
import RegistryGateway.Proofs.RecordForm
import RegistryGateway.Proofs.Refusal
import RegistryGateway.Proofs.WireFormat

/-! What is submitted of a model.  An update sends what its record was read from, nulls too, and
nothing that was left out; a new model is sent without the fields that are null, wherever the null
came from.  Neither looks into the values of the fields, and both bodies are read as the record
again. -/

namespace RegistryGateway

namespace Json

theorem allMembers_iff (p : Json → Bool) (members : List (String × Json)) :
    allMembers p members = true ↔ ∀ m ∈ members, m.2.all p = true := by
  induction members with
  | nil => simp [allMembers]
  | cons m rest ih => rw [allMembers, Bool.and_eq_true, ih, List.forall_mem_cons]

/-- What holds inside the members of an object holds inside some of them. -/
theorem all_obj_of_subset {p : Json → Bool} {members some : List (String × Json)}
    (h : (obj members).all p = true) (hsome : some ⊆ members) (hself : p (.obj some) = true) :
    (obj some).all p = true := by
  rw [all, Bool.and_eq_true, allMembers_iff] at h ⊢
  exact ⟨hself, fun m hm => h.2 m (hsome hm)⟩

end Json

namespace Client

open Shape (given)

/-- The names of the fields that a model is submitted with. -/
def submittedNames : List String :=
  ["name", "version", "description", "provider", "tags", "metadata"]

/-- The fields of a record that are not null. -/
def present (record : Json) : List (String × Json) :=
  (membersOf record).filter fun m => !m.2.isNull

theorem updateModelRequest_supplied [Platform] {members : List (String × Json)} {u : Datum}
    (h : updateModelRequest.check (.obj members) = .ok u) :
    u.write ⟨true, false⟩ = .obj (given submittedNames members) ∧
      updateModelRequest.check (.obj (given submittedNames members)) = .ok u :=
  ⟨Shape.write_supplied (by decide) h, Shape.check_given h⟩

/-- The name and the version are texts, and every other field is null when it is missing. -/
theorem createModelRequest_fields [Platform] : ∃ name fields,
    createModelRequest = .record name .ignore fields ∧ fields.map (·.1) = submittedNames ∧
      (∀ field ∈ fields, field.2.1.verbatim = true) ∧
      ∀ field ∈ fields, Shape.NullMeansMissing field := by
  refine ⟨_, _, rfl, rfl, by decide, ?_⟩
  simp only [List.forall_mem_cons]
  exact ⟨.inr ⟨rfl, nofun⟩, .inr ⟨rfl, nofun⟩, .inl rfl, .inl rfl, .inl rfl, .inl rfl, nofun⟩

theorem createModelRequest_present [Platform] {members : List (String × Json)} {c : Datum}
    (h : createModelRequest.check (.obj members) = .ok c) :
    c.write ⟨false, true⟩ = .obj (present c.toJson) ∧
      present c.toJson = (given submittedNames members).filter (fun m => !m.2.isNull) ∧
      createModelRequest.normalize (.obj (present c.toJson)) = .ok c.toJson := by
  obtain ⟨name, fields, hfields, hnames, hs, hnull⟩ := createModelRequest_fields
  rw [hfields] at h ⊢
  rw [← hnames]
  exact ⟨Shape.write_present hs h, Shape.present_eq_given hs h hnull,
    Shape.normalize_present hs h hnull⟩

namespace Session

/-- A request has a body of members of a value, and the body can be read off its bytes. -/
structure Submits (request : Request) (members body : List (String × Json)) : Prop where
  finite : (Json.obj body).allFinite = true
  bytes : request.body = Utf8.encode (Json.obj body).compact.toList
  /-- Keys are distinct where there are members, and integers have no more digits than are read. -/
  decoded : (Json.obj members).all Json.distinctKeys = true →
    (Json.obj members).all Json.withinDigits = true → Json.decode request.body = .ok (.obj body)

theorem body_of_json {s : Session} {op : Operation} {request : Request} {v : Json}
    (hcontent : op.content = .json v) (hsent : s.request op = .ok request) :
    v.allFinite = true ∧ request.body = Utf8.encode v.compact.toList := by
  obtain ⟨t, contentType, body, -, hencoded, -, -, rfl⟩ := (request_eq_ok_iff s op request).mp hsent
  rw [hcontent, encodeContent] at hencoded
  split at hencoded
  next hfinite =>
    obtain ⟨-, rfl⟩ := Prod.mk.inj (Except.ok.inj hencoded)
    exact ⟨hfinite, rfl⟩
  · cases hencoded

/-- A body of some members of a value under different names is submitted. -/
theorem submits_of_content {s : Session} {op : Operation} {request : Request}
    {members body : List (String × Json)} (hcontent : op.content = .json (.obj body))
    (hsent : s.request op = .ok request) (hsubset : body ⊆ members)
    (hnames : (body.map (·.1)).Nodup) : Submits request members body := by
  obtain ⟨hfinite, hbody⟩ := body_of_json hcontent hsent
  refine ⟨hfinite, hbody, fun hkeys hdigits => ?_⟩
  have hkeys' := Json.all_obj_of_subset hkeys hsubset (decide_eq_true hnames)
  have hdigits' := Json.all_obj_of_subset hdigits hsubset rfl
  rw [hbody, Json.compact, String.toList_ofList]
  exact (Json.decode_standard Json.compactStyle_standard hkeys' hfinite).1 hdigits'

theorem nodup_given (members : List (String × Json)) :
    ((given submittedNames members).map (·.1)).Nodup :=
  (Shape.keys_given_sublist submittedNames members).nodup (by decide)

/-- An update submits the fields that its record was given, and the body is read as the same record
with the same fields set; a new model is submitted as the fields of its record that are not null,
and the body is read as a record with the same fields. -/
theorem request_submits [Platform] {s : Session} {members : List (String × Json)}
    {request : Request} :
    (∀ id u, updateModelRequest.check (.obj members) = .ok u →
      s.request (.updateModel id (.record u)) = .ok request →
      Submits request members (given submittedNames members) ∧
        updateModelRequest.check (.obj (given submittedNames members)) = .ok u) ∧
    ∀ c, createModelRequest.check (.obj members) = .ok c →
      s.request (.createModel c) = .ok request →
      Submits request members (present c.toJson) ∧
        createModelRequest.normalize (.obj (present c.toJson)) = .ok c.toJson := by
  constructor
  · intro id u hu hsent
    obtain ⟨hwritten, hagain⟩ := updateModelRequest_supplied hu
    have hcontent : (Operation.updateModel id (.record u)).content =
        .json (.obj (given submittedNames members)) := congrArg Content.json hwritten
    exact ⟨submits_of_content hcontent hsent (Shape.given_subset _ _) (nodup_given members), hagain⟩
  · intro c hc hsent
    obtain ⟨hwritten, hpresent, hagain⟩ := createModelRequest_present hc
    have hcontent : (Operation.createModel c).content = .json (.obj (present c.toJson)) :=
      congrArg Content.json hwritten
    have hsublist : (present c.toJson).Sublist (given submittedNames members) :=
      hpresent ▸ List.filter_sublist
    refine ⟨submits_of_content hcontent hsent ?_ ?_, hagain⟩
    · exact fun m hm => Shape.given_subset _ _ (hsublist.subset hm)
    · exact (hsublist.map _).nodup (nodup_given members)

/-- Members with an unknown one among them, a null, and a null inside a field. -/
def mixedMembers : List (String × Json) :=
  [("zzz", .int 1), ("version", .str "1"), ("tags", .null), ("name", .str "m"),
    ("metadata", .obj [("k", .null)])]

def mixedFields : Datum :=
  .record [("name", true, .plain (.str "m")), ("version", true, .plain (.str "1")),
    ("description", false, .plain .null), ("provider", false, .plain .null),
    ("tags", true, .plain .null), ("metadata", true, .table [("k", .plain .null)])]

open scoped Platform in
/-- The null is sent by an update and left out of a new model. -/
theorem request_submits_mixed :
    ∃ s update creation, start (configAt "http://registry.test") [] = .ok s ∧
      s.request (.updateModel "m-1" (.record mixedFields)) = .ok update ∧
      Json.decode update.body = .ok (.obj [("name", .str "m"), ("version", .str "1"),
        ("tags", .null), ("metadata", .obj [("k", .null)])]) ∧
      s.request (.createModel mixedFields) = .ok creation ∧
      Json.decode creation.body = .ok (.obj [("name", .str "m"), ("version", .str "1"),
        ("metadata", .obj [("k", .null)])]) := by
  have hupdates : sends (configAt "http://registry.test")
      (.updateModel "m-1" (.record mixedFields)) = true := by decide +kernel
  have hcreates : sends (configAt "http://registry.test") (.createModel mixedFields) = true := by
    decide +kernel
  obtain ⟨s, update, hs, hupdate, -⟩ := (sends_iff _ _).mp hupdates
  obtain ⟨s', creation, hs', hcreation, -⟩ := (sends_iff _ _).mp hcreates
  cases hs.symm.trans hs'
  have hread : updateModelRequest.check (.obj mixedMembers) = .ok mixedFields := rfl
  have hread' : createModelRequest.check (.obj mixedMembers) = .ok mixedFields := rfl
  have hsubmitted := (request_submits.1 "m-1" mixedFields hread hupdate).1
  have hsubmitted' := (request_submits.2 mixedFields hread' hcreation).1
  exact ⟨s, update, creation, hs, hupdate, hsubmitted.decoded (by decide) (by decide), hcreation,
    hsubmitted'.decoded (by decide) (by decide)⟩

end Session

end Client

end RegistryGateway
