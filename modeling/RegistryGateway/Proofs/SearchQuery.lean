import RegistryGateway.Proofs.FormEncoding
import RegistryGateway.Proofs.Numeral
import RegistryGateway.Proofs.Progress
import RegistryGateway.Proofs.Refusal
import RegistryGateway.Proofs.Target

/-! The query of a search.  It holds the fields of the filters that are set, in the order of the
fields, and nothing else, and the fields can be read off it again; the filters change nothing else
of the request, and keep it from being sent only if the query is too long. -/

namespace RegistryGateway

namespace Url

/-- The named values of a query, none for an absent one. -/
def formValues (query : Option (List Char)) : List (String × String) :=
  (formDecode (query.getD [])).map fun (name, value) => (String.ofList name, String.ofList value)

theorem formValues_formEncode (pairs : List (String × String)) :
    formValues (some (formEncode (pairs.map fun (name, value) => (name.toList, value.toList)))) =
      pairs := by
  rw [formValues, Option.getD_some, formDecode_formEncode, List.map_map]
  refine (List.map_congr_left fun pair _ => ?_).trans (List.map_id pairs)
  simp

/-- A target that takes one query takes every query that is not too long, and changes in nothing
else. -/
theorem Target.withQuery_of_withQuery {t found : Target} {query : Option (List Char)}
    (h : t.withQuery query = .ok found) (other : Option (List Char)) :
    t.withQuery other =
      if lengthLimit < (other.getD []).length then .error (.tooLong (some "query"))
      else .ok { found with query := other.map (percentEncode keptInQuery) } := by
  unfold withQuery withPart partFault at h ⊢
  by_cases hauthority : lengthLimit < t.authority.length
  · simp [hauthority] at h
  by_cases hpath : lengthLimit < t.path.length
  · simp [hauthority, hpath] at h
  by_cases hquery : lengthLimit < (query.getD []).length
  · simp [hauthority, hpath, hquery] at h
  simp only [hauthority, hpath, hquery, if_false] at h ⊢
  by_cases hother : lengthLimit < (other.getD []).length
  · simp only [hother, if_true]
  · simp only [hother, if_false]
    unfold ofParts at h ⊢
    dsimp only at h ⊢
    split at h
    · cases h
    split at h
    · cases h
    split at h
    · cases h
    rw [← Except.ok.inj h]

end Url

namespace Client

open Url (Target formValues)

namespace SearchFilters

theorem formValues_queryText (f : SearchFilters) : formValues f.queryText = f.pairs := by
  rw [queryText]
  split
  next hempty =>
    obtain ⟨query, provider, tags, limit, offset⟩ := f
    cases query <;> cases provider <;> cases tags <;> cases limit <;> cases offset <;>
      first | rfl | cases hempty
  · exact Url.formValues_formEncode f.pairs

theorem map_queryText (f : SearchFilters) :
    f.queryText.map (Url.percentEncode Url.keptInQuery) = f.queryText := by
  rw [queryText]
  split
  · rfl
  · rw [Option.map_some, Url.percentEncode_formEncode]

/-- The values under a name. -/
def valuesOf (name : String) (pairs : List (String × String)) : List String :=
  (pairs.filter (·.1 = name)).map (·.2)

theorem valuesOf_append (name : String) (first second : List (String × String)) :
    valuesOf name (first ++ second) = valuesOf name first ++ valuesOf name second := by
  rw [valuesOf, List.filter_append, List.map_append]
  rfl

theorem valuesOf_map (name other : String) (values : List String) :
    valuesOf name (values.map fun v => (other, v)) = if other = name then values else [] := by
  induction values with
  | nil => rw [ite_self]; rfl
  | cons v rest ih =>
    by_cases h : other = name <;> simp_all [valuesOf]

/-- The named values of filters, field by field. -/
theorem pairs_eq (f : SearchFilters) :
    f.pairs = f.query.toList.map (fun v => ("query", v)) ++
      f.provider.toList.map (fun v => ("provider", v)) ++
      (f.tags.getD []).map (fun v => ("tags", v)) ++
      (f.limit.toList.map toString).map (fun v => ("limit", v)) ++
      (f.offset.toList.map toString).map (fun v => ("offset", v)) := by
  obtain ⟨query, provider, tags, limit, offset⟩ := f
  cases query <;> cases provider <;> cases limit <;> cases offset <;> rfl

theorem toList_injective {α : Type} : Function.Injective (Option.toList : Option α → List α) :=
  fun a b h => by simpa only [Option.head?_toList] using congrArg List.head? h

/-- Filters that differ at most in having no tags and having an empty list of them. -/
structure Agrees (f g : SearchFilters) : Prop where
  query : f.query = g.query
  provider : f.provider = g.provider
  tags : f.tags.getD [] = g.tags.getD []
  limit : f.limit = g.limit
  offset : f.offset = g.offset

/-- Each field is read off the values under its name. -/
theorem agrees_of_pairs {f g : SearchFilters} (h : f.pairs = g.pairs) : f.Agrees g := by
  have hvalues (name : String) : valuesOf name f.pairs = valuesOf name g.pairs := by rw [h]
  simp only [pairs_eq, valuesOf_append, valuesOf_map] at hvalues
  have hdecimals := List.map_injective_iff.mpr Json.Numeral.toString_int_injective
  refine ⟨toList_injective ?_, toList_injective ?_, ?_, toList_injective (hdecimals ?_),
    toList_injective (hdecimals ?_)⟩
  · simpa using hvalues "query"
  · simpa using hvalues "provider"
  · simpa using hvalues "tags"
  · simpa using hvalues "limit"
  · simpa using hvalues "offset"

end SearchFilters

/-- The operations that send filters. -/
inductive Operation.Searches : (SearchFilters → Operation) → Prop
  | models : Searches fun filters => .listModels (some filters)
  | search : Searches .searchModels

namespace Operation.Searches

variable {search : SearchFilters → Operation} (h : Searches search)

include h

theorem filters (f : SearchFilters) : (search f).filters = some f := by cases h <;> rfl

theorem content (f : SearchFilters) : (search f).content = .none := by cases h <;> rfl

/-- Only the query of an operation depends on its filters. -/
theorem same (f g : SearchFilters) :
    (search f).path = (search g).path ∧ (search f).httpMethod = (search g).httpMethod := by
  cases h <;> exact ⟨rfl, rfl⟩

end Operation.Searches

namespace Session

/-- How filters go out in the request of an operation. -/
structure Queries (s : Session) (search : SearchFilters → Operation) (f : SearchFilters)
    (request : Request) : Prop where
  /-- The query holds the fields that are set, in the order of the fields, and nothing else. -/
  values : formValues request.target.query =
    f.query.toList.map (fun v => ("query", v)) ++
      f.provider.toList.map (fun v => ("provider", v)) ++
      (f.tags.getD []).map (fun v => ("tags", v)) ++
      (f.limit.toList.map toString).map (fun v => ("limit", v)) ++
      (f.offset.toList.map toString).map (fun v => ("offset", v))
  /-- Filters with the same query, wherever they are sent, agree. -/
  faithful : ∀ {s' : Session} {search' : SearchFilters → Operation} {g : SearchFilters}
    {request' : Request}, Operation.Searches search' → s'.request (search' g) = .ok request' →
    request'.target.query = request.target.query → f.Agrees g
  /-- Other filters are sent in the same way, and change the query alone. -/
  others : ∀ g : SearchFilters, (g.queryText.getD []).length ≤ Target.lengthLimit →
    s.request (search g) =
      .ok { request with target := { request.target with query := g.queryText } }
  tooLong : ∀ g : SearchFilters, Target.lengthLimit < (g.queryText.getD []).length →
    s.request (search g) = .error (.target (.tooLong (some "query")))

section

variable {s : Session} {search : SearchFilters → Operation} (hsearch : Operation.Searches search)

theorem target_of_filters {op : Operation} {f : SearchFilters} (h : op.filters = some f) :
    s.target op = (s.base.under op.path.toList).bind (·.withQuery f.queryText) := by
  rw [target, h]
  cases s.base.under op.path.toList <;> rfl

include hsearch

/-- Where the target of some filters can be made, so can that of all whose query is not too long. -/
theorem target_search {f : SearchFilters} {t : Target} (h : s.target (search f) = .ok t)
    (g : SearchFilters) :
    s.target (search g) =
      if Target.lengthLimit < (g.queryText.getD []).length then .error (.tooLong (some "query"))
      else .ok { t with query := g.queryText } := by
  rw [target_of_filters (hsearch.filters _)] at h ⊢
  rw [(hsearch.same g f).1]
  cases hunder : s.base.under (search f).path.toList with
  | error e =>
    rw [hunder] at h
    cases h
  | ok u =>
    rw [hunder] at h
    have hfound : u.withQuery f.queryText = .ok t := h
    have hother := Target.withQuery_of_withQuery hfound g.queryText
    rwa [g.map_queryText] at hother

theorem query_of_sent {f : SearchFilters} {request : Request}
    (hsent : s.request (search f) = .ok request) : request.target.query = f.queryText := by
  have htarget := target_of_request hsent
  have hown := target_search hsearch htarget f
  rw [htarget] at hown
  split at hown
  · cases hown
  · exact congrArg Target.query (Except.ok.inj hown)

theorem request_search {f : SearchFilters} {request : Request}
    (hsent : s.request (search f) = .ok request) (g : SearchFilters) :
    s.request (search g) =
      if Target.lengthLimit < (g.queryText.getD []).length then
        .error (.target (.tooLong (some "query")))
      else .ok { request with target := { request.target with query := g.queryText } } := by
  obtain ⟨t, contentType, body, ht, hcontent, hclosed, hascii, rfl⟩ :=
    (request_eq_ok_iff s _ request).mp hsent
  have hother := target_search hsearch ht g
  split
  next hlong =>
    rw [if_pos hlong] at hother
    rw [request, hother]
  next hshort =>
    rw [if_neg hshort] at hother
    rw [hsearch.content] at hcontent
    rw [request_eq_ok_iff]
    refine ⟨_, contentType, body, hother, ?_, hclosed, hascii, ?_⟩
    · rw [hsearch.content, hcontent]
    · rw [(hsearch.same f g).2]
      rfl

end

/-- The request of a search holds the fields of its filters in its query, and depends on the filters
in nothing else. -/
theorem request_queries {s : Session} {search : SearchFilters → Operation}
    (hsearch : Operation.Searches search) {f : SearchFilters} {request : Request}
    (hsent : s.request (search f) = .ok request) : s.Queries search f request := by
  have hquery := query_of_sent hsearch hsent
  refine ⟨?_, fun hsearch' hsent' hsame => ?_, fun g hshort => ?_, fun g hlong => ?_⟩
  · rw [hquery, f.formValues_queryText, f.pairs_eq]
  · apply SearchFilters.agrees_of_pairs
    rw [← SearchFilters.formValues_queryText, ← SearchFilters.formValues_queryText, ← hquery,
      ← query_of_sent hsearch' hsent', hsame]
  · rw [request_search hsearch hsent, if_neg (Nat.not_lt.mpr hshort)]
  · rw [request_search hsearch hsent, if_pos hlong]

/-- Filters with marks, spaces and other letters in them. -/
def markedFilters : SearchFilters where
  query := some "a b&c=d"
  provider := some "é%2B+"
  tags := some ["", "#;", "x"]
  limit := some (-10)
  offset := none

/-- Marks in the values of filters separate nothing. -/
theorem request_queries_marked :
    ∃ s request, start (configAt "http://registry.test") [] = .ok s ∧
      s.request (.searchModels markedFilters) = .ok request ∧
      formValues request.target.query = [("query", "a b&c=d"), ("provider", "é%2B+"), ("tags", ""),
        ("tags", "#;"), ("tags", "x"), ("limit", "-10")] := by
  have hsends : sends (configAt "http://registry.test") (.searchModels markedFilters) = true := by
    decide +kernel
  obtain ⟨s, request, hs, hrequest, -⟩ := (sends_iff _ _).mp hsends
  exact ⟨s, request, hs, hrequest, (request_queries .search hrequest).values⟩

end Session

end Client

end RegistryGateway
