import RegistryGateway.Proofs.Identity
import RegistryGateway.Proofs.Legibility
import RegistryGateway.Proofs.LetterCase
import RegistryGateway.Proofs.RecordForm
import RegistryGateway.Proofs.Registration
import Mathlib.Data.Set.List

/-! The normal form of requests.  An untyped value is taken for a request if its method and its URL
are text, its path is text or null, and its headers are all text.  Headers whose names become equal
in lower case are collated: the name stands where it first appeared, with the value that came
last. -/

namespace RegistryGateway

namespace Assoc

variable {α : Type}

/-- Keys are in the order in which they first appear. -/
theorem keys_ofPairs (pairs : Assoc α) : (ofPairs pairs).keys = pairs.keys.eraseDups := by
  induction pairs using List.reverseRecOn with
  | nil => rfl
  | append_singleton pairs p ih =>
    have hfold : ofPairs (pairs ++ [p]) = (ofPairs pairs).put p.1 p.2 := List.foldl_append ..
    have hkeys : keys (pairs ++ [p]) = keys pairs ++ [p.1] := List.map_append
    rw [hfold, keys_put, hkeys, AgentRegistry.eraseDups_concat, ih]
    simp only [List.mem_eraseDups]

end Assoc

namespace InboundRequest

/-! ## The normal form -/

theorem upper_normalMethod (method : String) : upper (normalMethod method) = normalMethod method :=
  upper_upper _

theorem normalMethod_normalMethod (method : String) :
    normalMethod (normalMethod method) = normalMethod method := by
  have hne : normalMethod method ≠ "" := by
    rw [normalMethod, ne_eq, upper_eq_empty_iff]
    split
    · decide
    · assumption
  rw [normalMethod, if_neg hne, upper_normalMethod]

theorem keys_normalHeaders (headers : List (String × String)) :
    (normalHeaders headers).keys = (headers.map fun h => lower h.1).eraseDups := by
  rw [normalHeaders, Assoc.keys_ofPairs, Assoc.keys, List.map_map]
  rfl

theorem lower_of_mem_normalHeaders {headers : List (String × String)} {name : String}
    (h : name ∈ (normalHeaders headers).keys) : lower name = name := by
  rw [keys_normalHeaders, List.mem_eraseDups] at h
  obtain ⟨given, -, rfl⟩ := List.mem_map.mp h
  exact lower_lower given.1

/-- Headers of different names in lower case are in normal form. -/
theorem normalHeaders_of_lower {headers : Assoc String} (hnodup : headers.keys.Nodup)
    (hlower : ∀ name ∈ headers.keys, lower name = name) : normalHeaders headers = headers := by
  have hmap : (headers.map fun h => (lower h.1, h.2)) = headers := by
    refine (List.map_congr_left fun h hh => ?_).trans (List.map_id headers)
    exact Prod.ext (hlower h.1 (List.mem_map_of_mem hh)) rfl
  exact (congrArg Assoc.ofPairs hmap).trans (Assoc.ofPairs_of_nodup hnodup)

theorem normalHeaders_normalHeaders (headers : List (String × String)) :
    normalHeaders (normalHeaders headers) = normalHeaders headers :=
  normalHeaders_of_lower (Assoc.keys_ofPairs_nodup _) fun _ => lower_of_mem_normalHeaders

theorem get?_normalHeaders (headers : List (String × String)) (name : String) :
    (normalHeaders headers).get? name =
      (headers.reverse.find? fun h => lower h.1 = name).map (·.2) := by
  rw [normalHeaders, Assoc.get?_ofPairs, ← List.map_reverse, List.find?_map, Option.map_map]
  rfl

/-- An untyped value gives the parts of a request, by its members or by their defaults. -/
structure Gives (v : Json) (method : String) (path : Option String) (url : String)
    (headers : List (String × String)) (body : Json) : Prop where
  record : ∃ members, v = .obj members
  method : (v.member? "method").getD (.str "GET") = .str method
  path : (v.member? "path").getD .null = .ofOption path
  url : (v.member? "url").getD (.str "/") = .str url
  headers : (v.member? "headers").getD (.obj []) = .obj (Assoc.mapValues .str headers)
  body : (v.member? "body").getD .null = body

theorem textOf?_ofOption (s : Option String) : textOf? (.ofOption s) = s := by
  cases s <;> rfl

theorem textPairs_mapValues (headers : List (String × String)) :
    textPairs (.obj (Assoc.mapValues .str headers)) = headers := by
  rw [textPairs, Assoc.mapValues, List.filterMap_map]
  exact List.filterMap_some

/-- A request in normal form is written out as the parts that it is made of. -/
theorem gives_toJson (r : InboundRequest) :
    Gives r.toJson r.method r.path r.url r.headers r.body where
  record := ⟨_, rfl⟩
  method := rfl
  path := rfl
  url := rfl
  headers := rfl
  body := rfl

theorem make_make (method : String) (path : Option String) (url : String)
    (headers : List (String × String)) (body : Json) :
    let r := make method path url headers body
    make r.method r.path r.url r.headers r.body = r := by
  simp only [make, normalMethod_normalMethod, normalHeaders_normalHeaders]

end InboundRequest

section

variable [Platform]

namespace Shape

theorem admits_table_text_iff (v : Json) :
    Admits (.table .text) v ↔
      ∃ entries : List (String × String), v = .obj (Assoc.mapValues .str entries) := by
  cases v with
  | obj members =>
    have hrange := Set.range_list_map (fun e : String × String => (e.1, Json.str e.2))
    rw [Set.ext_iff] at hrange
    have hentry (m : String × Json) :
        Admits .text m.2 ↔ m ∈ Set.range fun e : String × String => (e.1, Json.str e.2) := by
      rw [admits_text_iff]
      constructor
      · rintro ⟨s, hs⟩
        exact ⟨(m.1, s), Prod.ext rfl hs.symm⟩
      · rintro ⟨e, rfl⟩
        exact ⟨e.2, rfl⟩
    rw [Admits, check, map_isOk_iff, checkEntries_isOk_iff]
    calc (∀ m ∈ members, Admits .text m.2)
      _ ↔ members ∈ Set.range (List.map fun e : String × String => (e.1, Json.str e.2)) := by
        simp only [hentry, hrange members, Set.mem_ofPred_eq]
      _ ↔ _ := by
        simp only [Set.mem_range, Json.obj.injEq, eq_comm]
        rfl
  | null | bool | int | float | str | arr => simp [Admits, check, fail]

/-- A field is admitted as the value that it is given, or as its default. -/
theorem fieldAdmits_iff {name : String} {shape : Shape} {default : Json}
    {members : List (String × Json)} (h : shape.Admits default) :
    FieldAdmits (name, shape, some default) members ↔
      shape.Admits ((Assoc.get? members name).getD default) := by
  rw [FieldAdmits]
  cases Assoc.get? members name with
  | none => exact iff_of_true rfl h
  | some v => rfl

/-- A field that takes values as they are is found in a record as the value that it is given, or as
its default. -/
theorem member?_verbatim {name : String} {extras : Extras}
    {fields : List (String × Shape × Option Json)} {v w : Json}
    (h : (record name extras fields).normalize v = .ok w) (hnames : (fields.map (·.1)).Nodup)
    {key : String} {shape : Shape} {default : Json}
    (hfield : (key, shape, some default) ∈ fields) (hs : shape.verbatim = true) :
    w.member? key = some ((v.member? key).getD default) := by
  obtain ⟨members, f, rfl, hread, hmember⟩ := member?_of_normalize h hnames hfield
  obtain ⟨u, hkeeps, hgiven, -⟩ := hread.keeps hs
  rw [hmember, hkeeps.toJson, ← hgiven, Json.member?]
  cases Assoc.get? members key <;> rfl

end Shape

namespace InboundRequest

/-! ## Untyped requests -/

theorem admits_iff (v : Json) :
    shape.Admits v ↔ ∃ method path url headers body, Gives v method path url headers body := by
  have hmethod₀ : Shape.text.Admits (.str "GET") := (Shape.admits_text_iff _).mpr ⟨_, rfl⟩
  have hurl₀ : Shape.text.Admits (.str "/") := (Shape.admits_text_iff _).mpr ⟨_, rfl⟩
  have hpath₀ : (Shape.optional .text).Admits .null := (Shape.admits_optional_iff _ _).mpr (.inl rfl)
  have hheaders₀ : (Shape.table .text).Admits (.obj []) :=
    (Shape.admits_table_text_iff _).mpr ⟨[], rfl⟩
  have hany (u : Json) : Shape.any.Admits u := ⟨.plain u, rfl⟩
  have hoption (u : Json) : (Shape.optional .text).Admits u ↔ ∃ path, u = .ofOption path := by
    rw [Shape.admits_optional_iff, Shape.admits_text_iff, Option.exists]
    rfl
  rw [shape, Shape.admits_record_iff]
  constructor
  · rintro ⟨members, rfl, hfields, -⟩
    simp only [List.forall_mem_cons, Shape.fieldAdmits_iff, hmethod₀, hpath₀, hurl₀, hheaders₀, hany,
      Shape.admits_text_iff, hoption, Shape.admits_table_text_iff] at hfields
    obtain ⟨⟨method, hmethod⟩, ⟨path, hpath⟩, ⟨url, hurl⟩, ⟨headers, hheaders⟩, -⟩ := hfields
    exact ⟨method, path, url, headers, _, ⟨members, rfl⟩, hmethod, hpath, hurl, hheaders, rfl⟩
  · rintro ⟨method, path, url, headers, body, ⟨members, rfl⟩, hmethod, hpath, hurl, hheaders, -⟩
    refine ⟨members, rfl, ?_, nofun⟩
    simp only [List.forall_mem_cons, Shape.fieldAdmits_iff, hmethod₀, hpath₀, hurl₀, hheaders₀, hany,
      Shape.admits_text_iff, hoption, Shape.admits_table_text_iff]
    exact ⟨⟨method, hmethod⟩, ⟨path, hpath⟩, ⟨url, hurl⟩, ⟨headers, hheaders⟩, trivial, nofun⟩

/-- A request is made of the parts that a value gives. -/
theorem ofJson_of_gives {v : Json} {method : String} {path : Option String} {url : String}
    {headers : List (String × String)} {body : Json} (h : Gives v method path url headers body) :
    ofJson v = .ok (make method path url headers body) := by
  obtain ⟨w, hw⟩ : ∃ w, shape.normalize v = .ok w :=
    (Shape.map_isOk_iff _ _).mpr ((admits_iff v).mpr ⟨method, path, url, headers, body, h⟩)
  have hpart := @Shape.member?_verbatim _ _ _ _ v w hw (by decide)
  have hmethod := hpart (.head _) rfl
  have hpath := hpart (.tail _ (.head _)) rfl
  have hurl := hpart (.tail _ (.tail _ (.head _))) rfl
  have hheaders := hpart (.tail _ (.tail _ (.tail _ (.head _)))) rfl
  have hbody := hpart (.tail _ (.tail _ (.tail _ (.tail _ (.head _))))) rfl
  rw [h.method] at hmethod
  rw [h.path] at hpath
  rw [h.url] at hurl
  rw [h.headers] at hheaders
  rw [h.body] at hbody
  rw [ofJson, hw]
  simp only [Except.map, hmethod, hpath, hurl, hheaders, hbody, Option.getD_some, textPairs_mapValues,
    textOf?_ofOption]
  rfl

theorem ofJson_eq_ok_iff {v : Json} {r : InboundRequest} :
    ofJson v = .ok r ↔ ∃ method path url headers body,
      Gives v method path url headers body ∧ make method path url headers body = r := by
  constructor
  · intro h
    obtain ⟨w, hw, -⟩ := Shape.map_eq_ok_iff.mp h
    obtain ⟨method, path, url, headers, body, hgives⟩ :=
      (admits_iff v).mp ((Shape.map_isOk_iff _ _).mp ⟨w, hw⟩)
    rw [ofJson_of_gives hgives] at h
    exact ⟨method, path, url, headers, body, hgives, Except.ok.inj h⟩
  · rintro ⟨method, path, url, headers, body, hgives, rfl⟩
    exact ofJson_of_gives hgives

/-- What the normal form of a request keeps of the method and the headers that were given. -/
structure Collated (method : String) (headers : List (String × String)) (r : InboundRequest) :
    Prop where
  distinct : r.headers.keys.Nodup
  lowered : ∀ name ∈ r.headers.keys, lower name = name
  order : r.headers.keys = (headers.map fun h => lower h.1).eraseDups
  /-- A header has the value that was given last under its name. -/
  last : ∀ name, r.header name =
    (headers.reverse.find? fun h => lower h.1 = lower name).map (·.2)
  sameName : ∀ first second, IsAscii first → IsAscii second →
    Client.Headers.sameName first second = true → r.header first = r.header second
  method : upper r.method = r.method ∧ upper (upper method) = upper method
  names : ∀ h ∈ headers, lower (lower h.1) = lower h.1
  again : ofJson r.toJson = .ok r

theorem make_collated (method : String) (path : Option String) (url : String)
    (headers : List (String × String)) (body : Json) :
    Collated method headers (make method path url headers body) where
  distinct := Assoc.keys_ofPairs_nodup _
  lowered _ := lower_of_mem_normalHeaders
  order := keys_normalHeaders headers
  last name := get?_normalHeaders headers (lower name)
  sameName first second hfirst hsecond hsame := by
    rw [header, header, lower_of_isAscii hfirst, lower_of_isAscii hsecond]
    exact congrArg _ (of_decide_eq_true hsame)
  method := ⟨upper_normalMethod method, upper_upper method⟩
  names _ _ := lower_lower _
  again := by rw [ofJson_of_gives (gives_toJson _), make_make]

/-- Every value that is taken for a request gives its parts, and the request has them in normal
form. -/
theorem ofJson_collated {v : Json} {r : InboundRequest} (h : ofJson v = .ok r) :
    ∃ method path url headers body, Gives v method path url headers body ∧
      r = make method path url headers body ∧ Collated method headers r := by
  obtain ⟨method, path, url, headers, body, hgives, rfl⟩ := ofJson_eq_ok_iff.mp h
  exact ⟨method, path, url, headers, body, hgives, rfl, make_collated method path url headers body⟩

end InboundRequest

end

namespace InboundRequest

open scoped Platform in
/-- Names that become equal are one, at the first place and with the last value: `ΑΣ` ends in a
final sigma in lower case, the dotted `İ` becomes two characters, and so does `ß` in upper case. -/
theorem ofJson_collated_letters :
    let v : Json := .obj [("method", .str "ß"), ("headers", .obj [("X-İ", .str "1"),
      ("ΑΣ", .str "2"), ("x-i̇", .str "3"), ("ας", .str "4"), ("ΑΣ-", .str "5")])]
    let r : InboundRequest :=
      ⟨"SS", none, "/", [("x-i̇", "3"), ("ας", "4"), ("ας-", "5")], .null⟩
    ofJson v = .ok r ∧ ∃ method path url headers body, Gives v method path url headers body ∧
      r = make method path url headers body ∧ Collated method headers r := by
  intro v r
  have hmethod : normalMethod "ß" = "SS" := by decide
  have hheaders : normalHeaders [("X-İ", "1"), ("ΑΣ", "2"), ("x-i̇", "3"), ("ας", "4"), ("ΑΣ-", "5")] =
      [("x-i̇", "3"), ("ας", "4"), ("ας-", "5")] := by decide +kernel
  have hgives : Gives v "ß" none "/"
      [("X-İ", "1"), ("ΑΣ", "2"), ("x-i̇", "3"), ("ας", "4"), ("ΑΣ-", "5")] .null :=
    ⟨⟨_, rfl⟩, rfl, rfl, rfl, rfl, rfl⟩
  have h : ofJson v = .ok r := by
    rw [ofJson_of_gives hgives, make, hmethod, hheaders]
  exact ⟨h, ofJson_collated h⟩

end InboundRequest

end RegistryGateway
