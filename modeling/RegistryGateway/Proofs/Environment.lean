import RegistryGateway.Platform.Standard
import RegistryGateway.Settings
import RegistryGateway.Proofs.LaxInteger
import RegistryGateway.Proofs.Percent
import Mathlib.Data.List.Forall2

/-! The settings under an environment.  Where no two variables have the same name, whatever its
letter case, every field is what its variable spells, or its default where the variable is not set;
the address of the service has a second variable, which goes before.  The settings are refused when
the port or a flag is set to a text that spells no value, and all fields at fault are then reported
in the order of their declaration.  Nothing else in the environment counts, nor does its order. -/

namespace RegistryGateway

namespace Shape

/-! ### Flags in text -/

/-- A text is a word but for letters that are capitals. -/
def InAnyCase (word text : String) : Prop :=
  List.Forall₂ (fun letter c => c = letter ∨ c = letter.toUpper) word.toList text.toList

/-- The words for a flag. -/
def flagWords : Bool → List String
  | true => ["1", "t", "true", "y", "yes", "on"]
  | false => ["0", "f", "false", "n", "no", "off"]

/-- A text spells a flag by one of the words for it, in any letter case. -/
def SpellsFlag (text : String) (b : Bool) : Prop := ∃ word ∈ flagWords b, InAnyCase word text

/-- A letter or a digit as it stands in the words for flags. -/
def isPlain (c : Char) : Bool := c.toNat < 0x80 && lowerAscii c = c

theorem lowerAscii_cases (c : Char) : c = lowerAscii c ∨ c = (lowerAscii c).toUpper := by
  by_cases h : c.toNat < 0x80
  · exact Url.of_toNat_lt (p := fun c => c = lowerAscii c ∨ c = (lowerAscii c).toUpper)
      (by decide) h
  · have hbeyond : ¬('A' ≤ c ∧ c ≤ 'Z') := fun hc =>
      h (Nat.lt_of_le_of_lt (show c.toNat ≤ 'Z'.toNat from hc.2) (by decide))
    exact .inl (if_neg hbeyond).symm

theorem lowerAscii_eq_iff {letter : Char} (h : isPlain letter = true) (c : Char) :
    lowerAscii c = letter ↔ c = letter ∨ c = letter.toUpper := by
  rw [isPlain, Bool.and_eq_true, decide_eq_true_eq, decide_eq_true_eq] at h
  constructor
  · rintro rfl
    exact lowerAscii_cases c
  · rintro (rfl | rfl)
    · exact h.2
    · exact Url.of_toNat_lt (p := fun c => lowerAscii c = c → lowerAscii c.toUpper = c) (by decide)
        h.1 h.2

theorem forall₂_plain_iff {letters : List Char} (h : letters.all isPlain = true)
    (text : List Char) :
    List.Forall₂ (fun letter c => c = letter ∨ c = letter.toUpper) letters text ↔
      text.map lowerAscii = letters := by
  induction letters generalizing text with
  | nil => rw [List.forall₂_nil_left_iff, List.map_eq_nil_iff]
  | cons letter rest ih =>
    rw [List.all_cons, Bool.and_eq_true] at h
    cases text with
    | nil => simp
    | cons c more =>
      rw [List.forall₂_cons, List.map_cons, List.cons.injEq, lowerAscii_eq_iff h.1, ih h.2]

theorem inAnyCase_iff {word : String} (h : word.toList.all isPlain = true) (text : String) :
    InAnyCase word text ↔ String.ofList (text.toList.map lowerAscii) = word := by
  rw [InAnyCase, forall₂_plain_iff h, ← String.toList_inj, String.toList_ofList]

theorem spellsFlag_iff (text : String) (b : Bool) :
    SpellsFlag text b ↔ String.ofList (text.toList.map lowerAscii) ∈ flagWords b := by
  have hplain : ∀ word ∈ flagWords b, word.toList.all isPlain = true := by revert b; decide
  constructor
  · rintro ⟨word, hword, hcase⟩
    rwa [(inAnyCase_iff (hplain word hword) text).mp hcase]
  · intro hword
    exact ⟨_, hword, (inAnyCase_iff (hplain _ hword) text).mpr rfl⟩

theorem flagOfText_eq_ok_iff (text : String) (b : Bool) :
    flagOfText text = .ok b ↔ SpellsFlag text b := by
  -- No word is for both flags, so it does not matter for which one it is looked up first.
  have hapart : ∀ word ∈ flagWords false, word ∉ flagWords true := by decide
  have hread : flagOfText text =
      let word := String.ofList (text.toList.map lowerAscii)
      if (flagWords true).contains word then .ok true
      else if (flagWords false).contains word then .ok false else .error .flagText := rfl
  rw [spellsFlag_iff, hread]
  generalize String.ofList (text.toList.map lowerAscii) = word
  cases b <;> grind

end Shape

namespace Settings

variable {env env' : List (String × String)}

/-! ### Variables -/

/-- No two variables have the same name, whatever its letter case. -/
def Distinct (env : List (String × String)) : Prop := (env.map fun v => lower v.1).Nodup

instance (env : List (String × String)) : Decidable (Distinct env) :=
  inferInstanceAs (Decidable (List.Nodup _))

/-- A variable is set to a text under its name in some letter case. -/
def Sets (env : List (String × String)) (name text : String) : Prop :=
  ∃ v ∈ env, lower v.1 = lower name ∧ v.2 = text

/-- The variables under their names in lower case. -/
def folded (env : List (String × String)) : Assoc String := env.map fun v => (lower v.1, v.2)

/-- The variables that have one of some names, under these names in lower case. -/
def withNames (names : List String) (env : List (String × String)) : Assoc String :=
  (folded env).filter fun v => (names.map lower).contains v.1

theorem keys_folded (env : List (String × String)) :
    (folded env).keys = env.map fun v => lower v.1 := by
  rw [folded, Assoc.keys, List.map_map]
  rfl

theorem lookup_eq (env : List (String × String)) (name : String) :
    lookup env name = Assoc.get? (folded env).reverse (lower name) := by
  rw [lookup, folded, Assoc.get?, ← List.map_reverse, List.find?_map, Option.map_map]
  rfl

/-- Of distinct names it does not matter which one counts. -/
theorem lookup_eq_get? (h : Distinct env) (name : String) :
    lookup env name = (folded env).get? (lower name) := by
  rw [lookup_eq]
  exact Assoc.get?_perm (folded env).reverse_perm.symm (by rwa [keys_folded]) _

theorem lookup_eq_some_iff (h : Distinct env) (name text : String) :
    lookup env name = some text ↔ Sets env name text := by
  rw [lookup_eq_get? h, Assoc.get?_eq_some_iff (by rwa [keys_folded]), folded, List.mem_map]
  simp only [Prod.mk.injEq, Sets]

theorem lookup_eq_none_iff (h : Distinct env) (name : String) :
    lookup env name = none ↔ ∀ text, ¬Sets env name text := by
  rw [Option.eq_none_iff_forall_ne_some]
  simp only [ne_eq, lookup_eq_some_iff h]

/-- A name is looked up among the variables that have it or one of some others. -/
theorem lookup_withNames {names : List String} {name : String} (hname : name ∈ names)
    (env : List (String × String)) :
    lookup env name = Assoc.get? (withNames names env).reverse (lower name) := by
  have hcounts : (names.map lower).contains (lower name) = true :=
    List.contains_iff_mem.mpr (List.mem_map_of_mem hname)
  rw [lookup_eq, withNames, ← List.filter_reverse,
    Assoc.get?_filter (fun key => (names.map lower).contains key), if_pos hcounts]

theorem lookup_of_perm {names : List String} {name : String} (hname : name ∈ names)
    (h : Distinct env) (hperm : (withNames names env').Perm (withNames names env)) :
    lookup env' name = lookup env name := by
  have hnodup : (Assoc.keys (withNames names env).reverse).Nodup := by
    have hkeys : (folded env).keys.Nodup := by rwa [keys_folded]
    rw [Assoc.keys, List.map_reverse, List.nodup_reverse]
    exact hkeys.sublist (List.filter_sublist.map _)
  rw [lookup_withNames hname, lookup_withNames hname]
  refine Assoc.get?_perm ?_ hnodup _
  exact (List.reverse_perm _).trans (hperm.symm.trans (List.reverse_perm _).symm)

/-! ### One field -/

/-- The fields in the order of declaration, each with the variable that it is read from. -/
def declared : List (String × String) :=
  [("service_name", "REGISTRY_AGENTS_SERVICE_NAME"), ("environment", "REGISTRY_AGENTS_ENVIRONMENT"),
    ("log_level", "REGISTRY_AGENTS_LOG_LEVEL"), ("api_host", "REGISTRY_AGENTS_API_HOST"),
    ("api_port", "REGISTRY_AGENTS_API_PORT"),
    ("function_base_url", "REGISTRY_AGENTS_FUNCTION_BASE_URL"),
    ("strict_validation", "REGISTRY_AGENTS_STRICT_VALIDATION"),
    ("trace_enabled", "REGISTRY_AGENTS_TRACE_ENABLED")]

/-- The variables that the settings are read from. -/
def variableNames : List String := "FUNCTION_BASE_URL" :: declared.map (·.2)

/-- A field read from a variable is what the variable spells, or its default where the variable is
not set. -/
inductive ReadFrom {α : Type} (env : List (String × String)) (name : String)
    (spells : String → α → Prop) (default : α) : α → Prop
  | set {text : String} {a : α} :
      Sets env name text → spells text a → ReadFrom env name spells default a
  | unset : (∀ text, ¬Sets env name text) → ReadFrom env name spells default default

/-- A variable is set to a text that spells nothing. -/
def Illegible {α : Type} (env : List (String × String)) (name : String)
    (spells : String → α → Prop) : Prop :=
  ∃ text, Sets env name text ∧ ∀ a, ¬spells text a

section Field

variable {α : Type} {read : String → Except Fault α} {spells : String → α → Prop}
variable {field name : String}

/-- The variable of a field is looked up under its name in capitals. -/
theorem fieldText_eq (hname : (field, name) ∈ declared) (env : List (String × String)) :
    fieldText env field = lookup env name := by
  have hlower : ∀ p ∈ declared, lower (variablePrefix ++ p.1) = lower p.2 := by decide +kernel
  rw [fieldText, lookup, lookup, hlower _ hname]

/-- A field that holds text is whatever its variable is set to. -/
theorem readFrom_fieldText (h : Distinct env) (hname : (field, name) ∈ declared)
    (default : String) :
    ReadFrom env name (· = ·) default ((fieldText env field).getD default) := by
  rw [fieldText_eq hname]
  cases hlookup : lookup env name with
  | none => exact .unset ((lookup_eq_none_iff h name).mp hlookup)
  | some text => exact .set ((lookup_eq_some_iff h name text).mp hlookup) rfl

/-- A field is read, or its variable is illegible and the misfit leads to the field. -/
theorem readField_cases (h : Distinct env) (hname : (field, name) ∈ declared)
    (hread : ∀ text a, read text = .ok a ↔ spells text a) (default : α) :
    (∃ a, readField env field read default = .ok a ∧ ReadFrom env name spells default a ∧
        ¬Illegible env name spells) ∨
      ∃ fault, readField env field read default = .error ⟨[field], fault⟩ ∧
        Illegible env name spells := by
  rw [readField, fieldText_eq hname]
  simp only [Illegible, ← lookup_eq_some_iff h]
  cases hlookup : lookup env name with
  | none => exact .inl ⟨default, rfl, .unset ((lookup_eq_none_iff h name).mp hlookup), by simp⟩
  | some text =>
    have hset := (lookup_eq_some_iff h name text).mp hlookup
    simp only [Option.some.injEq, exists_eq_left']
    cases hok : read text with
    | ok a =>
      have hspells := (hread text a).mp hok
      exact .inl ⟨a, rfl, .set hset hspells, fun hnone => hnone a hspells⟩
    | error fault =>
      refine .inr ⟨fault, rfl, fun a hspells => ?_⟩
      cases hok.symm.trans ((hread text a).mpr hspells)

theorem readFrom_readField (h : Distinct env) (hname : (field, name) ∈ declared)
    (hread : ∀ text a, read text = .ok a ↔ spells text a) {default a : α}
    (hok : readField env field read default = .ok a) : ReadFrom env name spells default a := by
  obtain ⟨b, hb, hfrom, -⟩ | ⟨fault, herror, -⟩ := readField_cases h hname hread default
  · cases hok.symm.trans hb
    exact hfrom
  · cases hok.symm.trans herror

theorem mem_misfits_iff (h : Distinct env) (hname : (field, name) ∈ declared)
    (hread : ∀ text a, read text = .ok a ↔ spells text a) (default : α) (path : List String) :
    path ∈ (misfits (readField env field read default)).map (·.path) ↔
      path = [field] ∧ Illegible env name spells := by
  obtain ⟨a, hok, -, hlegible⟩ | ⟨fault, herror, hillegible⟩ :=
    readField_cases h hname hread default
  · simp [hok, misfits, hlegible]
  · simp [herror, misfits, hillegible]

theorem misfits_sublist (env : List (String × String)) (field : String)
    (read : String → Except Fault α) (default : α) :
    ((misfits (readField env field read default)).map (·.path)).Sublist [[field]] := by
  rw [readField]
  split
  · exact List.nil_sublist _
  next text =>
    split
    · exact List.nil_sublist _
    · exact List.Sublist.refl _

end Field

/-! ### All fields -/

section

variable [Platform]

/-- The text of a variable spells an integer. -/
def SpellsInteger (text : String) (i : Int) : Prop := Platform.integerOfText text = .ok i

/-- A field is at fault when its variable is set to a text that spells no integer, or no flag. -/
inductive AtFault (env : List (String × String)) : String → Prop
  | port : Illegible env "REGISTRY_AGENTS_API_PORT" SpellsInteger → AtFault env "api_port"
  | strict : Illegible env "REGISTRY_AGENTS_STRICT_VALIDATION" Shape.SpellsFlag →
      AtFault env "strict_validation"
  | trace : Illegible env "REGISTRY_AGENTS_TRACE_ENABLED" Shape.SpellsFlag →
      AtFault env "trace_enabled"

/-- Misfits are those of the fields at fault, once each and in the order of declaration. -/
structure Reports (env : List (String × String)) (ms : List Misfit) : Prop where
  ordered : (ms.map (·.path)).Sublist (declared.map fun d => [d.1])
  atFault : ∀ field, [field] ∈ ms.map (·.path) ↔ AtFault env field

/-- Every field of the settings is what its variable spells, or its default. -/
structure Takes (env : List (String × String)) (s : Settings) : Prop where
  serviceName :
    ReadFrom env "REGISTRY_AGENTS_SERVICE_NAME" (· = ·) default.serviceName s.serviceName
  environment :
    ReadFrom env "REGISTRY_AGENTS_ENVIRONMENT" (· = ·) default.environment s.environment
  logLevel : ReadFrom env "REGISTRY_AGENTS_LOG_LEVEL" (· = ·) default.logLevel s.logLevel
  apiHost : ReadFrom env "REGISTRY_AGENTS_API_HOST" (· = ·) default.apiHost s.apiHost
  apiPort : ReadFrom env "REGISTRY_AGENTS_API_PORT" SpellsInteger default.apiPort s.apiPort
  /-- The variable without the common start goes before the other one, even where it is empty. -/
  functionBaseUrl : Sets env "FUNCTION_BASE_URL" s.functionBaseUrl ∨
    (∀ text, ¬Sets env "FUNCTION_BASE_URL" text) ∧
      ReadFrom env "REGISTRY_AGENTS_FUNCTION_BASE_URL" (· = ·) default.functionBaseUrl
        s.functionBaseUrl
  strictValidation : ReadFrom env "REGISTRY_AGENTS_STRICT_VALIDATION" Shape.SpellsFlag
    default.strictValidation s.strictValidation
  traceEnabled : ReadFrom env "REGISTRY_AGENTS_TRACE_ENABLED" Shape.SpellsFlag
    default.traceEnabled s.traceEnabled

/-- What the settings under an environment come to. -/
structure Resolves (env : List (String × String)) (outcome : Except (List Misfit) Settings) :
    Prop where
  refused_iff : (∃ ms, outcome = .error ms) ↔ ∃ field, AtFault env field
  reports : ∀ ms, outcome = .error ms → Reports env ms
  takes : ∀ s, outcome = .ok s → Takes env s
  /-- Other variables may come, go and change, and all may change places. -/
  stable : ∀ env', (withNames variableNames env').Perm (withNames variableNames env) →
    ofEnvironment env' = outcome

/-- The misfits of the fields that are not text. -/
def allMisfits (env : List (String × String)) : List Misfit :=
  misfits (readField env "api_port" Shape.integerOfText default.apiPort) ++
    misfits (readField env "strict_validation" Shape.flagOfText default.strictValidation) ++
    misfits (readField env "trace_enabled" Shape.flagOfText default.traceEnabled)

theorem reports_allMisfits (h : Distinct env) : Reports env (allMisfits env) where
  ordered := by
    rw [allMisfits, List.map_append, List.map_append]
    refine (((misfits_sublist env _ _ _).append (misfits_sublist env _ _ _)).append
      (misfits_sublist env _ _ _)).trans ?_
    decide
  atFault field := by
    have hport : ("api_port", "REGISTRY_AGENTS_API_PORT") ∈ declared := by decide
    have hstrict : ("strict_validation", "REGISTRY_AGENTS_STRICT_VALIDATION") ∈ declared := by
      decide
    have htrace : ("trace_enabled", "REGISTRY_AGENTS_TRACE_ENABLED") ∈ declared := by decide
    rw [allMisfits, List.map_append, List.map_append, List.mem_append, List.mem_append,
      mem_misfits_iff h hport Shape.integerOfText_eq_ok_iff,
      mem_misfits_iff h hstrict Shape.flagOfText_eq_ok_iff,
      mem_misfits_iff h htrace Shape.flagOfText_eq_ok_iff]
    simp only [List.cons.injEq, and_true]
    constructor
    · rintro ((⟨rfl, hport⟩ | ⟨rfl, hstrict⟩) | ⟨rfl, htrace⟩)
      · exact .port hport
      · exact .strict hstrict
      · exact .trace htrace
    · rintro (hport | hstrict | htrace)
      · exact .inl (.inl ⟨rfl, hport⟩)
      · exact .inl (.inr ⟨rfl, hstrict⟩)
      · exact .inr ⟨rfl, htrace⟩

/-- Every field of the settings is as it was read. -/
structure AsRead (env : List (String × String)) (s : Settings) : Prop where
  serviceName : s.serviceName = (fieldText env "service_name").getD default.serviceName
  environment : s.environment = (fieldText env "environment").getD default.environment
  logLevel : s.logLevel = (fieldText env "log_level").getD default.logLevel
  apiHost : s.apiHost = (fieldText env "api_host").getD default.apiHost
  apiPort : readField env "api_port" Shape.integerOfText default.apiPort = .ok s.apiPort
  functionBaseUrl : s.functionBaseUrl = ((lookup env "FUNCTION_BASE_URL").or
    (fieldText env "function_base_url")).getD default.functionBaseUrl
  strictValidation : readField env "strict_validation" Shape.flagOfText
    default.strictValidation = .ok s.strictValidation
  traceEnabled : readField env "trace_enabled" Shape.flagOfText
    default.traceEnabled = .ok s.traceEnabled

/-- The settings are refused with all misfits, or there are none. -/
theorem ofEnvironment_cases (env : List (String × String)) :
    (allMisfits env ≠ [] ∧ ofEnvironment env = .error (allMisfits env)) ∨
      allMisfits env = [] ∧ ∃ s, ofEnvironment env = .ok s ∧ AsRead env s := by
  rw [allMisfits, ofEnvironment]
  cases hport : readField env "api_port" Shape.integerOfText default.apiPort with
  | error port => exact .inl ⟨nofun, rfl⟩
  | ok port =>
    cases hstrict :
      readField env "strict_validation" Shape.flagOfText default.strictValidation with
    | error strict => exact .inl ⟨nofun, rfl⟩
    | ok strict =>
      cases htrace : readField env "trace_enabled" Shape.flagOfText default.traceEnabled with
      | error trace => exact .inl ⟨nofun, rfl⟩
      | ok trace =>
        refine .inr ⟨rfl, _, rfl, rfl, rfl, rfl, rfl, hport, ?_, hstrict, htrace⟩
        cases lookup env "FUNCTION_BASE_URL" <;> rfl

theorem AsRead.takes {s : Settings} (hs : AsRead env s) (h : Distinct env) : Takes env s where
  serviceName := hs.serviceName ▸ readFrom_fieldText h (by decide) _
  environment := hs.environment ▸ readFrom_fieldText h (by decide) _
  logLevel := hs.logLevel ▸ readFrom_fieldText h (by decide) _
  apiHost := hs.apiHost ▸ readFrom_fieldText h (by decide) _
  apiPort := readFrom_readField h (by decide) Shape.integerOfText_eq_ok_iff hs.apiPort
  functionBaseUrl := by
    rw [hs.functionBaseUrl]
    cases hlookup : lookup env "FUNCTION_BASE_URL" with
    | none =>
      rw [Option.none_or]
      exact .inr ⟨(lookup_eq_none_iff h _).mp hlookup, readFrom_fieldText h (by decide) _⟩
    | some text => exact .inl ((lookup_eq_some_iff h _ _).mp hlookup)
  strictValidation :=
    readFrom_readField h (by decide) Shape.flagOfText_eq_ok_iff hs.strictValidation
  traceEnabled := readFrom_readField h (by decide) Shape.flagOfText_eq_ok_iff hs.traceEnabled

theorem allMisfits_ne_nil_iff (h : Distinct env) :
    allMisfits env ≠ [] ↔ ∃ field, AtFault env field := by
  have hreports := reports_allMisfits h
  constructor
  · intro hne
    obtain ⟨m, hm⟩ := List.exists_mem_of_ne_nil _ hne
    have hpath := List.mem_map_of_mem (f := Misfit.path) hm
    obtain ⟨d, -, hd⟩ := List.mem_map.mp (hreports.ordered.subset hpath)
    rw [← hd] at hpath
    exact ⟨d.1, (hreports.atFault d.1).mp hpath⟩
  · rintro ⟨field, hfield⟩
    obtain ⟨m, hm, -⟩ := List.mem_map.mp ((hreports.atFault field).mpr hfield)
    exact List.ne_nil_of_mem hm

/-- The settings depend on nothing but what is set under the names of their variables. -/
theorem ofEnvironment_congr (h : ∀ name ∈ variableNames, lookup env' name = lookup env name) :
    ofEnvironment env' = ofEnvironment env := by
  have htext (field : String) (hfield : field ∈ declared.map (·.1)) :
      fieldText env' field = fieldText env field := by
    obtain ⟨⟨_, name⟩, hname, rfl⟩ := List.mem_map.mp hfield
    have hmem : name ∈ variableNames := List.mem_cons_of_mem _ (List.mem_map_of_mem hname)
    rw [fieldText_eq hname, fieldText_eq hname, h name hmem]
  have hread {α : Type} (field : String) (hfield : field ∈ declared.map (·.1))
      (read : String → Except Fault α) (default : α) :
      readField env' field read default = readField env field read default := by
    rw [readField, readField, htext field hfield]
  simp only [ofEnvironment]
  rw [hread "api_port" (by decide), hread "strict_validation" (by decide),
    hread "trace_enabled" (by decide), htext "service_name" (by decide),
    htext "environment" (by decide), htext "log_level" (by decide), htext "api_host" (by decide),
    htext "function_base_url" (by decide), h "FUNCTION_BASE_URL" (by decide)]

end

/-- Under distinct names the settings are read from their own variables alone, and refused when one
of these is illegible. -/
theorem ofEnvironment_resolves [Platform] (h : Distinct env) : Resolves env (ofEnvironment env) where
  refused_iff := by
    rw [← allMisfits_ne_nil_iff h]
    obtain ⟨hne, herror⟩ | ⟨hnil, s, hok, -⟩ := ofEnvironment_cases env
    · exact iff_of_true ⟨_, herror⟩ hne
    · refine iff_of_false ?_ (not_not.mpr hnil)
      rintro ⟨ms, herror⟩
      cases hok.symm.trans herror
  reports ms hms := by
    obtain ⟨-, herror⟩ | ⟨-, s, hok, -⟩ := ofEnvironment_cases env
    · obtain rfl := Except.error.inj (hms.symm.trans herror)
      exact reports_allMisfits h
    · cases hms.symm.trans hok
  takes s hs := by
    obtain ⟨-, herror⟩ | ⟨-, t, hok, hread⟩ := ofEnvironment_cases env
    · cases hs.symm.trans herror
    · obtain rfl := Except.ok.inj (hs.symm.trans hok)
      exact hread.takes h
  stable env' hperm := ofEnvironment_congr fun _ hname => lookup_of_perm hname h hperm

open scoped Platform in
/-- Two fields are at fault here, and one name only looks like that of a variable. -/
theorem ofEnvironment_resolves_illegible :
    let env := [("Registry_Agents_Trace_Enabled", "maybe"), ("API_PORT", "80"),
      ("registry_agents_api_port", "80."), ("FUNCTION_BASE_URL", "")]
    Distinct env ∧ Resolves env
      (.error [⟨["api_port"], .integerText⟩, ⟨["trace_enabled"], .flagText⟩]) := by
  intro env
  have hdistinct : Distinct env := by decide +kernel
  have hrun : ofEnvironment env =
      .error [⟨["api_port"], .integerText⟩, ⟨["trace_enabled"], .flagText⟩] := by decide +kernel
  have hresolves := ofEnvironment_resolves hdistinct
  rw [hrun] at hresolves
  exact ⟨hdistinct, hresolves⟩

open scoped Platform in
/-- An empty address goes before the other one. -/
example : (ofEnvironment [("REGISTRY_AGENTS_FUNCTION_BASE_URL", "http://agents.test"),
    ("function_base_url", "")]).map (·.functionBaseUrl) = .ok "" := by decide +kernel

end Settings

end RegistryGateway
