import RegistryGateway.Proofs.Exit
import RegistryGateway.Proofs.WireFormat

/-! Values that can be read.  What is read has different keys in every object and no integer of more
digits than are read, so it can be written and is read again.  Both are instances of one induction,
on the fuel of the reader, over any condition that asks no more than that.  What the gateway adds to
the data of an answer meets every such condition too, durations included, so a body can be read when
its data can. -/

namespace RegistryGateway

namespace Assoc

variable {α : Type}

theorem keys_put_nodup {m : Assoc α} (h : m.keys.Nodup) (k : String) (v : α) :
    (m.put k v).keys.Nodup := by
  rw [keys_put]
  split
  · exact h
  next hnew =>
    rw [List.nodup_append]
    exact ⟨h, List.nodup_singleton k, by grind⟩

/-- The keys of pairs that are put into a map one after the other differ. -/
theorem keys_ofPairs_nodup (pairs : Assoc α) : (ofPairs pairs).keys.Nodup := by
  have hfold (pairs : Assoc α) : ∀ m : Assoc α, m.keys.Nodup →
      (pairs.foldl (fun m p => m.put p.1 p.2) m).keys.Nodup := by
    induction pairs with
    | nil => exact fun _ h => h
    | cons p rest ih => exact fun m h => ih (m.put p.1 p.2) (keys_put_nodup h p.1 p.2)
  exact hfold pairs [] List.nodup_nil

end Assoc

/-- A run of digits is a number below the power of ten of its length. -/
theorem decimalValue_lt (digits : List Char) : decimalValue digits < 10 ^ digits.length := by
  have hdigit (c : Char) : (decimalDigit? c).getD 0 < 10 := by
    unfold decimalDigit?
    split
    next h =>
      simp only [Char.le_def, UInt32.le_iff_toNat_le] at h
      have hhigh : c.toNat ≤ '9'.toNat := h.2
      have hnine : '9'.toNat = 57 := rfl
      have hzero : '0'.toNat = 48 := rfl
      rw [Option.getD_some]
      omega
    · decide
  induction digits using List.reverseRecOn with
  | nil => decide
  | append_singleton digits c ih =>
    have hlast : decimalValue [c] < 10 := by simpa [decimalValue] using hdigit c
    rw [decimalValue_append, List.length_append, List.length_singleton, Nat.pow_succ]
    omega

namespace Json

/-- A condition that asks no more of a value, doubles apart, than that the keys of an object differ
and that an integer has no more digits than are read. -/
structure Mild (p : Json → Bool) : Prop where
  null : p .null = true
  bool : ∀ b, p (.bool b) = true
  int : ∀ i : Int, i.natAbs < 10 ^ digitLimit → p (.int i) = true
  str : ∀ s, p (.str s) = true
  arr : ∀ items, p (.arr items) = true
  obj : ∀ members, (Assoc.keys members).Nodup → p (.obj members) = true

theorem distinctKeys_mild : Mild distinctKeys where
  null := rfl
  bool _ := rfl
  int _ _ := rfl
  str _ := rfl
  arr _ := rfl
  obj _ h := decide_eq_true h

theorem withinDigits_mild : Mild withinDigits where
  null := rfl
  bool _ := rfl
  int i h := (withinDigits_int_iff i).mpr h
  str _ := rfl
  arr _ := rfl
  obj _ _ := rfl

mutual

/-- Nothing is replaced in a value whose doubles are finite. -/
theorem finite_of_allFinite : ∀ v : Json, v.allFinite = true → v.finite = v
  | .null, _ | .bool _, _ | .int _, _ | .str _, _ => rfl
  | .float d, h => by
    have hd : d.isFinite = true := h
    rw [finite, if_pos hd]
  | .arr items, h => by rw [finite, finiteItems_of_allFinite items h]
  | .obj members, h => by rw [finite, finiteMembers_of_allFinite members h]

theorem finiteItems_of_allFinite : ∀ vs : List Json, allFiniteItems vs = true → finiteItems vs = vs
  | [], _ => rfl
  | v :: rest, h => by
    obtain ⟨hv, hrest⟩ := Bool.and_eq_true_iff.mp h
    rw [finiteItems, finite_of_allFinite v hv, finiteItems_of_allFinite rest hrest]

theorem finiteMembers_of_allFinite :
    ∀ ms : List (String × Json), allFiniteMembers ms = true → finiteMembers ms = ms
  | [], _ => rfl
  | (k, v) :: rest, h => by
    obtain ⟨hv, hrest⟩ := Bool.and_eq_true_iff.mp h
    rw [finiteMembers, finite_of_allFinite v hv, finiteMembers_of_allFinite rest hrest]

end

mutual

/-- A value has no infinite double once they are replaced. -/
theorem allFinite_finite : ∀ v : Json, v.finite.allFinite = true
  | .null | .bool _ | .int _ | .str _ => rfl
  | .float d => by
    rw [finite]
    split
    next h => exact h
    · rfl
  | .arr items => allFiniteItems_finite items
  | .obj members => allFiniteMembers_finite members

theorem allFiniteItems_finite : ∀ vs : List Json, allFiniteItems (finiteItems vs) = true
  | [] => rfl
  | v :: rest => by
    rw [finiteItems, allFiniteItems, allFinite_finite v, allFiniteItems_finite rest]
    rfl

theorem allFiniteMembers_finite :
    ∀ ms : List (String × Json), allFiniteMembers (finiteMembers ms) = true
  | [] => rfl
  | (k, v) :: rest => by
    rw [finiteMembers, allFiniteMembers, allFinite_finite v, allFiniteMembers_finite rest]
    rfl

end

/-- A number that is a double is finite. -/
def finiteDouble : Json → Bool
  | .float d => d.isFinite
  | _ => true

theorem finiteDouble_mild : Mild finiteDouble where
  null := rfl
  bool _ := rfl
  int _ _ := rfl
  str _ := rfl
  arr _ := rfl
  obj _ _ := rfl

mutual

theorem all_finiteDouble : ∀ v : Json, v.all finiteDouble = v.allFinite
  | .null | .bool _ | .int _ | .float _ | .str _ => rfl
  | .arr items => allItems_finiteDouble items
  | .obj members => allMembers_finiteDouble members

theorem allItems_finiteDouble : ∀ vs : List Json, allItems finiteDouble vs = allFiniteItems vs
  | [] => rfl
  | v :: rest => by
    rw [allItems, allFiniteItems, all_finiteDouble v, allItems_finiteDouble rest]

theorem allMembers_finiteDouble :
    ∀ ms : List (String × Json), allMembers finiteDouble ms = allFiniteMembers ms
  | [] => rfl
  | (_, v) :: rest => by
    rw [allMembers, allFiniteMembers, all_finiteDouble v, allMembers_finiteDouble rest]

end

/-- A member is among the values inside an object. -/
theorem all_of_get? {p : Json → Bool} {members : List (String × Json)} {key : String} {v : Json}
    (h : allMembers p members = true) (hv : Assoc.get? members key = some v) : v.all p = true := by
  induction members with
  | nil => cases hv
  | cons m rest ih =>
    obtain ⟨k, w⟩ := m
    obtain ⟨hw, hrest⟩ := Bool.and_eq_true_iff.mp h
    rw [Assoc.get?_cons] at hv
    split at hv
    · rwa [← Option.some.inj hv]
    · exact ih hrest hv

/-- What every mild condition holds of. -/
def benign : Json → Bool
  | .float _ => false
  | .int i => withinDigits (.int i)
  | .obj members => distinctKeys (.obj members)
  | _ => true

theorem Mild.of_benign {p : Json → Bool} (hp : Mild p) {v : Json} (h : benign v = true) :
    p v = true := by
  cases v with
  | null => exact hp.null
  | bool b => exact hp.bool b
  | int i => exact hp.int i ((withinDigits_int_iff i).mp h)
  | float d => cases h
  | str s => exact hp.str s
  | arr items => exact hp.arr items
  | obj members => exact hp.obj members (of_decide_eq_true h)

mutual

/-- A condition that follows from another one holds throughout what the other one holds
throughout. -/
theorem all_mono {p q : Json → Bool} (hpq : ∀ v, p v = true → q v = true) :
    ∀ v : Json, v.all p = true → v.all q = true
  | .null, h | .bool _, h | .int _, h | .float _, h | .str _, h => hpq _ h
  | .arr items, h => by
    obtain ⟨hv, hitems⟩ := Bool.and_eq_true_iff.mp h
    exact Bool.and_eq_true_iff.mpr ⟨hpq _ hv, allItems_mono hpq items hitems⟩
  | .obj members, h => by
    obtain ⟨hv, hmembers⟩ := Bool.and_eq_true_iff.mp h
    exact Bool.and_eq_true_iff.mpr ⟨hpq _ hv, allMembers_mono hpq members hmembers⟩

theorem allItems_mono {p q : Json → Bool} (hpq : ∀ v, p v = true → q v = true) :
    ∀ vs : List Json, allItems p vs = true → allItems q vs = true
  | [], _ => rfl
  | v :: rest, h => by
    obtain ⟨hv, hrest⟩ := Bool.and_eq_true_iff.mp h
    exact Bool.and_eq_true_iff.mpr ⟨all_mono hpq v hv, allItems_mono hpq rest hrest⟩

theorem allMembers_mono {p q : Json → Bool} (hpq : ∀ v, p v = true → q v = true) :
    ∀ ms : List (String × Json), allMembers p ms = true → allMembers q ms = true
  | [], _ => rfl
  | (_, v) :: rest, h => by
    obtain ⟨hv, hrest⟩ := Bool.and_eq_true_iff.mp h
    exact Bool.and_eq_true_iff.mpr ⟨all_mono hpq v hv, allMembers_mono hpq rest hrest⟩

end

theorem allMembers_append (p : Json → Bool) (first second : List (String × Json)) :
    allMembers p (first ++ second) = (allMembers p first && allMembers p second) := by
  induction first with
  | nil => rfl
  | cons m rest ih => rw [List.cons_append, allMembers, ih, allMembers, Bool.and_assoc]

theorem all_strings {p : Json → Bool} (hp : Mild p) (items : List String) :
    (strings items).all p = true := by
  have hitems : allItems p (items.map .str) = true := by
    induction items with
    | nil => rfl
    | cons item rest ih => exact Bool.and_eq_true_iff.mpr ⟨hp.str item, ih⟩
  exact Bool.and_eq_true_iff.mpr ⟨hp.arr _, hitems⟩

/-- A put keeps a condition on every member. -/
theorem allMembers_put {p : Json → Bool} {members : List (String × Json)} {v : Json}
    (h : allMembers p members = true) (hv : v.all p = true) (k : String) :
    allMembers p (Assoc.put members k v) = true := by
  induction members with
  | nil => simpa [Assoc.put, allMembers] using hv
  | cons m rest ih =>
    obtain ⟨k', v'⟩ := m
    obtain ⟨hv', hrest⟩ := Bool.and_eq_true_iff.mp h
    rw [Assoc.put]
    split
    · exact Bool.and_eq_true_iff.mpr ⟨hv, hrest⟩
    · exact Bool.and_eq_true_iff.mpr ⟨hv', ih hrest⟩

theorem allMembers_ofPairs {p : Json → Bool} {pairs : List (String × Json)}
    (h : allMembers p pairs = true) : allMembers p (Assoc.ofPairs pairs) = true := by
  have hfold (pairs : List (String × Json)) : ∀ m : List (String × Json), allMembers p m = true →
      allMembers p pairs = true →
      allMembers p (pairs.foldl (fun m p => Assoc.put m p.1 p.2) m) = true := by
    induction pairs with
    | nil => exact fun _ hm _ => hm
    | cons pair rest ih =>
      intro m hm hpairs
      obtain ⟨hv, hrest⟩ := Bool.and_eq_true_iff.mp hpairs
      exact ih _ (allMembers_put hm hv pair.1) hrest
  exact hfold pairs [] rfl h

/-- Both parts of a step were taken. -/
theorem Step.andThen_eq_ok {α β : Type} {step : Step α} {next : α → List Char → Step β} {w : β}
    {rest : List Char} (h : step.andThen next = .ok (w, rest)) :
    ∃ v middle, step = .ok (v, middle) ∧ next v middle = .ok (w, rest) := by
  cases step with
  | error failure => cases h
  | ok taken => exact ⟨taken.1, taken.2, rfl, h⟩

section

variable {p : Json → Bool} (hp : Mild p) (hfloat : ∀ d, p (.float d) = true)

include hp hfloat

theorem number_all {start rest : List Char} {v : Json} (h : number start = .ok (v, rest)) :
    v.all p = true := by
  rw [Numeral.number_eq] at h
  generalize Numeral.wholePart (Numeral.splitSign start).2 = whole at h
  generalize fraction ((Numeral.splitSign start).2.drop whole.length) = places at h
  generalize exponent places.2 = power at h
  dsimp only at h
  split at h
  · cases h
  split at h
  · split at h
    · cases h
    next hlimit =>
      have hvalue : decimalValue whole < 10 ^ digitLimit :=
        Nat.lt_of_lt_of_le (decimalValue_lt whole)
          (Nat.pow_le_pow_right (by decide) (Nat.not_lt.mp hlimit))
      cases h
      apply hp.int
      split
      · rwa [Int.natAbs_neg, Int.natAbs_natCast]
      · rwa [Int.natAbs_natCast]
  · cases h
    exact hfloat _

theorem scalar_all {start rest : List Char} {v : Json} (h : scalar start = .ok (v, rest)) :
    v.all p = true := by
  rw [scalar] at h
  split at h
  next read hread =>
    cases h
    obtain ⟨⟨word, v'⟩, hword, hmap⟩ := List.exists_of_findSome?_eq_some hread
    obtain ⟨rest', -, heq⟩ := Option.map_eq_some_iff.mp hmap
    cases heq
    have hwords : ∀ w ∈ words, w.2.all p = true := by
      simp [words, Json.all, hp.null, hp.bool, hfloat]
    exact hwords _ hword
  · exact number_all hp hfloat h

/-- Values, items and members that are read meet the condition. -/
theorem value_all : ∀ (fuel : Nat),
    (∀ start rest v, value fuel start = .ok (v, rest) → v.all p = true) ∧
    (∀ start rest vs, items fuel start = .ok (vs, rest) → allItems p vs = true) ∧
    (∀ start rest ms, members fuel start = .ok (ms, rest) → allMembers p ms = true)
  | 0 => ⟨nofun, nofun, nofun⟩
  | fuel + 1 => by
    -- The three readers call each other with less fuel, so they are followed together.
    obtain ⟨hvalue, hitems, hmembers⟩ := value_all fuel
    refine ⟨fun start rest v h => ?_, fun start rest vs h => ?_, fun start rest ms h => ?_⟩
    · unfold value at h
      split at h
      · obtain ⟨s, middle, -, h⟩ := Step.andThen_eq_ok h
        cases h
        exact hp.str s
      · split at h
        · cases h
          exact Bool.and_eq_true_iff.mpr ⟨hp.arr [], rfl⟩
        · obtain ⟨vs, middle, hvs, h⟩ := Step.andThen_eq_ok h
          cases h
          exact Bool.and_eq_true_iff.mpr ⟨hp.arr vs, hitems _ _ _ hvs⟩
      · split at h
        · cases h
          exact Bool.and_eq_true_iff.mpr ⟨hp.obj [] List.nodup_nil, rfl⟩
        · obtain ⟨ms, middle, hms, h⟩ := Step.andThen_eq_ok h
          cases h
          exact Bool.and_eq_true_iff.mpr
            ⟨hp.obj _ (Assoc.keys_ofPairs_nodup ms), allMembers_ofPairs (hmembers _ _ _ hms)⟩
      · exact scalar_all hp hfloat h
    · rw [items] at h
      obtain ⟨v, middle, hv, h⟩ := Step.andThen_eq_ok h
      split at h
      · cases h
        exact Bool.and_eq_true_iff.mpr ⟨hvalue _ _ _ hv, rfl⟩
      · obtain ⟨more, middle, hmore, h⟩ := Step.andThen_eq_ok h
        cases h
        exact Bool.and_eq_true_iff.mpr ⟨hvalue _ _ _ hv, hitems _ _ _ hmore⟩
      · cases h
    · unfold members at h
      split at h
      · obtain ⟨key, middle, -, h⟩ := Step.andThen_eq_ok h
        split at h
        · obtain ⟨v, middle, hv, h⟩ := Step.andThen_eq_ok h
          split at h
          · cases h
            exact Bool.and_eq_true_iff.mpr ⟨hvalue _ _ _ hv, rfl⟩
          · obtain ⟨more, middle, hmore, h⟩ := Step.andThen_eq_ok h
            cases h
            exact Bool.and_eq_true_iff.mpr ⟨hvalue _ _ _ hv, hmembers _ _ _ hmore⟩
          · cases h
        · cases h
      · cases h

/-- So does every value that is read from bytes. -/
theorem decode_all {bytes : Bytes} {v : Json} (h : decode bytes = .ok v) : v.all p = true := by
  rw [decode] at h
  split at h
  · cases h
  split at h
  · cases h
  next text _ w hread =>
    cases h
    simp only [read] at hread
    split at hread
    · cases hread
    next hvalue =>
      split at hread
      · cases hread
        exact (value_all hp hfloat _).1 _ _ _ hvalue
      · cases hread

end

end Json

/-! ## Durations -/

namespace Double

/-- A quotient is rounded to at most one more than what is divided. -/
theorem roundHalfEven_le (a : Nat) {b : Nat} (hb : 0 < b) : roundHalfEven a b ≤ a + 1 := by
  have hquotient := Nat.div_le_self a b
  obtain h | ⟨-, h⟩ := roundHalfEven_cases (a := a) hb
  · omega
  · omega

/-- A number is below the power of two that its exponent leads to. -/
theorem scale_significand_lt (d : Double) :
    (scale d.significand 1 d.exponent).1 < 2 ^ (53 + d.exponent.toNat) := by
  have hsignificand : d.significand < 2 ^ 53 := d.significand_lt
  simp only [scale]
  split
  · rw [Nat.shiftLeft_eq, Nat.pow_add]
    exact Nat.mul_lt_mul_of_pos_right hsignificand (Nat.two_pow_pos _)
  · exact Nat.lt_of_lt_of_le hsignificand
      (Nat.pow_le_pow_right (by decide) (Nat.le_add_right 53 _))

/-- Only a finite number has a nearest integer. -/
theorem natAbs_toNearestInt_le {d : Double} {n : Int} (h : d.toNearestInt = .ok n) :
    d.isFinite = true ∧ n.natAbs ≤ 2 ^ (53 + d.exponent.toNat) := by
  simp only [toNearestInt] at h
  split at h
  · cases h
  next hnan =>
  split at h
  · cases h
  next hinfinite =>
  have hscaled := d.scale_significand_lt
  have hrounded := roundHalfEven_le (scale d.significand 1 d.exponent).1
    (ratio_scale d.significand Nat.one_pos d.exponent).2
  constructor
  · simp only [isNaN, decide_eq_true_eq, isInfinite, beq_iff_eq] at hnan hinfinite
    simp only [isFinite, decide_eq_true_eq]
    omega
  · cases h
    split
    · rw [Int.natAbs_neg, Int.natAbs_natCast]
      omega
    · rw [Int.natAbs_natCast]
      omega

end Double

/-- A duration has no more digits than are read. -/
theorem Executor.natAbs_milliseconds_lt {start finish : Double} {ms : Int}
    (h : milliseconds start finish = .ok ms) : ms.natAbs < 10 ^ digitLimit := by
  simp only [milliseconds] at h
  generalize (finish.sub start).scaleBy 1000 = elapsed at h
  cases hn : elapsed.toNearestInt with
  | error e => cases e <;> simp [hn] at h
  | ok n =>
    obtain rfl : n = ms := by simpa [hn] using h
    obtain ⟨hfinite, hle⟩ := Double.natAbs_toNearestInt_le hn
    have hexponent := Double.exponent_le hfinite
    have hdigits : 53 + elapsed.exponent.toNat < digitLimit := by
      rw [digitLimit]
      omega
    calc
      n.natAbs ≤ 2 ^ (53 + elapsed.exponent.toNat) := hle
      _ ≤ 10 ^ (53 + elapsed.exponent.toNat) := Nat.pow_le_pow_left (by decide) _
      _ < 10 ^ digitLimit := Nat.pow_lt_pow_right (by decide) hdigits

/-- A layer meets every mild condition if its duration has no more digits than are read. -/
theorem LayerEntry.all_toJson {p : Json → Bool} (hp : Json.Mild p) {entry : LayerEntry}
    (h : ∀ ms, entry.durationMs = some ms → ms.natAbs < 10 ^ digitLimit) :
    entry.toJson.all p = true := by
  rw [toJson]
  cases hms : entry.durationMs with
  | none => simp [Json.all, Json.allMembers, hp.obj, hp.str, Assoc.keys]
  | some ms => simp [Json.all, Json.allMembers, hp.obj, hp.str, hp.int ms (h ms hms), Assoc.keys]

variable [Platform]

/-- The duration of a result has no more digits than are read. -/
theorem Executor.natAbs_durationMs_lt {registry : AgentRegistry} {name : String} {body : Json}
    {s : Sources} {result : AgentResult} (h : (run registry name body s).result = .ok result) :
    result.durationMs.natAbs < 10 ^ digitLimit := by
  have hends := run_ends registry name body s
  generalize run registry name body s = run at h hends
  cases hends with
  | answered _ _ hms =>
    cases h
    exact natAbs_milliseconds_lt hms
  | unregistered | failed | unmeasured | unwritten | backwards => cases h

/-- Nor has the duration of any layer of a reply. -/
theorem Router.Exit.natAbs_durations_lt {r : Router} {request : InboundRequest}
    {path traceId : String} {s : Sources} {d : Dispatched} (h : Exit r request path traceId s d) :
    ∀ entry ∈ d.reply.layers, ∀ ms, entry.durationMs = some ms →
      ms.natAbs < 10 ^ digitLimit := by
  cases h with
  | health | contracts | unknown | wrongMethod =>
    simp [healthReply, contractsReply, unknownReply, routed, LayerEntry.completed,
      LayerEntry.failed]
  | rejected | failed => simp [failedReply, routed, LayerEntry.completed, LayerEntry.failed]
  | answered _ _ _ hrun =>
    simpa [routed, LayerEntry.completed] using Executor.natAbs_durationMs_lt hrun

/-! ## Bodies -/

section

variable {p : Json → Bool} (hp : Json.Mild p)

include hp

namespace Router

variable {r : Router} {request : InboundRequest} {path traceId : String} {s : Sources}
  {d : Dispatched}

theorem Exit.payload_all (h : Exit r request path traceId s d)
    (hdata : ∀ data, Assoc.get? d.reply.payload "data" = some data → data.all p = true) :
    Json.allMembers p d.reply.payload = true := by
  cases h with
  | health =>
    simp only [healthReply, Json.allMembers, Json.all, hp.str, Json.all_strings hp, Bool.and_self]
  | contracts =>
    have htable : Contract.tableJson.all Json.benign = true := by decide +kernel
    have htable := Json.all_mono (fun _ => hp.of_benign) _ htable
    simp only [contractsReply, Json.allMembers, htable, Bool.and_self]
  | unknown =>
    simp only [unknownReply, Json.allMembers, Json.all, hp.str, Json.all_strings hp, Bool.and_self]
  | wrongMethod | rejected | failed =>
    simp only [failedReply, errorPayload, Json.allMembers, Json.all, hp.str, Bool.and_self]
  | answered => simp only [Json.allMembers, hdata _ rfl, Bool.and_self]

theorem Exit.layers_all (h : Exit r request path traceId s d) :
    Json.allItems p (d.reply.layers.map LayerEntry.toJson) = true := by
  have hentry : ∀ entry ∈ d.reply.layers, entry.toJson.all p = true := fun entry hmem =>
    LayerEntry.all_toJson hp (h.natAbs_durations_lt entry hmem)
  generalize d.reply.layers = layers at hentry
  induction layers with
  | nil => rfl
  | cons entry rest ih =>
    obtain ⟨hfirst, hrest⟩ := List.forall_mem_cons.mp hentry
    exact Bool.and_eq_true_iff.mpr ⟨hfirst, ih hrest⟩

/-- The body of a reply meets every mild condition that the data in it meet, if there are any. -/
theorem Exit.all (h : Exit r request path traceId s d) (m : ExecutionMetadata)
    (hdata : ∀ data, Assoc.get? d.reply.payload "data" = some data → data.all p = true) :
    (Json.obj (d.reply.payload ++ closing m d.reply)).all p = true := by
  have hkeys : (Assoc.keys (d.reply.payload ++ closing m d.reply)).Nodup := by
    have hkeys := h.keys_nodup
    simpa [Assoc.keys, closing] using hkeys
  have hclosing : Json.allMembers p (closing m d.reply) = true := by
    simp [closing, ExecutionMetadata.toJson, Json.allMembers, Json.all, hp.obj, hp.arr, hp.str,
      h.layers_all hp, Assoc.keys]
  refine Bool.and_eq_true_iff.mpr ⟨hp.obj _ hkeys, ?_⟩
  rw [Json.allMembers_append, h.payload_all hp hdata, hclosing, Bool.and_self]

end Router

end

end RegistryGateway
