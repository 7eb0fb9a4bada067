import RegistryGateway.Proofs.Authority
import RegistryGateway.Proofs.Path

/-! The target of a path under a base.  The text of the path is read as a URL, and what is left of
it before its first mark is put after the path of the base; segments come out as they went in
exactly when they hold no mark, no escape and, where these are resolved, no dots alone. -/

namespace RegistryGateway.Url.Target

/-! ## Parts of a path -/

variable {mark : Char} {text : List Char}

theorem cutPart_of_not_mem (h : mark ∉ text) : cutPart mark text = (text, none) := by
  have hbefore : ∀ c ∈ text, decide (c = mark) = false :=
    fun c hc => decide_eq_false fun he => h (he ▸ hc)
  have hcut : cut (· = mark) (text ++ []) = (text, []) := cut_append hbefore nofun
  rw [List.append_nil] at hcut
  rw [cutPart, hcut]

theorem cutPart_append (h : mark ∉ text) (after : List Char) :
    cutPart mark (text ++ mark :: after) = (text, some after) := by
  have hbefore : ∀ c ∈ text, decide (c = mark) = false :=
    fun c hc => decide_eq_false fun he => h (he ▸ hc)
  have hcut : cut (· = mark) (text ++ mark :: after) = (text, mark :: after) :=
    cut_append hbefore (by simp)
  rw [cutPart, hcut]

theorem cutPart_marked (h : mark ∉ text) (part : Option (List Char)) :
    cutPart mark (text ++ marked mark part) = (text, part) := by
  cases part with
  | none => rw [marked, List.append_nil, cutPart_of_not_mem h]
  | some after => exact cutPart_append h after

theorem cutPart_cons {c : Char} (h : c ≠ mark) :
    cutPart mark (c :: text) = (c :: (cutPart mark text).1, (cutPart mark text).2) := by
  have hfront : mark ∉ [c] := fun hc => h (List.mem_singleton.mp hc).symm
  by_cases hmem : mark ∈ text
  · obtain ⟨before, after, rfl, hbefore⟩ := List.eq_append_cons_of_mem hmem
    have hcons : mark ∉ c :: before := fun hc => (List.mem_cons.mp hc).elim (h ·.symm) hbefore
    rw [← List.cons_append, cutPart_append hcons, cutPart_append hbefore]
  · have hcons : mark ∉ c :: text := fun hc => (List.mem_cons.mp hc).elim (h ·.symm) hmem
    rw [cutPart_of_not_mem hcons, cutPart_of_not_mem hmem]

theorem cutPart_eq_none_iff : (cutPart mark text).2 = none ↔ mark ∉ text := by
  constructor
  · intro h hmem
    obtain ⟨before, after, rfl, hbefore⟩ := List.eq_append_cons_of_mem hmem
    rw [cutPart_append hbefore] at h
    cases h
  · intro h
    rw [cutPart_of_not_mem h]

/-- The text before a mark is the whole text, or shorter. -/
theorem length_cutPart (mark : Char) (text : List Char) :
    (cutPart mark text).1.length ≤ text.length ∧
      ((cutPart mark text).1.length = text.length → mark ∉ text) := by
  by_cases hmem : mark ∈ text
  · obtain ⟨before, after, rfl, hbefore⟩ := List.eq_append_cons_of_mem hmem
    rw [cutPart_append hbefore]
    simp only [List.length_append, List.length_cons]
    omega
  · rw [cutPart_of_not_mem hmem]
    exact ⟨Nat.le_refl _, fun _ => hmem⟩

theorem head?_cutPart (h : text.head? ≠ some '/') : (cutPart mark text).1.head? ≠ some '/' := by
  cases text with
  | nil => exact nofun
  | cons c rest =>
    by_cases hc : c = mark
    · subst hc
      have hcut : cutPart c ([] ++ c :: rest) = ([], some rest) := cutPart_append (by simp) rest
      rw [List.nil_append] at hcut
      rw [hcut]
      exact nofun
    · rw [cutPart_cons hc]
      exact h

/-! ## Targets from parts -/

/-- Whether a scheme or a host stands before the path, so that dot segments are resolved. -/
def isAbsolute (t : Target) : Bool :=
  !t.scheme.isEmpty || (!t.user.isEmpty || !t.host.isEmpty || t.port.isSome)

/-- The path that relative paths are added to. -/
def root (t : Target) : List Char := if t.path.isEmpty then ['/'] else t.path

/-- A path as it goes out in a target. -/
def resolve (t : Target) (path : List Char) : List Char :=
  if t.isAbsolute then normalPath path else path

theorem ofParts_eq_ok {scheme authority path : List Char} {query fragment : Option (List Char)}
    {t : Target} (h : ofParts scheme authority path query fragment = .ok t) :
    t.path = percentEncode keptInPath (t.resolve path) ∧
      t.query = query.map (percentEncode keptInQuery) ∧
      t.fragment = fragment.map (percentEncode keptInFragment) := by
  unfold ofParts at h
  dsimp only at h
  split at h
  · cases h
  split at h
  · cases h
  split at h
  · cases h
  obtain rfl := Except.ok.inj h
  have hscheme : (scheme.map Char.toLower).isEmpty = scheme.isEmpty := by cases scheme <;> rfl
  refine ⟨?_, rfl, rfl⟩
  simp only [resolve, isAbsolute, hscheme]

/-- A target without scheme and authority. -/
theorem ofParts_relative (path : List Char) (query fragment : Option (List Char)) :
    ofParts [] [] path query fragment =
      match pathFault false false path with
      | some e => .error e
      | none => .ok ⟨[], [], [], none, percentEncode keptInPath path,
          query.map (percentEncode keptInQuery), fragment.map (percentEncode keptInFragment)⟩ := rfl

theorem isAbsolute_of_ofParts {path : List Char} {query fragment : Option (List Char)}
    {t : Target} (h : ofParts [] [] path query fragment = .ok t) : t.isAbsolute = false := by
  rw [ofParts_relative] at h
  split at h
  · cases h
  · cases h
    rfl

theorem takeScheme_slash (text : List Char) : takeScheme ('/' :: text) = ([], '/' :: text) := by
  have hcut : cut (· = ':') ('/' :: text) =
      ('/' :: (cut (· = ':') text).1, (cut (· = ':') text).2) := by
    simp [cut]
  show Url.takeScheme ('/' :: text) = ([], '/' :: text)
  rw [Url.takeScheme, hcut]
  dsimp only
  split
  · next first rest after hfirst hrest =>
    obtain ⟨rfl, -⟩ := List.cons.inj hfirst
    rw [if_neg (by simp [isAsciiLetter])]
  · rfl

theorem takeAuthority_slash (h : text.head? ≠ some '/') :
    takeAuthority ('/' :: text) = ([], '/' :: text) := by
  cases text with
  | nil => rfl
  | cons c rest =>
    have hc : c ≠ '/' := fun he => h (by rw [he]; rfl)
    unfold takeAuthority
    split
    · next heq =>
      obtain ⟨-, heq⟩ := List.cons.inj heq
      exact absurd (List.cons.inj heq).1 hc
    · rfl

/-- A path that starts with a single slash is read as a path up to its first mark. -/
theorem parse_slash {relative : Target} (hslash : text.head? ≠ some '/')
    (h : parse ('/' :: text) = .ok relative) :
    relative.path = '/' :: percentEncode keptInPath (cutPart '?' (cutPart '#' text).1).1 ∧
      relative.query =
        (cutPart '?' (cutPart '#' text).1).2.map (percentEncode keptInQuery) := by
  unfold parse at h
  split at h
  · cases h
  split at h
  · cases h
  rw [takeScheme_slash] at h
  dsimp only at h
  rw [takeAuthority_slash hslash] at h
  dsimp only at h
  rw [cutPart_cons (by decide), cutPart_cons (by decide)] at h
  dsimp only at h
  have habsolute := isAbsolute_of_ofParts h
  obtain ⟨hpath, hquery, -⟩ := ofParts_eq_ok h
  rw [resolve, habsolute] at hpath
  exact ⟨hpath, hquery⟩

/-! ## Targets under a base -/

theorem head?_percentEncode (h : text.head? ≠ some '/') :
    (percentEncode keptInPath text).head? ≠ some '/' := by
  cases text with
  | nil => exact nofun
  | cons c rest =>
    rw [percentEncode_cons]
    split
    · exact h
    · obtain ⟨more, hmore⟩ := percentChar_head c
      rw [hmore]
      exact fun he => absurd (Option.some.inj he) (by decide)

theorem dropWhile_slash {after : List Char} (h : text.head? ≠ some '/')
    (hafter : after.head? ≠ some '/') :
    ('/' :: text ++ after).dropWhile (· = '/') = text ++ after := by
  rw [List.cons_append, List.dropWhile_cons_of_pos (by decide)]
  cases text with
  | nil =>
    cases after with
    | nil => rfl
    | cons c rest => exact List.dropWhile_cons_of_neg (by simpa using hafter)
  | cons c rest => exact List.dropWhile_cons_of_neg (by simpa using h)

theorem head?_marked (part : Option (List Char)) : (marked '?' part).head? ≠ some '/' := by
  cases part with
  | none => exact nofun
  | some after => exact fun h => absurd (Option.some.inj h) (by decide)

theorem question_not_mem (h : ∀ c ∈ text, keptInPath c = true) : '?' ∉ text :=
  fun hmem => absurd (h '?' hmem) (by decide)

theorem kept_root {t : Target} (h : ∀ c ∈ t.path, keptInPath c = true) :
    ∀ c ∈ t.root, keptInPath c = true := by
  rw [root]
  split
  · exact List.forall_mem_singleton.mpr (by decide)
  · exact h

theorem withPathAndQuery_ofParts {base t : Target} (h : base.withPathAndQuery text = .ok t) :
    ofParts base.scheme base.authority (cutPart '?' text).1 (cutPart '?' text).2 base.fragment =
      .ok t := by
  rw [withPathAndQuery] at h
  dsimp only at h
  rw [withPart] at h
  split at h
  · cases h
  · exact h

theorem withPathAndQuery_eq_ok {base t : Target} (h : base.withPathAndQuery text = .ok t) :
    t.path = percentEncode keptInPath (t.resolve (cutPart '?' text).1) ∧
      t.query = (cutPart '?' text).2.map (percentEncode keptInQuery) ∧
      t.fragment = base.fragment.map (percentEncode keptInFragment) :=
  ofParts_eq_ok (withPathAndQuery_ofParts h)

/-- The target of a path under a base: the path up to its first mark is put after the path of the
base, or after its query if it has one. -/
theorem under_eq_ok {base t : Target} (hkept : ∀ c ∈ base.path, keptInPath c = true)
    (hslash : text.head? ≠ some '/') (h : base.under ('/' :: text) = .ok t) :
    (t.fragment = none ↔ base.fragment = none) ∧
      (t.query = none ↔ base.query = none ∧ '?' ∉ (cutPart '#' text).1) ∧
      (base.query = none →
        t.path = percentEncode keptInPath (t.resolve
          (base.root ++ percentEncode keptInPath (cutPart '?' (cutPart '#' text).1).1))) := by
  rw [under] at h
  split at h
  · cases h
  next relative hrelative =>
  obtain ⟨hpath, hquery⟩ := parse_slash hslash hrelative
  have hadded : relative.pathAndQuery.dropWhile (· = '/') =
      percentEncode keptInPath (cutPart '?' (cutPart '#' text).1).1 ++
        marked '?' ((cutPart '?' (cutPart '#' text).1).2.map (percentEncode keptInQuery)) := by
    rw [pathAndQuery, hpath, hquery]
    exact dropWhile_slash (head?_percentEncode (head?_cutPart (head?_cutPart hslash)))
      (head?_marked _)
  obtain ⟨htpath, htquery, htfragment⟩ := withPathAndQuery_eq_ok h
  rw [hadded] at htpath htquery
  refine ⟨by rw [htfragment, Option.map_eq_none_iff], ?_⟩
  cases hbase : base.query with
  | some more =>
    have hmem : '?' ∈ base.pathAndQuery := by simp [pathAndQuery, hbase, marked]
    refine ⟨⟨fun hnone => ?_, nofun⟩, nofun⟩
    rw [htquery, Option.map_eq_none_iff, cutPart_eq_none_iff] at hnone
    exact absurd (List.mem_append_left _ hmem) hnone
  | none =>
    have hcut : cutPart '?' (base.pathAndQuery ++
        (percentEncode keptInPath (cutPart '?' (cutPart '#' text).1).1 ++
          marked '?' ((cutPart '?' (cutPart '#' text).1).2.map (percentEncode keptInQuery)))) =
        (base.root ++ percentEncode keptInPath (cutPart '?' (cutPart '#' text).1).1,
          (cutPart '?' (cutPart '#' text).1).2.map (percentEncode keptInQuery)) := by
      have hroot : base.pathAndQuery = base.root := by
        rw [pathAndQuery, hbase, marked, List.append_nil, root]
      rw [hroot, ← List.append_assoc]
      refine cutPart_marked (question_not_mem fun c hc => ?_) _
      obtain hc | hc := List.mem_append.mp hc
      · exact kept_root hkept c hc
      · exact keptInPath_keepsEscapes.of_mem_percentEncode hc
    rw [hcut] at htpath htquery
    rw [htquery, Option.map_eq_none_iff, Option.map_eq_none_iff, cutPart_eq_none_iff]
    exact ⟨⟨fun h => ⟨rfl, h⟩, fun h => h.2⟩, fun _ => htpath⟩

/-! ## Bases -/

/-- A target that paths are added to. -/
structure IsBase (t : Target) : Prop where
  kept : ∀ c ∈ t.path, keptInPath c = true
  /-- Its own dot segments are resolved. -/
  plain : t.isAbsolute = true → ∀ segment ∈ splitOn '/' t.path, isDots segment = false
  slash : t.query = none → ∃ front, t.root = front ++ ['/']

theorem kept_of_ofParts {scheme authority path : List Char} {query fragment : Option (List Char)}
    {t : Target} (h : ofParts scheme authority path query fragment = .ok t) :
    ∀ c ∈ t.path, keptInPath c = true := by
  rw [(ofParts_eq_ok h).1]
  exact fun c => keptInPath_keepsEscapes.of_mem_percentEncode

theorem plain_of_ofParts {scheme authority path : List Char} {query fragment : Option (List Char)}
    {t : Target} (h : ofParts scheme authority path query fragment = .ok t)
    (habsolute : t.isAbsolute = true) : ∀ segment ∈ splitOn '/' t.path, isDots segment = false := by
  have hpath := (ofParts_eq_ok h).1
  rw [resolve, if_pos habsolute] at hpath
  intro segment hsegment
  rw [hpath, splitOn_percentEncode (by decide) (by decide), List.mem_map] at hsegment
  obtain ⟨plain, hplain, rfl⟩ := hsegment
  rw [isDots_percentEncode]
  exact plain_of_mem_normalPath hplain

theorem parse_ofParts {t : Target} (h : parse text = .ok t) :
    ∃ scheme authority path query fragment,
      ofParts scheme authority path query fragment = .ok t := by
  unfold parse at h
  split at h
  · cases h
  split at h
  · cases h
  exact ⟨_, _, _, _, _, h⟩

/-- A path with a slash after it keeps the slash, unless nothing else is left of it. -/
theorem slash_of_withPathAndQuery {t base : Target} {front : List Char}
    (h : t.withPathAndQuery (front ++ ['/']) = .ok base) (hquery : base.query = none) :
    ∃ front, base.root = front ++ ['/'] := by
  obtain ⟨hpath, hbase, -⟩ := withPathAndQuery_eq_ok h
  rw [hbase, Option.map_eq_none_iff, cutPart_eq_none_iff] at hquery
  rw [cutPart_of_not_mem hquery] at hpath
  have hencode (kept : List Char) : percentEncode keptInPath (kept ++ ['/']) =
      percentEncode keptInPath kept ++ ['/'] := percentEncode_append keptInPath kept ['/']
  have hslash : base.path = [] ∨ ∃ kept, base.path = kept ++ ['/'] := by
    rw [hpath, resolve]
    split
    · obtain hnil | ⟨kept, hkept⟩ := normalPath_slash front
      · exact .inl (by rw [hnil]; rfl)
      · exact .inr ⟨_, by rw [hkept, hencode]⟩
    · exact .inr ⟨_, hencode front⟩
  obtain hnil | ⟨kept, hkept⟩ := hslash
  · exact ⟨[], by rw [root, hnil]; rfl⟩
  · exact ⟨kept, by rw [root, hkept, if_neg (by simp)]⟩

theorem asBase_isBase {t base : Target} (ht : parse text = .ok t) (h : t.asBase = .ok base) :
    base.IsBase := by
  rw [asBase] at h
  split at h
  · next hlast =>
    obtain rfl := Except.ok.inj h
    obtain ⟨_, _, _, _, _, hparts⟩ := parse_ofParts ht
    refine ⟨kept_of_ofParts hparts, plain_of_ofParts hparts, fun hquery => ?_⟩
    rw [pathAndQuery, hquery, marked, List.append_nil] at hlast
    obtain ⟨front, hfront⟩ := List.getLast?_eq_some_iff.mp hlast
    exact ⟨front, hfront⟩
  · have hparts := withPathAndQuery_ofParts h
    exact ⟨kept_of_ofParts hparts, plain_of_ofParts hparts, slash_of_withPathAndQuery h⟩

/-- The segments of the path, without escapes. -/
def segments (t : Target) : List (List Char) := (splitOn '/' t.path).map percentDecode

/-- The segments of the path that relative paths are added to, without the empty one after its last
slash. -/
def rootSegments (t : Target) : List (List Char) :=
  ((splitOn '/' t.root).map percentDecode).dropLast

theorem segments_of_path {t : Target} {path : List Char}
    (h : t.path = percentEncode keptInPath path) :
    t.segments = (splitOn '/' path).map percentDecode := by
  rw [segments, h, splitOn_percentEncode (by decide) (by decide), map_percentDecode_percentEncode]

theorem rootSegments_of_root {t : Target} {front : List Char} (h : t.root = front ++ ['/']) :
    t.rootSegments = (splitOn '/' front).map percentDecode := by
  have hsplit : splitOn '/' (front ++ ['/']) = splitOn '/' front ++ [[]] := splitOn_append front []
  rw [rootSegments, h, hsplit, List.map_append, List.map_singleton, List.dropLast_concat]

theorem resolve_cases (t : Target) (path : List Char) :
    splitOn '/' (t.resolve path) = [[]] ∨
      (splitOn '/' (t.resolve path)).Sublist (splitOn '/' path) := by
  rw [resolve]
  split
  · exact splitOn_normalPath_cases path
  · exact .inr (List.Sublist.refl _)

theorem resolve_of_plain {t : Target} {path : List Char}
    (h : t.isAbsolute = true → ∀ segment ∈ splitOn '/' path, isDots segment = false) :
    splitOn '/' (t.resolve path) = splitOn '/' path := by
  rw [resolve]
  split
  · next habsolute => exact splitOn_normalPath_of_plain (h habsolute)
  · rfl

theorem plain_of_mem_resolve {t : Target} (habsolute : t.isAbsolute = true)
    {path segment : List Char} (h : segment ∈ splitOn '/' (t.resolve path)) :
    isDots segment = false := by
  rw [resolve, if_pos habsolute] at h
  exact plain_of_mem_normalPath h

theorem authority_of_not_isAbsolute {t : Target} (h : t.isAbsolute = false) :
    t.scheme = [] ∧ t.authority = [] := by
  simp only [isAbsolute, Bool.or_eq_false_iff, Bool.not_eq_false', List.isEmpty_iff,
    Option.isSome_eq_false_iff, Option.isNone_iff_eq_none] at h
  obtain ⟨hscheme, ⟨huser, hhost⟩, hport⟩ := h
  exact ⟨hscheme, by rw [authority, place, huser, hhost, hport]; rfl⟩

/-- A target under a base is absolute only if the base is. -/
theorem isAbsolute_of_under {base t : Target} {path : List Char} (h : base.under path = .ok t)
    (habsolute : t.isAbsolute = true) : base.isAbsolute = true := by
  rw [under] at h
  split at h
  · cases h
  have hparts := withPathAndQuery_ofParts h
  by_cases hbase : base.isAbsolute = true
  · exact hbase
  · obtain ⟨hscheme, hauthority⟩ := authority_of_not_isAbsolute (Bool.eq_false_iff.mpr hbase)
    rw [hscheme, hauthority] at hparts
    rw [isAbsolute_of_ofParts hparts] at habsolute
    cases habsolute

theorem IsBase.plain_root {base : Target} (h : base.IsBase) (habsolute : base.isAbsolute = true) :
    ∀ segment ∈ splitOn '/' base.root, isDots segment = false := by
  rw [root]
  split
  · decide
  · exact h.plain habsolute

/-- Text that is one segment of the path of a target, and that the segment reads back as. -/
structure Tame (t : Target) (text : List Char) : Prop where
  slash : '/' ∉ text
  question : '?' ∉ text
  hash : '#' ∉ text
  escape : hasEscape text = false
  dots : t.isAbsolute = true → isDots text = false

section

variable {base t : Target} {found : List (List Char)} (hbase : base.IsBase)
  (hhead : (joinChars ['/'] found).head? ≠ some '/') (hne : found ≠ [])
  (hunder : base.under ('/' :: joinChars ['/'] found) = .ok t)

include hbase hhead hne hunder

/-- Tame segments are found again under the segments of the base. -/
theorem segments_of_tame (hquery : base.query = none) (htame : ∀ segment ∈ found, t.Tame segment) :
    t.segments = base.rootSegments ++ found ∧ t.query = none := by
  have hhash : '#' ∉ joinChars ['/'] found :=
    not_mem_joinChars (by decide) fun segment hs => (htame segment hs).hash
  have hquestion : '?' ∉ joinChars ['/'] found :=
    not_mem_joinChars (by decide) fun segment hs => (htame segment hs).question
  have hjoined : splitOn '/' (joinChars ['/'] found) = found :=
    splitOn_joinChars hne fun segment hs => (htame segment hs).slash
  obtain ⟨-, htquery, hpath⟩ := under_eq_ok hbase.kept hhead hunder
  rw [cutPart_of_not_mem hhash] at htquery hpath
  rw [cutPart_of_not_mem hquestion] at hpath
  refine ⟨?_, htquery.mpr ⟨hquery, hquestion⟩⟩
  obtain ⟨front, hfront⟩ := hbase.slash hquery
  have hall : splitOn '/' (base.root ++ percentEncode keptInPath (joinChars ['/'] found)) =
      splitOn '/' front ++ found.map (percentEncode keptInPath) := by
    rw [hfront, List.append_assoc, List.singleton_append, splitOn_append,
      splitOn_percentEncode (by decide) (by decide), hjoined]
  have hplain (habsolute : t.isAbsolute = true) : ∀ segment ∈
      splitOn '/' front ++ found.map (percentEncode keptInPath), isDots segment = false := by
    intro segment hs
    obtain hs | hs := List.mem_append.mp hs
    · refine hbase.plain_root (isAbsolute_of_under hunder habsolute) segment ?_
      rw [hfront, splitOn_append]
      exact List.mem_append_left _ hs
    · obtain ⟨plain, hmem, rfl⟩ := List.mem_map.mp hs
      exact (isDots_percentEncode plain).trans ((htame plain hmem).dots habsolute)
  have hresolved := resolve_of_plain fun habsolute => hall ▸ hplain habsolute
  rw [segments_of_path (hpath hquery), hresolved, hall, rootSegments_of_root hfront,
    List.map_append, map_percentDecode_percentEncode,
    map_percentDecode_of_plain fun segment hs => (htame segment hs).escape]

/-- Segments that are found again are tame: every mark, escape or dot segment among them would have
made the path smaller. -/
theorem tame_of_segments (hsegments : t.segments = base.rootSegments ++ found)
    (hquery : t.query = none) : base.query = none ∧ ∀ segment ∈ found, t.Tame segment := by
  obtain ⟨-, htquery, hpath⟩ := under_eq_ok hbase.kept hhead hunder
  obtain ⟨hbquery, hquestion⟩ := htquery.mp hquery
  refine ⟨hbquery, ?_⟩
  rw [cutPart_of_not_mem hquestion] at hpath
  obtain ⟨front, hfront⟩ := hbase.slash hbquery
  obtain ⟨hshort, hwhole⟩ := length_cutPart '#' (joinChars ['/'] found)
  generalize (cutPart '#' (joinChars ['/'] found)).1 = kept at hquestion hpath hshort hwhole
  have hall : splitOn '/' (base.root ++ percentEncode keptInPath kept) =
      splitOn '/' front ++ (splitOn '/' kept).map (percentEncode keptInPath) := by
    rw [hfront, List.append_assoc, List.singleton_append, splitOn_append,
      splitOn_percentEncode (by decide) (by decide)]
  have hfound : (splitOn '/' (t.resolve (base.root ++ percentEncode keptInPath kept))).map
      percentDecode = (splitOn '/' front).map percentDecode ++ found := by
    rw [← segments_of_path (hpath hbquery), hsegments, rootSegments_of_root hfront]
  have hresolved : (splitOn '/' (t.resolve (base.root ++ percentEncode keptInPath kept))).Sublist
      (splitOn '/' front ++ (splitOn '/' kept).map (percentEncode keptInPath)) := by
    obtain hroot | hsublist := resolve_cases t (base.root ++ percentEncode keptInPath kept)
    · have hlength := congrArg List.length hfound
      have hfront := List.length_pos_of_ne_nil (splitOn_ne_nil '/' front)
      have hpos := List.length_pos_of_ne_nil hne
      rw [hroot, List.length_append, List.length_map, List.length_map, List.length_singleton]
        at hlength
      omega
    · rwa [hall] at hsublist
  have hjoined := size_of_joinChars '/' hne
  have hkept := size_splitOn '/' kept
  obtain ⟨hsame, rfl, hescape⟩ := resolved_eq hresolved hfound (by omega)
  have hhash := hwhole (by omega)
  intro segment hs
  have hmem := mem_splitOn hs
  refine ⟨not_mem_of_mem_splitOn hs, fun hc => hquestion (hmem _ hc).2,
    fun hc => hhash (mem_joinChars_of_mem _ hs hc), hescape segment hs, fun habsolute => ?_⟩
  rw [← isDots_percentEncode]
  have hwritten : percentEncode keptInPath segment ∈
      splitOn '/' (t.resolve (base.root ++ percentEncode keptInPath kept)) := by
    rw [hsame]
    exact List.mem_append_right _ (List.mem_map_of_mem hs)
  exact plain_of_mem_resolve habsolute hwritten

end

end RegistryGateway.Url.Target
