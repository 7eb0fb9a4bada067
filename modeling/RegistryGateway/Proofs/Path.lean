import RegistryGateway.Proofs.Percent
import RegistryGateway.Url.Target
import Mathlib.Algebra.Ring.Nat

/-! Paths as lists of segments: a text is cut into segments and put together from them, its
characters are escaped segment by segment, and resolving dot segments leaves some segments out and
adds none. -/

namespace RegistryGateway.Url

section

variable {mark : Char}

theorem splitOn_ne_nil (mark : Char) (text : List Char) : splitOn mark text ≠ [] := by
  cases text with
  | nil => simp [splitOn]
  | cons c rest =>
    rw [splitOn]
    split
    · simp
    · split <;> simp

theorem splitOn_mark (rest : List Char) :
    splitOn mark (mark :: rest) = [] :: splitOn mark rest := by rw [splitOn, if_pos rfl]

/-- What stands before a text belongs to its first piece as far as it holds no mark. -/
theorem splitOn_append_of_not_mem {front : List Char} (h : mark ∉ front) (rest : List Char) :
    ∃ piece pieces, splitOn mark rest = piece :: pieces ∧
      splitOn mark (front ++ rest) = (front ++ piece) :: pieces := by
  obtain ⟨piece, pieces, hpieces⟩ := List.exists_cons_of_ne_nil (splitOn_ne_nil mark rest)
  refine ⟨piece, pieces, hpieces, ?_⟩
  induction front with
  | nil => exact hpieces
  | cons c front ih =>
    rw [List.mem_cons, not_or] at h
    rw [List.cons_append, splitOn, if_neg (Ne.symm h.1), ih h.2, List.cons_append]

theorem splitOn_of_not_mem {text : List Char} (h : mark ∉ text) : splitOn mark text = [text] := by
  obtain ⟨piece, pieces, hpieces, htext⟩ := splitOn_append_of_not_mem h []
  obtain ⟨rfl, rfl⟩ := List.cons.inj hpieces
  rwa [List.append_nil] at htext

theorem splitOn_append (first second : List Char) :
    splitOn mark (first ++ mark :: second) = splitOn mark first ++ splitOn mark second := by
  induction first with
  | nil => exact splitOn_mark second
  | cons c first ih =>
    by_cases hc : c = mark
    · subst hc
      rw [List.cons_append, splitOn_mark, splitOn_mark, ih, List.cons_append]
    · rw [List.cons_append, splitOn, splitOn, if_neg hc, if_neg hc, ih]
      obtain ⟨piece, pieces, hfirst⟩ := List.exists_cons_of_ne_nil (splitOn_ne_nil mark first)
      rw [hfirst]
      rfl

/-- A piece holds characters of the text other than the mark. -/
theorem mem_splitOn {text piece : List Char} (h : piece ∈ splitOn mark text) :
    ∀ c ∈ piece, c ≠ mark ∧ c ∈ text := by
  induction text generalizing piece with
  | nil =>
    obtain rfl := List.mem_singleton.mp h
    exact nofun
  | cons d rest ih =>
    have hrest {piece : List Char} (h : piece ∈ splitOn mark rest) :
        ∀ c ∈ piece, c ≠ mark ∧ c ∈ d :: rest :=
      fun c hc => ⟨(ih h c hc).1, List.mem_cons_of_mem _ (ih h c hc).2⟩
    by_cases hd : d = mark
    · subst hd
      rw [splitOn_mark, List.mem_cons] at h
      obtain rfl | h := h
      · exact nofun
      · exact hrest h
    · have hfront : mark ∉ [d] := fun h => hd (List.mem_singleton.mp h).symm
      obtain ⟨first, pieces, hpieces, hcons⟩ :=
        splitOn_append_of_not_mem hfront rest
      rw [List.singleton_append] at hcons
      rw [hpieces] at hrest
      rw [hcons, List.mem_cons] at h
      obtain rfl | h := h
      · exact List.forall_mem_cons.mpr ⟨⟨hd, List.mem_cons_self⟩, hrest List.mem_cons_self⟩
      · exact hrest (List.mem_cons_of_mem _ h)

theorem not_mem_of_mem_splitOn {text piece : List Char} (h : piece ∈ splitOn mark text) :
    mark ∉ piece := fun hc => (mem_splitOn h mark hc).1 rfl

theorem joinChars_cons (separator item : List Char) {rest : List (List Char)} (h : rest ≠ []) :
    joinChars separator (item :: rest) = item ++ separator ++ joinChars separator rest := by
  cases rest with
  | nil => exact absurd rfl h
  | cons => rfl

theorem splitOn_joinChars {pieces : List (List Char)} (hne : pieces ≠ [])
    (h : ∀ piece ∈ pieces, mark ∉ piece) : splitOn mark (joinChars [mark] pieces) = pieces := by
  induction pieces with
  | nil => exact absurd rfl hne
  | cons piece rest ih =>
    rw [List.forall_mem_cons] at h
    by_cases hrest : rest = []
    · subst hrest
      exact splitOn_of_not_mem h.1
    · rw [joinChars_cons _ _ hrest, List.append_assoc, List.singleton_append, splitOn_append,
        splitOn_of_not_mem h.1, ih hrest h.2, List.singleton_append]

theorem mem_joinChars {separator : List Char} {items : List (List Char)} {c : Char}
    (h : c ∈ joinChars separator items) : c ∈ separator ∨ ∃ item ∈ items, c ∈ item := by
  induction items with
  | nil => cases h
  | cons item rest ih =>
    by_cases hrest : rest = []
    · subst hrest
      exact .inr ⟨item, List.mem_cons_self, h⟩
    · rw [joinChars_cons _ _ hrest, List.mem_append, List.mem_append] at h
      obtain (h | h) | h := h
      · exact .inr ⟨item, List.mem_cons_self, h⟩
      · exact .inl h
      · obtain h | ⟨other, hother, hc⟩ := ih h
        · exact .inl h
        · exact .inr ⟨other, List.mem_cons_of_mem _ hother, hc⟩

theorem mem_joinChars_of_mem (separator : List Char) {items : List (List Char)} {item : List Char}
    {c : Char} (h : item ∈ items) (hc : c ∈ item) : c ∈ joinChars separator items := by
  induction items with
  | nil => cases h
  | cons first rest ih =>
    by_cases hrest : rest = []
    · subst hrest
      rwa [List.mem_singleton.mp h] at hc
    · rw [joinChars_cons _ _ hrest, List.mem_append, List.mem_append]
      obtain rfl | h := List.mem_cons.mp h
      · exact .inl (.inl hc)
      · exact .inr (ih h)

theorem not_mem_joinChars {items : List (List Char)} {c : Char} (hc : c ≠ mark)
    (h : ∀ item ∈ items, c ∉ item) : c ∉ joinChars [mark] items := by
  intro hmem
  obtain hmem | ⟨item, hitem, hmem⟩ := mem_joinChars hmem
  · exact hc (List.mem_singleton.mp hmem)
  · exact h item hitem hmem

/-- A part of a URL that keeps the mark is escaped piece by piece. -/
theorem splitOn_percentEncode {keep : Char → Bool} (hmark : keep mark = true)
    (hescape : mark ≠ '%' ∧ isHexDigit mark = false) (text : List Char) :
    splitOn mark (percentEncode keep text) = (splitOn mark text).map (percentEncode keep) := by
  induction text with
  | nil => rfl
  | cons c rest ih =>
    rw [percentEncode_cons]
    by_cases hc : c = mark
    · subst hc
      rw [if_pos hmark, List.singleton_append, splitOn_mark, splitOn_mark, ih, List.map_cons]
      rfl
    · have hfront : mark ∉ if keep c then [c] else percentChar c := by
        split
        · exact fun h => hc (List.mem_singleton.mp h).symm
        · intro h
          obtain h | h := mem_percentChar h
          · exact hescape.1 h
          · rw [hescape.2] at h
            cases h
      obtain ⟨piece, pieces, hpieces, hall⟩ :=
        splitOn_append_of_not_mem hfront (percentEncode keep rest)
      rw [hall, splitOn, if_neg hc]
      obtain ⟨first, more, hrest⟩ := List.exists_cons_of_ne_nil (splitOn_ne_nil mark rest)
      rw [hpieces, hrest, List.map_cons] at ih
      obtain ⟨rfl, rfl⟩ := List.cons.inj ih
      rw [hrest, List.map_cons, percentEncode_cons]

end

theorem map_percentDecode_percentEncode (segments : List (List Char)) :
    (segments.map (percentEncode keptInPath)).map percentDecode = segments.map percentDecode := by
  rw [List.map_map]
  exact List.map_congr_left fun segment _ =>
    keptInPath_keepsEscapes.percentDecode_percentEncode segment

/-! ## Dot segments -/

/-- Whether a segment is resolved away. -/
def isDots (segment : List Char) : Bool := segment = ['.'] || segment = ['.', '.']

theorem resolveDots_sublist (kept segments : List (List Char)) :
    (resolveDots kept segments).Sublist (kept.reverse ++ segments) := by
  induction segments generalizing kept with
  | nil => simp [resolveDots]
  | cons segment rest ih =>
    rw [resolveDots]
    split
    · exact (ih kept).trans ((List.sublist_cons_self _ _).append_left _)
    · split
      · have hkept : (if kept = [[]] then kept else kept.drop 1).Sublist kept := by
          split
          · exact List.Sublist.refl _
          · exact List.drop_sublist 1 kept
        exact (ih _).trans (hkept.reverse.append (List.sublist_cons_self _ _))
      · have hsublist := ih (segment :: kept)
        rwa [List.reverse_cons, List.append_assoc, List.singleton_append] at hsublist

theorem resolveDots_of_plain (kept : List (List Char)) {segments : List (List Char)}
    (h : ∀ segment ∈ segments, isDots segment = false) :
    resolveDots kept segments = kept.reverse ++ segments := by
  induction segments generalizing kept with
  | nil => simp [resolveDots]
  | cons segment rest ih =>
    obtain ⟨hsegment, hrest⟩ := List.forall_mem_cons.mp h
    simp only [isDots, Bool.or_eq_false_iff, decide_eq_false_iff_not] at hsegment
    rw [resolveDots, if_neg hsegment.1, if_neg hsegment.2, ih _ hrest, List.reverse_cons,
      List.append_assoc, List.singleton_append]

theorem plain_of_mem_resolveDots {kept segments : List (List Char)}
    (hkept : ∀ segment ∈ kept, isDots segment = false) :
    ∀ segment ∈ resolveDots kept segments, isDots segment = false := by
  induction segments generalizing kept with
  | nil =>
    intro segment h
    exact hkept segment (List.mem_reverse.mp h)
  | cons segment rest ih =>
    rw [resolveDots]
    split
    · exact ih hkept
    · next hone =>
      split
      · apply ih
        split
        · exact hkept
        · exact fun segment h => hkept segment (List.mem_of_mem_drop h)
      · next htwo => exact ih (List.forall_mem_cons.mpr ⟨by simp [isDots, hone, htwo], hkept⟩)

/-- An empty last segment stays. -/
theorem resolveDots_append_nil (kept segments : List (List Char)) :
    resolveDots kept (segments ++ [[]]) = resolveDots kept segments ++ [[]] := by
  induction segments generalizing kept with
  | nil => simp [resolveDots]
  | cons segment rest ih =>
    rw [List.cons_append, resolveDots, resolveDots]
    split
    · exact ih _
    · split
      · exact ih _
      · exact ih _

theorem splitOn_normalPath {path : List Char} (h : resolveDots [] (splitOn '/' path) ≠ []) :
    splitOn '/' (normalPath path) = resolveDots [] (splitOn '/' path) :=
  splitOn_joinChars h fun _ hsegment =>
    not_mem_of_mem_splitOn ((resolveDots_sublist [] (splitOn '/' path)).subset hsegment)

theorem splitOn_normalPath_cases (path : List Char) :
    splitOn '/' (normalPath path) = [[]] ∨
      (splitOn '/' (normalPath path)).Sublist (splitOn '/' path) := by
  by_cases h : resolveDots [] (splitOn '/' path) = []
  · exact .inl (by rw [normalPath, h]; rfl)
  · rw [splitOn_normalPath h]
    exact .inr (resolveDots_sublist [] (splitOn '/' path))

theorem splitOn_normalPath_of_plain {path : List Char}
    (h : ∀ segment ∈ splitOn '/' path, isDots segment = false) :
    splitOn '/' (normalPath path) = splitOn '/' path := by
  have hresolved : resolveDots [] (splitOn '/' path) = splitOn '/' path :=
    resolveDots_of_plain [] h
  rw [splitOn_normalPath (by rw [hresolved]; exact splitOn_ne_nil '/' path), hresolved]

theorem joinChars_append_nil (separator : List Char) {items : List (List Char)} (h : items ≠ []) :
    joinChars separator (items ++ [[]]) = joinChars separator items ++ separator := by
  induction items with
  | nil => exact absurd rfl h
  | cons item rest ih =>
    by_cases hrest : rest = []
    · subst hrest
      simp [joinChars]
    · rw [List.cons_append, joinChars_cons _ _ (by simp), joinChars_cons _ _ hrest, ih hrest]
      simp only [List.append_assoc]

theorem normalPath_slash (front : List Char) :
    normalPath (front ++ ['/']) = [] ∨ ∃ kept, normalPath (front ++ ['/']) = kept ++ ['/'] := by
  have hsplit : splitOn '/' (front ++ ['/']) = splitOn '/' front ++ [[]] := splitOn_append front []
  rw [normalPath, hsplit, resolveDots_append_nil]
  by_cases h : resolveDots [] (splitOn '/' front) = []
  · exact .inl (by rw [h]; rfl)
  · exact .inr ⟨_, joinChars_append_nil ['/'] h⟩

theorem plain_of_mem_normalPath {path segment : List Char}
    (h : segment ∈ splitOn '/' (normalPath path)) : isDots segment = false := by
  by_cases hresolved : resolveDots [] (splitOn '/' path) = []
  · rw [normalPath, hresolved] at h
    obtain rfl := List.mem_singleton.mp h
    rfl
  · rw [splitOn_normalPath hresolved] at h
    exact plain_of_mem_resolveDots (fun _ hkept => absurd hkept List.not_mem_nil) segment h

theorem eq_dot_of_isDots {segment : List Char} (h : isDots segment = true) :
    ∀ c ∈ segment, c = '.' := by
  simp only [isDots, Bool.or_eq_true, decide_eq_true_eq] at h
  obtain rfl | rfl := h <;> simp

/-- No other segment becomes a dot segment when it is escaped. -/
theorem isDots_percentEncode (segment : List Char) :
    isDots (percentEncode keptInPath segment) = isDots segment := by
  by_cases hkept : ∀ c ∈ segment, keptInPath c = true
  · rw [percentEncode_of_kept hkept]
  · obtain ⟨c, hkept⟩ := Classical.not_forall.mp hkept
    obtain ⟨hc, hnot⟩ := Classical.not_imp.mp hkept
    obtain ⟨more, hmore⟩ := percentChar_head c
    have hpercent : '%' ∈ percentEncode keptInPath segment :=
      List.mem_flatMap.mpr ⟨c, hc, by rw [if_neg hnot, hmore]; exact List.mem_cons_self⟩
    have hencoded : isDots (percentEncode keptInPath segment) = false :=
      Bool.eq_false_iff.mpr fun h => absurd (eq_dot_of_isDots h _ hpercent) (by decide)
    have hplain : isDots segment = false :=
      Bool.eq_false_iff.mpr fun h => hnot (eq_dot_of_isDots h c hc ▸ rfl)
    rw [hencoded, hplain]

/-! ## Sizes -/

/-- The characters of some segments and one mark for each. -/
def size (segments : List (List Char)) : Nat := (segments.map (·.length + 1)).sum

theorem size_append (first second : List (List Char)) :
    size (first ++ second) = size first + size second := by
  simp [size]

theorem size_splitOn (mark : Char) (text : List Char) :
    size (splitOn mark text) = text.length + 1 := by
  induction text with
  | nil => rfl
  | cons c rest ih =>
    rw [splitOn]
    obtain ⟨piece, pieces, hrest⟩ := List.exists_cons_of_ne_nil (splitOn_ne_nil mark rest)
    simp only [hrest, size, List.map_cons, List.sum_cons] at ih
    split
    · simp only [hrest, size, List.map_cons, List.sum_cons, List.length_cons, List.length_nil]
      omega
    · simp only [hrest, size, List.map_cons, List.sum_cons, List.length_cons]
      omega

theorem size_of_joinChars (mark : Char) {segments : List (List Char)} (h : segments ≠ []) :
    size segments = (joinChars [mark] segments).length + 1 := by
  induction segments with
  | nil => exact absurd rfl h
  | cons segment rest ih =>
    by_cases hrest : rest = []
    · subst hrest
      rfl
    · rw [joinChars_cons _ _ hrest]
      have hsize := ih hrest
      simp only [size, List.map_cons, List.sum_cons, List.length_append, List.length_singleton]
        at hsize ⊢
      omega

/-- Each segment that is left out counts. -/
theorem size_sublist {first second : List (List Char)} (h : first.Sublist second) :
    size first + second.length ≤ size second + first.length := by
  induction h with
  | slnil => exact Nat.le_refl _
  | cons segment _ ih =>
    simp only [size, List.map_cons, List.sum_cons, List.length_cons] at ih ⊢
    omega
  | cons_cons segment _ ih =>
    simp only [size, List.map_cons, List.sum_cons, List.length_cons] at ih ⊢
    omega

theorem size_percentDecode (segments : List (List Char)) :
    size (segments.map percentDecode) ≤ size segments := by
  induction segments with
  | nil => exact Nat.le_refl _
  | cons segment rest ih =>
    have hsegment := length_percentDecode segment
    simp only [size, List.map_cons, List.sum_cons] at ih ⊢
    omega

/-- Segments that lose nothing when they are decoded have no escapes. -/
theorem hasEscape_of_size {segments : List (List Char)}
    (h : size segments ≤ size (segments.map percentDecode)) :
    ∀ segment ∈ segments, hasEscape segment = false := by
  induction segments with
  | nil => exact nofun
  | cons segment rest ih =>
    have hsegment := length_percentDecode segment
    have hrest := size_percentDecode rest
    simp only [size, List.map_cons, List.sum_cons] at h hrest
    refine List.forall_mem_cons.mpr ⟨hasEscape_eq_false_of_length (by omega), ih ?_⟩
    simp only [size]
    omega

theorem map_percentDecode_of_plain {segments : List (List Char)}
    (h : ∀ segment ∈ segments, hasEscape segment = false) :
    segments.map percentDecode = segments := by
  rw [List.map_congr_left fun segment hs => percentDecode_of_not_hasEscape (h segment hs)]
  exact List.map_id' segments

/-- Segments were escaped, put under a root and resolved, and are read back as the root with other
segments under it.  If these are as large, none was resolved away and no escape was among them. -/
theorem resolved_eq {root under resolved found : List (List Char)}
    (hresolved : resolved.Sublist (root ++ under.map (percentEncode keptInPath)))
    (hfound : resolved.map percentDecode = root.map percentDecode ++ found)
    (hsize : size under ≤ size found) :
    resolved = root ++ under.map (percentEncode keptInPath) ∧ under = found ∧
      ∀ segment ∈ under, hasEscape segment = false := by
  have hdecode := map_percentDecode_percentEncode under
  have hall : resolved = root ++ under.map (percentEncode keptInPath) := by
    have hsizes := size_sublist (hresolved.map percentDecode)
    have hunder := size_percentDecode under
    rw [List.length_map, List.length_map, hfound, List.map_append, hdecode, size_append,
      size_append] at hsizes
    exact hresolved.eq_of_length_le (by omega)
  rw [hall, List.map_append, hdecode] at hfound
  have hunder := List.append_cancel_left hfound
  have hplain := hasEscape_of_size (hunder ▸ hsize)
  exact ⟨hall, (map_percentDecode_of_plain hplain).symm.trans hunder, hplain⟩

end RegistryGateway.Url
