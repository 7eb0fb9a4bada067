import RegistryGateway.Proofs.Progress
import RegistryGateway.Proofs.Resolution
import RegistryGateway.Proofs.Target

/-! Replies that can be kept.  A reply is kept when the target of its request names a scheme.  The
scheme of a base URL goes into the target of every request, so over a base URL with a scheme every
reply is kept. -/

namespace RegistryGateway

/-- Nothing but itself becomes a character that stands before the small letters. -/
theorem toLower_ne {c d : Char} (hd : d.toNat < 'a'.toNat) (h : c ≠ d) : c.toLower ≠ d := by
  intro he
  unfold Char.toLower at he
  split at he
  next hupper =>
    have hvalue : (c.val + ('a'.val - 'A'.val)).toNat = d.toNat := congrArg Char.toNat he
    have hlow : 'A'.val.toNat ≤ c.val.toNat := UInt32.le_iff_toNat_le.mp hupper.1
    have hhigh : c.val.toNat ≤ 'Z'.val.toNat := UInt32.le_iff_toNat_le.mp hupper.2
    rw [UInt32.toNat_add] at hvalue
    simp only [UInt32.reduceSub, UInt32.reduceToNat, Char.reduceToNat, Char.reduceVal] at *
    omega
  · exact h he

namespace Url.Target

/-- The scheme of a target holds nothing that ends a scheme. -/
def SchemeClear (scheme : List Char) : Prop := ∀ c ∈ scheme, c ≠ '/' ∧ c ≠ ':'

theorem SchemeClear.toLower {scheme : List Char} (h : SchemeClear scheme) :
    SchemeClear (scheme.map Char.toLower) := by
  intro c hc
  obtain ⟨d, hd, rfl⟩ := List.mem_map.mp hc
  exact ⟨toLower_ne (by decide) (h d hd).1, toLower_ne (by decide) (h d hd).2⟩

/-- A target whose scheme is clear and not empty names it. -/
theorem namesScheme_of_clear {t : Target} (hclear : SchemeClear t.scheme) (hne : t.scheme ≠ []) :
    t.namesScheme = true := by
  obtain ⟨first, rest, hscheme⟩ := List.exists_cons_of_ne_nil hne
  have htext : ∃ after, t.text = t.scheme ++ ':' :: after := by
    have hnonempty : t.scheme.isEmpty = false := by rw [hscheme]; rfl
    refine ⟨(if t.authority.isEmpty then [] else '/' :: '/' :: t.authority) ++
      (t.path ++ (marked '?' t.query ++ marked '#' t.fragment)), ?_⟩
    simp [text, hnonempty]
  obtain ⟨after, htext⟩ := htext
  have hcut : cut (fun c => c = '/' || c = ':') (t.scheme ++ ':' :: after) =
      (t.scheme, ':' :: after) :=
    cut_append (fun c hc => by simp [hclear c hc]) (by simp)
  rw [namesScheme, htext, hcut, hscheme]
  rfl

/-! ## Where the scheme comes from -/

theorem scheme_of_ofParts {scheme authority path : List Char} {query fragment : Option (List Char)}
    {t : Target} (h : ofParts scheme authority path query fragment = .ok t) :
    t.scheme = scheme.map Char.toLower := by
  unfold ofParts at h
  dsimp only at h
  split at h
  · cases h
  split at h
  · cases h
  split at h
  · cases h
  · rw [← Except.ok.inj h]

theorem scheme_of_withPart {t t' : Target} {path : List Char} {query : Option (List Char)}
    (h : t.withPart path query = .ok t') : t'.scheme = t.scheme.map Char.toLower := by
  rw [withPart] at h
  split at h
  · cases h
  · exact scheme_of_ofParts h

theorem scheme_of_under {base t : Target} {path : List Char} (h : base.under path = .ok t) :
    t.scheme = base.scheme.map Char.toLower := by
  rw [under] at h
  split at h
  · cases h
  · exact scheme_of_ofParts (withPathAndQuery_ofParts h)

theorem schemeClear_takeScheme (text : List Char) : SchemeClear (takeScheme text).1 := by
  rw [takeScheme.eq_def]
  split
  · exact nofun
  · rw [Url.takeScheme]
    dsimp only
    split
    · split
      next hscheme _ hall =>
        simp only [Bool.and_eq_true, List.all_eq_true] at hall
        intro c hc
        refine ⟨?_, (isSchemeChar_kept (hall.2 c hc)).2.2⟩
        rintro rfl
        exact absurd (hall.2 _ hc) (by decide)
      · exact nofun
    · exact nofun

theorem schemeClear_of_parse {text : List Char} {t : Target} (h : parse text = .ok t) :
    SchemeClear t.scheme := by
  unfold parse at h
  split at h
  · cases h
  split at h
  · cases h
  dsimp only at h
  rw [scheme_of_ofParts h]
  exact (schemeClear_takeScheme text).toLower

theorem schemeClear_of_asBase {t base : Target} (ht : SchemeClear t.scheme)
    (h : t.asBase = .ok base) : SchemeClear base.scheme := by
  rw [asBase] at h
  split at h
  · rwa [← Except.ok.inj h]
  · rw [scheme_of_ofParts (withPathAndQuery_ofParts h)]
    exact ht.toLower

end Url.Target

namespace Client.Session

open Url (Target)

theorem schemeClear_of_start {config : Config} {boundary : List Char} {s : Session}
    (h : start config boundary = .ok s) : Target.SchemeClear s.base.scheme := by
  obtain ⟨base, hbase, -, rfl⟩ := (start_eq_ok_iff config boundary s).mp h
  cases hparse : Target.parse config.baseUrl.toList with
  | error e => rw [hparse] at hbase; cases hbase
  | ok t =>
    rw [hparse] at hbase
    exact Target.schemeClear_of_asBase (Target.schemeClear_of_parse hparse) hbase

/-- A target is as clear of what ends a scheme as the base is, and has a scheme if the base has. -/
theorem scheme_of_target {s : Session} {op : Operation} {t : Target} (h : s.target op = .ok t)
    (hclear : Target.SchemeClear s.base.scheme) :
    Target.SchemeClear t.scheme ∧ (s.base.scheme ≠ [] → t.scheme ≠ []) := by
  rw [target] at h
  split at h
  · cases h
  next u filters hunder _ =>
    rw [Target.scheme_of_withPart h, Target.scheme_of_under hunder]
    exact ⟨hclear.toLower.toLower, fun hne => by simpa using hne⟩
  next u hunder _ =>
    rw [← Except.ok.inj h, Target.scheme_of_under hunder]
    exact ⟨hclear.toLower, fun hne => by simpa using hne⟩

/-- Over a base with a scheme, the target of every request names a scheme. -/
theorem namesScheme_of_base [Platform] {config : Config} {boundary : List Char} {s : Session}
    (hstart : start config boundary = .ok s) (hscheme : s.base.scheme ≠ []) {steps : List Step}
    {op : Operation} {request : Request} (hsent : (s.after steps).request op = .ok request) :
    request.target.namesScheme = true := by
  have htarget := target_of_request hsent
  have hbase := after_base s steps
  obtain ⟨hclear, hne⟩ := scheme_of_target htarget (hbase ▸ schemeClear_of_start hstart)
  exact Target.namesScheme_of_clear hclear (hne (hbase ▸ hscheme))

end Client.Session

end RegistryGateway
