import ImportBoundary.Proofs.Policy.Grammar
import ImportBoundary.Proofs.Policy.Paths
import Mathlib.Data.List.Forall2

/-!
# Other spellings of a policy

Two documents that differ only in how their paths are written, and in paths of a list that come
again, describe one policy, also when the root is written in another way (`build_sameDocument`). A
document is put side by side with another one field by field, down to the paths in it
(`SameDocument`).
-/

namespace ImportBoundary

open Address

namespace Policy

/-! ## Paths side by side -/

/-- Two spellings of one path, taken from `root` if they are relative. -/
structure SamePath (root s t : String) : Prop where
  nulFree : Path.IsNulFree s
  nulFree' : Path.IsNulFree t
  normal : Path.normalize root s = Path.normalize root t

/-- Two lists of the same paths in the same order, when a path that comes again is passed over. -/
inductive SamePaths (root : String) : List String → List String → Prop
  | nil : SamePaths root [] []
  | next {ss ts : List String} {s t : String} :
    SamePaths root ss ts → SamePath root s t → SamePaths root (ss ++ [s]) (ts ++ [t])
  | again {ss ts : List String} {first s : String} :
    SamePaths root ss ts → first ∈ ss → SamePath root first s → SamePaths root (ss ++ [s]) ts
  | again' {ss ts : List String} {first t : String} :
    SamePaths root ss ts → first ∈ ts → SamePath root first t → SamePaths root ss (ts ++ [t])

/-- The root as it is written and the root of the policy see the same paths. -/
theorem SamePath.normalize_eq {root s t : String} (absolute : Path.isAbsolute root = true)
    (nul : Path.IsNulFree root) (h : SamePath root s t) :
    Path.normalize (ofPath root).path s = Path.normalize (ofPath root).path t := by
  have written (p : String) (hp : Path.IsNulFree p) :
      Path.normalize (ofPath root).path p = Path.normalize root p := by
    rw [Path.normalize_path _ hp, Path.normalize_of_base absolute nul hp]
  rw [written s h.nulFree, written t h.nulFree', h.normal]

/-- A path at the end of a list is left out if it has come before. -/
theorem eraseDups_concat (xs : List String) (x : String) :
    (xs ++ [x]).eraseDups = if x ∈ xs.eraseDups then xs.eraseDups else xs.eraseDups ++ [x] := by
  rw [List.eraseDups_append, List.removeAll]
  by_cases h : x ∈ xs
  · simp [h]
  · simp [h, List.eraseDups_cons]

theorem resolveAll_samePaths {root r : String}
    (leads : ∀ s t, SamePath root s t → Path.normalize r s = Path.normalize r t)
    {ss ts : List String} (h : SamePaths root ss ts) : resolveAll r ss = resolveAll r ts := by
  have known {ss : List String} {first s : String} (mem : first ∈ ss)
      (same : SamePath root first s) : Path.normalize r s ∈ (ss.map (Path.normalize r)).eraseDups := by
    rw [List.mem_eraseDups, ← leads first s same]
    exact List.mem_map_of_mem mem
  induction h with
  | nil => rfl
  | @next ss ts s t _ same ih =>
    rw [resolveAll, resolveAll] at ih ⊢
    simp only [List.map_append, List.map_cons, List.map_nil, eraseDups_concat, ih,
      leads s t same]
  | again _ mem same ih =>
    rw [← ih, resolveAll, List.map_append, List.map_singleton, eraseDups_concat,
      if_pos (known mem same), resolveAll]
  | again' _ mem same ih =>
    rw [ih, resolveAll, resolveAll, List.map_append, List.map_singleton, eraseDups_concat,
      if_pos (known mem same)]

/-! ## Documents side by side -/

/-- Two lists with related items in the same places. -/
def SameItems (same : Json → Json → Prop) (v w : Json) : Prop :=
  ∃ items others, v = .arr items ∧ w = .arr others ∧ List.Forall₂ same items others

/-- Two objects with the same names in the same order, and related values. -/
def SameFields (same : String → Json → Json → Prop) (v w : Json) : Prop :=
  ∃ fields others, v = .obj fields ∧ w = .obj others ∧
    List.Forall₂ (fun f g => f.1 = g.1 ∧ same f.1 f.2 g.2) fields others

/-- Two strings that spell one path. -/
def SameText (root : String) (v w : Json) : Prop :=
  ∃ s t, v = .str s ∧ w = .str t ∧ SamePath root s t

/-- Two lists of strings that spell the same paths. -/
def SameList (root : String) (v w : Json) : Prop :=
  ∃ ss ts, v = .arr (ss.map .str) ∧ w = .arr (ts.map .str) ∧ SamePaths root ss ts

/-- Two zones. -/
def SameZone (root : String) : Json → Json → Prop :=
  SameFields fun name => if name = "paths" ∨ name = "uses" then SameList root else Eq

/-- Two entries on a restricted path. -/
def SameRestricted (root : String) : Json → Json → Prop :=
  SameFields fun name =>
    if name = "restricted_root" then SameText root
    else if name = "whitelist" then SameList root
    else Eq

/-- Two private scopes. -/
def SameScope (root : String) : Json → Json → Prop :=
  SameFields fun name => if name = "src" then SameList root else Eq

/-- Two documents that differ only in how their paths are written, and in paths that come again. -/
def SameDocument (root : String) : Json → Json → Prop :=
  SameFields fun name =>
    if name = "zones" then SameItems (SameZone root)
    else if name = "restricted_paths" then SameItems (SameRestricted root)
    else if name = "zone_private" then SameItems (SameScope root)
    else Eq

/-- A name is in both of two such objects, with related values, or in neither. -/
theorem SameFields.get? {same : String → Json → Json → Prop} {v w : Json}
    (h : SameFields same v w) (name : String) :
    (v.get? name = none ∧ w.get? name = none) ∨
      ∃ x y, v.get? name = some x ∧ w.get? name = some y ∧ same name x y := by
  obtain ⟨fields, others, rfl, rfl, related⟩ := h
  simp only [Json.get?]
  induction related with
  | nil => exact .inl ⟨rfl, rfl⟩
  | @cons f g rest rest' head _ ih =>
    obtain ⟨key, x⟩ := f
    obtain ⟨key', y⟩ := g
    obtain ⟨rfl, values⟩ := head
    by_cases found : name = key
    · subst found
      exact .inr ⟨x, y, by simp, by simp, values⟩
    · simpa only [List.lookup_cons, beq_eq_false_iff_ne.mpr found] using ih

/-- A name whose values are the same in both objects. -/
theorem SameFields.get?_eq {same : String → Json → Json → Prop} {v w : Json} {name : String}
    (h : SameFields same v w) (equal : same name = Eq) : v.get? name = w.get? name := by
  rcases h.get? name with ⟨left, right⟩ | ⟨x, y, left, right, values⟩
  · rw [left, right]
  · rw [equal] at values
    rw [left, right, values]

theorem SameFields.textsAt {root : String} {same : String → Json → Json → Prop} {v w : Json}
    {name : String} (h : SameFields same v w) (lists : same name = SameList root) :
    SamePaths root (textsAt v name) (textsAt w name) := by
  have texts (ss : List String) : (ss.map Json.str).map textOf = ss := by
    simp [textOf, Function.comp_def]
  rcases h.get? name with ⟨left, right⟩ | ⟨x, y, left, right, values⟩
  · rw [Policy.textsAt, Policy.textsAt, Policy.itemsAt, Policy.itemsAt, left, right]
    exact .nil
  · rw [lists] at values
    obtain ⟨ss, ts, rfl, rfl, same⟩ := values
    rw [Policy.textsAt, Policy.textsAt, Policy.itemsAt, Policy.itemsAt, left, right]
    simpa only [Option.getD_some, listItems, texts] using same

theorem SameFields.itemsAt {same : String → Json → Json → Prop} {item : Json → Json → Prop}
    {v w : Json} {name : String} (h : SameFields same v w) (lists : same name = SameItems item) :
    List.Forall₂ item (itemsAt v name) (itemsAt w name) := by
  rcases h.get? name with ⟨left, right⟩ | ⟨x, y, left, right, values⟩
  · rw [Policy.itemsAt, Policy.itemsAt, left, right]
    exact .nil
  · rw [lists] at values
    obtain ⟨items, others, rfl, rfl, same⟩ := values
    rw [Policy.itemsAt, Policy.itemsAt, left, right]
    exact same

/-! ## What is read from them -/

theorem map_eq_of_forall₂ {α β : Type} {R : α → α → Prop} {f : α → β} {xs ys : List α}
    (related : List.Forall₂ R xs ys) (same : ∀ x y, R x y → f x = f y) : xs.map f = ys.map f := by
  rw [← List.forall₂_eq_eq_eq, List.forall₂_map_left_iff, List.forall₂_map_right_iff]
  exact related.imp same

section

variable {root r : String}
  (leads : ∀ s t, SamePath root s t → Path.normalize r s = Path.normalize r t)
include leads

theorem zoneOf_same {v w : Json} (h : SameZone root v w) : zoneOf r v = zoneOf r w := by
  have name : textAt v "name" = textAt w "name" := by
    rw [textAt, h.get?_eq (by simp), textAt]
  rw [zoneOf, name, resolveAll_samePaths leads (h.textsAt (by simp)),
    resolveAll_samePaths leads (h.textsAt (by simp)), zoneOf]

theorem restrictedOf_same {v w : Json} (h : SameRestricted root v w) :
    restrictedOf r v = restrictedOf r w := by
  have text : Path.normalize r (textAt v "restricted_root") =
      Path.normalize r (textAt w "restricted_root") := by
    rcases h.get? "restricted_root" with ⟨left, right⟩ | ⟨x, y, left, right, values⟩
    · rw [textAt, textAt, left, right]
    · rw [if_pos rfl] at values
      obtain ⟨s, t, rfl, rfl, same⟩ := values
      rw [textAt, textAt, left, right]
      exact leads s t same
  rw [restrictedOf, text, resolveAll_samePaths leads (h.textsAt (by simp)), restrictedOf]

theorem scopesOf_same [Host] {vs ws : List Json} (h : List.Forall₂ (SameScope root) vs ws)
    (start : Nat) : scopesOf r start vs = scopesOf r start ws := by
  induction h generalizing start with
  | nil => rfl
  | @cons v w vs ws head _ ih =>
    have name : textAt v "name" = textAt w "name" := by
      rw [textAt, head.get?_eq (by simp), textAt]
    have fileNames : textsAt v "filename_regexps" = textsAt w "filename_regexps" := by
      rw [textsAt, itemsAt, head.get?_eq (by simp), textsAt, itemsAt]
    rw [scopesOf, scopesOf, name, fileNames, ih,
      resolveAll_samePaths leads (head.textsAt (by simp))]

theorem ofShaped_same [Host] {v w : Json} (h : SameDocument root v w) : ofShaped r v = ofShaped r w := by
  have files : privateFilesOf v = privateFilesOf w := by
    rw [privateFilesOf, h.get?_eq (by simp), privateFilesOf]
  have zones : (itemsAt v "zones").map (zoneOf r) = (itemsAt w "zones").map (zoneOf r) :=
    map_eq_of_forall₂ (h.itemsAt (by simp)) fun _ _ => zoneOf_same leads
  have restricted : (itemsAt v "restricted_paths").map (restrictedOf r) =
      (itemsAt w "restricted_paths").map (restrictedOf r) :=
    map_eq_of_forall₂ (h.itemsAt (by simp)) fun _ _ => restrictedOf_same leads
  have scopes : scopesOf r 0 (itemsAt v "zone_private") = scopesOf r 0 (itemsAt w "zone_private") :=
    scopesOf_same leads (h.itemsAt (by simp)) 0
  rw [ofShaped, files, scopes, zones, restricted, ofShaped]

end

/-- Two spellings of a document of the right shape, for two spellings of a root: they give one
policy, or are refused for the same pattern. -/
theorem build_sameDocument [Host] {root root' : String} {v w : Json}
    (absolute : Path.isAbsolute root = true) (nul : Path.IsNulFree root)
    (absolute' : Path.isAbsolute root' = true) (nul' : Path.IsNulFree root')
    (roots : Path.normalize "/" root = Path.normalize "/" root')
    (shaped : IsDocument v) (shaped' : IsDocument w) (h : SameDocument root v w) :
    build root v = build root' w := by
  have address : (ofPath root).path = (ofPath root').path := by
    rwa [Path.normalize_of_isAbsolute "/" absolute nul,
      Path.normalize_of_isAbsolute "/" absolute' nul'] at roots
  have built {root : String} {v : Json} (absolute : Path.isAbsolute root = true)
      (nul : Path.IsNulFree root) (shaped : IsDocument v) :
      build root v = (ofShaped (ofPath root).path v).mapError (Failure.ofRefusal v) := by
    rw [build, ofDocument, absolute, Schema.isDocument_iff.mp shaped,
      Path.normalize_of_isAbsolute "/" absolute nul]
    rfl
  rw [built absolute nul shaped, built absolute' nul' shaped', ← address,
    ofShaped_same (fun _ _ same => same.normalize_eq absolute nul) h, mapError_ofShaped]

end Policy

end ImportBoundary
