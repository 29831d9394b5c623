import ImportBoundary.Proofs.Path.Cut
import ImportBoundary.Proofs.Policy.Paths
import Mathlib.Data.List.Forall2

/-!
# A policy as its document describes it

Building a policy keeps the zones and entries of its document in number and order. Every list of paths
becomes the list of their normal forms, each once and in the order in which they first come
(`IsResolved`). All paths of a policy are canonical exactly if every path ends well, which all paths do
that hold no U+0000 (`build_described`).
-/

namespace ImportBoundary

open Address

namespace Policy

/-! ## Definition -/

/-- The paths are the normal forms of the texts, each once, in the order in which they first come. -/
structure IsResolved (root : String) (texts paths : List String) : Prop where
  distinct : paths.Nodup
  normal : ∀ x, x ∈ paths ↔ ∃ t ∈ texts, Path.normalize root t = x
  ordered : ∀ x y, paths.idxOf x < paths.idxOf y ↔
    (texts.map (Path.normalize root)).idxOf x < (texts.map (Path.normalize root)).idxOf y

/-- The zone is what an item of a document describes. -/
structure IsZoneOf (root : String) (item : Json) (z : Zone) : Prop where
  name : z.name = textAt item "name"
  paths : IsResolved root (textsAt item "paths") z.paths
  uses : IsResolved root (textsAt item "uses") z.uses

/-- The restricted path is what an item of a document describes. -/
structure IsRestrictedOf (root : String) (item : Json) (r : RestrictedPath) : Prop where
  place : r.root = Path.normalize root (textAt item "restricted_root")
  whitelist : IsResolved root (textsAt item "whitelist") r.whitelist

/-- The private scope is what an item of a document describes. -/
structure IsScopeOf (root : String) (item : Json) (s : PrivateScope) : Prop where
  name : s.name = textAt item "name"
  sources : IsResolved root (textsAt item "src") s.sources

/-- Every path, and the root, ends well when it is normalized. -/
def AllEndWell (root : String) (v : Json) : Prop :=
  PathChars.EndsWell "/".toList root.toList ∧
    ∀ t ∈ documentPaths v, PathChars.EndsWell (Path.normalize "/" root).toList t.toList

/-! ## Lists -/

/-- Dropping others does not change which of two items comes first. -/
theorem idxOf_filter_lt {xs : List String} {keep : String → Bool} {x y : String}
    (hx : keep x = true) (hy : keep y = true) :
    (xs.filter keep).idxOf x < (xs.filter keep).idxOf y ↔ xs.idxOf x < xs.idxOf y := by
  induction xs with
  | nil => rfl
  | cons a rest ih =>
    cases kept : keep a with
    | true =>
      rw [List.filter_cons_of_pos kept]
      simp only [List.idxOf_cons]
      cases a == x <;> cases a == y <;> simp [ih]
    | false =>
      have other {z : String} (hz : keep z = true) : (a == z) = false := by
        rw [beq_eq_false_iff_ne]
        rintro rfl
        rw [kept] at hz
        cases hz
      rw [List.filter_cons_of_neg (by simp [kept]), ih]
      simp [List.idxOf_cons, other hx, other hy]

theorem length_filter_lt (a : String) (rest : List String) :
    (rest.filter fun b => !b == a).length < (a :: rest).length :=
  Nat.lt_succ_of_le (List.length_filter_le _ rest)

theorem nodup_eraseDups (xs : List String) : xs.eraseDups.Nodup := by
  cases xs with
  | nil => simp
  | cons a rest =>
    rw [List.eraseDups_cons, List.nodup_cons]
    exact ⟨by simp [List.mem_eraseDups], nodup_eraseDups _⟩
termination_by xs.length
decreasing_by exact length_filter_lt a rest

/-- Dropping repetitions does not change which of two items comes first. -/
theorem idxOf_eraseDups_lt (xs : List String) (x y : String) :
    xs.eraseDups.idxOf x < xs.eraseDups.idxOf y ↔ xs.idxOf x < xs.idxOf y := by
  cases xs with
  | nil => simp
  | cons a rest =>
    rw [List.eraseDups_cons]
    simp only [List.idxOf_cons]
    cases hx : a == x with
    | true => cases a == y <;> simp
    | false =>
      cases hy : a == y with
      | true => simp
      | false =>
        have kept {z : String} (hz : (a == z) = false) : (!z == a) = true := by
          simpa using Ne.symm (beq_eq_false_iff_ne.mp hz)
        have first := idxOf_eraseDups_lt (rest.filter fun b => !b == a) x y
        rw [idxOf_filter_lt (kept hx) (kept hy)] at first
        simpa using first
termination_by xs.length
decreasing_by exact length_filter_lt a rest

theorem isResolved_resolveAll (root : String) (texts : List String) :
    IsResolved root texts (resolveAll root texts) where
  distinct := nodup_eraseDups _
  normal x := by rw [resolveAll, List.mem_eraseDups, List.mem_map]
  ordered := idxOf_eraseDups_lt _

/-! ## Built policies -/

variable {root : String} {v : Json} {p : Policy}

/-- The policy of a document of the right shape has its zones and entries. -/
theorem ofShaped_eq_ok [Host] {r : String} (shaped : ofShaped r v = .ok p) :
    p.root = r ∧ p.zones = (itemsAt v "zones").map (zoneOf r) ∧
      p.restrictedPaths = (itemsAt v "restricted_paths").map (restrictedOf r) ∧
      ∃ scopes : List (Json × List Regex.Pattern), scopes.map Prod.fst = itemsAt v "zone_private" ∧
        p.privateScopes = scopes.map fun s => scopeOf r s.1 s.2 := by
  unfold ofShaped at shaped
  cases files : privateFilesOf v with
  | error refusal =>
    rw [files] at shaped
    cases shaped
  | ok privateFiles =>
    simp only [files, scopesOf_eq] at shaped
    cases read : readScopes 0 (itemsAt v "zone_private") with
    | error refusal =>
      rw [read] at shaped
      cases shaped
    | ok scopes =>
      rw [read] at shaped
      cases shaped
      exact ⟨rfl, rfl, rfl, scopes, fst_mem_of_readScopes read, rfl⟩

theorem shaped_of_build [Host] (built : build root v = .ok p) :
    Path.isAbsolute root = true ∧ ofShaped (Path.normalize "/" root) v = .ok p := by
  unfold build ofDocument at built
  cases absolute : Path.isAbsolute root with
  | false =>
    rw [absolute] at built
    cases built
  | true =>
    rw [absolute] at built
    cases fault : Schema.fault? v with
    | some fault' =>
      rw [fault] at built
      cases built
    | none =>
      rw [fault] at built
      cases shaped : ofShaped (Path.normalize "/" root) v with
      | error refusal =>
        simp [shaped, Except.mapError] at built
      | ok q =>
        simp only [shaped, Except.mapError, Bool.not_true, Bool.false_eq_true, if_false,
          Except.ok.injEq] at built
        rw [built]
        exact ⟨rfl, rfl⟩

theorem forall_mem_resolveAll {P : String → Prop} {texts : List String} :
    (∀ x ∈ resolveAll root texts, P x) ↔ ∀ t ∈ texts, P (Path.normalize root t) := by
  simp only [resolveAll, List.mem_eraseDups, List.forall_mem_map]

/-- The paths of a policy are its root and the normal forms of the paths of its document. -/
theorem forall_mem_paths [Host] (built : build root v = .ok p) {P : String → Prop} :
    (∀ x ∈ p.paths, P x) ↔ P p.root ∧ ∀ t ∈ documentPaths v, P (Path.normalize p.root t) := by
  obtain ⟨-, shaped⟩ := shaped_of_build built
  obtain ⟨place, zones, restricted, scopes, items, privates⟩ := ofShaped_eq_ok shaped
  rw [← place] at zones restricted privates
  rw [documentPaths, ← items]
  simp only [paths, zones, restricted, privates, List.forall_mem_append, List.forall_mem_cons,
    List.forall_mem_flatMap, List.forall_mem_map, zoneOf, restrictedOf, scopeOf,
    forall_mem_resolveAll, and_assoc]

theorem forall₂_map_self {α β : Type} {R : α → β → Prop} {f : α → β} {items : List α}
    (h : ∀ a, R a (f a)) : List.Forall₂ R items (items.map f) := by
  rw [List.forall₂_map_right_iff, List.forall₂_same]
  exact fun a _ => h a

/-- A policy that is built is what its document describes, item by item. Its paths are all canonical
exactly if every one of them ends well, which they do where no text holds U+0000. -/
theorem build_described [Host] (built : build root v = .ok p) :
    p.root = Path.normalize "/" root ∧
      List.Forall₂ (IsZoneOf p.root) (itemsAt v "zones") p.zones ∧
      List.Forall₂ (IsRestrictedOf p.root) (itemsAt v "restricted_paths") p.restrictedPaths ∧
      List.Forall₂ (IsScopeOf p.root) (itemsAt v "zone_private") p.privateScopes ∧
      ((∀ x ∈ p.paths, Address.IsCanonical x) ↔ AllEndWell root v) ∧
      (Path.IsNulFree root → (∀ t ∈ documentPaths v, Path.IsNulFree t) → AllEndWell root v) := by
  obtain ⟨absolute, shaped⟩ := shaped_of_build built
  obtain ⟨place, zones, restricted, scopes, items, privates⟩ := ofShaped_eq_ok shaped
  have top : Path.isAbsolute "/" = true := by decide
  have placed : Path.isAbsolute (Path.normalize "/" root) = true := Path.isAbsolute_normalize top root
  refine ⟨place, ?_, ?_, ?_, ?_, fun rootNul nul => ⟨?_, fun t ht => ?_⟩⟩
  · rw [zones, place]
    exact forall₂_map_self fun item =>
      ⟨rfl, isResolved_resolveAll _ _, isResolved_resolveAll _ _⟩
  · rw [restricted, place]
    exact forall₂_map_self fun item => ⟨rfl, isResolved_resolveAll _ _⟩
  · rw [privates, place, ← items, List.forall₂_map_left_iff]
    exact forall₂_map_self fun s => ⟨rfl, isResolved_resolveAll _ _⟩
  · rw [forall_mem_paths built, place, Path.isCanonical_normalize_iff top, AllEndWell]
    simp only [Path.isCanonical_normalize_iff placed]
  · exact Path.endsWell_of_nulFree top (by decide) rootNul
  · exact Path.endsWell_of_nulFree placed (Path.isNulFree_normalize _ _) (nul t ht)

/-- A document with a zone of some paths. -/
def documentOfZone (texts : List String) : Json :=
  .obj [("zones", .arr [.obj [("name", .str "z"), ("paths", .arr (texts.map .str))]])]

/-- Two spellings of one path, a backslash and a drive. -/
theorem build_described_spellings :
    let document := documentOfZone ["a", "x/..//a/.", "b\\c", "C:\\..\\d"]
    ∃ p, build "/r" document = .ok p ∧
      p.zones.map Zone.paths = [["/r/a", "/r/b/c", "C:/d"]] ∧ ∀ x ∈ p.paths, Address.IsCanonical x := by
  intro document
  have zones : (build "/r" document).toOption.map (fun p => p.zones.map Zone.paths) =
      some [["/r/a", "/r/b/c", "C:/d"]] := by
    rfl
  cases built : build "/r" document with
  | error failure =>
    rw [built] at zones
    cases zones
  | ok p =>
    rw [built] at zones
    obtain ⟨-, -, -, -, canonical, endsWell⟩ := build_described built
    exact ⟨p, rfl, Option.some.inj zones, canonical.mpr (endsWell (by decide) (by decide))⟩

/-- A path of one character that is cut off. What is left of it ends in a slash. -/
theorem build_cut :
    ∃ p, build "/r" (documentOfZone ["\x00"]) = .ok p ∧ "/r/" ∈ p.paths ∧ ¬ Address.IsCanonical "/r/" := by
  have zones : (build "/r" (documentOfZone ["\x00"])).toOption.map (fun p => p.zones.map Zone.paths) =
      some [["/r/"]] := by
    rfl
  cases built : build "/r" (documentOfZone ["\x00"]) with
  | error failure =>
    rw [built] at zones
    cases zones
  | ok p =>
    rw [built] at zones
    have only : p.zones.map Zone.paths = [["/r/"]] := Option.some.inj zones
    have zone : ["/r/"] ∈ p.zones.map Zone.paths := only ▸ List.mem_singleton_self _
    obtain ⟨z, hz, paths⟩ := List.mem_map.mp zone
    refine ⟨p, rfl, ?_, by rw [Address.IsCanonical]; decide⟩
    simp only [Policy.paths, List.mem_append, List.mem_cons, List.mem_flatMap]
    exact .inl (.inl (.inr ⟨z, hz, .inl (paths ▸ List.mem_singleton_self _)⟩))

end Policy

end ImportBoundary
