import ImportBoundary.Loading
import ImportBoundary.Proofs.Path.Canonical

/-!
# The paths of a policy

What building a policy does with the paths of its document: each is resolved from the root, and
lists keep the first of equal paths. So a built policy is known from its document, the address of
its root and its patterns, which do not depend on the root (`build_eq_ok`), and all its paths are
canonical (`isCanonical_of_mem_paths`).
-/

namespace ImportBoundary

open Address

namespace Policy

/-- The paths that are read from a document. -/
def documentPaths (v : Json) : List String :=
  (itemsAt v "zones").flatMap (fun zone => textsAt zone "paths" ++ textsAt zone "uses") ++
  (itemsAt v "restricted_paths").flatMap
    (fun entry => textAt entry "restricted_root" :: textsAt entry "whitelist") ++
  (itemsAt v "zone_private").flatMap fun scope => textsAt scope "src"

/-- The paths of a policy. -/
def paths (p : Policy) : List String :=
  p.root :: (p.zones.flatMap fun z => z.paths ++ z.uses) ++
    (p.restrictedPaths.flatMap fun r => r.root :: r.whitelist) ++
    p.privateScopes.flatMap fun s => s.sources

/-- A private scope of a document with the patterns that have been read for it. -/
def scopeOf (root : String) (v : Json) (fileNames : List Regex.Pattern) : PrivateScope :=
  { name := textAt v "name"
    sources := resolveAll root (textsAt v "src")
    fileNames }

/-- The policy of a document, its patterns and the address of its root. -/
def placed (a : Address) (v : Json) (privateFiles : List Regex.Pattern)
    (scopes : List (Json × List Regex.Pattern)) : Policy :=
  { root := a.path
    zones := (itemsAt v "zones").map (zoneOf a.path)
    restrictedPaths := (itemsAt v "restricted_paths").map (restrictedOf a.path)
    privateFiles
    privateScopes := scopes.map fun s => scopeOf a.path s.1 s.2 }

theorem mem_resolveAll {a : Address} {ts : List String} (nul : ∀ t ∈ ts, Path.IsNulFree t)
    {x : String} (h : x ∈ resolveAll a.path ts) : ∃ t ∈ ts, x = (a.resolve t.toList).path := by
  obtain ⟨t, ht, rfl⟩ := List.mem_map.mp (List.mem_eraseDups.mp h)
  exact ⟨t, ht, Path.normalize_path a (nul t ht)⟩

theorem mem_documentPaths {v : Json} {t : String} :
    t ∈ documentPaths v ↔
      (∃ zone ∈ itemsAt v "zones", t ∈ textsAt zone "paths" ∨ t ∈ textsAt zone "uses") ∨
      (∃ entry ∈ itemsAt v "restricted_paths",
        t = textAt entry "restricted_root" ∨ t ∈ textsAt entry "whitelist") ∨
      ∃ scope ∈ itemsAt v "zone_private", t ∈ textsAt scope "src" := by
  simp only [documentPaths, List.mem_append, List.mem_flatMap, List.mem_cons, or_assoc]

section

variable [Host]

/-- The private scopes of a document and their patterns, from position `start` on. -/
def readScopes (start : Nat) : List Json → Except Refusal (List (Json × List Regex.Pattern))
  | [] => .ok []
  | v :: rest =>
    match readPatterns (.scope start) 0 (textsAt v "filename_regexps") with
    | .error refusal => .error refusal
    | .ok fileNames => (readScopes (start + 1) rest).map ((v, fileNames) :: ·)

theorem scopesOf_eq (root : String) (start : Nat) (vs : List Json) :
    scopesOf root start vs =
      (readScopes start vs).map fun scopes => scopes.map fun s => scopeOf root s.1 s.2 := by
  induction vs generalizing start with
  | nil => rfl
  | cons v vs ih =>
    unfold scopesOf readScopes
    cases readPatterns (.scope start) 0 (textsAt v "filename_regexps") with
    | error refusal => rfl
    | ok fileNames =>
      simp only [ih]
      cases readScopes (start + 1) vs <;> rfl

theorem fst_mem_of_readScopes {start : Nat} {vs : List Json}
    {scopes : List (Json × List Regex.Pattern)} (h : readScopes start vs = .ok scopes) :
    scopes.map Prod.fst = vs := by
  induction vs generalizing start scopes with
  | nil =>
    cases h
    rfl
  | cons v vs ih =>
    unfold readScopes at h
    cases hp : readPatterns (.scope start) 0 (textsAt v "filename_regexps") with
    | error refusal => simp [hp] at h
    | ok fileNames =>
      cases hs : readScopes (start + 1) vs with
      | error refusal => simp [hp, hs, Except.map] at h
      | ok rest =>
        simp only [hp, hs, Except.map, Except.ok.injEq] at h
        rw [← h, List.map_cons, ih hs]

theorem ofShaped_eq (a : Address) (v : Json) :
    ofShaped a.path v =
      (privateFilesOf v).bind fun privateFiles =>
        (readScopes 0 (itemsAt v "zone_private")).map fun scopes =>
          placed a v privateFiles scopes := by
  unfold ofShaped
  cases privateFilesOf v with
  | error refusal => rfl
  | ok privateFiles =>
    simp only [scopesOf_eq, Except.bind]
    cases readScopes 0 (itemsAt v "zone_private") <;> rfl

/-- The patterns of a document, for private files and for each private scope, if it has the right
shape and they can be read. The root has no part in this. -/
def patternsOf (v : Json) :
    Except Refusal (List Regex.Pattern × List (Json × List Regex.Pattern)) :=
  match Schema.fault? v with
  | some fault => .error (.misshapen fault)
  | none =>
    (privateFilesOf v).bind fun privateFiles =>
      (readScopes 0 (itemsAt v "zone_private")).map fun scopes => (privateFiles, scopes)

/-- Under an absolute root, a policy is built if the patterns of its document are there. -/
theorem build_eq {root : String} (absolute : Path.isAbsolute root = true)
    (nul : Path.IsNulFree root) (v : Json) :
    build root v =
      match patternsOf v with
      | .error refusal => .error (.ofRefusal v refusal)
      | .ok (privateFiles, scopes) => .ok (placed (ofPath root) v privateFiles scopes) := by
  unfold build ofDocument patternsOf
  rw [absolute]
  cases Schema.fault? v with
  | some fault => rfl
  | none =>
    simp only [Bool.not_true, Bool.false_eq_true, if_false]
    rw [Path.normalize_of_isAbsolute "/" absolute nul, ofShaped_eq]
    cases privateFilesOf v with
    | error refusal => rfl
    | ok privateFiles => cases readScopes 0 (itemsAt v "zone_private") <;> rfl

theorem patternsOf_eq_ok {v : Json} {privateFiles : List Regex.Pattern}
    {scopes : List (Json × List Regex.Pattern)} :
    patternsOf v = .ok (privateFiles, scopes) ↔
      Schema.fault? v = none ∧ privateFilesOf v = .ok privateFiles ∧
        readScopes 0 (itemsAt v "zone_private") = .ok scopes := by
  unfold patternsOf
  cases Schema.fault? v with
  | some fault => simp
  | none =>
    cases privateFilesOf v with
    | error refusal => simp [Except.bind]
    | ok files =>
      cases readScopes 0 (itemsAt v "zone_private") with
      | error refusal => simp [Except.bind, Except.map]
      | ok read => simp [Except.bind, Except.map]

/-- A policy is built from a well-shaped document whose patterns can be read. -/
theorem build_eq_ok {root : String} {v : Json} {p : Policy} (rootNul : Path.IsNulFree root) :
    build root v = .ok p ↔
      Path.isAbsolute root = true ∧ ∃ privateFiles scopes,
        patternsOf v = .ok (privateFiles, scopes) ∧
          p = placed (ofPath root) v privateFiles scopes := by
  cases absolute : Path.isAbsolute root with
  | false =>
    have relative : build root v = .error (.configuration (.relativeRoot root)) := by
      simp only [build, ofDocument, absolute, Bool.not_false, if_true]
      rfl
    simp [relative]
  | true =>
    rw [build_eq absolute rootNul]
    cases patternsOf v with
    | error refusal => simp
    | ok patterns => simp [Prod.ext_iff, eq_comm]

/-- Every path of a built policy is canonical. -/
theorem isCanonical_of_mem_paths {root : String} {v : Json} {p : Policy}
    (built : Policy.build root v = .ok p) (rootNul : Path.IsNulFree root)
    (nul : ∀ t ∈ documentPaths v, Path.IsNulFree t) {x : String} (h : x ∈ p.paths) :
    IsCanonical x := by
  obtain ⟨-, privateFiles, scopes, patterns, rfl⟩ := (build_eq_ok rootNul).mp built
  obtain ⟨-, -, read⟩ := patternsOf_eq_ok.mp patterns
  have list {ts : List String} (sub : ∀ t ∈ ts, t ∈ documentPaths v) {x : String}
      (hx : x ∈ resolveAll (ofPath root).path ts) : IsCanonical x := by
    obtain ⟨t, -, rfl⟩ := mem_resolveAll (fun t ht => nul t (sub t ht)) hx
    exact isCanonical_path _
  simp only [paths, placed, List.mem_append, List.mem_cons, List.mem_flatMap, List.mem_map] at h
  rcases h with ((rfl | ⟨_, ⟨zone, hz, rfl⟩, h | h⟩) | ⟨_, ⟨entry, he, rfl⟩, h | h⟩) |
    ⟨_, ⟨scope, hs, rfl⟩, h⟩
  · exact isCanonical_path _
  · exact list (fun t ht => mem_documentPaths.mpr (.inl ⟨zone, hz, .inl ht⟩)) h
  · exact list (fun t ht => mem_documentPaths.mpr (.inl ⟨zone, hz, .inr ht⟩)) h
  · have restricted := nul _ (mem_documentPaths.mpr (.inr (.inl ⟨entry, he, .inl rfl⟩)))
    rw [h, restrictedOf, Path.normalize_path _ restricted]
    exact isCanonical_path _
  · exact list (fun t ht => mem_documentPaths.mpr (.inr (.inl ⟨entry, he, .inr ht⟩))) h
  · have inDocument : scope.1 ∈ itemsAt v "zone_private" :=
      fst_mem_of_readScopes read ▸ List.mem_map_of_mem hs
    exact list (fun t ht => mem_documentPaths.mpr (.inr (.inr ⟨scope.1, inDocument, ht⟩))) h

end

end Policy

end ImportBoundary
