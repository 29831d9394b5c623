import ImportBoundary.Loading

/-!
# Which documents are policies

The shape of a policy document, written down without the shapes that the documents are checked
against (`IsDocument`), and the patterns in it with their places, in the order in which they are
read (`patternPlaces`). A document without faults is one of the right shape (`isDocument_iff`),
and a document of the right shape is refused for the first of its patterns that cannot be read, if
there is one (`refusal?_ofShaped`).

At the end stands when a policy is built, what is told otherwise, and in which order, whoever reads the
patterns (`build_outcome`). Two kinds of refusal are no mistake that the writer is told of: a pattern that
fails in another way than by a fault, such as by a repetition count that is too large, and a fault of the
shape where there is no room to write out the values in the document.
-/

namespace ImportBoundary

namespace Policy

/-! ## The shape of a document -/

/-- A string that is not empty. -/
def IsText (v : Json) : Prop :=
  ∃ s, v = .str s ∧ s ≠ ""

/-- A list whose items are all of a kind. -/
def IsListOf (kind : Json → Prop) (v : Json) : Prop :=
  ∃ items, v = .arr items ∧ ∀ item ∈ items, kind item

/-- An object with no other names than these. -/
def HasOnly (names : List String) (v : Json) : Prop :=
  ∃ fields, v = .obj fields ∧ ∀ f ∈ fields, f.1 ∈ names

/-- The name is there, with a value of a kind. -/
def Requires (name : String) (kind : Json → Prop) (v : Json) : Prop :=
  ∃ x, v.get? name = some x ∧ kind x

/-- If the name is there, it has a value of a kind. -/
def Permits (name : String) (kind : Json → Prop) (v : Json) : Prop :=
  ∀ x, v.get? name = some x → kind x

/-- A zone of a document. -/
structure IsZone (v : Json) : Prop where
  only : HasOnly ["name", "paths", "uses"] v
  name : Requires "name" IsText v
  paths : Requires "paths" (IsListOf IsText) v
  uses : Permits "uses" (IsListOf IsText) v

/-- An entry on a restricted path. -/
structure IsRestricted (v : Json) : Prop where
  only : HasOnly ["restricted_root", "whitelist"] v
  root : Requires "restricted_root" IsText v
  whitelist : Permits "whitelist" (IsListOf IsText) v

/-- The section on private files. -/
structure IsPrivateFiles (v : Json) : Prop where
  only : HasOnly ["regexes"] v
  regexes : Requires "regexes" (IsListOf IsText) v

/-- A private scope of a document. -/
structure IsScope (v : Json) : Prop where
  only : HasOnly ["name", "src", "filename_regexps"] v
  name : Requires "name" IsText v
  sources : Requires "src" (IsListOf IsText) v
  fileNames : Requires "filename_regexps" (IsListOf IsText) v

/-- A policy document. -/
structure IsDocument (v : Json) : Prop where
  only : HasOnly ["zones", "restricted_paths", "private_files", "zone_private"] v
  zones : Permits "zones" (IsListOf IsZone) v
  restrictedPaths : Permits "restricted_paths" (IsListOf IsRestricted) v
  privateFiles : Permits "private_files" IsPrivateFiles v
  privateScopes : Permits "zone_private" (IsListOf IsScope) v

end Policy

namespace Schema

open Policy

/-- The value has no faults. -/
def Fits (shape : Shape) (v : Json) : Prop :=
  shape.faults v = []

theorem fits_named {name : String} {shape : Shape} {v : Json} :
    Fits (.named name shape) v ↔ Fits shape v := by
  rw [Fits, Shape.faults, Fits]

theorem fits_text {v : Json} : Fits .text v ↔ IsText v := by
  cases v with
  | str s => simp [Fits, Shape.faults, IsText]
  | _ => simp [Fits, Shape.faults, IsText]

theorem itemFaults_eq_nil {check : Json → List Fault} {start : Nat} {items : List Json} :
    itemFaults check start items = [] ↔ ∀ item ∈ items, check item = [] := by
  induction items generalizing start with
  | nil => simp [itemFaults]
  | cons item items ih => simp [itemFaults, ih]

theorem fits_list {item : Shape} {v : Json} :
    Fits (.list item) v ↔ IsListOf (Fits item) v := by
  cases v with
  | arr items => simp [Fits, Shape.faults, IsListOf, itemFaults_eq_nil]
  | _ => simp [Fits, Shape.faults, IsListOf]

theorem nameFaults_eq_nil {required known : List String} {fields : List (String × Json)} :
    nameFaults required known fields = [] ↔
      (∀ f ∈ fields, f.1 ∈ known) ∧ ∀ name ∈ required, (fields.lookup name).isSome = true := by
  have extra : ((fields.map (·.1)).filter fun name => !known.contains name) = [] ↔
      ∀ f ∈ fields, f.1 ∈ known := by
    simp [List.filter_eq_nil_iff]
  have lacking : (required.filter fun name => (fields.lookup name).isNone) = [] ↔
      ∀ name ∈ required, (fields.lookup name).isSome = true := by
    simp [List.filter_eq_nil_iff, Option.isSome_iff_ne_none]
  rw [← extra, ← lacking, nameFaults]
  cases (fields.map (·.1)).filter fun name => !known.contains name <;> simp

theorem fieldFaults_eq_nil {known : List (String × Shape)} {fields : List (String × Json)} :
    fieldFaults known fields = [] ↔
      ∀ k ∈ known, ∀ x, fields.lookup k.1 = some x → Fits k.2 x := by
  induction known with
  | nil => simp [fieldFaults]
  | cons k known ih =>
    obtain ⟨name, shape⟩ := k
    cases h : fields.lookup name <;> simp [fieldFaults, ih, h, Fits]

theorem fits_record {required : List String} {known : List (String × Shape)} {v : Json} :
    Fits (.record required known) v ↔
      HasOnly (known.map (·.1)) v ∧ (∀ name ∈ required, (v.get? name).isSome = true) ∧
        ∀ k ∈ known, Permits k.1 (Fits k.2) v := by
  cases v with
  | obj fields =>
    simp only [Fits, Shape.faults, List.append_eq_nil_iff, nameFaults_eq_nil, fieldFaults_eq_nil,
      HasOnly, Json.get?, Permits, Json.obj.injEq, exists_eq_left', and_assoc]
  | _ => simp [Fits, Shape.faults, HasOnly]

/-- A name that is required and of a known shape. -/
theorem requires_iff {name : String} {kind : Json → Prop} {v : Json} :
    Requires name kind v ↔ (v.get? name).isSome = true ∧ Permits name kind v := by
  cases h : v.get? name <;> simp [Requires, Permits, h]

theorem worst?_eq_none {faults : List Fault} : worst? faults = none ↔ faults = [] := by
  cases faults <;> simp [worst?]

theorem fits_pathList {v : Json} : Fits pathList v ↔ IsListOf IsText v := by
  simp only [pathList, fits_named, fits_list, IsListOf, fits_text]

theorem fits_regexList {v : Json} : Fits regexList v ↔ IsListOf IsText v := by
  simp only [regexList, fits_named, fits_list, IsListOf, fits_text]

theorem fits_zone {v : Json} : Fits zoneShape v ↔ IsZone v := by
  simp only [zoneShape, fits_record, List.map_cons, List.map_nil, List.forall_mem_cons,
    List.not_mem_nil, false_implies, implies_true, and_true, Permits, fits_text, fits_pathList]
  constructor
  · rintro ⟨only, ⟨name, paths⟩, names, lists, uses⟩
    exact ⟨only, requires_iff.mpr ⟨name, names⟩, requires_iff.mpr ⟨paths, lists⟩, uses⟩
  · rintro ⟨only, name, paths, uses⟩
    obtain ⟨name, names⟩ := requires_iff.mp name
    obtain ⟨paths, lists⟩ := requires_iff.mp paths
    exact ⟨only, ⟨name, paths⟩, names, lists, uses⟩

theorem fits_restricted {v : Json} : Fits restrictedShape v ↔ IsRestricted v := by
  simp only [restrictedShape, fits_record, List.map_cons, List.map_nil, List.forall_mem_cons,
    List.not_mem_nil, false_implies, implies_true, and_true, Permits, fits_text, fits_pathList]
  constructor
  · rintro ⟨only, root, roots, whitelist⟩
    exact ⟨only, requires_iff.mpr ⟨root, roots⟩, whitelist⟩
  · rintro ⟨only, root, whitelist⟩
    obtain ⟨root, roots⟩ := requires_iff.mp root
    exact ⟨only, root, roots, whitelist⟩

theorem fits_privateFiles {v : Json} : Fits privateFilesShape v ↔ IsPrivateFiles v := by
  simp only [privateFilesShape, fits_record, List.map_cons, List.map_nil, List.forall_mem_cons,
    List.not_mem_nil, false_implies, implies_true, and_true, Permits, fits_regexList]
  constructor
  · rintro ⟨only, regexes, lists⟩
    exact ⟨only, requires_iff.mpr ⟨regexes, lists⟩⟩
  · rintro ⟨only, regexes⟩
    obtain ⟨regexes, lists⟩ := requires_iff.mp regexes
    exact ⟨only, regexes, lists⟩

theorem fits_scope {v : Json} : Fits scopeShape v ↔ IsScope v := by
  simp only [scopeShape, fits_record, List.map_cons, List.map_nil, List.forall_mem_cons,
    List.not_mem_nil, false_implies, implies_true, and_true, Permits, fits_text, fits_pathList,
    fits_regexList]
  constructor
  · rintro ⟨only, ⟨name, src, regexes⟩, names, sources, fileNames⟩
    exact ⟨only, requires_iff.mpr ⟨name, names⟩, requires_iff.mpr ⟨src, sources⟩,
      requires_iff.mpr ⟨regexes, fileNames⟩⟩
  · rintro ⟨only, name, src, regexes⟩
    obtain ⟨name, names⟩ := requires_iff.mp name
    obtain ⟨src, sources⟩ := requires_iff.mp src
    obtain ⟨regexes, fileNames⟩ := requires_iff.mp regexes
    exact ⟨only, ⟨name, src, regexes⟩, names, sources, fileNames⟩

/-- The documents that have no fault to report are those of the right shape. -/
theorem isDocument_iff {v : Json} : IsDocument v ↔ fault? v = none := by
  have fits : fault? v = none ↔ Fits policyShape v := worst?_eq_none
  rw [fits]
  simp only [policyShape, fits_record, List.map_cons, List.map_nil, List.forall_mem_cons,
    List.not_mem_nil, false_implies, implies_true, and_true, true_and, Permits, fits_list, IsListOf,
    fits_zone, fits_restricted, fits_privateFiles, fits_scope]
  constructor
  · rintro ⟨only, zones, restricted, files, scopes⟩
    exact ⟨only, zones, restricted, files, scopes⟩
  · rintro ⟨only, zones, restricted, files, scopes⟩
    exact ⟨only, zones, restricted, files, scopes⟩

end Schema

/-! ## The patterns of a document -/

namespace Policy

/-- A pattern of a document and where it stands. -/
structure PatternPlace where
  list : PatternList
  index : Nat
  source : String

namespace PatternPlace

/-- The place as messages give it. -/
def label (place : PatternPlace) : String :=
  s!"{place.list.label}[{place.index}]"

section

variable [Host]

/-- The pattern can be read. -/
def IsReadable (place : PatternPlace) : Prop :=
  ∃ pattern, Host.pattern place.source = .ok pattern

/-- Why the pattern cannot be read. -/
def cause? (place : PatternPlace) : Option Regex.Refusal :=
  match Host.pattern place.source with
  | .ok _ => none
  | .error cause => some cause

/-- Why no policy is built, if the pattern cannot be read. -/
def refusal? (place : PatternPlace) : Option Refusal :=
  place.cause?.map (.badPattern place.list place.index place.source)

end

end PatternPlace

/-- The places of the patterns of a list, from position `start` on. -/
def placesOf (list : PatternList) (start : Nat) : List String → List PatternPlace
  | [] => []
  | source :: rest => ⟨list, start, source⟩ :: placesOf list (start + 1) rest

/-- The places of the patterns of private scopes, from position `start` on. -/
def scopePlaces (start : Nat) : List Json → List PatternPlace
  | [] => []
  | v :: rest => placesOf (.scope start) 0 (textsAt v "filename_regexps") ++
      scopePlaces (start + 1) rest

/-- The patterns of a document in the order in which they are read: those for private files, then
those of one private scope after the other. -/
def patternPlaces (v : Json) : List PatternPlace :=
  placesOf .privateFiles 0 (textsAt ((v.get? "private_files").getD .null) "regexes") ++
    scopePlaces 0 (itemsAt v "zone_private")

/-- What went wrong, if anything did. -/
def errorOf {α : Type} : Except Refusal α → Option Refusal
  | .ok _ => none
  | .error refusal => some refusal

theorem errorOf_map {α β : Type} (f : α → β) (r : Except Refusal α) :
    errorOf (r.map f) = errorOf r := by
  cases r <;> rfl

section

variable [Host]

/-- The pattern at a place is the first that cannot be read. -/
def FirstRefused (v : Json) (place : PatternPlace) (cause : Regex.Refusal) : Prop :=
  ∃ before after, patternPlaces v = before ++ place :: after ∧ (∀ q ∈ before, q.IsReadable) ∧
    Host.pattern place.source = .error cause

theorem refusal?_readPatterns (list : PatternList) (start : Nat) (sources : List String) :
    errorOf (readPatterns list start sources) =
      (placesOf list start sources).findSome? PatternPlace.refusal? := by
  induction sources generalizing start with
  | nil => rfl
  | cons source rest ih =>
    rw [readPatterns, placesOf, List.findSome?_cons, PatternPlace.refusal?, PatternPlace.cause?]
    cases (Host.pattern source : Except Regex.Refusal Regex.Pattern) with
    | error cause => rfl
    | ok pattern => exact (errorOf_map _ _).trans (ih (start + 1))

theorem refusal?_scopesOf (root : String) (start : Nat) (scopes : List Json) :
    errorOf (scopesOf root start scopes) =
      (scopePlaces start scopes).findSome? PatternPlace.refusal? := by
  induction scopes generalizing start with
  | nil => rfl
  | cons v rest ih =>
    have head := refusal?_readPatterns (.scope start) 0 (textsAt v "filename_regexps")
    rw [scopesOf, scopePlaces, List.findSome?_append, ← head]
    cases readPatterns (.scope start) 0 (textsAt v "filename_regexps") with
    | error refusal => rfl
    | ok fileNames => exact (errorOf_map _ _).trans (ih (start + 1))

/-- A document of the right shape is refused for the first pattern that cannot be read. -/
theorem refusal?_ofShaped (root : String) (v : Json) :
    errorOf (ofShaped root v) = (patternPlaces v).findSome? PatternPlace.refusal? := by
  have files := refusal?_readPatterns .privateFiles 0
    (textsAt ((v.get? "private_files").getD .null) "regexes")
  rw [ofShaped, privateFilesOf, patternPlaces, List.findSome?_append, ← files]
  cases readPatterns .privateFiles 0 (textsAt ((v.get? "private_files").getD .null) "regexes") with
  | error refusal => rfl
  | ok privateFiles => exact (errorOf_map _ _).trans (refusal?_scopesOf root 0 _)

theorem refusal?_eq_none {place : PatternPlace} : place.refusal? = none ↔ place.IsReadable := by
  rw [PatternPlace.refusal?, PatternPlace.cause?, PatternPlace.IsReadable]
  cases Host.pattern place.source <;> simp

theorem refusal?_eq_some {place : PatternPlace} {refusal : Refusal} :
    place.refusal? = some refusal ↔ ∃ cause, Host.pattern place.source = .error cause ∧
      refusal = .badPattern place.list place.index place.source cause := by
  rw [PatternPlace.refusal?, PatternPlace.cause?]
  cases Host.pattern place.source <;> simp [eq_comm]

theorem findSome?_eq_some_iff_firstRefused {v : Json} {refusal : Refusal} :
    (patternPlaces v).findSome? PatternPlace.refusal? = some refusal ↔
      ∃ place cause, FirstRefused v place cause ∧
        refusal = .badPattern place.list place.index place.source cause := by
  rw [List.findSome?_eq_some_iff]
  constructor
  · rintro ⟨before, place, after, split, found, none⟩
    obtain ⟨cause, failed, rfl⟩ := refusal?_eq_some.mp found
    exact ⟨place, cause, ⟨before, after, split, fun q hq => refusal?_eq_none.mp (none q hq),
      failed⟩, rfl⟩
  · rintro ⟨place, cause, ⟨before, after, split, readable, failed⟩, rfl⟩
    exact ⟨before, place, after, split, refusal?_eq_some.mpr ⟨cause, failed, rfl⟩,
      fun q hq => refusal?_eq_none.mpr (readable q hq)⟩

/-- There is at most one first pattern that cannot be read, and it fails in one way. -/
theorem FirstRefused.unique {v : Json} {place place' : PatternPlace} {cause cause' : Regex.Refusal}
    (h : FirstRefused v place cause) (h' : FirstRefused v place' cause') :
    place = place' ∧ cause = cause' := by
  have found := findSome?_eq_some_iff_firstRefused.mpr ⟨place, cause, h, rfl⟩
  have found' := findSome?_eq_some_iff_firstRefused.mpr ⟨place', cause', h', rfl⟩
  have same := Option.some.inj (found.symm.trans found')
  obtain ⟨list, index, source⟩ := place
  obtain ⟨list', index', source'⟩ := place'
  simp only [Refusal.badPattern.injEq] at same
  obtain ⟨rfl, rfl, rfl, rfl⟩ := same
  exact ⟨rfl, rfl⟩

/-- No first pattern is refused where all can be read. -/
theorem FirstRefused.not_readable {v : Json} {place : PatternPlace} {cause : Regex.Refusal}
    (h : FirstRefused v place cause) : ¬ ∀ q ∈ patternPlaces v, q.IsReadable := by
  intro readable
  obtain ⟨before, after, split, -, failed⟩ := h
  obtain ⟨pattern, read⟩ := readable place (by simp [split])
  rw [failed] at read
  cases read

/-! ## The outcome -/

/-- What is told of a pattern that cannot be read does not depend on the document around it. -/
theorem mapError_ofShaped (root : String) (v document document' : Json) :
    (ofShaped root v).mapError (Failure.ofRefusal document) =
      (ofShaped root v).mapError (Failure.ofRefusal document') := by
  have patterns := refusal?_ofShaped root v
  cases read : ofShaped root v with
  | ok policy => rfl
  | error refusal =>
    rw [read, errorOf, eq_comm] at patterns
    obtain ⟨place, cause, first, rfl⟩ := findSome?_eq_some_iff_firstRefused.mp patterns
    cases cause <;> rfl

theorem build_relative {root : String} (v : Json) (h : Path.isAbsolute root = false) :
    build root v = .error (.configuration (.relativeRoot root)) := by
  simp only [build, ofDocument, h, Bool.not_false, if_true]
  rfl

/-- A document with a fault is refused before its patterns are read. -/
theorem build_of_fault {root : String} {v : Json} {fault : Schema.Fault}
    (h : Path.isAbsolute root = true) (found : Schema.fault? v = some fault) :
    build root v = .error
      (if Host.shows v then .configuration (.misshapen fault) else .exhausted) := by
  simp only [build, ofDocument, h, found, Bool.not_true, Bool.false_eq_true, if_false]
  rfl

theorem build_misshapen {root : String} {v : Json} (h : Path.isAbsolute root = true)
    (shape : ¬ IsDocument v) : ∃ fault, build root v = .error
      (if Host.shows v then .configuration (.misshapen fault) else .exhausted) := by
  cases found : Schema.fault? v with
  | none => exact absurd (Schema.isDocument_iff.mpr found) shape
  | some fault => exact ⟨fault, build_of_fault h found⟩

/-- With a directory and a document that are right, the patterns decide. -/
theorem build_shaped {root : String} {v : Json} (h : Path.isAbsolute root = true)
    (shape : IsDocument v) :
    ((∀ place ∈ patternPlaces v, place.IsReadable) ∧ ∃ policy, build root v = .ok policy) ∨
      ∃ place cause, FirstRefused v place cause ∧ build root v =
        .error (.ofRefusal v (.badPattern place.list place.index place.source cause)) := by
  have shaped : build root v = (ofShaped (Path.normalize "/" root) v).mapError (.ofRefusal v) := by
    simp [build, ofDocument, h, Schema.isDocument_iff.mp shape]
  have patterns := refusal?_ofShaped (Path.normalize "/" root) v
  rw [shaped]
  cases read : ofShaped (Path.normalize "/" root) v with
  | ok policy =>
    rw [read, errorOf, eq_comm, List.findSome?_eq_none_iff] at patterns
    exact .inl ⟨fun place hp => refusal?_eq_none.mp (patterns place hp), policy, rfl⟩
  | error refusal =>
    rw [read, errorOf, eq_comm] at patterns
    obtain ⟨place, cause, first, rfl⟩ := findSome?_eq_some_iff_firstRefused.mp patterns
    exact .inr ⟨place, cause, first, rfl⟩

/-- A pattern that cannot be read is a mistake in the document exactly if it has a fault. -/
theorem ofRefusal_badPattern {v : Json} {list : PatternList} {index : Nat} {source : String}
    {cause : Regex.Refusal} {fault : ConfigurationFault} :
    Failure.ofRefusal v (.badPattern list index source cause) = .configuration fault ↔
      ∃ told, cause = .faulty told ∧ fault = .badPattern list index source told := by
  cases cause <;> simp [Failure.ofRefusal, eq_comm]

/-- Every outcome of building a policy, for every document and directory and whoever reads the patterns:
when there is a policy, and which of the three checks is told otherwise, the directory first, then the
shape, then the first pattern that cannot be read. What is told is a mistake in the document unless that
pattern fails without a fault, or there is no room to write out what is wrong with the shape. -/
theorem build_outcome (root : String) (v : Json) :
    ((∃ policy, build root v = .ok policy) ↔ Path.isAbsolute root = true ∧ IsDocument v ∧
        ∀ place ∈ patternPlaces v, place.IsReadable) ∧
      (build root v = .error (.configuration (.relativeRoot root)) ↔
        ¬ Path.isAbsolute root = true) ∧
      ((∃ fault, build root v = .error (.configuration (.misshapen fault))) ↔
        Path.isAbsolute root = true ∧ ¬ IsDocument v ∧ Host.shows v = true) ∧
      (∀ (place : PatternPlace) (fault : Regex.Fault),
        (ConfigurationFault.badPattern place.list place.index place.source fault).place? =
            some place.label ∧
          (build root v = .error (.configuration
              (.badPattern place.list place.index place.source fault)) ↔
            Path.isAbsolute root = true ∧ IsDocument v ∧
              FirstRefused v place (.faulty fault))) ∧
      ((∃ failure, build root v = .error failure ∧ ∀ fault, failure ≠ .configuration fault) ↔
        Path.isAbsolute root = true ∧
          (¬ IsDocument v ∧ Host.shows v = false ∨ IsDocument v ∧
            ∃ place cause, FirstRefused v place cause ∧ ∀ fault, cause ≠ .faulty fault)) := by
  by_cases absolute : Path.isAbsolute root = true
  case neg =>
    have answer := build_relative v (Bool.eq_false_iff.mpr absolute)
    simp [answer, absolute, ConfigurationFault.place?, PatternPlace.label]
  by_cases shape : IsDocument v
  case neg =>
    obtain ⟨fault, answer⟩ := build_misshapen absolute shape
    cases shown : Host.shows v <;>
      simp [answer, absolute, shape, shown, ConfigurationFault.place?, PatternPlace.label]
  rcases build_shaped absolute shape with ⟨readable, policy, answer⟩ | ⟨place, cause, first, answer⟩
  · have unrefused : ∀ place cause, ¬ FirstRefused v place cause :=
      fun place cause first => first.not_readable readable
    simp [answer, absolute, shape, ConfigurationFault.place?, PatternPlace.label, unrefused]
    exact readable
  · have refused := first.not_readable
    have only : ∀ {place' cause'}, FirstRefused v place' cause' → place' = place ∧ cause' = cause :=
      fun other => other.unique first
    simp only [answer, absolute, shape, true_and, not_true_eq_false, Except.error.injEq,
      reduceCtorEq, exists_false, and_false, false_and, false_or, refused, ofRefusal_badPattern,
      ConfigurationFault.place?, PatternPlace.label, ConfigurationFault.badPattern.injEq]
    refine ⟨fun place' fault => ⟨?_, ?_⟩, ?_, ?_⟩
    · rintro ⟨fault, rfl, lists, indices, sources, rfl⟩
      obtain ⟨list, index, source⟩ := place'
      obtain ⟨rfl, rfl, rfl⟩ : list = place.list ∧ index = place.index ∧ source = place.source :=
        ⟨lists, indices, sources⟩
      exact first
    · intro other
      obtain ⟨rfl, rfl⟩ := only other
      exact ⟨fault, rfl, rfl, rfl, rfl, rfl⟩
    · rintro ⟨failure, rfl, unexpected⟩
      exact ⟨place, cause, first, fun fault faulty =>
        unexpected _ (ofRefusal_badPattern.mpr ⟨fault, faulty, rfl⟩)⟩
    · rintro ⟨place', cause', other, faultless⟩
      obtain ⟨rfl, rfl⟩ := only other
      refine ⟨_, rfl, fun fault told => ?_⟩
      obtain ⟨fault, faulty, -⟩ := ofRefusal_badPattern.mp told
      exact faultless fault faulty

end

/-- A document of the right shape, for an absolute directory, whose only pattern has a repetition
count that is too large. It is refused, and no mistake in it is told. -/
theorem build_oversized_repeat :
    let document : Json :=
      .obj [("private_files", .obj [("regexes", .arr [.str "a\x7b99999999999\x7d"])])]
    Path.isAbsolute "/r" = true ∧ IsDocument document ∧
      (∀ policy, build "/r" document ≠ .ok policy) ∧
      ∀ fault, build "/r" document ≠ .error (.configuration fault) := by
  intro document
  have answer : (match build "/r" document with
      | .ok _ => false
      | .error .hugeRepeat => true
      | .error _ => false) = true := by
    decide +kernel
  refine ⟨by decide, Schema.isDocument_iff.mpr (by rfl), ?_, ?_⟩
  · intro policy built
    simp [built] at answer
  · intro fault built
    simp [built] at answer

end Policy

end ImportBoundary
