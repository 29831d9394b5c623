import ImportBoundary.Source.Extraction
import ImportBoundary.Proofs.Check.Segments
import ImportBoundary.Proofs.Edge.Record
import ImportBoundary.Proofs.Path.Ancestry
import ImportBoundary.Proofs.Text.Traversal

/-!
# Creating edges

Whether there is an edge is decided by its source alone: an absolute one always gives an edge
(`create_of_isAbsolute`), a relative one never does. Records and import statements are taken from
absolute places, so there the question never comes up (`ofRecord_ne_relativeSource`,
`ofText_ne_relativeSource`). What the edge says is read off the two texts: `IsOf` has the root or drive
of the target and the names behind it, also where the source lies on top of a drive and its directory is
written without a slash.
-/

namespace ImportBoundary

open Text PathChars

namespace Edge

open ImportBoundary.Path ImportBoundary.Address

/-! ## Definition -/

/-- The edge of an absolute source. -/
def made (source specifier : String) (location : Option Location) : Edge :=
  let sourceFile := Path.normalize "/" source
  { sourceFile
    specifier
    target := Path.normalize (Path.parent sourceFile) specifier
    location }

/-- What an edge says of the source and the specifier that it is made of. A specifier that is absolute
leads to itself. Any other leads from the source's directory, piece by piece as it is written. -/
structure IsOf (source specifier : String) (location : Option Location) (e : Edge) : Prop where
  specifier_eq : e.specifier = specifier
  location_eq : e.location = location
  sourceFile_eq : e.sourceFile = Path.normalize "/" source
  canonical : e.IsCanonical
  absolute : Path.isAbsolute e.sourceFile = true ∧ Path.isAbsolute e.target = true
  target_of_isAbsolute : Path.isAbsolute specifier = true →
    ∀ base, e.target = Path.normalize base specifier
  target_of_relative : Path.isAbsolute specifier = false →
    topOf e.target = topOf e.sourceFile ∧
      segmentsOf e.target = (pieces (specifier.toList.map unifySeparator)).foldl goOn
        (segmentsOf e.sourceFile).dropLast

/-! ## When there is an edge -/

section

variable {source specifier : String} {location : Option Location}

theorem create_of_isAbsolute (absolute : Path.isAbsolute source = true) :
    create source specifier location = .ok (made source specifier location) :=
  if_pos absolute

theorem create_of_relative (relative : Path.isAbsolute source = false) :
    create source specifier location = .error ⟨source⟩ := by
  rw [create, relative, if_neg Bool.false_ne_true]

theorem create_eq_error_iff {cause : RelativeSource} :
    create source specifier location = .error cause ↔
      Path.isAbsolute source = false ∧ cause = ⟨source⟩ := by
  constructor
  · intro refused
    cases own : Path.isAbsolute source with
    | true =>
      rw [create_of_isAbsolute own] at refused
      cases refused
    | false =>
      rw [create_of_relative own] at refused
      cases refused
      exact ⟨rfl, rfl⟩
  · rintro ⟨relative, rfl⟩
    exact create_of_relative relative

/-! ## What it says -/

/-- A relative specifier leads from an address to the one that its pieces lead to. -/
theorem segmentsOf_resolve (a : Address) (relative : Path.isAbsolute specifier = false)
    (nul : IsNulFree specifier) :
    segmentsOf (a.resolve specifier.toList).path =
      (pieces (specifier.toList.map unifySeparator)).foldl goOn a.names := by
  have clean := clean_map_unifySeparator nul
  rw [segmentsOf_path, resolve_of_relative a relative,
    foldl_goOn fun piece mem => clean.isSegment_piece mem]

theorem topOf_resolve (a : Address) (relative : Path.isAbsolute specifier = false) :
    topOf (a.resolve specifier.toList).path = topOf a.path := by
  rw [topOf_path, topOf_path, resolve_of_relative a relative, follow_drive]

theorem isOf_made (absolute : Path.isAbsolute source = true) (sourceNul : IsNulFree source)
    (specifierNul : IsNulFree specifier) :
    (made source specifier location).IsOf source specifier location := by
  have created : create source specifier location = .ok (made source specifier location) :=
    create_of_isAbsolute absolute
  have same := create_eq_ok created sourceNul specifierNul
  have file : (made source specifier location).sourceFile = (ofPath source).path := by
    rw [same]
  have target : (made source specifier location).target =
      ((ofPath source).up.resolve specifier.toList).path := by
    rw [same]
  refine ⟨rfl, rfl, rfl, ?_, ?_, ?_, ?_⟩
  · rw [IsCanonical, file, target]
    exact ⟨isCanonical_path _, isCanonical_path _⟩
  · rw [file, target]
    exact ⟨isAbsolute_path _, isAbsolute_path _⟩
  · intro own base
    have leads : PathChars.isAbsolute specifier.toList = true := own
    rw [target, normalize_of_isAbsolute base own specifierNul, resolve, if_pos leads]
    rfl
  · intro relative
    rw [file, target, topOf_resolve _ relative, segmentsOf_resolve _ relative specifierNul]
    simp only [topOf_path, segmentsOf_path]
    refine ⟨rfl, ?_⟩
    simp only [names, up, List.map_dropLast]

end

/-! ## Records and import statements -/

/-- From an absolute directory no record has a source that is relative. -/
theorem ofRecord_ne_relativeSource {root : String} (absolute : Path.isAbsolute root = true)
    (fields : List (String × Json)) (cause : RelativeSource) :
    ofRecord root fields ≠ .error (.relativeSource cause) := by
  intro refused
  rw [ofRecord_eq absolute] at refused
  cases complete : completeLocation fields with
  | ok location =>
    rw [complete] at refused
    cases refused
  | error fault =>
    rw [complete] at refused
    cases refused
    rcases completeLocation_eq_error complete with ⟨names, other⟩ | ⟨line, column, other⟩ | other <;>
      cases other

/-- A statement of an absolute source gives an edge for each of its specifiers, once it is known which of
its modules are there. -/
theorem ofImport_eq (fs : FileSystem) (packages : String) {source : String}
    (absolute : Path.isAbsolute source = true) (i : Source.Import) :
    ofImport fs packages source i =
      match Source.localModules fs packages (Source.absoluteModules i.imported) with
      | .error fault => .error (.file fault)
      | .ok here => .ok ((Source.specifiers packages i.imported here).map fun specifier =>
          made source specifier (some ⟨i.line, i.column⟩), Source.outsiders i.imported here) := by
  rw [ofImport]
  simp only [create_of_isAbsolute absolute]
  cases Source.localModules fs packages (Source.absoluteModules i.imported) with
  | error fault => rfl
  | ok here =>
    have edges : ((Source.specifiers packages i.imported here).mapM fun specifier =>
        (Except.ok (made source specifier (some ⟨i.line, i.column⟩)) :
          Except RelativeSource Edge).mapError Failure.relativeSource) =
        .ok ((Source.specifiers packages i.imported here).map fun specifier =>
          made source specifier (some ⟨i.line, i.column⟩)) := List.mapM_pure
    simp only [Except.mapError, bind, Except.bind] at edges ⊢
    rw [edges]
    rfl

end Edge

namespace Extraction

open Source

variable {fs : FileSystem} {path : String}

theorem isAbsolute_unifySlashes (absolute : Path.isAbsolute path = true) :
    Path.isAbsolute (Path.unifySlashes path) = true := by
  rw [Path.isAbsolute, Path.unifySlashes, String.toList_ofList, Address.isAbsolute_unifySlashes]
  exact absolute

/-- With an absolute source nothing but looking for a package fails. -/
theorem ofImports_ne_relativeSource (absolute : Path.isAbsolute path = true)
    (imports : List Import) (given : Option String) (cause : RelativeSource) :
    ofImports fs path imports given ≠ .error (.relativeSource cause) := by
  intro refused
  rw [ofImports] at refused
  rcases mapM_cases (Edge.ofImport fs (packagesOf (Path.unifySlashes path) given)
    (Path.unifySlashes path)) imports with ⟨found, all⟩ | ⟨i, -, failure, stopped, fails⟩
  · rw [all] at refused
    cases refused
  · rw [stopped] at refused
    cases refused
    rw [Edge.ofImport_eq fs _ (isAbsolute_unifySlashes absolute)] at fails
    split at fails <;> cases fails

theorem ofText_ne_relativeSource (absolute : Path.isAbsolute path = true) (text : List Char)
    (given : Option String) (cause : RelativeSource) :
    ofText fs path text given ≠ .error (.relativeSource cause) := by
  rw [ofText]
  cases Host.imports text with
  | error failure => cases failure <;> exact nofun
  | ok imports => exact ofImports_ne_relativeSource absolute imports given cause

theorem ofFile_ne_relativeSource (absolute : Path.isAbsolute path = true) (given : Option String)
    (cause : RelativeSource) : ofFile fs path given ≠ .error (.relativeSource cause) := by
  intro refused
  rw [ofFile] at refused
  cases probed : fs.probe path with
  | error fault =>
    rw [probed] at refused
    cases refused
  | ok _ =>
    rw [probed] at refused
    cases contents : fs.readTextLossy path with
    | error fault =>
      rw [contents] at refused
      cases refused
    | ok text =>
      rw [contents] at refused
      exact ofText_ne_relativeSource absolute text given cause refused

end Extraction

namespace Edge

open ImportBoundary.Path

/-- Creating an edge fails exactly for a relative source, and otherwise gives the edge of the source
and the specifier. From absolute places neither records nor sources fail that way. -/
theorem create_isOf {source specifier : String} (sourceNul : IsNulFree source)
    (specifierNul : IsNulFree specifier) (location : Option Location) :
    ((∃ cause, create source specifier location = .error cause) ↔
      Path.isAbsolute source = false) ∧
    (Path.isAbsolute source = true →
      ∃ e, create source specifier location = .ok e ∧ e.IsOf source specifier location) ∧
    (∀ root, Path.isAbsolute root = true →
      ∀ fields cause, ofRecord root fields ≠ .error (.relativeSource cause)) ∧
    ∀ fs path, Path.isAbsolute path = true → ∀ given cause,
      (∀ text, Extraction.ofText fs path text given ≠ .error (.relativeSource cause)) ∧
        Extraction.ofFile fs path given ≠ .error (.relativeSource cause) := by
  refine ⟨?_, ?_, ?_, ?_⟩
  · simp only [create_eq_error_iff, exists_and_left, exists_eq, and_true]
  · intro absolute
    exact ⟨_, create_of_isAbsolute absolute, isOf_made absolute sourceNul specifierNul⟩
  · intro root absolute fields cause
    exact ofRecord_ne_relativeSource absolute fields cause
  · intro fs path absolute given cause
    exact ⟨fun text => Extraction.ofText_ne_relativeSource absolute text given cause,
      Extraction.ofFile_ne_relativeSource absolute given cause⟩

/-- A source on top of a drive, and a specifier that climbs beyond it. -/
theorem create_isOf_drive :
    Path.isAbsolute "C:\\f.py" = true ∧ IsNulFree "C:\\f.py" ∧ IsNulFree "..\\.\\x//" ∧
      ∃ e, create "C:\\f.py" "..\\.\\x//" none = .ok e ∧
        e.IsOf "C:\\f.py" "..\\.\\x//" none ∧ e.target = "C:/x" := by
  have absolute : Path.isAbsolute "C:\\f.py" = true := by decide
  have sourceNul : IsNulFree "C:\\f.py" := by decide
  have specifierNul : IsNulFree "..\\.\\x//" := by decide
  obtain ⟨-, created, -⟩ := create_isOf sourceNul specifierNul none
  obtain ⟨e, ok, isOf⟩ := created absolute
  refine ⟨absolute, sourceNul, specifierNul, e, ok, isOf, ?_⟩
  rw [create_of_isAbsolute absolute] at ok
  cases ok
  decide

end Edge

end ImportBoundary
