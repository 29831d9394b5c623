import ImportBoundary.Proofs.Files.Contents
import ImportBoundary.Proofs.Text.Traversal
import ImportBoundary.Source.Extraction

/-!
# Sources and what they hold

The edges of a source come from its own text, and from which files and directories there are: what
other files hold does not matter (`Extraction.ofFile_congr`). An empty source can be parsed, and has no
edges (`Extraction.ofFile_of_empty`).
-/

namespace ImportBoundary

open Source

variable {fs fs' : FileSystem}

/-! ## Packages -/

namespace FileSystem.SameShape

theorem hasPackage_eq (h : fs.SameShape fs') (path : String) :
    hasPackage fs' path = hasPackage fs path := by
  unfold hasPackage
  rcases h.probe_cases path with same | ⟨_, _, there, there'⟩ <;>
    rcases h.probe_cases (path ++ ".py") with same' | ⟨_, _, file, file'⟩ <;>
    simp only [*] <;> rfl

theorem isLocal_eq (h : fs.SameShape fs') (packages module : String) :
    isLocal fs' packages module = isLocal fs packages module := by
  rw [isLocal, isLocal, h.hasPackage_eq]

theorem localModules_eq (h : fs.SameShape fs') (packages : String) (modules : List String) :
    localModules fs' packages modules = localModules fs packages modules := by
  induction modules with
  | nil => rfl
  | cons module modules ih => rw [localModules, localModules, ih, h.isLocal_eq]

theorem ofImport_eq (h : fs.SameShape fs') (packages sourceFile : String) (i : Import) :
    Edge.ofImport fs' packages sourceFile i = Edge.ofImport fs packages sourceFile i := by
  rw [Edge.ofImport, Edge.ofImport, h.localModules_eq]

end FileSystem.SameShape

/-! ## Extractions -/

namespace Extraction

variable [Host]

theorem ofText_congr (h : fs.SameShape fs') (path : String) (text : List Char)
    (packages : Option String) :
    Extraction.ofText fs' path text packages = Extraction.ofText fs path text packages := by
  have edges (directory sourceFile : String) :
      Edge.ofImport fs' directory sourceFile = Edge.ofImport fs directory sourceFile :=
    funext (h.ofImport_eq directory sourceFile)
  simp only [Extraction.ofText, Extraction.ofImports, edges]

/-- A source that is read in the same way has the same edges. -/
theorem ofFile_congr (h : fs.SameShape fs') {path : String} (same : fs'.read path = fs.read path)
    (packages : Option String) :
    Extraction.ofFile fs' path packages = Extraction.ofFile fs path packages := by
  have text : fs'.readTextLossy path = fs.readTextLossy path := by
    rw [FileSystem.readTextLossy, FileSystem.readTextLossy, same]
  have probed : ((fs'.probe path).mapError Failure.file).map (fun _ => ()) =
      ((fs.probe path).mapError Failure.file).map (fun _ => ()) := by
    rcases h.probe_cases path with same | ⟨_, _, there, there'⟩
    · rw [same]
    · rw [there, there']
      rfl
  rw [Extraction.ofFile, Extraction.ofFile, text]
  cases there : fs.probe path <;> cases there' : fs'.probe path <;> rw [there, there'] at probed <;>
    simp_all [Except.mapError, Except.map, bind, Except.bind, ofText_congr h]

omit [Host] in
theorem readTextLossy_of_empty {path : String} (empty : fs.read path = .ok []) :
    fs.readTextLossy path = .ok [] := by
  rw [FileSystem.readTextLossy, empty, Except.map, Text.Utf8.decodeLossy, Text.unifyNewlines]

theorem ofFile_eq_ofText {path : String} {text : List Char} (fits : fs.tooLong path = false)
    (read : fs.readTextLossy path = .ok text) (packages : Option String) :
    Extraction.ofFile fs path packages = Extraction.ofText fs path text packages := by
  have probed : fs.probe path = .ok (fs.at? path) := by
    rw [FileSystem.probe, fits, if_neg Bool.false_ne_true]
  rw [Extraction.ofFile, probed, read]
  rfl

/-- A source under a path that is too long is not even looked for. -/
theorem ofFile_of_tooLong {path : String} (tooLong : fs.tooLong path = true)
    (packages : Option String) :
    Extraction.ofFile fs path packages = .error (.file ⟨.tooLong, path⟩) := by
  rw [Extraction.ofFile, FileSystem.probe, if_pos tooLong]
  rfl

/-- An empty source has no edges, if whoever reads it finds no statements in it. -/
theorem ofFile_of_empty (nothing : Host.imports [] = .ok []) {path : String}
    (fits : fs.tooLong path = false) (empty : fs.read path = .ok []) (packages : Option String) :
    ∃ found, Extraction.ofFile fs path packages = .ok found ∧ found.edges = [] := by
  rw [ofFile_eq_ofText fits (readTextLossy_of_empty empty), Extraction.ofText, nothing]
  exact ⟨_, rfl, rfl⟩

/-! ## What is wrong with a source -/

omit [Host] in
theorem ofImport_eq_error {packages sourceFile : String} {i : Import} {failure : Failure}
    (failed : Edge.ofImport fs packages sourceFile i = .error failure) :
    (∃ fault, failure = .file fault) ∨ ∃ cause, failure = .relativeSource cause := by
  rw [Edge.ofImport] at failed
  cases looked : localModules fs packages (absoluteModules i.imported) with
  | error fault =>
    rw [looked] at failed
    cases failed
    exact .inl ⟨fault, rfl⟩
  | ok here =>
    rw [looked] at failed
    rcases mapM_cases (fun specifier => (Edge.create sourceFile specifier
      (some ⟨i.line, i.column⟩)).mapError Failure.relativeSource)
      (specifiers packages i.imported here) with ⟨edges, all⟩ | ⟨specifier, -, cause, stopped, fails⟩
    · simp only [Except.mapError, bind, Except.bind] at failed all
      rw [all] at failed
      cases failed
    · simp only [Except.mapError, bind, Except.bind] at failed stopped fails
      rw [stopped] at failed
      cases failed
      split at fails <;> cases fails
      exact .inr ⟨_, rfl⟩

omit [Host] in
/-- Once the statements are known, only the source and the packages can be in the way. -/
theorem ofImports_eq_error {path : String} {imports : List Import} {packages : Option String}
    {failure : Failure} (failed : ofImports fs path imports packages = .error failure) :
    (∃ fault, failure = .file fault) ∨ ∃ cause, failure = .relativeSource cause := by
  rw [ofImports] at failed
  rcases mapM_cases (Edge.ofImport fs (packagesOf (Path.unifySlashes path) packages)
    (Path.unifySlashes path)) imports with ⟨found, all⟩ | ⟨i, -, cause, stopped, fails⟩
  · rw [all] at failed
    cases failed
  · rw [stopped] at failed
    cases failed
    exact ofImport_eq_error fails

/-- A source cannot be parsed if its text cannot be, whatever other files there are. -/
theorem ofFile_eq_source_iff {path file : String} {packages : Option String}
    {fault : Source.Fault} :
    Extraction.ofFile fs path packages = .error (.source file fault) ↔
      file = Path.unifySlashes path ∧ fs.tooLong path = false ∧
        ∃ text, fs.readTextLossy path = .ok text ∧ Host.imports text = .error (.faulty fault) := by
  cases fits : fs.tooLong path with
  | true => simp [ofFile_of_tooLong fits]
  | false =>
    cases there : fs.readTextLossy path with
    | error cause =>
      simp [Extraction.ofFile, FileSystem.probe, fits, there, Except.mapError, bind, Except.bind]
    | ok text =>
      rw [ofFile_eq_ofText fits there, ofText]
      cases read : Host.imports text with
      | error cause =>
        cases cause <;> simp [Failure.ofParseFailure, Except.mapError, bind, Except.bind, read]
        exact fun _ => eq_comm
      | ok imports =>
        simp only [Except.mapError, bind, Except.bind, Except.ok.injEq, exists_eq_left', read,
          reduceCtorEq, and_false, iff_false]
        intro failed
        rcases ofImports_eq_error failed with ⟨_, other⟩ | ⟨_, other⟩ <;> cases other

/-- A source that cannot be parsed has been read. -/
theorem read_of_source {path file : String} {fault : Source.Fault} {packages : Option String}
    (unparsed : Extraction.ofFile fs path packages = .error (.source file fault)) :
    ∃ bytes, fs.read path = .ok bytes := by
  obtain ⟨-, -, text, there, -⟩ := ofFile_eq_source_iff.mp unparsed
  cases read : fs.read path with
  | ok bytes => exact ⟨bytes, rfl⟩
  | error cause =>
    rw [FileSystem.readTextLossy, read] at there
    cases there

/-- What cannot be parsed under one path cannot be under another one that leads to the same file. -/
theorem source_of_follow_eq {path other file : String} {fault : Source.Fault}
    {packages : Option String} (same : fs.follow path = fs.follow other)
    (fits : fs.tooLong other = false)
    (unparsed : Extraction.ofFile fs path packages = .error (.source file fault)) :
    Extraction.ofFile fs other packages = .error (.source (Path.unifySlashes other) fault) := by
  obtain ⟨bytes, there⟩ := read_of_source unparsed
  have there' := FileSystem.read_of_follow_eq same there
  have text : fs.readTextLossy other = fs.readTextLossy path := by
    rw [FileSystem.readTextLossy, FileSystem.readTextLossy, there, there']
  obtain ⟨-, -, wrong⟩ := ofFile_eq_source_iff.mp unparsed
  rw [← text] at wrong
  exact ofFile_eq_source_iff.mpr ⟨rfl, fits, wrong⟩

theorem ofText_ne_configuration (path : String) (text : List Char) (packages : Option String)
    (fault : ConfigurationFault) :
    Extraction.ofText fs path text packages ≠ .error (.configuration fault) := by
  intro failed
  rw [Extraction.ofText] at failed
  cases read : Host.imports text with
  | error cause =>
    rw [read] at failed
    cases cause <;> cases failed
  | ok imports =>
    rw [read] at failed
    rcases ofImports_eq_error failed with ⟨_, other⟩ | ⟨_, other⟩ <;> cases other

/-- What is wrong with a source is no mistake in a policy or a list of edges. -/
theorem ofFile_ne_configuration (path : String) (packages : Option String)
    (fault : ConfigurationFault) :
    Extraction.ofFile fs path packages ≠ .error (.configuration fault) := by
  intro failed
  rw [Extraction.ofFile] at failed
  cases probed : fs.probe path with
  | error cause =>
    rw [probed] at failed
    cases failed
  | ok entry =>
    cases there : fs.readTextLossy path with
    | error cause =>
      rw [probed, there] at failed
      cases failed
    | ok text =>
      rw [probed, there] at failed
      exact ofText_ne_configuration path text packages fault failed

end Extraction

end ImportBoundary
