import ImportBoundary.Proofs.Edge.Creation
import ImportBoundary.Proofs.Source.Words
import Mathlib.Data.List.Forall2

/-!
# Imports with dots

An import with dots is a matter of the source's path and of the statement alone: whatever directory the
packages are in and whatever there is on the disk, it gives the same edges (`ofImport_of_isRelative`). They
lead from the source's directory up by one step for each dot after the first, no further than to the root
or the drive, and down by the module or by the name (`leadsFrom_made`).
-/

namespace ImportBoundary

open Text PathChars

namespace Address

/-- Climbing takes back one segment with each step, as long as there are any. -/
theorem follow_up (a : Address) (n : Nat) :
    a.follow (List.replicate n ['.', '.']) =
      { a with segments := a.segments.take (a.segments.length - n) } := by
  induction n generalizing a with
  | zero => rw [Nat.sub_zero, List.take_length, List.replicate_zero, follow, List.foldl_nil]
  | succ n ih =>
    have step : a.follow (List.replicate (n + 1) ['.', '.']) =
        a.up.follow (List.replicate n ['.', '.']) := rfl
    rw [step, ih]
    simp only [up, List.length_dropLast]
    rw [List.dropLast_eq_take, List.take_take]
    congr 2
    omega

end Address

namespace Source

open ImportBoundary.Path ImportBoundary.Address

/-- The import names something by a number of dots. -/
def Imported.IsRelative (i : Imported) : Prop :=
  ∃ level module names, i = .names level module names ∧ 1 ≤ level

/-- The edge is of the statement `i` in the source `path`. Its target is what `names` lead to from the
directory of the source, or with a level of more than one from a directory further up. -/
structure LeadsFrom (path : String) (i : Import) (level : Nat) (names : List (List Char))
    (e : Edge) : Prop where
  sourceFile : e.sourceFile = Path.normalize "/" path
  location : e.location = some ⟨i.line, i.column⟩
  canonical : Address.IsCanonical e.target
  top : topOf e.target = topOf e.sourceFile
  segments :
    let directory := (segmentsOf e.sourceFile).dropLast
    segmentsOf e.target = directory.take (directory.length - (level - 1)) ++ names

/-- The edges of the specifiers that a statement gives from the source's directory. -/
def relativeEdges (path : String) (i : Import) : List Edge :=
  (relativeSpecifiers i.imported).map fun specifier =>
    Edge.made (Path.unifySlashes path) specifier (some ⟨i.line, i.column⟩)

section

variable {path : String} {i : Import} {level : Nat}

theorem normalize_unifySlashes (absolute : Path.isAbsolute path = true) (nul : IsNulFree path) :
    Path.normalize "/" (Path.unifySlashes path) = (ofPath path).path := by
  have nulToo : IsNulFree (Path.unifySlashes path) := by
    rw [IsNulFree, Path.unifySlashes, String.toList_ofList]
    exact (clean_unifySlashes nul).1
  rw [Path.normalize_of_isAbsolute "/" (Extraction.isAbsolute_unifySlashes absolute) nulToo, ofPath,
    Path.unifySlashes, String.toList_ofList, unifySlashes_idem, ofPath]

/-- Words that follow the dots lead down from where the dots have led up to. -/
theorem leadsFrom_made (absolute : Path.isAbsolute path = true) (nul : IsNulFree path)
    (one : 1 ≤ level) {rest : String} {names : List String} (words : ∀ n ∈ names, IsWord n)
    (text : rest.toList = slashed names) :
    LeadsFrom path i level (names.map String.toList)
      (Edge.made (Path.unifySlashes path) (levelPath level ++ rest) (some ⟨i.line, i.column⟩)) := by
  have source := normalize_unifySlashes absolute nul
  obtain ⟨segments, named⟩ := exists_segments_of_words words
  have target : Path.normalize (Path.parent (ofPath path).path) (levelPath level ++ rest) =
      (((ofPath path).up.follow (List.replicate (level - 1) ['.', '.'])).below segments).path := by
    rw [normalize_levelPath _ one (text ▸ clean_slashed words), text, steps_slashed words, ← named,
      Address.follow_segments]
  constructor
  · rw [Path.normalize_of_isAbsolute "/" absolute nul]
    exact source
  · rfl
  · simp only [Edge.made, source, target]
    exact isCanonical_path _
  · simp only [Edge.made, source, target, topOf_path]
    rw [follow_up]
    rfl
  · simp only [Edge.made, source, target, segmentsOf_path]
    rw [follow_up]
    simp only [below, up, Address.names, List.map_append, List.map_take, named, List.map_dropLast,
      List.length_dropLast, List.length_map]

/-- A module gives one edge, which leads to the module. -/
theorem leadsFrom_module (absolute : Path.isAbsolute path = true) (nul : IsNulFree path)
    (one : 1 ≤ level) {module : String} {names : List String} (isModule : IsModule module)
    (imported : i.imported = .names level (some module) names) :
    ∃ e, relativeEdges path i = [e] ∧ LeadsFrom path i level (splitAtChar '.' module.toList) e := by
  obtain ⟨parts, some_part, words, rfl⟩ := isModule
  obtain ⟨level, rfl⟩ := Nat.exists_eq_add_of_le' one
  refine ⟨_, by rw [relativeEdges, imported]; rfl, ?_⟩
  rw [String.toList_ofList, splitAtChar_dotted words some_part]
  exact leadsFrom_made absolute nul one words (modulePath_dotted words)

/-- Without a module each of the names gives an edge, which leads to the name. -/
theorem leadsFrom_names (absolute : Path.isAbsolute path = true) (nul : IsNulFree path)
    (one : 1 ≤ level) {names : List String} (words : ∀ n ∈ names, IsWord n)
    (imported : i.imported = .names level none names) :
    List.Forall₂ (fun n e => LeadsFrom path i level [n.toList] e) names (relativeEdges path i) := by
  obtain ⟨level, rfl⟩ := Nat.exists_eq_add_of_le' one
  have edges : relativeEdges path i = names.map fun n =>
      Edge.made (Path.unifySlashes path) (levelPath (level + 1) ++ n) (some ⟨i.line, i.column⟩) := by
    rw [relativeEdges, imported, relativeSpecifiers, List.map_map]
    · rfl
    · nofun
  rw [edges, List.forall₂_map_right_iff, List.forall₂_same]
  intro n hn
  have word : ∀ m ∈ [n], IsWord m := by simpa using words n hn
  exact leadsFrom_made absolute nul one word rfl

/-- Neither the directory of packages nor the disk is asked. -/
theorem ofImport_of_isRelative (fs : FileSystem) (packages : String)
    (absolute : Path.isAbsolute path = true) (relative : i.imported.IsRelative) :
    Edge.ofImport fs packages (Path.unifySlashes path) i = .ok (relativeEdges path i, []) := by
  obtain ⟨level, module, names, imported, one⟩ := relative
  obtain ⟨level, rfl⟩ := Nat.exists_eq_add_of_le' one
  have nothing : absoluteModules i.imported = [] := by rw [imported]; rfl
  rw [Edge.ofImport_eq fs packages (Extraction.isAbsolute_unifySlashes absolute), nothing, localModules]
  simp only [specifiers, List.map_nil, List.append_nil, outsiders, nothing, List.filter_nil,
    relativeEdges]

end

end Source

namespace Extraction

open Source

/-- Whoever reads the statements of a source, if they name what they import by words, as a parser does
(`isWorded_of_mem_readImports`): one with dots gives one edge, which leads to its module, or without a
module one for each of its names, in any directory of packages and on any disk. The edges of the source
are those of its statements, one after the other, unless another statement has a package that cannot be
looked for. -/
theorem ofText_relative [Host] {path : String} (absolute : Path.isAbsolute path = true)
    (nul : Path.IsNulFree path) {text : List Char} {imports : List Import}
    (read : Host.imports text = .ok imports) (worded : ∀ i ∈ imports, i.imported.IsWorded) :
    ∃ edges : Import → List Edge,
      (∀ i ∈ imports, ∀ level names, 1 ≤ level →
        (∀ module, i.imported = .names level (some module) names →
          ∃ e, edges i = [e] ∧ LeadsFrom path i level (splitAtChar '.' module.toList) e) ∧
        (i.imported = .names level none names →
          List.Forall₂ (fun n e => LeadsFrom path i level [n.toList] e) names (edges i))) ∧
      (∀ i ∈ imports, i.imported.IsRelative → ∀ fs packages,
        Edge.ofImport fs packages (Path.unifySlashes path) i = .ok (edges i, [])) ∧
      ∀ fs given,
        (∃ x groups, ofText fs path text given = .ok x ∧ x.edges = groups.flatten ∧
          List.Forall₂ (fun i group => i.imported.IsRelative → group = edges i) imports groups) ∨
        ∃ i ∈ imports, ¬ i.imported.IsRelative ∧
          ∃ fault, ofText fs path text given = .error (.file fault) := by
  refine ⟨relativeEdges path, ?_, ?_, ?_⟩
  · intro i mem level names one
    have words := worded i mem
    constructor
    · intro module imported
      rw [imported] at words
      exact leadsFrom_module absolute nul one (words.1 module rfl) imported
    · intro imported
      rw [imported] at words
      exact leadsFrom_names absolute nul one words.2 imported
  · intro i _ relative fs packages
    exact ofImport_of_isRelative fs packages absolute relative
  · intro fs given
    have whole : ofText fs path text given = ofImports fs path imports given := by
      rw [ofText, read]
      rfl
    rw [whole, ofImports]
    rcases mapM_cases (Edge.ofImport fs (packagesOf (Path.unifySlashes path) given)
      (Path.unifySlashes path)) imports with ⟨found, all⟩ | ⟨i, mem, failure, stopped, fails⟩
    · refine .inl ⟨_, found.map (·.1), by rw [all]; rfl, rfl, ?_⟩
      rw [List.forall₂_map_right_iff]
      refine (mapM_eq_ok_iff.mp all).imp fun i group gives relative => ?_
      rw [ofImport_of_isRelative fs _ absolute relative] at gives
      exact congrArg Prod.fst (Except.ok.inj gives).symm
    · refine .inr ⟨i, mem, fun relative => ?_, ?_⟩
      · rw [ofImport_of_isRelative fs _ absolute relative] at fails
        cases fails
      · rw [Edge.ofImport_eq fs _ (isAbsolute_unifySlashes absolute)] at fails
        split at fails <;> cases fails
        rw [stopped]
        exact ⟨_, rfl⟩

/-- Three dots in a source on top of a drive, where there is nothing to climb. -/
theorem ofText_relative_drive :
    let path := "C:\\f.py"
    let text := fromStatement 3 ["m", "n"] "x"
    Path.isAbsolute path = true ∧ Path.IsNulFree path ∧
      ∃ i, Host.imports text = .ok [i] ∧ i.imported.IsWorded ∧ ∃ e,
        LeadsFrom path i 3 (splitAtChar '.' "m.n".toList) e ∧ e.sourceFile = "C:/f.py" ∧
        Path.segmentsOf e.target = ["m".toList, "n".toList] ∧
        ∀ fs given, (ofText fs path text given).map (·.edges) = .ok [e] := by
  intro path text
  have absolute : Path.isAbsolute path = true := by decide
  have nul : Path.IsNulFree path := by decide
  have names : ∀ m ∈ ["m", "n"], IsPlainName m := by decide
  have name : IsPlainName "x" := by decide
  obtain ⟨line, column, imports⟩ := importsOf_fromStatement (by decide) names name 3 (.inl rfl)
  rw [List.append_nil] at imports
  have read : Host.imports text =
      .ok [⟨line, column, .names 3 (some (String.ofList (dotted ["m", "n"]))) ["x"]⟩] :=
    readImports_of_importsOf (by decide) (by decide) imports
  have worded := fun i => isWorded_of_mem_readImports read (i := i)
  have one := worded _ (List.mem_singleton_self _)
  obtain ⟨edges, leads, gives, extracts⟩ := ofText_relative absolute nul read worded
  obtain ⟨e, single, lead⟩ := (leads _ (List.mem_singleton_self _) 3 ["x"] (by decide)).1 _ rfl
  have file : e.sourceFile = "C:/f.py" := lead.sourceFile.trans (by decide)
  have relative : (Imported.names 3 (some (String.ofList (dotted ["m", "n"]))) ["x"]).IsRelative :=
    ⟨3, _, _, rfl, by decide⟩
  refine ⟨absolute, nul, _, read, one, e, lead, file, ?_, ?_⟩
  · rw [lead.segments, file]
    decide
  · intro fs given
    rcases extracts fs given with ⟨x, groups, extracted, whole, each⟩ | ⟨i, mem, absolute, -⟩
    · cases each with
      | cons same none =>
        cases none
        rw [same relative, single] at whole
        rw [extracted, Except.map, whole]
        rfl
    · obtain rfl := List.mem_singleton.mp mem
      exact absurd relative absolute

end Extraction

end ImportBoundary
