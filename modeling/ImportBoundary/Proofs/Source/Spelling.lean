import ImportBoundary.Proofs.Edge.Creation
import ImportBoundary.Proofs.Files.Length
import ImportBoundary.Proofs.Source.Module

/-!
# One import in two spellings

A source below the directory of packages can name a module by its dots or from the outermost package
on. Both spellings give one edge, and the edges have the same target
(`Extraction.targets_agree`): the dots are climbed from the source's directory, which the
steps of its path lead to from the packages, and what is left of these steps is what the other
spelling writes out.

A backslash in the name of the source is the exception, because it counts as a slash in the path and
so puts the source one directory further down than it stands
(`Extraction.targets_differ_below_backslash`).
-/

namespace ImportBoundary

open Text PathChars

namespace Source

/-! ## The path of a source -/

theorem exists_segments {names : List String} (plain : ∀ n ∈ names, IsPlainName n) :
    ∃ segments : List Segment, segments.map Subtype.val = names.map String.toList :=
  exists_segments_of_words (isWord_of_isPlainName plain)

/-- The path of a source below a directory of packages. -/
def sourcePath (root : String) (packages : List String) (stem : String) : String :=
  String.ofList (root.toList ++ '/' :: (joinWith ['/'] (packages.map String.toList) ++
    '/' :: (stem.toList ++ ".py".toList)))

/-- The file's name without its ending: any text but for the characters that paths treat apart. -/
def IsStem (stem : String) : Prop :=
  '/' ∉ stem.toList ∧ '\\' ∉ stem.toList ∧ '\x00' ∉ stem.toList

instance (stem : String) : Decidable (IsStem stem) :=
  inferInstanceAs (Decidable (_ ∧ _ ∧ _))

theorem IsStem.isSegment {stem : String} (h : IsStem stem) :
    IsSegment (stem.toList ++ ".py".toList) := by
  have without {c : Char} (notEnding : c ∉ ".py".toList) (notStem : c ∉ stem.toList) :
      c ∉ stem.toList ++ ".py".toList := by
    rw [List.mem_append]
    exact fun inside => inside.elim notStem notEnding
  have ending {name : List Char} (other : name.getLast? ≠ some 'y') :
      stem.toList ++ ".py".toList ≠ name := by
    rintro rfl
    exact other (by simp)
  exact ⟨by simp, ending (by decide), ending (by decide),
    without (by decide) h.1, without (by decide) h.2.1, without (by decide) h.2.2⟩

theorem isRooted_sourcePath {root : String} (rooted : isRooted root.toList = true)
    (packages : List String) (stem : String) :
    isRooted (sourcePath root packages stem).toList = true := by
  have some_char : root.toList ≠ [] := by
    intro empty
    rw [empty] at rooted
    cases rooted
  rw [sourcePath, String.toList_ofList, isRooted_append some_char, rooted]

theorem clean_sourcePath {root stem : String} {packages : List String}
    (clean : Clean root.toList) (plain : ∀ p ∈ packages, IsPlainName p) (stemPlain : IsStem stem) :
    Clean (sourcePath root packages stem).toList := by
  have slash : Clean ['/'] := ⟨by decide, by decide⟩
  have file : Clean (stem.toList ++ ".py".toList) :=
    ⟨stemPlain.isSegment.2.2.2.2.2, stemPlain.isSegment.2.2.2.2.1⟩
  rw [sourcePath, String.toList_ofList]
  have middle : Clean (slashed packages) := clean_slashed (isWord_of_isPlainName plain)
  exact clean.append (slash.append (middle.append (slash.append file)))

theorem steps_sourcePath {root stem : String} {packages : List String}
    (plain : ∀ p ∈ packages, IsPlainName p) (stemPlain : IsStem stem) :
    steps (sourcePath root packages stem).toList =
      steps root.toList ++ (packages.map String.toList ++ [stem.toList ++ ".py".toList]) := by
  obtain ⟨some_char, noDot, -, noSlash, -⟩ := stemPlain.isSegment
  rw [sourcePath, String.toList_ofList, steps_append, steps_append, ← slashed,
    steps_slashed (isWord_of_isPlainName plain), steps_of_slash_not_mem noSlash some_char noDot]

/-- The address of a source: its file lies in the innermost package. -/
theorem normalize_sourcePath {root stem : String} {packages : List String} (base : String)
    (rooted : isRooted root.toList = true) (clean : Clean root.toList)
    (plain : ∀ p ∈ packages, IsPlainName p) (stemPlain : IsStem stem)
    {segments : List Segment} (named : segments.map Subtype.val = packages.map String.toList) :
    Path.normalize base (Path.unifySlashes (Path.tidy (sourcePath root packages stem))) =
      (((Address.top none).follow (steps root.toList)).below
        (segments ++ [⟨stem.toList ++ ".py".toList, stemPlain.isSegment⟩])).path := by
  obtain ⟨rooted, clean, same⟩ := Path.unifySlashes_tidy (isRooted_sourcePath rooted packages stem)
    (clean_sourcePath clean plain stemPlain)
  rw [Path.normalize_rooted base rooted clean, same, steps_sourcePath plain stemPlain,
    Address.follow_append, ← named, ← Address.follow_segments, List.map_append]
  rfl

/-! ## Where the two specifiers lead -/

/-- The specifier with dots leads from the source's directory to the module below the packages that
are left. -/
theorem target_relative {a : Address} {packages module : List String} {level : Nat}
    {segments : List Segment} {file : Segment} (modulePlain : ∀ m ∈ module, IsPlainName m)
    (named : segments.map Subtype.val = packages.map String.toList)
    (one : 1 ≤ level) (le : level ≤ packages.length) :
    Path.normalize (Path.parent (a.below (segments ++ [file])).path)
      (levelPath level ++ modulePath (String.ofList (dotted module))) =
        (a.follow
          ((packages.take (packages.length - level + 1) ++ module).map String.toList)).path := by
  have same : segments.length = packages.length := by simpa using congrArg List.length named
  have left : (packages.take (packages.length - level + 1)).map String.toList =
      (segments.take (segments.length - (level - 1))).map Subtype.val := by
    rw [List.map_take, List.map_take, named, same]
    congr 1
    omega
  have words := isWord_of_isPlainName modulePlain
  have way := modulePath_dotted words
  have directory : (a.below (segments ++ [file])).up = a.below segments := by
    rw [Address.up_below_of_ne_nil a (by simp), List.dropLast_concat]
  rw [normalize_levelPath _ one (way ▸ clean_slashed words), way, steps_slashed words, directory,
    Address.follow_climb a (by omega), List.map_append, Address.follow_append, left,
    Address.follow_segments]

/-- The directory of packages is the root that is given, up to its slashes. -/
theorem packagesOf_root {root : String} (rooted : isRooted root.toList = true)
    (forward : '\\' ∉ root.toList) (sourceFile : String) :
    (packagesOf sourceFile (some root)).toList = dropTrailingSlashes (collapse root.toList) := by
  have some_char : root.isEmpty = false := by
    refine Bool.eq_false_iff.mpr fun empty => ?_
    rw [String.isEmpty_iff.mp empty] at rooted
    cases rooted
  simp [packagesOf, some_char, Path.dropTrailingSlashes, Path.unifySlashes, PathChars.unifySlashes,
    Address.map_unifySeparator forward]

/-- A package is looked for by the steps of the root and its own name. -/
theorem packagePath_packagesOf {root : String} (rooted : isRooted root.toList = true)
    (forward : '\\' ∉ root.toList) (sourceFile module : String) :
    packagePath (packagesOf sourceFile (some root)) module =
      String.ofList ('/' :: joinWith ['/'] (steps root.toList ++ [(packageOf module).toList])) := by
  have given : packagesOf sourceFile (some root) = "" ∨
      ∃ rest, (packagesOf sourceFile (some root)).toList = '/' :: rest ∧ isRooted rest = false := by
    rw [← String.toList_eq_nil_iff, packagesOf_root rooted forward]
    exact dropTrailingSlashes_rooted rooted
  have path := Path.child_tidy (packageOf module) given
  rwa [packagesOf_root rooted forward, steps_dropTrailingSlashes, steps_collapse] at path

/-- The specifier in full leads from the root to the module, whatever the source is. -/
theorem target_of_words {root : String} {names : List String} (base sourceFile : String)
    (rooted : isRooted root.toList = true) (clean : Clean root.toList)
    (words : ∀ n ∈ names, IsWord n) :
    Path.normalize base (packagesOf sourceFile (some root) ++ "/" ++
      modulePath (String.ofList (dotted names))) =
        (((Address.top none).follow (steps root.toList)).follow (names.map String.toList)).path := by
  have specifier : (packagesOf sourceFile (some root) ++ "/" ++
      modulePath (String.ofList (dotted names))).toList =
        dropTrailingSlashes (collapse root.toList) ++ '/' :: slashed names := by
    rw [String.toList_append, String.toList_append, packagesOf_root rooted clean.2,
      modulePath_dotted words, List.append_assoc]
    rfl
  have starts : isRooted (dropTrailingSlashes (collapse root.toList) ++ '/' :: slashed names) =
      true := by
    rcases dropTrailingSlashes_rooted rooted with nothing | ⟨rest, slash, -⟩
    · rw [nothing]; rfl
    · rw [slash]; rfl
  have sub {c : Char} (h : c ∈ dropTrailingSlashes (collapse root.toList)) : c ∈ root.toList :=
    mem_of_mem_collapse ((List.rdropWhile_prefix _ _).subset h)
  have whole : Clean (dropTrailingSlashes (collapse root.toList) ++ '/' :: slashed names) :=
    Clean.append ⟨fun h => clean.1 (sub h), fun h => clean.2 (sub h)⟩
      (Clean.append (p := ['/']) (by exact ⟨by decide, by decide⟩) (clean_slashed words))
  rw [Path.normalize_rooted base (by rw [specifier]; exact starts) (by rw [specifier]; exact whole),
    specifier, steps_append, steps_dropTrailingSlashes, steps_collapse, steps_slashed words,
    Address.follow_append]

theorem target_absolute {root : String} {names : List String} (base sourceFile : String)
    (rooted : isRooted root.toList = true) (clean : Clean root.toList)
    (plain : ∀ n ∈ names, IsPlainName n) :
    Path.normalize base (packagesOf sourceFile (some root) ++ "/" ++
      modulePath (String.ofList (dotted names))) =
        (((Address.top none).follow (steps root.toList)).follow (names.map String.toList)).path :=
  target_of_words base sourceFile rooted clean (isWord_of_isPlainName plain)

/-! ## The edge of one import -/

theorem packageOf_dotted {package : String} (module : List String) (word : IsWord package) :
    packageOf (String.ofList (dotted (package :: module))) = package := by
  have noDot : ∀ c ∈ package.toList, decide (c ≠ '.') = true := fun c hc =>
    decide_eq_true (ne_of_isNameChar (word.2 c hc) (by decide))
  have stops : ((module.map String.toList).flatMap fun piece => ['.'] ++ piece).takeWhile
      (fun c => decide (c ≠ '.')) = [] := by
    cases module <;> simp
  rw [packageOf, String.toList_ofList, dotted, List.map_cons, joinWith_cons_flatMap,
    List.takeWhile_append_of_pos noDot, stops, List.append_nil, String.ofList_toList]

/-- The package of a module is there if a source in it is. -/
theorem isLocal_of_isFile {fs : FileSystem} {root stem package : String} {packages : List String}
    (module : List String) (rooted : isRooted root.toList = true) (clean : Clean root.toList)
    (plain : ∀ p ∈ package :: packages, IsPlainName p) (notFuture : package ≠ "__future__")
    (stemPlain : IsStem stem)
    (file : fs.isFile (Path.tidy (sourcePath root (package :: packages) stem)) = true)
    (sourceFile : String) : isLocal fs (packagesOf sourceFile (some root))
      (String.ofList (dotted (package :: module))) = .ok true := by
  have plainPackage := plain package (List.mem_cons_self ..)
  have some_char : package ≠ "" := plainPackage.isWord.1
  have rootedSource : isRooted (Path.tidy (sourcePath root (package :: packages) stem)).toList =
      true := by
    rw [Path.tidy, String.toList_ofList]
    exact Path.isRooted_tidyChars (isRooted_sourcePath rooted _ _)
  have way : steps (Path.tidy (sourcePath root (package :: packages) stem)).toList =
      (steps root.toList ++ [package.toList]) ++
        (packages.map String.toList ++ [stem.toList ++ ".py".toList]) := by
    rw [Path.tidy, String.toList_ofList, Path.steps_tidyChars, steps_sourcePath plain stemPlain]
    simp
  have directory := FileSystem.isDirectory_of_isFile rootedSource file way (by simp)
  have probed := FileSystem.probe_eq_ok_iff.mpr (FileSystem.isDirectory_iff.mp directory)
  have notSpecial : ¬ (package = "" ∨ package = "__future__") := not_or.mpr ⟨some_char, notFuture⟩
  rw [isLocal, packagePath_packagesOf rooted clean.2, packageOf_dotted module plainPackage.isWord,
    if_neg notSpecial, hasPackage, probed]
  rfl

/-! ## One statement -/

theorem specifiers_relative (packages module : String) (names : List String) {level : Nat}
    (one : 1 ≤ level) : specifiers packages (.names level (some module) names) [] =
      [levelPath level ++ modulePath module] := by
  obtain ⟨level, rfl⟩ := Nat.exists_eq_add_of_le' one
  simp [specifiers, relativeSpecifiers]

theorem localModules_of_isLocal {fs : FileSystem} {packages module : String}
    (here : isLocal fs packages module = .ok true) :
    localModules fs packages [module] = .ok [module] := by
  rw [localModules, here]
  rfl

theorem not_mem_ending {text ending : List Char} {c : Char} (inside : c ∉ text) (other : c ≠ '\n')
    (ends : ending = [] ∨ ending = ['\n']) : c ∉ text ++ ending := by
  rcases ends with rfl | rfl <;> simp [inside, other]

/-- The text gives one edge, whose target the specifier leads to. -/
def GivesEdge (fs : FileSystem) (path : String) (text : List Char) (root : Option String)
    (specifier : String) (edge : Edge) : Prop :=
  (Extraction.ofText fs path text root).map (·.edges) = .ok [edge] ∧
    edge.target =
      Path.normalize (Path.parent (Path.normalize "/" (Path.unifySlashes path))) specifier

/-- One import with one specifier is one edge. -/
theorem exists_givesEdge {fs : FileSystem} {path specifier : String} {text : List Char}
    {root : Option String} {line column : Nat} {imported : Imported} {here : List String}
    (absolute : Path.isAbsolute (Path.unifySlashes path) = true)
    (noNul : '\x00' ∉ text) (noReturn : '\r' ∉ text) (imports : importsOf text = .ok [⟨line, column, imported⟩])
    (found : localModules fs (packagesOf (Path.unifySlashes path) root) (absoluteModules imported) =
      .ok here)
    (specifies : specifiers (packagesOf (Path.unifySlashes path) root) imported here = [specifier]) :
    ∃ edge, GivesEdge fs path text root specifier edge := by
  have read : Host.imports text = .ok [⟨line, column, imported⟩] :=
    readImports_of_importsOf noNul noReturn imports
  have edges : [(⟨line, column, imported⟩ : Import)].mapM (Edge.ofImport fs
      (packagesOf (Path.unifySlashes path) root) (Path.unifySlashes path)) =
      .ok [([Edge.made (Path.unifySlashes path) specifier (some ⟨line, column⟩)],
        outsiders imported here)] := by
    rw [List.mapM_cons, List.mapM_nil, Edge.ofImport_eq fs _ absolute, found]
    simp only [specifies]
    rfl
  refine ⟨Edge.made (Path.unifySlashes path) specifier (some ⟨line, column⟩), ?_, rfl⟩
  simp only [Extraction.ofText, read, Extraction.ofImports, Except.mapError, bind, Except.bind, edges]
  rfl

section Statements

variable {fs : FileSystem} {path : String} {root : Option String} {names : List String}
  {ending : List Char}

theorem exists_givesEdge_fromStatement {level : Nat} {x : String}
    (absolute : Path.isAbsolute (Path.unifySlashes path) = true) (one : 1 ≤ level)
    (some_name : names ≠ []) (plain : ∀ n ∈ names, IsPlainName n) (plainName : IsPlainName x)
    (ends : ending = [] ∨ ending = ['\n']) :
    ∃ edge, GivesEdge fs path (fromStatement level names x ++ ending) root
      (levelPath level ++ modulePath (String.ofList (dotted names))) edge := by
  obtain ⟨line, column, imports⟩ := importsOf_fromStatement some_name plain plainName level ends
  have noNul : '\x00' ∉ fromStatement level names x :=
    not_mem_fromStatement plain plainName level (by decide) (by decide)
  have noReturn : '\r' ∉ fromStatement level names x :=
    not_mem_fromStatement plain plainName level (by decide) (by decide)
  obtain ⟨level, rfl⟩ := Nat.exists_eq_add_of_le' one
  exact exists_givesEdge absolute (not_mem_ending noNul (by decide) ends)
    (not_mem_ending noReturn (by decide) ends) imports rfl (specifiers_relative _ _ _ one)

theorem exists_givesEdge_importStatement
    (absolute : Path.isAbsolute (Path.unifySlashes path) = true)
    (some_name : names ≠ []) (plain : ∀ n ∈ names, IsPlainName n)
    (here : isLocal fs (packagesOf (Path.unifySlashes path) root) (String.ofList (dotted names)) =
      .ok true)
    (ends : ending = [] ∨ ending = ['\n']) :
    ∃ edge, GivesEdge fs path (importStatement names ++ ending) root
      (packagesOf (Path.unifySlashes path) root ++ "/" ++ modulePath (String.ofList (dotted names)))
      edge := by
  obtain ⟨line, column, imports⟩ := importsOf_importStatement some_name plain ends
  have noNul : '\x00' ∉ importStatement names :=
    not_mem_importStatement plain (by decide) (by decide)
  have noReturn : '\r' ∉ importStatement names :=
    not_mem_importStatement plain (by decide) (by decide)
  exact exists_givesEdge absolute (not_mem_ending noNul (by decide) ends)
    (not_mem_ending noReturn (by decide) ends) imports (localModules_of_isLocal here) rfl

end Statements

end Source

open Source

/-- One import gives one target, whether it is spelled with dots or in full. The source lies in the
innermost of the packages, and with `level` dots all but the `level - 1` innermost ones are left. -/
theorem Extraction.targets_agree (fs : FileSystem) {root stem x : String}
    {packages module : List String} {level : Nat} {ending : List Char}
    (rooted : isRooted root.toList = true) (clean : Clean root.toList)
    (packagesPlain : ∀ p ∈ packages, IsPlainName p) (notFuture : packages.head? ≠ some "__future__")
    (stemPlain : IsStem stem)
    (file : fs.isFile (Path.tidy (sourcePath root packages stem)) = true)
    (one : 1 ≤ level) (le : level ≤ packages.length)
    (some_module : module ≠ []) (modulePlain : ∀ m ∈ module, IsPlainName m)
    (plainName : IsPlainName x) (ends : ending = [] ∨ ending = ['\n']) :
    ∃ relative absolute : Edge,
      (Extraction.ofText fs (Path.tidy (sourcePath root packages stem))
        (fromStatement level module x ++ ending) (some root)).map (·.edges) = .ok [relative] ∧
      (Extraction.ofText fs (Path.tidy (sourcePath root packages stem))
        (importStatement (packages.take (packages.length - level + 1) ++ module) ++ ending)
        (some root)).map (·.edges) = .ok [absolute] ∧
      relative.target = absolute.target := by
  obtain ⟨segments, named⟩ := exists_segments packagesPlain
  have source (base : String) :=
    normalize_sourcePath base rooted clean packagesPlain stemPlain named
  obtain ⟨sourceRooted, sourceClean, -⟩ := Path.unifySlashes_tidy
    (isRooted_sourcePath rooted packages stem) (clean_sourcePath clean packagesPlain stemPlain)
  have absolutePath := Path.isAbsolute_of_isRooted sourceRooted sourceClean
  have inner : ∀ n ∈ packages.take (packages.length - level + 1) ++ module, IsPlainName n := by
    intro n hn
    rcases List.mem_append.mp hn with package | name
    · exact packagesPlain n (List.mem_of_mem_take package)
    · exact modulePlain n name
  -- the outermost package is a directory, as it lies on the way to the source
  have here : isLocal fs
      (packagesOf (Path.unifySlashes (Path.tidy (sourcePath root packages stem))) (some root))
      (String.ofList (dotted (packages.take (packages.length - level + 1) ++ module))) = .ok true := by
    cases packages with
    | nil => exact absurd (Nat.le_trans one le) (by simp)
    | cons package packages =>
      have other : package ≠ "__future__" := fun same => notFuture (congrArg some same)
      exact isLocal_of_isFile _ rooted clean packagesPlain other stemPlain file _
  obtain ⟨relative, relativeEdge, relativeTarget⟩ :=
    @exists_givesEdge_fromStatement fs _ (some root) module ending level x absolutePath one
      some_module modulePlain plainName ends
  obtain ⟨absolute, absoluteEdge, absoluteTarget⟩ :=
    exists_givesEdge_importStatement absolutePath (by simp [some_module]) inner here ends
  refine ⟨relative, absolute, relativeEdge, absoluteEdge, ?_⟩
  rw [relativeTarget, absoluteTarget, source, target_relative modulePlain named one le,
    target_absolute _ _ rooted clean inner]

/-- A source in a package within a package. -/
def nested : FileSystem :=
  ⟨[(["r", "p", "q", "f.py"], .file [])], []⟩

/-- Two dots leave the outer one of two packages. -/
theorem Extraction.targets_agree_one_up :
    ∃ relative absolute : Edge,
      (Extraction.ofText nested (Path.tidy (sourcePath "/r//./" ["p", "q"] "f"))
        (fromStatement 2 ["m", "n"] "x" ++ ['\n']) (some "/r//./")).map (·.edges) =
          .ok [relative] ∧
      (Extraction.ofText nested (Path.tidy (sourcePath "/r//./" ["p", "q"] "f"))
        (importStatement ["p", "m", "n"] ++ ['\n']) (some "/r//./")).map (·.edges) =
          .ok [absolute] ∧
      relative.target = absolute.target := by
  have clean : Clean "/r//./".toList := ⟨by decide, by decide⟩
  have packages : ∀ p ∈ ["p", "q"], IsPlainName p := by decide
  have stem : IsStem "f" := by decide
  have file : nested.isFile (Path.tidy (sourcePath "/r//./" ["p", "q"] "f")) = true := by
    rfl
  have names : ∀ m ∈ ["m", "n"], IsPlainName m := by decide
  have name : IsPlainName "x" := by decide
  exact Extraction.targets_agree nested rfl clean packages (by decide) stem file
    (by decide) (by decide) (by decide) names name (.inr rfl)

/-- A source whose name holds a backslash, in one package. -/
def backslashed : FileSystem :=
  ⟨[(["r", "p", "a\\b.py"], .file [])], []⟩

/-- The backslash counts as a slash, so the dots lead from a directory further down. -/
theorem Extraction.targets_differ_below_backslash :
    backslashed.isFile (Path.tidy (sourcePath "/r" ["p"] "a\\b")) = true ∧
    ∃ relative absolute : Edge,
      (Extraction.ofText backslashed (Path.tidy (sourcePath "/r" ["p"] "a\\b"))
        (fromStatement 1 ["m"] "x") (some "/r")).map (·.edges) = .ok [relative] ∧
      (Extraction.ofText backslashed (Path.tidy (sourcePath "/r" ["p"] "a\\b"))
        (importStatement ["p", "m"]) (some "/r")).map (·.edges) = .ok [absolute] ∧
      relative.target ≠ absolute.target := by
  have absolutePath : Path.isAbsolute
      (Path.unifySlashes (Path.tidy (sourcePath "/r" ["p"] "a\\b"))) = true := rfl
  have names : ∀ n ∈ ["p", "m"], IsPlainName n := by decide
  have name : IsPlainName "x" := by decide
  obtain ⟨relative, relativeEdge, relativeTarget⟩ :=
    @exists_givesEdge_fromStatement backslashed _ (some "/r") ["m"] [] 1 "x" absolutePath
      (by decide) (by decide) (fun n h => names n (List.mem_cons_of_mem _ h)) name (.inl rfl)
  obtain ⟨absolute, absoluteEdge, absoluteTarget⟩ :=
    @exists_givesEdge_importStatement backslashed _ (some "/r") ["p", "m"] [] absolutePath
      (by decide) names rfl (.inl rfl)
  rw [List.append_nil] at relativeEdge absoluteEdge
  refine ⟨rfl, relative, absolute, relativeEdge, absoluteEdge, ?_⟩
  rw [relativeTarget, absoluteTarget]
  decide +kernel

end ImportBoundary
