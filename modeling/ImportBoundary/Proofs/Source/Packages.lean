import ImportBoundary.Proofs.Files.Tree
import ImportBoundary.Proofs.Source.Relative
import ImportBoundary.Proofs.Source.Spelling

/-!
# Imports from the directory of packages

A module that is named in full gives an edge if its outermost package is in the directory of packages
(`StandsIn`), however that directory is spelled (`isLocal_of_isInReach`), and then the edge leads to the
directory and on by the module's names (`leadsInto_made`). With the imports by dots, this says what edges a
statement gives (`GivesEdges`): one after the other as its names are written, without those that are
elsewhere.

No package of a name that is too long is anywhere, but looking for it fails
(`isLocal_of_not_isInReach`).
-/

namespace ImportBoundary

open Text PathChars

namespace Source

open ImportBoundary.Path ImportBoundary.Address

/-! ## Definition -/

/-- There is a file at the path. -/
def isFileAt (fs : FileSystem) (path : String) : Bool :=
  fs.at? path matches some (.file _)

/-- The module's outermost package is in the directory `root`, as a directory or as a source. -/
def StandsIn (fs : FileSystem) (root module : String) : Prop :=
  packageOf module ≠ "__future__" ∧
    (fs.at? (root ++ "/" ++ packageOf module) = some .directory ∨
      isFileAt fs (root ++ "/" ++ packageOf module ++ ".py") = true)

instance (fs : FileSystem) (root module : String) : Decidable (StandsIn fs root module) :=
  inferInstanceAs (Decidable (_ ∧ _))

/-- The path of a name in the directory `root`, by the steps of the directory. -/
def pathIn (root name : String) : String :=
  String.ofList ('/' :: joinWith ['/'] (steps root.toList ++ [name.toList]))

/-- No path is too long by which the module's outermost package is looked for in the directory `root`. -/
def IsInReach (fs : FileSystem) (root module : String) : Prop :=
  packageOf module = "__future__" ∨
    fs.tooLong (pathIn root (packageOf module)) = false ∧
      (fs.at? (pathIn root (packageOf module)) = some .directory ∨
        fs.tooLong (pathIn root (packageOf module ++ ".py")) = false)

instance (fs : FileSystem) (root module : String) : Decidable (IsInReach fs root module) :=
  inferInstanceAs (Decidable (_ ∨ _))

/-- The modules that a statement names in full, if any. -/
def namedInFull : Imported → List String
  | .modules names => names
  | .names 0 module _ => module.toList
  | .names _ _ _ => []

/-- The edge leads from the directory `root` down by the names of the module. -/
structure LeadsInto (root module : String) (e : Edge) : Prop where
  canonical : IsCanonical e.target
  top : topOf e.target = topOf (Path.normalize "/" root)
  segments : segmentsOf e.target =
    segmentsOf (Path.normalize "/" root) ++ splitAtChar '.' module.toList

/-- The edge leads from the directory of the source `path` to where the dots and `way` lead. -/
structure LeadsByDots (path : String) (i : Import) (level : Nat) (way : String)
    (names : List (List Char)) (e : Edge) : Prop where
  target : e.target = Path.normalize (Path.parent e.sourceFile) (levelPath level ++ way)
  leads : IsNulFree path → LeadsFrom path i level names e

/-- The edges of the statement `i` in the source `path`, in the order in which its names are written.
Modules that are named in full count only if they stand in the directory `root`. -/
structure GivesEdges (fs : FileSystem) (path root : String) (i : Import) (group : List Edge) :
    Prop where
  placed : ∀ e ∈ group,
    e.sourceFile = Path.normalize "/" path ∧ e.location = some ⟨i.line, i.column⟩
  lead : match i.imported with
    | .modules modules =>
      List.Forall₂ (LeadsInto root) (modules.filter fun m => StandsIn fs root m) group
    | .names 0 module _ =>
      List.Forall₂ (LeadsInto root) (module.toList.filter fun m => StandsIn fs root m) group
    | .names (level + 1) (some module) _ =>
      ∃ e, group = [e] ∧ LeadsByDots path i (level + 1) (modulePath module)
        (splitAtChar '.' module.toList) e
    | .names (level + 1) none names =>
      List.Forall₂ (fun n e => LeadsByDots path i (level + 1) n [n.toList] e) names group

/-! ## Where packages are looked for -/

theorem joinWith_concat_append (names : List (List Char)) (last more : List Char) :
    joinWith ['/'] (names ++ [last]) ++ more = joinWith ['/'] (names ++ [last ++ more]) := by
  by_cases none : names = []
  · subst none
    rfl
  · rw [joinWith_concat _ _ none, joinWith_concat _ _ none, List.append_assoc]

section

variable {fs : FileSystem} {path root : String}

/-- A name in a directory is found by the steps of the directory. -/
theorem at_pathIn (rooted : isRooted root.toList = true) {name : String} (noSlash : '/' ∉ name.toList)
    (leading : leads name.toList = true) :
    fs.at? (pathIn root name) = fs.at? (root ++ "/" ++ name) := by
  have some_char : root.toList ≠ [] := by
    intro empty
    rw [empty] at rooted
    cases rooted
  have slashless : ∀ s ∈ steps root.toList ++ [name.toList], '/' ∉ s := by
    intro s mem
    rcases List.mem_append.mp mem with inSteps | last
    · exact (mem_steps inSteps).1.1
    · rwa [List.mem_singleton.mp last]
  have text : (root ++ "/" ++ name).toList = root.toList ++ '/' :: name.toList := by simp
  have byText : pieces (root ++ "/" ++ name).toList = pieces root.toList ++ [name.toList] := by
    rw [text, pieces, splitAtChar_append, splitAtChar_of_not_mem noSlash]
  have bySteps : pieces ('/' :: joinWith ['/'] (steps root.toList ++ [name.toList])) =
      ([] :: steps root.toList) ++ [name.toList] := by
    have opened : pieces ('/' :: joinWith ['/'] (steps root.toList ++ [name.toList])) =
        [[]] ++ pieces (joinWith ['/'] (steps root.toList ++ [name.toList])) :=
      splitAtChar_append '/' [] _
    rw [opened, pieces, splitAtChar_joinWith (by simp) slashless]
    rfl
  have same : ([] :: steps root.toList).filter leads = (pieces root.toList).filter leads := by
    rw [List.filter_cons_of_neg (by decide), steps, List.filter_filter]
    simp only [Bool.and_self]
  refine FileSystem.at_congr leading ?_ ?_ ?_ byText same
  · rw [pathIn, String.toList_ofList]
    rfl
  · rw [text, isRooted_append some_char, rooted]
  · rw [pathIn, String.toList_ofList, bySteps]

theorem at_pathIn_word (rooted : isRooted root.toList = true) {name : String} (word : IsWord name) :
    fs.at? (pathIn root name) = fs.at? (root ++ "/" ++ name) := by
  obtain ⟨some_char, noDot, -, noSlash, -⟩ := word.isSegment
  exact at_pathIn rooted noSlash (decide_eq_true ⟨some_char, noDot⟩)

theorem isFileAt_pathIn (rooted : isRooted root.toList = true) {name : String} (word : IsWord name) :
    isFileAt fs (pathIn root (name ++ ".py")) = isFileAt fs (root ++ "/" ++ name ++ ".py") := by
  obtain ⟨-, -, -, noSlash, -⟩ := word.isSegment
  have ending : '/' ∉ (name ++ ".py").toList := by
    rw [String.toList_append, List.mem_append]
    exact fun inside => inside.elim noSlash (by decide)
  have leading : leads (name ++ ".py").toList = true := by
    refine decide_eq_true ⟨by simp, fun dot => ?_⟩
    have lengths := congrArg List.length dot
    simp at lengths
  have parts : root ++ "/" ++ name ++ ".py" = root ++ "/" ++ (name ++ ".py") := String.append_assoc
  rw [isFileAt, isFileAt, at_pathIn rooted ending leading, parts]

theorem pathIn_append (root name ending : String) :
    pathIn root name ++ ending = pathIn root (name ++ ending) := by
  rw [← String.toList_inj, String.toList_append]
  simp only [pathIn, String.toList_ofList, List.cons_append, joinWith_concat_append,
    String.toList_append]

/-- A package is found under its own path or else under that of a source, unless one of them is too
long. -/
theorem hasPackage_eq (fs : FileSystem) (path : String) : hasPackage fs path =
    if fs.tooLong path = true then .error ⟨.tooLong, path⟩
    else if fs.at? path = some .directory then .ok true
    else if fs.tooLong (path ++ ".py") = true then .error ⟨.tooLong, path ++ ".py"⟩
    else .ok (isFileAt fs (path ++ ".py")) := by
  unfold hasPackage FileSystem.probe
  by_cases long : fs.tooLong path = true
  · rw [if_pos long, if_pos long]
    rfl
  · rw [if_neg long, if_neg long]
    by_cases there : fs.at? path = some .directory
    · simp [there, bind, Except.bind, pure, Except.pure]
    · by_cases longer : fs.tooLong (path ++ ".py") = true
      · simp [there, longer, bind, Except.bind]
      · simp only [there, longer, bind, Except.bind, pure, Except.pure, isFileAt]
        rfl

/-- The module is named by words, and its package by the first of them. -/
theorem isWord_packageOf {module : String} (isModule : IsModule module) : IsWord (packageOf module) := by
  obtain ⟨names, some_name, words, rfl⟩ := isModule
  obtain ⟨name, names, rfl⟩ := List.exists_cons_of_ne_nil some_name
  have word := words name List.mem_cons_self
  rwa [packageOf_dotted names word]

theorem isLocal_of_ne_future (rooted : isRooted root.toList = true) (forward : '\\' ∉ root.toList)
    (sourceFile : String) {module : String} (isModule : IsModule module)
    (other : packageOf module ≠ "__future__") : isLocal fs (packagesOf sourceFile (some root)) module =
      hasPackage fs (pathIn root (packageOf module)) := by
  have notSpecial : ¬ (packageOf module = "" ∨ packageOf module = "__future__") :=
    not_or.mpr ⟨(isWord_packageOf isModule).1, other⟩
  rw [isLocal, if_neg notSpecial, packagePath_packagesOf rooted forward, pathIn]

/-- A module counts if its outermost package stands in the directory of packages. -/
theorem isLocal_of_isInReach (rooted : isRooted root.toList = true) (forward : '\\' ∉ root.toList)
    (sourceFile : String) {module : String} (isModule : IsModule module)
    (reach : IsInReach fs root module) :
    isLocal fs (packagesOf sourceFile (some root)) module = .ok (decide (StandsIn fs root module)) := by
  by_cases future : packageOf module = "__future__"
  · rw [isLocal, if_pos (.inr future), decide_eq_false fun stands => stands.1 future]
  · obtain ⟨fits, there⟩ := reach.resolve_left future
    have word := isWord_packageOf isModule
    rw [isLocal_of_ne_future rooted forward sourceFile isModule future, hasPackage_eq, fits,
      if_neg Bool.false_ne_true]
    by_cases directory : fs.at? (pathIn root (packageOf module)) = some .directory
    · rw [if_pos directory]
      rw [at_pathIn_word rooted word] at directory
      exact congrArg Except.ok (decide_eq_true ⟨future, .inl directory⟩).symm
    · have fitsToo := there.resolve_left directory
      rw [if_neg directory, pathIn_append, fitsToo, if_neg Bool.false_ne_true,
        isFileAt_pathIn rooted word]
      rw [at_pathIn_word rooted word] at directory
      refine congrArg Except.ok ?_
      rw [Bool.eq_iff_iff, decide_eq_true_iff]
      exact ⟨fun source => ⟨future, .inr source⟩, fun stands => stands.2.resolve_left directory⟩

/-- Looking for a package that is out of reach fails. -/
theorem isLocal_of_not_isInReach (rooted : isRooted root.toList = true)
    (forward : '\\' ∉ root.toList) (sourceFile : String) {module : String}
    (isModule : IsModule module) (reach : ¬ IsInReach fs root module) :
    ∃ path, isLocal fs (packagesOf sourceFile (some root)) module = .error ⟨.tooLong, path⟩ := by
  obtain ⟨future, refused⟩ := not_or.mp reach
  rw [isLocal_of_ne_future rooted forward sourceFile isModule future, hasPackage_eq, pathIn_append]
  cases fits : fs.tooLong (pathIn root (packageOf module)) with
  | true => exact ⟨_, if_pos rfl⟩
  | false =>
    obtain ⟨notThere, long⟩ := not_or.mp (not_and.mp refused fits)
    rw [if_neg Bool.false_ne_true, if_neg notThere, if_pos (Bool.of_not_eq_false long)]
    exact ⟨_, rfl⟩

/-- Of some modules those count that stand in the directory of packages. -/
theorem localModules_of_isInReach (rooted : isRooted root.toList = true)
    (forward : '\\' ∉ root.toList) (sourceFile : String) {modules : List String}
    (areModules : ∀ m ∈ modules, IsModule m) (reach : ∀ m ∈ modules, IsInReach fs root m) :
    localModules fs (packagesOf sourceFile (some root)) modules =
      .ok (modules.filter fun m => StandsIn fs root m) := by
  induction modules with
  | nil => rfl
  | cons m modules ih =>
    obtain ⟨isModule, others⟩ := List.forall_mem_cons.mp areModules
    obtain ⟨inReach, otherReach⟩ := List.forall_mem_cons.mp reach
    rw [localModules, isLocal_of_isInReach rooted forward sourceFile isModule inReach,
      ih others otherReach, List.filter_cons]
    rfl

theorem localModules_of_not_isInReach (rooted : isRooted root.toList = true)
    (forward : '\\' ∉ root.toList) (sourceFile : String) {modules : List String}
    (areModules : ∀ m ∈ modules, IsModule m) {module : String} (mem : module ∈ modules)
    (reach : ¬ IsInReach fs root module) :
    ∃ path, localModules fs (packagesOf sourceFile (some root)) modules =
      .error ⟨.tooLong, path⟩ := by
  induction modules with
  | nil => cases mem
  | cons m modules ih =>
    obtain ⟨isModule, others⟩ := List.forall_mem_cons.mp areModules
    rw [localModules]
    by_cases inReach : IsInReach fs root m
    · have later : module ∈ modules :=
        (List.mem_cons.mp mem).resolve_left fun same => reach (same ▸ inReach)
      obtain ⟨path, failed⟩ := ih others later
      rw [isLocal_of_isInReach rooted forward sourceFile isModule inReach, failed]
      exact ⟨path, rfl⟩
    · obtain ⟨path, failed⟩ :=
        isLocal_of_not_isInReach rooted forward sourceFile isModule inReach
      rw [failed]
      exact ⟨path, rfl⟩

/-! ## Names that are too long -/

theorem pieces_pathIn_top {name : String} (noSlash : '/' ∉ name.toList) :
    pieces (pathIn "/" name).toList = [[], name.toList] := by
  have text : (pathIn "/" name).toList = [] ++ '/' :: name.toList := by
    rw [pathIn, String.toList_ofList]
    rfl
  rw [text, pieces, splitAtChar_append, splitAtChar_of_not_mem noSlash]
  rfl

theorem tooLong_pathIn_top (top : fs.entry? [] = some .directory) {name : String}
    (noSlash : '/' ∉ name.toList)
    (long : FileSystem.longestName < FileSystem.byteLength name.toList) :
    fs.tooLong (pathIn "/" name) = true := by
  refine Bool.of_not_eq_false fun fits => ?_
  have looked := (FileSystem.tooLong_eq_false_iff.mp fits).2
  have start : fs.startOf (pathIn "/" name).toList = [] := by
    rw [pathIn, String.toList_ofList]
    rfl
  have here : fs.lookUp [] [] = .ok [] := by
    rw [FileSystem.lookUp_of_short (by decide)]
    exact FileSystem.step_of_not_leads top rfl
  have refused : fs.lookUp [] name.toList = .error .tooLong := if_pos ⟨top, long⟩
  rw [pieces_pathIn_top noSlash, start, List.foldlM_cons, here] at looked
  exact looked (by simp [bind, Except.bind, refused])

theorem packageOf_of_isPlainName {name : String} (plain : IsPlainName name) : packageOf name = name := by
  have first := packageOf_dotted [] plain.isWord
  have same : String.ofList (dotted [name]) = name := by simp [dotted, joinWith]
  rwa [same] at first

theorem not_isInReach_of_long (top : fs.entry? [] = some .directory) {name : String}
    (plain : IsPlainName name)
    (long : FileSystem.longestName < FileSystem.byteLength name.toList) :
    ¬ IsInReach fs "/" name := by
  obtain ⟨-, -, -, noSlash, -⟩ := plain.isWord.isSegment
  rw [IsInReach, packageOf_of_isPlainName plain, tooLong_pathIn_top top noSlash long]
  rintro (future | ⟨fits, -⟩)
  · rw [future] at long
    exact absurd long (by decide)
  · cases fits

/-! ## Edges -/

/-- No path that holds U+0000 has anything in it. -/
theorem nulFree_of_standsIn (named : fs.IsNamed) {module : String} (stands : StandsIn fs root module) :
    IsNulFree root := by
  have free {p : String} {e : Entry} (there : fs.at? (root ++ p) = some e) : IsNulFree root := by
    have whole := named.nulFree there
    rw [String.toList_append] at whole
    exact fun inside => whole (List.mem_append_left _ inside)
  obtain ⟨-, directory | source⟩ := stands
  · rw [String.append_assoc] at directory
    exact free directory
  · rw [String.append_assoc, String.append_assoc] at source
    unfold isFileAt at source
    split at source
    · next there => exact free there
    · cases source

theorem leadsInto_made (rooted : isRooted root.toList = true) (clean : Clean root.toList)
    (sourceFile source : String) (location : Option Location) {module : String}
    (isModule : IsModule module) :
    LeadsInto root module (Edge.made source
      (packagesOf sourceFile (some root) ++ "/" ++ modulePath module) location) := by
  obtain ⟨names, some_name, words, rfl⟩ := isModule
  obtain ⟨segments, named⟩ := exists_segments_of_words words
  have above : Path.normalize "/" root = ((Address.top none).follow (steps root.toList)).path :=
    Path.normalize_rooted "/" rooted clean
  have target (base : String) := target_of_words base sourceFile rooted clean words
  simp only [← named, Address.follow_segments] at target
  constructor
  · simp only [Edge.made, target]
    exact isCanonical_path _
  · simp only [Edge.made, target, above, topOf_path]
    rfl
  · simp only [Edge.made, target, above, segmentsOf_path, names_below, named, String.toList_ofList,
      splitAtChar_dotted words some_name]

theorem normalize_unified (path : String) :
    Path.normalize "/" (Path.unifySlashes path) = Path.normalize "/" path := by
  have unified : PathChars.unifySlashes (Path.unifySlashes path).toList =
      PathChars.unifySlashes path.toList := by
    rw [Path.unifySlashes, String.toList_ofList, unifySlashes_idem]
  simp only [Path.normalize, PathChars.normalize, unified]

/-- Each module that stands in the directory of packages gives an edge. -/
theorem leadsInto_locals (named : fs.IsNamed) (rooted : isRooted root.toList = true)
    (forward : '\\' ∉ root.toList) (sourceFile : String) (location : Option Location)
    {modules : List String} (areModules : ∀ m ∈ modules, IsModule m) :
    List.Forall₂ (LeadsInto root) (modules.filter fun m => StandsIn fs root m)
      ((modules.filter fun m => StandsIn fs root m).map fun m =>
        Edge.made sourceFile (packagesOf sourceFile (some root) ++ "/" ++ modulePath m) location) := by
  rw [List.forall₂_map_right_iff, List.forall₂_same]
  intro m mem
  obtain ⟨among, stands⟩ := List.mem_filter.mp mem
  have nul := nulFree_of_standsIn named (of_decide_eq_true stands)
  exact leadsInto_made rooted ⟨nul, forward⟩ sourceFile sourceFile location (areModules m among)

theorem isModule_of_namedInFull {imported : Imported} (worded : imported.IsWorded) :
    ∀ m ∈ namedInFull imported, IsModule m := by
  cases imported with
  | modules modules => exact worded
  | names level module names =>
    cases level with
    | zero =>
      intro m mem
      exact worded.1 m (Option.mem_toList.mp mem)
    | succ level => exact nofun

/-- The modules of a statement that are looked for are those that it names in full. -/
theorem localModules_absoluteModules (packages : String) (imported : Imported) :
    localModules fs packages (absoluteModules imported) =
      localModules fs packages (namedInFull imported) := by
  cases imported with
  | modules modules => rfl
  | names level module names =>
    cases level with
    | zero => cases module <;> rfl
    | succ level => rfl

/-- The edges of a statement are those of its specifiers. -/
theorem givesEdges (named : fs.IsNamed) (absolute : Path.isAbsolute path = true)
    (rooted : isRooted root.toList = true) (forward : '\\' ∉ root.toList) {i : Import}
    (worded : i.imported.IsWorded) :
    let sourceFile := Path.unifySlashes path
    GivesEdges fs path root i
      ((specifiers (packagesOf sourceFile (some root)) i.imported
        ((namedInFull i.imported).filter fun m => StandsIn fs root m)).map fun specifier =>
          Edge.made sourceFile specifier (some ⟨i.line, i.column⟩)) := by
  intro sourceFile
  have file : Path.normalize "/" sourceFile = Path.normalize "/" path := normalize_unified path
  constructor
  · intro e mem
    obtain ⟨specifier, -, rfl⟩ := List.mem_map.mp mem
    exact ⟨file, rfl⟩
  · have areModules := isModule_of_namedInFull worded
    obtain ⟨line, column, imported⟩ := i
    cases imported with
    | modules modules =>
      simp only [specifiers, relativeSpecifiers, List.nil_append, List.map_map]
      exact leadsInto_locals named rooted forward sourceFile _ areModules
    | names level module names =>
      obtain ⟨moduleWords, nameWords⟩ := worded
      cases level with
      | zero =>
        simp only [specifiers, relativeSpecifiers, List.nil_append, List.map_map]
        exact leadsInto_locals named rooted forward sourceFile _ areModules
      | succ level =>
        simp only [specifiers, namedInFull, List.filter_nil, List.map_nil, List.append_nil]
        cases module with
        | none =>
          simp only [relativeSpecifiers, List.map_map, List.forall₂_map_right_iff, List.forall₂_same]
          intro n mem
          refine ⟨rfl, fun nul => ?_⟩
          have word : ∀ m ∈ [n], IsWord m := by simpa using nameWords n mem
          exact leadsFrom_made absolute nul (Nat.succ_pos level) word rfl
        | some module =>
          refine ⟨_, rfl, rfl, fun nul => ?_⟩
          obtain ⟨parts, some_part, words, rfl⟩ := moduleWords module rfl
          rw [String.toList_ofList, splitAtChar_dotted words some_part]
          exact leadsFrom_made absolute nul (Nat.succ_pos level) words (modulePath_dotted words)

/-- What a statement gives whose packages can all be looked for. -/
theorem ofImport_of_isInReach (named : fs.IsNamed) (absolute : Path.isAbsolute path = true)
    (rooted : isRooted root.toList = true) (forward : '\\' ∉ root.toList) {i : Import}
    (worded : i.imported.IsWorded) (reach : ∀ m ∈ namedInFull i.imported, IsInReach fs root m) :
    ∃ group skipped, Edge.ofImport fs (packagesOf (Path.unifySlashes path) (some root))
      (Path.unifySlashes path) i = .ok (group, skipped) ∧ GivesEdges fs path root i group := by
  rw [Edge.ofImport_eq fs _ (Extraction.isAbsolute_unifySlashes absolute),
    localModules_absoluteModules,
    localModules_of_isInReach rooted forward _ (isModule_of_namedInFull worded) reach]
  exact ⟨_, _, rfl, givesEdges named absolute rooted forward worded⟩

theorem ofImport_of_not_isInReach (absolute : Path.isAbsolute path = true)
    (rooted : isRooted root.toList = true) (forward : '\\' ∉ root.toList) {i : Import}
    (worded : i.imported.IsWorded) {module : String} (mem : module ∈ namedInFull i.imported)
    (reach : ¬ IsInReach fs root module) :
    ∃ refused, Edge.ofImport fs (packagesOf (Path.unifySlashes path) (some root))
      (Path.unifySlashes path) i = .error (.file ⟨.tooLong, refused⟩) := by
  obtain ⟨refused, failed⟩ := localModules_of_not_isInReach rooted forward
    (Path.unifySlashes path) (isModule_of_namedInFull worded) mem reach
  rw [Edge.ofImport_eq fs _ (Extraction.isAbsolute_unifySlashes absolute),
    localModules_absoluteModules, failed]
  exact ⟨refused, rfl⟩

end

end Source

end ImportBoundary
