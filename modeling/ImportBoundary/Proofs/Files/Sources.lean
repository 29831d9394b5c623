import ImportBoundary.Proofs.Files.Tree
import Mathlib.Data.List.Forall2

/-!
# Which sources are found

What `sources` gives for a list of paths, in a tree: for a file the file itself, if that is its suffix;
for a directory whatever lies below it under the name of a source and in no excluded directory, each
once and in the order of the names on the way (`lists_sourcesAt`). Directories may have such names, and
they are found as well; so what is found can be read exactly if there is no such directory
(`Lists.readable_iff`).
-/

namespace ImportBoundary

open Text

namespace FileSystem

/-! ## Definition -/

/-- What follows the last dot of a name; all of it, if there is none. -/
def afterLastDot (name : List Char) : List Char :=
  (splitAtChar '.' name).getLastD []

/-- The suffix of a name: its last dot and what follows, unless the name starts or ends there. -/
def suffixOf (name : List Char) : List Char :=
  if afterLastDot name ≠ [] ∧ (afterLastDot name).length + 1 < name.length then
    '.' :: afterLastDot name
  else []

/-- The last name is one of a source, and no name is excluded. -/
def IsSourceRoute (excluded : List String) (r : Route) : Prop :=
  (∃ name, r.getLast? = some name ∧ ".py".toList <:+ name.toList) ∧ ∀ name ∈ r, name ∉ excluded

/-- What a path lists: the file that it leads to, if that is a source; of the directory that it leads
to, the sources below that are of a kind, from the first to the last. -/
inductive Lists (fs : FileSystem) (excluded : List String) (kind : Entry → Prop) :
    String → List String → Prop
  | file {root : String} {bytes : List UInt8} (leads : fs.at? root = some (.file bytes)) :
      Lists fs excluded kind root
        (if suffixOf (Path.lastName root).toList = ".py".toList then [root] else [])
  | directory {root : String} {base : Route} {routes : List Route}
      (leads : fs.follow root = .ok base) (there : fs.entry? base = some .directory)
      (sorted : routes.Pairwise List.lt)
      (below : ∀ r, r ∈ routes ↔ r ≠ [] ∧ IsSourceRoute excluded r ∧
        ∃ e, fs.entry? (base ++ r) = some e ∧ kind e) :
      Lists fs excluded kind root
        (routes.map fun r => Path.child root ("/".intercalate r))

/-- What is found lists one path after the other. -/
def ListsAll (fs : FileSystem) (excluded : List String) (kind : Entry → Prop)
    (roots found : List String) : Prop :=
  ∃ groups, roots.Forall₂ (Lists fs excluded kind) groups ∧ found = groups.flatten

/-- What is found are the files that the paths list, and each of them can be read. -/
def ListsFiles (fs : FileSystem) (excluded roots found : List String) : Prop :=
  ListsAll fs excluded (·.isFile = true) roots found ∧
    ∀ path ∈ found, ∃ bytes, fs.read path = .ok bytes

/-- Below a path there is a directory with the name of a source. -/
def HasSourceDirectory (fs : FileSystem) (excluded : List String) (root : String) : Prop :=
  ∃ base r, fs.follow root = .ok base ∧ fs.entry? base = some .directory ∧ r ≠ [] ∧
    IsSourceRoute excluded r ∧ fs.entry? (base ++ r) = some .directory

/-! ## The order of routes -/

/-- Names are compared one by one. -/
theorem isBefore_iff {r s : Route} : isBefore r s = true ↔ List.le r s := by
  fun_induction isBefore r s with
  | case1 s => exact iff_of_true rfl (List.nil_le s)
  | case2 a as => exact iff_of_false Bool.false_ne_true fun le => le (List.nil_lt_cons a as)
  | case3 as a bs ih =>
    rw [ih]
    constructor
    · intro tail
      exact List.cons_le_cons_iff.mpr (.inr ⟨rfl, tail⟩)
    · intro whole
      rcases List.cons_le_cons_iff.mp whole with less | ⟨-, tail⟩
      · exact absurd less (String.lt_irrefl a)
      · exact tail
  | case4 a as b bs ne =>
    rw [decide_eq_true_iff]
    constructor
    · intro less
      exact List.cons_le_cons_iff.mpr (.inl less)
    · intro whole
      exact (List.cons_le_cons_iff.mp whole).resolve_right fun same => ne same.1

theorem nodup_eraseDups (routes : List Route) : routes.eraseDups.Nodup := by
  cases routes with
  | nil => exact List.nodup_nil
  | cons r routes =>
    rw [List.eraseDups_cons, List.nodup_cons, List.mem_eraseDups]
    exact ⟨by simp, nodup_eraseDups (routes.filter fun s => !s == r)⟩
termination_by routes.length
decreasing_by exact Nat.lt_succ_of_le (List.length_filter_le _ _)

theorem sorted_routesBelow (fs : FileSystem) (base : Route) :
    (fs.routesBelow base).Pairwise List.lt := by
  unfold routesBelow
  generalize ((fs.current :: fs.entries.map (·.1)).filterMap (below? base)).flatMap waysTo = ways
  have ordered : (ways.eraseDups.mergeSort isBefore).Pairwise fun r s => isBefore r s = true := by
    apply List.pairwise_mergeSort
    · intro a b c
      rw [isBefore_iff, isBefore_iff, isBefore_iff]
      exact List.le_trans
    · intro a b
      rw [Bool.or_eq_true, isBefore_iff, isBefore_iff]
      exact List.le_total a b
  have once : (ways.eraseDups.mergeSort isBefore).Nodup :=
    (List.mergeSort_perm _ _).nodup_iff.mpr (nodup_eraseDups ways)
  refine (ordered.and once).imp ?_
  rintro r s ⟨before, ne⟩
  apply List.not_le.mp
  intro after
  exact ne (List.le_antisymm (isBefore_iff.mp before) after)

/-- Routes in order are those below a directory if they are what is met on the ways into it. -/
theorem routesBelow_eq {fs : FileSystem} {base : Route} {routes : List Route}
    (sorted : routes.Pairwise List.lt)
    (met : (((fs.current :: fs.entries.map (·.1)).filterMap (below? base)).flatMap
      waysTo).eraseDups.Perm routes) :
    fs.routesBelow base = routes := by
  refine List.Perm.eq_of_pairwise (fun a b _ _ before after => ?_) (sorted_routesBelow fs base) sorted
    ((List.mergeSort_perm _ _).trans met)
  exact absurd after (List.lt_asymm before)

/-! ## Everything below a directory -/

theorem below?_eq_some_iff {base route rest : Route} :
    below? base route = some rest ↔ rest ≠ [] ∧ route = base ++ rest := by
  have longer (more : Route) : (base.isPrefixOf (base ++ more) &&
      decide (base.length < (base ++ more).length)) = decide (more ≠ []) := by
    have pre : base.isPrefixOf (base ++ more) = true :=
      List.isPrefixOf_iff_prefix.mpr (List.prefix_append base more)
    rw [pre, Bool.true_and, decide_eq_decide, List.length_append, ← List.length_pos_iff]
    omega
  unfold below?
  constructor
  · intro h
    split at h
    · next found =>
      cases h
      obtain ⟨more, rfl⟩ := List.isPrefixOf_iff_prefix.mp (Bool.and_eq_true_iff.mp found).1
      rw [longer, decide_eq_true_iff] at found
      rw [List.drop_left]
      exact ⟨found, rfl⟩
    · cases h
  · rintro ⟨some_name, rfl⟩
    rw [longer, decide_eq_true some_name, if_pos rfl, List.drop_left]

theorem mem_waysTo {r rest : Route} : r ∈ waysTo rest ↔ r ≠ [] ∧ r <+: rest := by
  simp only [waysTo, List.mem_map, List.mem_range]
  constructor
  · rintro ⟨n, inside, rfl⟩
    refine ⟨?_, List.take_prefix ..⟩
    rw [← List.length_pos_iff, List.length_take]
    omega
  · rintro ⟨some_name, pre⟩
    have pos := List.length_pos_iff.mpr some_name
    have short := pre.length_le
    refine ⟨r.length - 1, by omega, ?_⟩
    rw [Nat.sub_add_cancel pos]
    exact (List.prefix_iff_eq_take.mp pre).symm

/-- Whatever is there below a directory is found, and nothing else. -/
theorem mem_routesBelow {fs : FileSystem} {base r : Route} : r ∈ fs.routesBelow base ↔
    r ≠ [] ∧ ∃ e, fs.entry? (base ++ r) = some e := by
  rw [← Option.isSome_iff_exists, entry_isSome_iff]
  unfold routesBelow
  rw [(List.mergeSort_perm _ _).mem_iff, List.mem_eraseDups, List.mem_flatMap]
  simp only [List.mem_filterMap, below?_eq_some_iff, mem_waysTo]
  have listed : (∃ route ∈ fs.current :: fs.entries.map (·.1), base ++ r <+: route) ↔
      base ++ r <+: fs.current ∨ ∃ e ∈ fs.entries, base ++ r <+: e.1 := by
    simp
  rw [← listed]
  constructor
  · rintro ⟨rest, ⟨route, mem, some_name, rfl⟩, inner, pre⟩
    exact ⟨inner, _, mem, (List.prefix_append_right_inj base).mpr pre⟩
  · rintro ⟨inner, route, mem, more, eq⟩
    refine ⟨r ++ more, ⟨route, mem, by simp [inner], ?_⟩, inner, List.prefix_append r more⟩
    rw [← eq, List.append_assoc]

/-! ## Names of sources -/

theorem filter_iff {excluded : List String} {r : Route} :
    ((r.getLast?.map hasSourceSuffix).getD false && !r.any excluded.contains) = true ↔
      IsSourceRoute excluded r := by
  unfold IsSourceRoute
  rw [Bool.and_eq_true]
  apply and_congr
  · cases r.getLast? <;> simp [hasSourceSuffix, sourceSuffix]
  · simp

theorem afterLastDot_append {ending : List Char} (noDot : '.' ∉ ending) (before : List Char) :
    afterLastDot (before ++ '.' :: ending) = ending := by
  rw [afterLastDot, splitAtChar_append, splitAtChar_of_not_mem noDot]
  simp

/-- Where a name is more than what follows its last dot, there is a dot. -/
theorem exists_dot {name : List Char} (longer : (afterLastDot name).length < name.length) :
    ∃ before, name = before ++ '.' :: afterLastDot name := by
  have joined := joinWith_splitAtChar '.' name
  obtain ⟨before, last, eq⟩ :=
    (List.eq_nil_or_concat (splitAtChar '.' name)).resolve_left (splitAtChar_ne_nil _ _)
  have ending : afterLastDot name = last := by
    rw [afterLastDot, eq]
    simp
  rw [eq, List.concat_eq_append] at joined
  rw [ending] at longer ⊢
  by_cases alone : before = []
  · subst alone
    rw [← joined] at longer
    exact absurd longer (Nat.lt_irrefl _)
  · rw [joinWith_concat _ _ alone] at joined
    exact ⟨joinWith ['.'] before, by simpa using joined.symm⟩

theorem suffixOf_eq_iff {name ending : List Char} (some_char : ending ≠ []) (noDot : '.' ∉ ending) :
    suffixOf name = '.' :: ending ↔ ∃ before, before ≠ [] ∧ name = before ++ '.' :: ending := by
  unfold suffixOf
  constructor
  · intro h
    split at h
    · next inside =>
      obtain ⟨before, eq⟩ := exists_dot (Nat.lt_of_succ_lt inside.2)
      rw [(List.cons.inj h).2] at eq inside
      refine ⟨before, ?_, eq⟩
      rintro rfl
      rw [eq] at inside
      exact absurd inside.2 (Nat.lt_irrefl _)
    · cases h
  · rintro ⟨before, some_before, rfl⟩
    have pos := List.length_pos_iff.mpr some_before
    rw [afterLastDot_append noDot, if_pos]
    refine ⟨some_char, ?_⟩
    simp only [List.length_append, List.length_cons]
    omega

/-- A name is that of a source if and only if `.py` is its suffix. -/
theorem isSourceName_iff {name : String} :
    isSourceName name = true ↔ suffixOf name.toList = ".py".toList := by
  have suffix : suffixOf name.toList = ['.', 'p', 'y'] ↔
      ∃ before, before ≠ [] ∧ name.toList = before ++ ['.', 'p', 'y'] :=
    suffixOf_eq_iff (by decide) (by decide)
  refine Iff.trans ?_ suffix.symm
  rw [isSourceName, hasSourceSuffix, Bool.and_eq_true, List.isSuffixOf_iff_suffix, decide_eq_true_iff]
  constructor
  · rintro ⟨⟨before, eq⟩, longer⟩
    refine ⟨before, ?_, eq.symm⟩
    rintro rfl
    rw [← eq] at longer
    exact absurd longer (by decide)
  · rintro ⟨before, some_before, eq⟩
    have pos := List.length_pos_iff.mpr some_before
    refine ⟨⟨before, eq.symm⟩, ?_⟩
    rw [eq, List.length_append]
    exact Nat.lt_add_of_pos_left pos

/-! ## What is found -/

section

variable {fs : FileSystem} {excluded roots : List String} {root : String}

/-- A path that leads somewhere leads to a file or to a directory. -/
theorem cases_of_contains (there : fs.contains root = true) :
    (∃ bytes, fs.at? root = some (.file bytes)) ∨
      ∃ base, fs.follow root = .ok base ∧ fs.entry? base = some .directory := by
  obtain ⟨-, e, found⟩ := contains_iff_exists.mp there
  cases e with
  | file bytes => exact .inl ⟨bytes, found⟩
  | directory => exact .inr (at_eq_some_iff.mp found)

theorem read_of_at {bytes : List UInt8} (file : fs.at? root = some (.file bytes)) :
    fs.read root = .ok bytes := by
  unfold at? at file
  unfold read
  cases leads : fs.follow root with
  | error obstacle => simp [leads] at file
  | ok route =>
    simp only [leads] at file
    simp only [file]

/-- What a path lists of files and directories is what is found. -/
theorem lists_sourcesAt (there : fs.contains root = true) :
    fs.Lists excluded (fun _ => True) root (fs.sourcesAt excluded root) := by
  rcases cases_of_contains there with ⟨bytes, file⟩ | ⟨base, leads, directory⟩
  · have found : fs.sourcesAt excluded root =
        if suffixOf (Path.lastName root).toList = ".py".toList then [root] else [] := by
      unfold at? at file
      unfold sourcesAt
      cases leads : fs.follow root with
      | error obstacle => simp [leads] at file
      | ok route =>
        simp only [leads] at file
        simp only [file, isSourceName_iff]
    rw [found]
    exact .file file
  · unfold sourcesAt
    simp only [leads, directory]
    refine .directory leads directory ((fs.sorted_routesBelow base).filter _) fun r => ?_
    rw [List.mem_filter, filter_iff, mem_routesBelow]
    simp only [and_true]
    exact and_right_comm.trans and_assoc

/-- Where no directory has the name of a source, what is listed are files. -/
theorem Lists.files {found : List String} (lists : fs.Lists excluded (fun _ => True) root found)
    (none : ¬ fs.HasSourceDirectory excluded root) :
    fs.Lists excluded (·.isFile = true) root found := by
  cases lists with
  | file leads => exact .file leads
  | @directory base routes leads there sorted below =>
    refine .directory leads there sorted fun r => ?_
    rw [below r]
    refine and_congr_right fun inner => and_congr_right fun source => exists_congr fun e => ?_
    refine and_congr_right fun entry => ?_
    cases e with
    | file bytes => exact iff_of_true trivial rfl
    | directory => exact absurd ⟨base, r, leads, there, inner, source, entry⟩ none

/-- All that is listed can be read, or a directory has the name of a source. -/
theorem Lists.readable_iff {found : List String}
    (lists : fs.Lists excluded (fun _ => True) root found) (tree : fs.IsTree) :
    (∀ path ∈ found, ∃ bytes, fs.read path = .ok bytes) ↔
      ¬ fs.HasSourceDirectory excluded root := by
  cases lists with
  | @file bytes leads =>
    refine iff_of_true ?_ ?_
    · intro path mem
      obtain rfl : path = root := by
        split at mem
        · exact List.mem_singleton.mp mem
        · cases mem
      exact ⟨bytes, read_of_at leads⟩
    · rintro ⟨base, r, follows, there, -⟩
      simp [at?, follows, there] at leads
  | @directory base routes leads there sorted below =>
    constructor
    · rintro readable ⟨base', r, leads', -, inner, source, entry⟩
      cases leads.symm.trans leads'
      have inside : r ∈ routes := (below r).mpr ⟨inner, source, .directory, entry, trivial⟩
      have file := (tree.read_child leads inner entry).mp
        (readable _ (List.mem_map_of_mem inside))
      cases file
    · intro none path mem
      obtain ⟨r, inside, rfl⟩ := List.mem_map.mp mem
      obtain ⟨inner, source, e, entry, -⟩ := (below r).mp inside
      refine (tree.read_child leads inner entry).mpr ?_
      cases e with
      | file bytes => rfl
      | directory => exact absurd ⟨base, r, leads, there, inner, source, entry⟩ none

/-- In a tree the sources that are found are the files and directories that the paths list. They are
files, and can be read, if and only if below no path a directory has the name of a source. -/
theorem sources_listed (tree : fs.IsTree)
    (there : ∀ root ∈ roots, fs.contains (Path.tidy root) = true) :
    fs.ListsAll excluded (fun _ => True) (roots.map Path.tidy)
        (fs.sources excluded (roots.map Path.tidy)) ∧
      (fs.ListsFiles excluded (roots.map Path.tidy) (fs.sources excluded (roots.map Path.tidy)) ↔
        ∀ root ∈ roots, ¬ fs.HasSourceDirectory excluded (Path.tidy root)) := by
  have lists : ∀ root ∈ roots.map Path.tidy,
      fs.Lists excluded (fun _ => True) root (fs.sourcesAt excluded root) := by
    intro root mem
    obtain ⟨given, inside, rfl⟩ := List.mem_map.mp mem
    exact lists_sourcesAt (there given inside)
  refine ⟨⟨_, List.forall₂_map_right_iff.mpr (List.forall₂_same.mpr lists), List.flatMap_def⟩, ?_⟩
  rw [← List.forall_mem_map (P := fun root => ¬ fs.HasSourceDirectory excluded root)]
  generalize roots.map Path.tidy = roots at lists ⊢
  constructor
  · rintro ⟨-, readable⟩ root mem
    refine ((lists root mem).readable_iff tree).mp fun path inside => ?_
    exact readable path (List.mem_flatMap.mpr ⟨root, mem, inside⟩)
  · intro none
    refine ⟨⟨_, List.forall₂_map_right_iff.mpr (List.forall₂_same.mpr ?_), List.flatMap_def⟩, ?_⟩
    · intro root mem
      exact (lists root mem).files (none root mem)
    · intro path mem
      obtain ⟨root, inside, found⟩ := List.mem_flatMap.mp mem
      exact ((lists root inside).readable_iff tree).mpr (none root inside) path found

end

/-- Two sources below the current directory, another one in an excluded directory, and a path of one of
the two once more. -/
theorem sources_listed_twice :
    let fs : FileSystem :=
      { entries := [(["w", "a.py"], .file []), (["w", "a", "z.py"], .file [10]),
          (["w", "venv", "lib", "x.py"], .file [])],
        current := ["w"] }
    let excluded := ["venv"]
    let roots := ["./", "/w//a.py"]
    fs.IsTree ∧ (∀ root ∈ roots, fs.contains (Path.tidy root) = true) ∧
      fs.sources excluded (roots.map Path.tidy) = ["a/z.py", "a.py", "/w/a.py"] ∧
      fs.ListsFiles excluded (roots.map Path.tidy) ["a/z.py", "a.py", "/w/a.py"] := by
  intro fs excluded roots
  have tree : fs.IsTree := ⟨⟨by decide, by decide⟩, by decide⟩
  have there : ∀ root ∈ roots, fs.contains (Path.tidy root) = true := by decide
  have routes : fs.routesBelow ["w"] = [["a"], ["a", "z.py"], ["a.py"], ["venv"], ["venv", "lib"],
      ["venv", "lib", "x.py"]] :=
    routesBelow_eq (by decide) (by decide)
  have below : fs.sourcesAt excluded "." = ["a/z.py", "a.py"] := by
    have directory : fs.entry? ["w"] = some .directory := rfl
    have route : fs.follow "." = .ok ["w"] := rfl
    rw [sourcesAt, route]
    simp only [directory, routes]
    rfl
  have named : fs.sourcesAt excluded "/w/a.py" = ["/w/a.py"] := rfl
  have found : fs.sources excluded (roots.map Path.tidy) = ["a/z.py", "a.py", "/w/a.py"] := by
    have tidied : roots.map Path.tidy = [".", "/w/a.py"] := rfl
    rw [tidied, sources, List.flatMap_cons, List.flatMap_singleton, below, named]
    rfl
  have readable : ∀ path ∈ fs.sources excluded (roots.map Path.tidy),
      ∃ bytes, fs.read path = .ok bytes := by
    rw [found]
    simp only [List.forall_mem_cons, List.not_mem_nil, false_implies, implies_true, and_true]
    exact ⟨⟨[10], rfl⟩, ⟨[], rfl⟩, [], rfl⟩
  have none : ∀ root ∈ roots, ¬ fs.HasSourceDirectory excluded (Path.tidy root) := by
    intro root mem
    refine ((lists_sourcesAt (there root mem)).readable_iff tree).mp fun path inside => ?_
    exact readable path (List.mem_flatMap.mpr ⟨_, List.mem_map_of_mem mem, inside⟩)
  have listed := (sources_listed tree there).2.mpr none
  rw [found] at listed
  exact ⟨tree, there, found, listed⟩

/-- A directory with the name of a source is found, and cannot be read. -/
theorem sources_list_directory :
    let fs : FileSystem := { entries := [(["w", "d.py"], .directory)], current := ["w"] }
    let roots := ["."]
    fs.IsTree ∧ (∀ root ∈ roots, fs.contains (Path.tidy root) = true) ∧
      ¬ fs.ListsFiles [] (roots.map Path.tidy) (fs.sources [] (roots.map Path.tidy)) := by
  intro fs roots
  have tree : fs.IsTree := ⟨⟨by decide, by decide⟩, by decide⟩
  have there : ∀ root ∈ roots, fs.contains (Path.tidy root) = true := by decide
  refine ⟨tree, there, ?_⟩
  rintro ⟨-, readable⟩
  have lists : fs.Lists [] (fun _ => True) "." (fs.sourcesAt [] ".") := lists_sourcesAt (by decide)
  have named : IsSourceRoute [] ["d.py"] := ⟨⟨"d.py", rfl, by decide⟩, by decide⟩
  refine (lists.readable_iff tree).mp ?_
    ⟨["w"], ["d.py"], by decide, by decide, by decide, named, by decide⟩
  intro path mem
  exact readable path (List.mem_flatMap.mpr ⟨".", by decide, mem⟩)

end FileSystem

end ImportBoundary
