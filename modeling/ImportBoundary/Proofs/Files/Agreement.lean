import ImportBoundary.Proofs.Files.Sources
import ImportBoundary.Proofs.Path.Order

/-!
# Sources by name and by directory

A source can be named itself, or be found below a directory that is named. What is found has the path of
the directory and the names from there on (`toList_child_tidy`), and that path is as tidy as those that
are named (`tidy_child`). The two ways agree on which files are sources but for one name: `.py` ends in
`.py`, and yet it has no suffix (`found_alike_iff`).
-/

namespace ImportBoundary

open Text PathChars

namespace Path

/-! ## Paths of what is found -/

theorem leadingSlashes_le (p : List Char) : leadingSlashes p ≤ 2 := by
  unfold leadingSlashes
  split <;> decide

theorem leadingSlashes_replicate {n : Nat} (few : n ≤ 2) {c : Char} (noSlash : c ≠ '/')
    (cs : List Char) : leadingSlashes (List.replicate n '/' ++ c :: cs) = n := by
  match n, few with
  | 0, _ => simp [leadingSlashes, noSlash]
  | 1, _ => simp [leadingSlashes, noSlash]
  | 2, _ => simp [leadingSlashes, noSlash]

theorem joinWith_append {names more : List (List Char)} (some_name : names ≠ [])
    (some_more : more ≠ []) :
    joinWith ['/'] (names ++ more) = joinWith ['/'] names ++ '/' :: joinWith ['/'] more := by
  cases names with
  | nil => exact absurd rfl some_name
  | cons first names =>
    cases more with
    | nil => exact absurd rfl some_more
    | cons second more =>
      rw [List.cons_append, joinWith_cons_flatMap, joinWith_cons_flatMap, joinWith_cons_flatMap,
        List.flatMap_append, List.flatMap_cons]
      simp

/-- Joined names start with a character that is no slash. -/
theorem exists_cons_joinWith {names : List (List Char)} (some_name : names ≠ [])
    (h : ∀ s ∈ names, '/' ∉ s ∧ s ≠ [] ∧ s ≠ ['.']) :
    ∃ c cs, joinWith ['/'] names = c :: cs ∧ c ≠ '/' := by
  cases names with
  | nil => exact absurd rfl some_name
  | cons first names =>
    obtain ⟨noSlash, some_char, -⟩ := h first List.mem_cons_self
    cases first with
    | nil => exact absurd rfl some_char
    | cons c cs =>
      rw [joinWith_cons_flatMap, List.cons_append]
      refine ⟨c, _, rfl, ?_⟩
      rintro rfl
      exact noSlash List.mem_cons_self

/-- Names behind at most two slashes are a tidy path. -/
theorem tidyChars_joinWith {n : Nat} (few : n ≤ 2) {names : List (List Char)} (some_name : names ≠ [])
    (h : ∀ s ∈ names, '/' ∉ s ∧ s ≠ [] ∧ s ≠ ['.']) :
    tidyChars (List.replicate n '/' ++ joinWith ['/'] names) =
      List.replicate n '/' ++ joinWith ['/'] names := by
  obtain ⟨c, cs, joined, noSlash⟩ := exists_cons_joinWith some_name h
  have lead : leadingSlashes (List.replicate n '/' ++ joinWith ['/'] names) = n := by
    rw [joined]
    exact leadingSlashes_replicate few noSlash cs
  rw [tidyChars_eq, lead, steps_slashes, steps_joinWith h]
  apply if_neg
  rw [joined]
  simp

section

variable {root : String} {r : Route}

/-- Behind a tidy path the names are written on, with a slash between them where it takes one. -/
theorem toList_child_tidy (some_name : r ≠ []) :
    (child (tidy root) ("/".intercalate r)).toList =
      List.replicate (leadingSlashes root.toList) '/' ++
        joinWith ['/'] (steps root.toList ++ r.map String.toList) := by
  have some_text : r.map String.toList ≠ [] := mt List.map_eq_nil_iff.mp some_name
  have tidied : (tidy root).toList = tidyChars root.toList := String.toList_ofList
  have kept : steps (tidy root).toList = steps root.toList := by rw [tidied, steps_tidyChars]
  rw [tidyChars_eq] at tidied
  generalize leadingSlashes root.toList = n at tidied ⊢
  by_cases none : steps root.toList = []
  · rw [none] at tidied ⊢
    cases n with
    | zero =>
      have dot : tidy root = "." := String.toList_inj.mp tidied
      rw [child, if_pos dot, FileSystem.toList_intercalate_slash]
      rfl
    | succ n =>
      simp only [List.replicate_succ, joinWith, List.append_nil, List.isEmpty_cons,
        Bool.false_eq_true, if_false] at tidied
      have noDot : tidy root ≠ "." := by
        intro dot
        rw [dot] at tidied
        exact absurd (List.cons.inj tidied).1 (by decide)
      have slashes : (tidy root).toList.all (· = '/') = true := by simp [tidied]
      rw [child, if_neg noDot, if_pos slashes, String.toList_append, tidied,
        FileSystem.toList_intercalate_slash]
      rfl
  · obtain ⟨c, cs, joined, noSlash⟩ := exists_cons_joinWith none fun s hs => (mem_steps hs).1
    have some_char : (List.replicate n '/' ++ joinWith ['/'] (steps root.toList)).isEmpty = false := by
      simp [joined]
    simp only [some_char, Bool.false_eq_true, if_false] at tidied
    have noDot : tidy root ≠ "." := by
      intro dot
      rw [dot] at kept
      exact none kept.symm
    have noSlashes : ¬ (tidy root).toList.all (· = '/') = true := by simp [tidied, joined, noSlash]
    rw [child, if_neg noDot, if_neg noSlashes, String.toList_append, String.toList_append, tidied,
      FileSystem.toList_intercalate_slash, joinWith_append none some_text]
    simp

/-- What is found below a tidy path has a tidy path. -/
theorem tidy_child (some_name : r ≠ []) (named : ∀ name ∈ r, FileSystem.IsName name) :
    tidy (child (tidy root) ("/".intercalate r)) = child (tidy root) ("/".intercalate r) := by
  have some_text : steps root.toList ++ r.map String.toList ≠ [] :=
    List.append_ne_nil_of_right_ne_nil _ (mt List.map_eq_nil_iff.mp some_name)
  have good : ∀ s ∈ steps root.toList ++ r.map String.toList, '/' ∉ s ∧ s ≠ [] ∧ s ≠ ['.'] := by
    intro s mem
    rcases List.mem_append.mp mem with step | step
    · exact (mem_steps step).1
    · obtain ⟨name, inside, rfl⟩ := List.mem_map.mp step
      obtain ⟨some_char, noDot, -, noSlash, -⟩ := named name inside
      exact ⟨noSlash, mt String.toList_eq_nil_iff.mp some_char,
        fun dot => noDot (String.toList_inj.mp dot)⟩
  apply String.toList_inj.mp
  rw [tidy, String.toList_ofList, toList_child_tidy some_name]
  exact tidyChars_joinWith (leadingSlashes_le _) some_text good

/-- The last name of what is found is the last one from the directory on. -/
theorem lastName_child {name : String} (last : r.getLast? = some name)
    (isName : FileSystem.IsName name) :
    lastName (child (tidy root) ("/".intercalate r)) = name := by
  obtain ⟨before, rfl⟩ := List.getLast?_eq_some_iff.mp last
  have noSlash : '/' ∉ name.toList := isName.2.2.2.1
  apply String.toList_inj.mp
  rw [lastName, String.toList_ofList, toList_child_tidy (by simp), List.map_append, ← List.append_assoc,
    List.map_singleton]
  generalize steps root.toList ++ before.map String.toList = names
  by_cases none : names = []
  · subst none
    cases leadingSlashes root.toList with
    | zero => exact Address.afterLastSlash_of_slash_not_mem noSlash
    | succ n =>
      rw [List.replicate_succ', List.append_assoc]
      exact Address.afterLastSlash_append noSlash _
  · rw [joinWith_concat _ _ none, ← List.append_assoc, ← List.append_assoc, List.append_assoc]
    exact Address.afterLastSlash_append noSlash _

end

end Path

namespace FileSystem

/-! ## The two ways to a source -/

section

variable {fs : FileSystem} {excluded : List String} {root : String} {base r : Route}
  {bytes : List UInt8}

/-- A file below a directory is found there if and only if it has the name of a source. -/
theorem IsTree.mem_sourcesAt_iff (tree : fs.IsTree) (leads : fs.follow root = .ok base)
    (inner : r ≠ []) (file : fs.entry? (base ++ r) = some (.file bytes)) :
    Path.child root ("/".intercalate r) ∈ fs.sourcesAt excluded root ↔ IsSourceRoute excluded r := by
  have there : (fs.entry? (base ++ r)).isSome = true := by rw [file, Option.isSome_some]
  have directory : fs.entry? base = some .directory := tree.directory_above inner there
  have found : r ∈ fs.routesBelow base := mem_routesBelow.mpr ⟨inner, _, file⟩
  have follows := tree.follow_child leads inner there
  simp only [sourcesAt, leads, directory, List.mem_map, List.mem_filter, filter_iff]
  constructor
  · rintro ⟨s, ⟨below, source⟩, same⟩
    obtain ⟨inner', e, entry⟩ := mem_routesBelow.mp below
    have follows' := tree.follow_child leads inner' (by rw [entry, Option.isSome_some])
    -- The path leads to one place only.
    rw [same, follows] at follows'
    cases List.append_cancel_left (Except.ok.inj follows')
    exact source
  · intro source
    exact ⟨r, ⟨found, source⟩, rfl⟩

/-- A file that is named is found if and only if it has the name of a source and more. -/
theorem mem_sourcesAt_self_iff (leads : fs.follow root = .ok r)
    (file : fs.entry? r = some (.file bytes)) :
    root ∈ fs.sourcesAt excluded root ↔ isSourceName (Path.lastName root) = true := by
  simp only [sourcesAt, leads, file]
  split
  · next source => exact iff_of_true List.mem_cons_self source
  · next other => exact iff_of_false List.not_mem_nil other

/-- The two notions of the name of a source differ in one name. -/
theorem hasSourceSuffix_alike_iff {name : String} :
    (hasSourceSuffix name = true ↔ isSourceName name = true) ↔ name ≠ ".py" := by
  unfold isSourceName hasSourceSuffix
  rw [Bool.and_eq_true, List.isSuffixOf_iff_suffix, decide_eq_true_iff]
  constructor
  · rintro alike rfl
    exact absurd (alike.mp (by decide)).2 (by decide)
  · intro other
    refine ⟨fun ends => ⟨ends, ?_⟩, And.left⟩
    apply Nat.lt_of_le_of_ne ends.length_le
    intro short
    have whole : sourceSuffix = name.toList := ends.eq_of_length short
    exact other (String.toList_inj.mp whole.symm)

/-- A file below a directory, with no name on the way that is excluded, is found below the directory if
and only if it is found by its own path: exactly unless its name is `.py`. -/
theorem found_alike_iff (tree : fs.IsTree) (leads : fs.follow (Path.tidy root) = .ok base)
    (inner : r ≠ []) (file : fs.entry? (base ++ r) = some (.file bytes))
    (kept : ∀ name ∈ r, name ∉ excluded) :
    let path := Path.child (Path.tidy root) ("/".intercalate r)
    Path.tidy path = path ∧ fs.follow path = .ok (base ++ r) ∧
      ((path ∈ fs.sources excluded [Path.tidy root] ↔ path ∈ fs.sources excluded [path]) ↔
        r.getLast? ≠ some ".py") := by
  intro path
  have there : (fs.entry? (base ++ r)).isSome = true := by rw [file, Option.isSome_some]
  have named : ∀ name ∈ r, IsName name := fun name mem =>
    tree.toIsNamed.isName there (List.mem_append_right base mem)
  have follows : fs.follow path = .ok (base ++ r) := tree.follow_child leads inner there
  refine ⟨Path.tidy_child inner named, follows, ?_⟩
  obtain ⟨name, last⟩ := Option.ne_none_iff_exists'.mp (mt List.getLast?_eq_none_iff.mp inner)
  have lastName : Path.lastName path = name :=
    Path.lastName_child last (named name (List.mem_of_getLast? last))
  have walked : path ∈ fs.sourcesAt excluded (Path.tidy root) ↔ hasSourceSuffix name = true := by
    rw [tree.mem_sourcesAt_iff leads inner file, ← filter_iff]
    simpa [last] using fun _ => kept
  have given : path ∈ fs.sourcesAt excluded path ↔ isSourceName name = true := by
    rw [mem_sourcesAt_self_iff follows file, lastName]
  rw [sources, sources, List.flatMap_singleton, List.flatMap_singleton, walked, given, last,
    hasSourceSuffix_alike_iff, ne_eq, ne_eq, Option.some_inj]

end

/-- A source two directories down. -/
theorem found_alike_deep :
    let fs : FileSystem :=
      { entries := [(["w", "d", "a.b", "c.d.py"], .file [])], current := ["w"] }
    let path := Path.child (Path.tidy "./d/") ("/".intercalate ["a.b", "c.d.py"])
    fs.IsTree ∧ fs.follow (Path.tidy "./d/") = .ok ["w", "d"] ∧ ["a.b", "c.d.py"] ≠ [] ∧
      fs.entry? (["w", "d"] ++ ["a.b", "c.d.py"]) = some (.file []) ∧
      (∀ name ∈ ["a.b", "c.d.py"], name ∉ defaultExcludes) ∧
      path = "d/a.b/c.d.py" ∧ path ∈ fs.sources defaultExcludes ["d"] ∧
      path ∈ fs.sources defaultExcludes [path] := by
  intro fs path
  have tree : fs.IsTree := ⟨⟨by decide, by decide⟩, by decide⟩
  have leads : fs.follow (Path.tidy "./d/") = .ok ["w", "d"] := by rfl
  have inner : ["a.b", "c.d.py"] ≠ [] := by decide
  have file : fs.entry? (["w", "d"] ++ ["a.b", "c.d.py"]) = some (.file []) := by decide
  have kept : ∀ name ∈ ["a.b", "c.d.py"], name ∉ defaultExcludes := by decide
  have given : path ∈ fs.sources defaultExcludes [path] := by decide
  have alike := (found_alike_iff tree leads inner file kept).2.2.mpr (by decide)
  exact ⟨tree, leads, inner, file, kept, by decide, alike.mpr given, given⟩

/-- A file that is named `.py` is found below its directory, and not by its own path. -/
theorem found_below_only :
    let fs : FileSystem := { entries := [(["d", ".py"], .file [])], current := [] }
    fs.IsTree ∧ fs.isFile "d/.py" = true ∧ "d/.py" ∈ fs.sources defaultExcludes ["d"] ∧
      "d/.py" ∉ fs.sources defaultExcludes ["d/.py"] := by
  intro fs
  have tree : fs.IsTree := ⟨⟨by decide, by decide⟩, by decide⟩
  have leads : fs.follow "d" = .ok ["d"] := by rfl
  have file : fs.entry? (["d"] ++ [".py"]) = some (.file []) := by decide
  have source : IsSourceRoute defaultExcludes [".py"] := ⟨⟨".py", rfl, by decide⟩, by decide⟩
  have walked := (tree.mem_sourcesAt_iff leads (List.cons_ne_nil _ _) file).mpr source
  refine ⟨tree, by decide, ?_, by decide⟩
  rw [sources, List.flatMap_singleton]
  exact walked

end FileSystem

end ImportBoundary
