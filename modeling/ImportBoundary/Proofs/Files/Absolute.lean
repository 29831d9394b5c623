import ImportBoundary.Proofs.Files.Creation
import ImportBoundary.Proofs.Path.Cut

/-!
# Paths from the root

A path from the root is made as text, without a look at what is there: `..` takes back a name. It leads
through nothing but what holds its last name, wherever it is cut off (`prefix_of_absolute`).
-/

namespace ImportBoundary

open Text PathChars

namespace PathChars

/-! ## Pieces -/

/-- The pieces of a beginning are pieces of the whole text, but for the last of them. -/
theorem dropLast_pieces_prefix {q p : List Char} (pre : q <+: p) :
    (pieces q).dropLast <+: (pieces p).dropLast := by
  obtain ⟨rest, rfl⟩ := pre
  obtain ⟨before, last, cut⟩ :=
    (List.eq_nil_or_concat (pieces q)).resolve_left (splitAtChar_ne_nil _ _)
  rw [List.concat_eq_append] at cut
  rw [cut, List.dropLast_concat]
  by_cases none : before = []
  · rw [none]
    exact List.nil_prefix
  · have noSlash : ∀ s ∈ before, '/' ∉ s := fun s mem =>
      (mem_of_mem_piece (cut ▸ List.mem_append_left _ mem)).1
    have joined := joinWith_splitAtChar '/' q
    rw [← pieces, cut, joinWith_concat _ _ none] at joined
    have whole : q ++ rest = joinWith ['/'] before ++ '/' :: (last ++ rest) := by
      rw [← joined]
      simp
    rw [whole, pieces, splitAtChar_append, splitAtChar_joinWith none noSlash,
      List.dropLast_append_of_ne_nil (splitAtChar_ne_nil _ _)]
    exact List.prefix_append _ _

theorem pieces_slashes (n : Nat) (p : List Char) :
    pieces (List.replicate n '/' ++ p) = List.replicate n [] ++ pieces p := by
  induction n with
  | zero => rfl
  | succ n ih =>
    rw [List.replicate_succ, List.cons_append, List.replicate_succ, List.cons_append, ← ih]
    exact splitAtChar_append '/' [] _

/-- The steps of a path from a directory are those of the directory and those of the path. -/
theorem steps_join {base p : List Char} (some_char : base ≠ []) (relative : isRooted p = false) :
    steps (join base p) = steps base ++ steps p := by
  rw [join, relative, if_neg Bool.false_ne_true]
  split
  · next slash =>
    rw [Bool.or_eq_true, List.isEmpty_iff, beq_iff_eq] at slash
    obtain ⟨before, rfl⟩ := List.getLast?_eq_some_iff.mp (slash.resolve_left some_char)
    rw [List.append_assoc, List.singleton_append, steps_append, steps_append]
    exact congrArg (· ++ steps p) (List.append_nil _).symm
  · exact steps_append base p

end PathChars

namespace FileSystem

variable {fs : FileSystem}

/-! ## Where pieces lead, as text -/

/-- Simplifying a path takes it to the names of where its pieces lead from the root. -/
theorem foldPieces_eq (ps : List (List Char)) :
    foldPieces true ps = (ps.foldl land []).map String.toList := by
  have fold : ∀ route : Route, (∀ name ∈ route, name ≠ "..") →
      ps.foldl (pushPiece true) (route.map String.toList).reverse =
        ((ps.foldl land route).map String.toList).reverse := by
    induction ps with
    | nil => exact fun _ _ => rfl
    | cons piece ps ih =>
      intro route noDots
      have pushed : pushPiece true (route.map String.toList).reverse piece =
          ((land route piece).map String.toList).reverse := by
        unfold pushPiece land
        split
        · rfl
        · split
          · next dots =>
            subst dots
            induction route using List.reverseRecOn with
            | nil => rfl
            | append_singleton before last _ =>
              have other : last.toList ≠ ['.', '.'] := fun same =>
                noDots last (by simp) (String.toList_inj.mp same)
              simp [other]
          · simp
      have kept : ∀ name ∈ land route piece, name ≠ ".." := by
        unfold land
        split
        · exact noDots
        · split
          · exact fun name mem => noDots name (List.mem_of_mem_dropLast mem)
          · next other =>
            intro name mem
            rcases List.mem_append.mp mem with before | last
            · exact noDots name before
            · rw [List.mem_singleton.mp last]
              intro same
              exact other (by rw [← String.toList_ofList (l := piece), same]; rfl)
      rw [List.foldl_cons, pushed, List.foldl_cons]
      exact ih _ kept
  have whole := fold [] (by simp)
  rw [List.map_nil, List.reverse_nil] at whole
  rw [foldPieces, whole, List.reverse_reverse]

theorem foldl_land_names {names : List (List Char)} (named : ∀ s ∈ names, PathChars.IsName s)
    (route : Route) : names.foldl land route = route ++ names.map String.ofList := by
  induction names generalizing route with
  | nil => exact (List.append_nil _).symm
  | cons s names ih =>
    obtain ⟨⟨some_char, noDot, noDots, -⟩, others⟩ := List.forall_mem_cons.mp named
    have landed : land route s = route ++ [String.ofList s] := by
      simp [land, some_char, noDot, noDots]
    rw [List.foldl_cons, landed, ih others, List.map_cons, List.append_assoc]
    rfl

/-- The place that a path names: from the root, or from the current directory. -/
def landing (fs : FileSystem) (path : List Char) : Route :=
  (steps path).foldl land (fs.startOf path)

theorem isName_toList {name : String} (named : IsName name) : PathChars.IsName name.toList := by
  obtain ⟨some_char, noDot, noDots, noSlash, -⟩ := named
  exact ⟨mt String.toList_eq_nil_iff.mp some_char, fun dot => noDot (String.toList_inj.mp dot),
    fun dots => noDots (String.toList_inj.mp dots), noSlash⟩

theorem steps_currentPath (named : ∀ name ∈ fs.current, IsName name) :
    steps fs.currentPath.toList = fs.current.map String.toList := by
  rw [currentPath, String.toList_append, toList_intercalate_slash]
  refine (steps_slash _).trans (steps_joinWith fun s mem => ?_)
  obtain ⟨name, inside, rfl⟩ := List.mem_map.mp mem
  obtain ⟨some_char, noDot, -, noSlash⟩ := isName_toList (named name inside)
  exact ⟨noSlash, some_char, noDot⟩

/-- A path from the root spells the place that the path names. -/
theorem landing_join (named : ∀ name ∈ fs.current, IsName name) (path : List Char) :
    (pieces (join fs.currentPath.toList path)).foldl land [] = fs.landing path := by
  rw [← foldl_land_filter, ← steps, landing, startOf]
  cases rooted : isRooted path with
  | true => rw [join, rooted, if_pos rfl, if_pos rfl]
  | false =>
    have some_char : fs.currentPath.toList ≠ [] := by simp [currentPath]
    have names : ∀ s ∈ fs.current.map String.toList, PathChars.IsName s :=
      List.forall_mem_map.mpr fun name mem => isName_toList (named name mem)
    rw [steps_join some_char rooted, steps_currentPath named, List.foldl_append,
      foldl_land_names names, if_neg Bool.false_ne_true]
    simp

theorem isRooted_join_currentPath (fs : FileSystem) (path : List Char) :
    isRooted (join fs.currentPath.toList path) = true := by
  have rooted : isRooted fs.currentPath.toList = true := by simp [currentPath, isRooted]
  have some_char : fs.currentPath.toList ≠ [] := by simp [currentPath]
  unfold join
  split
  · assumption
  · split
    · rw [isRooted_append some_char, rooted]
    · rw [isRooted_append some_char, rooted]

/-- The text of a path from the root: slashes and the names of the place, cut at the first U+0000. -/
theorem exists_absolute_eq (named : ∀ name ∈ fs.current, IsName name) (path : String) :
    ∃ n, (fs.absolute path).toList = '/' :: untilNul (List.replicate n '/' ++
      joinWith ['/'] ((fs.landing path.toList).map String.toList)) := by
  rw [absolute, String.toList_ofList, ← landing_join named, ← foldPieces_eq]
  have rooted := isRooted_join_currentPath fs path.toList
  generalize join fs.currentPath.toList path.toList = target at rooted ⊢
  obtain ⟨n, lead⟩ := Path.leadingSlashes_rooted rooted
  have head : target.head? ≠ some '\x00' := by
    intro nul
    obtain ⟨rest, rfl⟩ := List.head?_eq_some_iff.mp nul
    cases rooted
  refine ⟨n, ?_⟩
  simp only [simplify, lead, Nat.zero_lt_succ, decide_true]
  rw [if_neg head, List.replicate_succ, List.cons_append, untilNul_cons (by decide)]
  rfl

theorem isName_landing (named : ∀ name ∈ fs.current, IsName name) (path : List Char) :
    ∀ s ∈ (fs.landing path).map String.toList, PathChars.IsName s := by
  rw [← landing_join named, ← foldPieces_eq]
  exact isName_foldPieces fun piece mem => (mem_of_mem_piece mem).1

/-- What holds the place that a path names is on the way to what stands before its last slash. -/
theorem dropLast_landing_prefix (fs : FileSystem) (path : List Char) :
    (fs.landing path).dropLast <+:
      (steps (splitLast path).1).foldl land (fs.startOf path) := by
  obtain ⟨ps, cut, before⟩ := exists_pieces_splitLast path
  have landed : fs.landing path =
      land ((steps (splitLast path).1).foldl land (fs.startOf path)) (splitLast path).2 := by
    rw [landing, steps, foldl_land_filter, cut, List.foldl_append, ← before, foldl_land_filter]
    rfl
  by_cases top : fs.landing path = []
  · rw [top]
    exact List.nil_prefix
  · have pre : (fs.landing path).dropLast <+: fs.landing path := List.dropLast_prefix _
    have proper : (fs.landing path).dropLast ≠ fs.landing path := by
      intro same
      have short := congrArg List.length same
      have pos := List.length_pos_iff.mpr top
      rw [List.length_dropLast] at short
      omega
    rw [landed] at pre proper ⊢
    exact prefix_of_prefix_land pre proper

/-- All that a beginning of a path from the root leads through, but for its last piece, is on the way
to what holds the last name of the path. -/
theorem prefix_of_absolute (named : ∀ name ∈ fs.current, IsName name) {path : String} {q : List Char}
    (pre : q <+: (fs.absolute path).toList) :
    (∀ piece ∈ (pieces q).dropLast, piece ≠ ['.', '.']) ∧
      (pieces q).dropLast.foldl land [] <+:
        (steps (splitLast path.toList).1).foldl land (fs.startOf path.toList) := by
  obtain ⟨n, text⟩ := exists_absolute_eq named path
  have names := isName_landing named path.toList
  have within := dropLast_landing_prefix fs path.toList
  generalize fs.landing path.toList = place at text names within
  have whole : (pieces (List.replicate (n + 1) '/' ++ joinWith ['/'] (place.map String.toList))).dropLast =
      List.replicate (n + 1) [] ++ place.dropLast.map String.toList := by
    rw [pieces_slashes, List.dropLast_append_of_ne_nil (splitAtChar_ne_nil _ _)]
    by_cases none : place = []
    · rw [none]
      rfl
    · rw [splitAtChar_joinWith (mt List.map_eq_nil_iff.mp none) fun s mem => (names s mem).2.2.2,
        List.map_dropLast]
  have cut : (pieces q).dropLast <+: List.replicate (n + 1) [] ++ place.dropLast.map String.toList := by
    rw [← whole]
    refine dropLast_pieces_prefix (pre.trans ?_)
    rw [text, List.replicate_succ, List.cons_append, List.prefix_cons_inj]
    exact List.takeWhile_prefix _
  have inner : ∀ s ∈ place.dropLast.map String.toList, PathChars.IsName s := by
    rw [List.map_dropLast]
    exact fun s mem => names s (List.mem_of_mem_dropLast mem)
  refine ⟨?_, List.IsPrefix.trans ?_ within⟩
  · intro piece mem
    rcases List.mem_append.mp (cut.subset mem) with slash | name
    · rw [List.eq_of_mem_replicate slash]
      decide
    · exact (inner piece name).2.2.1
  · have leading : (List.replicate (n + 1) [] ++ place.dropLast.map String.toList).filter leads =
        place.dropLast.map String.toList := by
      rw [List.filter_append, List.filter_replicate_of_neg (by decide), List.nil_append,
        List.filter_eq_self]
      exact fun s mem => decide_eq_true ⟨(inner s mem).1, (inner s mem).2.1⟩
    have names' := cut.filter leads
    rw [leading] at names'
    rw [← foldl_land_filter, foldl_land_names fun s mem => inner s (names'.subset mem)]
    have shorter := names'.map String.ofList
    simpa [Function.comp_def] using shorter

end FileSystem

end ImportBoundary
