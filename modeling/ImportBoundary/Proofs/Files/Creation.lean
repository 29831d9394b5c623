import ImportBoundary.Proofs.Files.Growth
import ImportBoundary.Proofs.Path.Order

/-!
# Directories that are created

What is created is there afterwards, and all that was there stays (`created`). Where a path leads to a
directory in one file system, it can be created in any that is within it, and no more is created than
what the larger one has (`Within.createDirectories`).
-/

namespace ImportBoundary

open Text PathChars

namespace FileSystem

/-! ## The last name of a path -/

theorem splitLast_of_slash_not_mem {name : List Char} (noSlash : '/' ∉ name) :
    splitLast name = ([], name) := by
  rw [splitLast, Address.throughLastSlash_of_slash_not_mem noSlash,
    Address.afterLastSlash_of_slash_not_mem noSlash]
  rfl

theorem splitLast_append {name : List Char} (noSlash : '/' ∉ name) (before : List Char) :
    splitLast (before ++ '/' :: name) =
      (if (before ++ ['/']).all (· = '/') then before ++ ['/'] else dropTrailingSlashes before,
        name) := by
  have dropped : dropTrailingSlashes (before ++ ['/']) = dropTrailingSlashes before := by
    simp [dropTrailingSlashes]
  rw [splitLast, Address.throughLastSlash_append noSlash, Address.afterLastSlash_append noSlash,
    dropped]

theorem splitLast_isPrefix (path : List Char) : (splitLast path).1 <+: path := by
  by_cases slash : '/' ∈ path
  · obtain ⟨before, name, noSlash, rfl⟩ := eq_append_cons_of_mem_last slash
    rw [splitLast_append noSlash]
    dsimp only
    split
    · exact ⟨name, by simp⟩
    · have cut : dropTrailingSlashes before <+: before := List.rdropWhile_prefix _ _
      exact cut.trans (List.prefix_append before _)
  · rw [splitLast_of_slash_not_mem slash]
    exact List.nil_prefix

theorem length_splitLast {path : List Char} (some_char : (splitLast path).2 ≠ []) :
    (splitLast path).1.length < path.length := by
  by_cases slash : '/' ∈ path
  · obtain ⟨before, name, noSlash, rfl⟩ := eq_append_cons_of_mem_last slash
    rw [splitLast_append noSlash] at some_char ⊢
    have cut : dropTrailingSlashes before <+: before := List.rdropWhile_prefix _ _
    have short := cut.length_le
    have pos : 0 < name.length := List.length_pos_iff.mpr some_char
    dsimp only
    rw [List.length_append, List.length_cons]
    split
    · rw [List.length_append, List.length_singleton]
      omega
    · omega
  · rw [splitLast_of_slash_not_mem slash] at some_char ⊢
    exact List.length_pos_iff.mpr some_char

theorem steps_of_slashes {p : List Char} (slashes : p.all (· = '/') = true) : steps p = [] := by
  rw [steps, List.filter_eq_nil_iff]
  intro piece mem
  exact Bool.eq_false_iff.mp (leads_of_slashes (by simpa using slashes) mem)

/-- The last piece of a path, and the steps before it. -/
theorem exists_pieces_splitLast (path : List Char) :
    ∃ ps, pieces path = ps ++ [(splitLast path).2] ∧ ps.filter leads = steps (splitLast path).1 := by
  by_cases slash : '/' ∈ path
  · obtain ⟨before, name, noSlash, rfl⟩ := eq_append_cons_of_mem_last slash
    refine ⟨pieces before, ?_, ?_⟩
    · rw [splitLast_append noSlash, pieces, splitAtChar_append, splitAtChar_of_not_mem noSlash]
    · rw [splitLast_append noSlash]
      dsimp only
      split
      · rw [steps_append]
        exact (List.append_nil _).symm
      · exact (steps_dropTrailingSlashes before).symm
  · refine ⟨[], ?_, ?_⟩
    · rw [splitLast_of_slash_not_mem slash, pieces, splitAtChar_of_not_mem slash]
      rfl
    · rw [splitLast_of_slash_not_mem slash]
      rfl

/-- What stands before the last name of a path without its last slashes, and the last name. -/
def splitName (path : List Char) : List Char × List Char :=
  if (splitLast path).2.isEmpty then splitLast (splitLast path).1 else splitLast path

theorem splitName_isPrefix (path : List Char) : (splitName path).1 <+: path := by
  unfold splitName
  split
  · exact (splitLast_isPrefix _).trans (splitLast_isPrefix path)
  · exact splitLast_isPrefix path

theorem length_splitName {path : List Char} (some_char : (splitName path).2 ≠ []) :
    (splitName path).1.length < path.length := by
  unfold splitName at some_char ⊢
  split at some_char
  · next bare =>
    rw [if_pos bare]
    exact Nat.lt_of_lt_of_le (length_splitLast some_char) (splitLast_isPrefix path).length_le
  · next named =>
    rw [if_neg named]
    exact length_splitLast some_char

theorem dropTrailingSlashes_of_splitLast {path : List Char} (some_char : (splitLast path).2 ≠ []) :
    dropTrailingSlashes path = path := by
  rw [Address.dropTrailingSlashes_eq, List.rdropWhile_eq_self_iff]
  intro inner slash
  have ending : path = path.dropLast ++ '/' :: [] := by
    rw [← of_decide_eq_true slash, List.dropLast_concat_getLast inner]
  rw [ending, splitLast_append List.not_mem_nil] at some_char
  exact some_char rfl

/-- The last name of a path is its last piece once its last slashes are gone. -/
theorem exists_pieces_splitName (path : List Char) :
    ∃ ps, pieces (dropTrailingSlashes path) = ps ++ [(splitName path).2] ∧
      ps.filter leads = steps (splitName path).1 := by
  unfold splitName
  by_cases bare : (splitLast path).2 = []
  · rw [if_pos (List.isEmpty_iff.mpr bare)]
    by_cases slash : '/' ∈ path
    · obtain ⟨before, name, noSlash, rfl⟩ := eq_append_cons_of_mem_last slash
      rw [splitLast_append noSlash] at bare ⊢
      obtain rfl : name = [] := bare
      dsimp only
      split
      · next slashes =>
        have none : dropTrailingSlashes (before ++ ['/']) = [] := by
          rw [Address.dropTrailingSlashes_eq, List.rdropWhile_eq_nil_iff]
          exact List.all_eq_true.mp slashes
        rw [none, splitLast_append List.not_mem_nil, if_pos slashes]
        exact ⟨[], rfl, (steps_of_slashes slashes).symm⟩
      · have dropped : dropTrailingSlashes (before ++ ['/']) = dropTrailingSlashes before := by
          simp [dropTrailingSlashes]
        rw [dropped]
        exact exists_pieces_splitLast _
    · rw [splitLast_of_slash_not_mem slash] at bare
      obtain rfl : path = [] := bare
      exact ⟨[], rfl, rfl⟩
  · rw [if_neg (mt List.isEmpty_iff.mp bare), dropTrailingSlashes_of_splitLast bare]
    exact exists_pieces_splitLast path

/-- A path without a last name is no more than slashes. -/
theorem steps_splitName_of_bare {path : List Char} (bare : (splitName path).2 = []) :
    steps (splitName path).1 = [] := by
  obtain ⟨ps, cut, before⟩ := exists_pieces_splitName path
  rw [← before]
  by_cases alone : ps = []
  · rw [alone]
    rfl
  · have joined := joinWith_splitAtChar '/' (dropTrailingSlashes path)
    rw [← pieces, cut, bare, joinWith_concat _ _ alone, List.append_nil] at joined
    have kept : dropTrailingSlashes (dropTrailingSlashes path) = dropTrailingSlashes path :=
      List.rdropWhile_idempotent _ _
    rw [← joined, Address.dropTrailingSlashes_eq, List.rdropWhile_concat_pos _ _ _ (by simp)] at kept
    have short : ((joinWith ['/'] ps).rdropWhile (· = '/')).length ≤ (joinWith ['/'] ps).length :=
      (List.rdropWhile_prefix _ _).length_le
    rw [kept, List.length_append, List.length_singleton] at short
    exact absurd short (Nat.not_succ_le_self _)

theorem steps_splitName (path : List Char) :
    steps path = steps (splitName path).1 ++ [(splitName path).2].filter leads := by
  obtain ⟨ps, cut, before⟩ := exists_pieces_splitName path
  rw [← steps_dropTrailingSlashes, steps, cut, List.filter_append, before]

theorem startOf_splitName (fs : FileSystem) {path : List Char} (inner : (splitName path).1 ≠ []) :
    fs.startOf path = fs.startOf (splitName path).1 := by
  obtain ⟨rest, whole⟩ := splitName_isPrefix path
  conv => lhs; rw [← whole]
  exact startOf_append inner rest

/-- A path has more pieces than without its last slashes, or the same. -/
theorem pieces_dropTrailingSlashes (p : List Char) :
    ∃ more, pieces p = pieces (dropTrailingSlashes p) ++ more := by
  have whole : dropTrailingSlashes p ++ p.rtakeWhile (· = '/') = p := by
    rw [Address.dropTrailingSlashes_eq]
    exact List.rdropWhile_append_rtakeWhile ..
  cases slashes : p.rtakeWhile (· = '/') with
  | nil =>
    rw [slashes, List.append_nil] at whole
    exact ⟨[], by rw [whole, List.append_nil]⟩
  | cons c rest =>
    have mem : c ∈ p.rtakeWhile (· = '/') := by
      rw [slashes]
      exact List.mem_cons_self
    have slash : c = '/' := by simpa using List.mem_rtakeWhile_imp mem
    rw [slashes, slash] at whole
    exact ⟨pieces rest, by conv => lhs; rw [← whole, pieces, splitAtChar_append]⟩

theorem IsShort.splitName {path : List Char} (short : IsShort path) :
    IsShort (FileSystem.splitName path).1 := by
  refine short.of_steps (byteLength_le_of_sublist (splitName_isPrefix path).sublist) fun name mem => ?_
  rw [steps_splitName]
  exact List.mem_append_left _ mem

/-! ## One directory -/

/-- The steps of a path lead to a directory. -/
structure IsAt (fs : FileSystem) (path : List Char) (route : Route) : Prop where
  walked : (steps path).foldlM fs.step (fs.startOf path) = .ok route
  directory : fs.entry? route = some .directory

section

variable {fs gs after : FileSystem} {path : List Char} {route : Route}

theorem IsAt.within (here : fs.IsAt path route) (within : fs.Within gs) : gs.IsAt path route where
  walked := by
    rw [within.startOf_eq]
    exact within.walk here.walked
  directory := within.directory here.directory

theorem followParent_eq (some_char : path ≠ []) : fs.followParent path =
    (pieces (dropTrailingSlashes path)).foldlM fs.step (fs.startOf path) := by
  have inner := splitAtChar_ne_nil '/' (dropTrailingSlashes path)
  have whole := List.dropLast_concat_getLast inner
  unfold followParent
  simp only [List.isEmpty_eq_false_iff.mpr some_char, List.getLast?_eq_some_getLast inner]
  conv => rhs; rw [pieces, ← whole, List.foldlM_append]
  cases (splitAtChar '/' (dropTrailingSlashes path)).dropLast.foldlM fs.step (fs.startOf path) with
  | error obstacle => rfl
  | ok parent =>
    exact (bind_pure _).symm

/-- A directory is created if its path is not refused, where all above it are there, and nothing else
is in its place. -/
theorem createDirectory_eq_ok_iff : fs.createDirectory path = .ok after ↔
    fs.tooLong (String.ofList path) = false ∧ ∃ route, fs.followParent path = .ok route ∧
      (fs.entry? route = some .directory ∧ after = fs ∨
        fs.entry? route = none ∧ after = fs.set route .directory) := by
  unfold createDirectory
  cases fs.tooLong (String.ofList path) with
  | true => simp
  | false =>
    cases fs.followParent path with
    | error obstacle => simp
    | ok route => rcases entry : fs.entry? route with _ | _ | _ <;> simp [entry, eq_comm]

theorem ne_nil_of_followParent (found : fs.followParent path = .ok route) : path ≠ [] := by
  rintro rfl
  cases found

/-- The way to a directory that can be created is short. -/
theorem isShort_of_followParent (fits : fs.tooLong (String.ofList path) = false)
    (found : fs.followParent path = .ok route) : IsShort path := by
  obtain ⟨length, looked⟩ := tooLong_eq_false_iff.mp fits
  rw [String.toList_ofList] at length looked
  rw [followParent_eq (ne_nil_of_followParent found)] at found
  obtain ⟨more, whole⟩ := pieces_dropTrailingSlashes path
  rw [whole, List.foldlM_append] at looked
  have named := short_of_walk found fun long => looked (by rw [long]; rfl)
  refine ⟨length, fun name mem => ?_⟩
  rw [← steps_dropTrailingSlashes] at mem
  exact named name (List.mem_filter.mp mem).1

/-- A directory that is created is there, and all that was there stays. -/
theorem createDirectory_created (done : fs.createDirectory path = .ok after) :
    fs.Within after ∧ ∃ route, after.IsAt path route := by
  obtain ⟨-, route, found, known⟩ := createDirectory_eq_ok_iff.mp done
  rw [followParent_eq (ne_nil_of_followParent found)] at found
  have stepped := foldlM_filter_leads found
  rw [← steps, steps_dropTrailingSlashes] at stepped
  rcases known with ⟨entry, rfl⟩ | ⟨entry, rfl⟩
  · exact ⟨.refl _, route, stepped, entry⟩
  · have within : fs.Within (fs.set route .directory) := within_set (by simp [entry])
    refine ⟨within, route, ?_, ?_⟩
    · rw [within.startOf_eq]
      exact within.walk stepped
    · rw [entry_set, if_pos rfl]

theorem isShort_of_createDirectory (done : fs.createDirectory path = .ok after) : IsShort path := by
  obtain ⟨fits, route, found, -⟩ := createDirectory_eq_ok_iff.mp done
  exact isShort_of_followParent fits found

/-! ## Directories one after the other -/

theorem createDirectoriesFrom_succ (fs : FileSystem) (path : List Char) (fuel : Nat) :
    fs.createDirectoriesFrom path (fuel + 1) =
      if (splitName path).1 ≠ [] ∧ (splitName path).2 ≠ [] ∧
          fs.contains (String.ofList (splitName path).1) = false then do
        let fs ← fs.createDirectoriesFrom (splitName path).1 fuel
        if (splitName path).2 = ['.'] then return fs
        fs.createDirectory path
      else fs.createDirectory path := by
  rw [createDirectoriesFrom]
  simp only [Bool.and_eq_true, Bool.not_eq_true', List.isEmpty_eq_false_iff, and_assoc]
  rfl

/-- Directories that are created are there, and all that was there stays. -/
theorem createDirectoriesFrom_created {fuel : Nat} (long : path.length < fuel)
    (done : fs.createDirectoriesFrom path fuel = .ok after) :
    fs.Within after ∧ ∃ route, after.IsAt path route := by
  induction fuel generalizing fs after path with
  | zero => exact absurd long (Nat.not_lt_zero _)
  | succ fuel ih =>
    rw [createDirectoriesFrom_succ] at done
    split at done
    · next deeper =>
      obtain ⟨inner, named, -⟩ := deeper
      obtain ⟨middle, above, last⟩ := exists_of_bind done
      have shorter := length_splitName named
      obtain ⟨within, route, there⟩ := ih (by omega) above
      split at last
      · next dot =>
        cases last
        refine ⟨within, route, ?_, there.directory⟩
        rw [steps_splitName, dot, startOf_splitName _ inner]
        exact (congrArg (List.foldlM _ _) (List.append_nil _)).trans there.walked
      · obtain ⟨within', found⟩ := createDirectory_created last
        exact ⟨within.trans within', found⟩
    · exact createDirectory_created done

theorem createDirectories_created (done : fs.createDirectories path = .ok after) :
    fs.Within after ∧ ∃ route, after.IsAt path route :=
  createDirectoriesFrom_created (Nat.lt_succ_self _) done

/-! ## Directories that can be created -/

theorem IsAt.splitName (there : fs.IsAt path route) (inner : (splitName path).1 ≠ []) :
    ∃ parent, fs.IsAt (FileSystem.splitName path).1 parent := by
  obtain ⟨walked, directory⟩ := there
  rw [steps_splitName, List.foldlM_append, startOf_splitName _ inner] at walked
  obtain ⟨parent, before, last⟩ := exists_of_bind walked
  refine ⟨parent, before, ?_⟩
  by_cases stays : [(FileSystem.splitName path).2].filter leads = []
  · rw [stays] at last
    cases last
    exact directory
  · exact entry_of_foldlM stays last

/-- The place where a path to a directory starts is a directory. -/
theorem IsAt.startOf (there : fs.IsAt path route) :
    fs.entry? (fs.startOf path) = some .directory := by
  obtain ⟨walked, directory⟩ := there
  by_cases stays : steps path = []
  · rw [stays] at walked
    cases walked
    exact directory
  · exact entry_of_foldlM stays walked

namespace Within

/-- In a directory that is there a directory can be created, if there is one later on. -/
theorem createDirectory (within : fs.Within gs) (there : gs.IsAt path route) (some_char : path ≠ [])
    (short : IsShort path) {parent : Route} (walked : (steps (splitName path).1).foldlM fs.step (fs.startOf path) = .ok parent)
    (directory : fs.entry? parent = some .directory) :
    ∃ after, fs.createDirectory path = .ok after ∧ after.Within gs := by
  obtain ⟨ps, cut, before⟩ := exists_pieces_splitName path
  rw [← before] at walked
  have landed := eq_land_of_walk walked
  rw [foldl_land_filter] at landed
  have arrived : route = land parent (splitName path).2 := by
    rw [eq_land_of_walk there.walked, ← steps_dropTrailingSlashes, steps, foldl_land_filter, cut,
      List.foldl_append, within.startOf_eq, ← landed]
    rfl
  have found : fs.followParent path = .ok route := by
    rw [followParent_eq some_char, cut, List.foldlM_append, walk_of_filter directory walked, arrived]
    exact congrArg (· >>= pure) (step_directory directory)
  have fits : fs.tooLong (String.ofList path) = false :=
    IsShort.tooLong_eq_false (by rwa [String.toList_ofList])
  cases entry : fs.entry? route with
  | none =>
    refine ⟨_, createDirectory_eq_ok_iff.mpr ⟨fits, route, found, .inr ⟨entry, rfl⟩⟩,
      within.set ⟨_, there.directory, rfl⟩ fun r pre proper => ?_⟩
    rw [arrived] at pre proper
    exact isSome_above (prefix_of_prefix_land pre proper) (by rw [directory, Option.isSome_some])
  | some e =>
    cases e with
    | file bytes =>
      obtain ⟨e', entry', same⟩ := within.kinds route _ entry
      rw [there.directory] at entry'
      cases entry'
      cases same
    | directory =>
      exact ⟨fs, createDirectory_eq_ok_iff.mpr ⟨fits, route, found, .inl ⟨entry, rfl⟩⟩, within⟩

/-- What is there leads to a directory if it does so later on. -/
theorem isAt_of_contains (within : fs.Within gs) (there : gs.IsAt path route)
    (contained : fs.contains (String.ofList path) = true) : fs.IsAt path route := by
  obtain ⟨-, e, found⟩ := contains_iff_exists.mp contained
  obtain ⟨stop, follows, entry⟩ := at_eq_some_iff.mp found
  obtain ⟨-, walked, -⟩ := follow_eq_ok_iff.mp follows
  rw [String.toList_ofList] at walked
  have stepped := foldlM_filter_leads walked
  have later := within.walk stepped
  rw [← within.startOf_eq, ← steps, there.walked] at later
  cases later
  exact ⟨stepped, within.directory_before (by rw [entry, Option.isSome_some]) there.directory⟩

theorem createDirectoriesFrom (within : fs.Within gs) (there : gs.IsAt path route)
    (some_char : path ≠ []) (short : IsShort path) {fuel : Nat} (long : path.length < fuel) :
    ∃ after, fs.createDirectoriesFrom path fuel = .ok after ∧ after.Within gs := by
  induction fuel generalizing path route with
  | zero => exact absurd long (Nat.not_lt_zero _)
  | succ fuel ih =>
    have start : fs.entry? (fs.startOf path) = some .directory := by
      apply within.directory_before (isSome_startOf path)
      rw [← within.startOf_eq]
      exact there.startOf
    rw [createDirectoriesFrom_succ]
    split
    · next deeper =>
      obtain ⟨inner, named, -⟩ := deeper
      have shorter := length_splitName named
      obtain ⟨parent, above⟩ := there.splitName inner
      obtain ⟨middle, made, within'⟩ := ih above inner short.splitName (by omega)
      obtain ⟨-, parent', here⟩ := createDirectoriesFrom_created (by omega) made
      rw [made]
      split
      · exact ⟨middle, rfl, within'⟩
      · refine within'.createDirectory there some_char short ?_ here.directory
        rw [startOf_splitName _ inner]
        exact here.walked
    · next shallow =>
      by_cases alone : steps (splitName path).1 = []
      · refine within.createDirectory there some_char short ?_ start
        rw [alone]
        rfl
      · have inner : (splitName path).1 ≠ [] := by
          intro empty
          rw [empty] at alone
          exact alone rfl
        have contained : fs.contains (String.ofList (splitName path).1) = true := by
          by_contra missing
          exact shallow ⟨inner, mt steps_splitName_of_bare alone, Bool.eq_false_iff.mpr missing⟩
        obtain ⟨parent, above⟩ := there.splitName inner
        have here := within.isAt_of_contains above contained
        refine within.createDirectory there some_char short ?_ here.directory
        rw [startOf_splitName _ inner]
        exact here.walked

theorem contains (within : fs.Within gs) {p : String} (there : fs.contains p = true) :
    gs.contains p = true := by
  obtain ⟨fits, e, found⟩ := contains_iff_exists.mp there
  obtain ⟨stop, follows, entry⟩ := at_eq_some_iff.mp found
  obtain ⟨e', entry', -⟩ := within.kinds stop e entry
  exact contains_iff_exists.mpr ⟨(isShort_of_at fits found).tooLong_eq_false, e',
    at_eq_some_iff.mpr ⟨stop, within.follow follows, entry'⟩⟩

/-- Directories that can be created can be created where less is there, and no more are created. -/
theorem createDirectoriesFrom_of_created (within : fs.Within gs) (some_char : path ≠ []) {fuel : Nat}
    (long : path.length < fuel) (done : gs.createDirectoriesFrom path fuel = .ok after) :
    ∃ after', fs.createDirectoriesFrom path fuel = .ok after' ∧ after'.Within after := by
  obtain ⟨grown, route, there⟩ := createDirectoriesFrom_created long done
  induction fuel generalizing path after route with
  | zero => exact absurd long (Nat.not_lt_zero _)
  | succ fuel ih =>
    rw [createDirectoriesFrom_succ] at done
    split at done
    · next deeper =>
      obtain ⟨inner, named, missing⟩ := deeper
      obtain ⟨middle, above, last⟩ := exists_of_bind done
      have shorter := length_splitName named
      split at last
      · next dot =>
        obtain ⟨grown', route', there'⟩ := createDirectoriesFrom_created (by omega) above
        obtain ⟨middle', above', within'⟩ := ih inner (by omega) above grown' route' there'
        cases last
        refine ⟨middle', ?_, within'⟩
        have missing' : fs.contains (String.ofList (splitName path).1) = false := by
          rw [Bool.eq_false_iff] at missing ⊢
          exact mt within.contains missing
        rw [createDirectoriesFrom_succ, if_pos ⟨inner, named, missing'⟩, above']
        exact if_pos dot
      · exact (within.trans grown).createDirectoriesFrom there some_char
          (isShort_of_createDirectory last) long
    · exact (within.trans grown).createDirectoriesFrom there some_char
        (isShort_of_createDirectory done) long

/-- Directories can be created if they are created where more is there, and no more than these are. -/
theorem createDirectories (within : fs.Within gs) (some_char : path ≠ [])
    (done : gs.createDirectories path = .ok after) :
    ∃ after', fs.createDirectories path = .ok after' ∧ after'.Within after :=
  within.createDirectoriesFrom_of_created some_char (Nat.lt_succ_self _) done

end Within

end

end FileSystem

end ImportBoundary
