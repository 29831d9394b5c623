import ImportBoundary.Log.Terminal
import ImportBoundary.Proofs.Files.Absolute

/-!
# Opening a log file

A log file is opened in a directory that is created with it. Nothing that is there goes, and the path of
the log file leads to it (`openLog_opened`). What can be opened can be opened as well where less is there
(`openLog_within`).
-/

namespace ImportBoundary.Log

open Text PathChars FileSystem

namespace Terminal

variable {fs gs after : FileSystem} {path : String} {h : Handler}

/-! ## The steps -/

/-- The directory of a log file, if its path names one, is created. -/
def prepare (files : FileSystem) (path : String) : Except FileFault FileSystem :=
  if (splitLast path.toList).1.isEmpty then pure files
  else files.createDirectories (splitLast path.toList).1

theorem openLog_eq (fs : FileSystem) (path : String) : openLog fs path = do
    let middle ← prepare fs path
    let after ← middle.createFile (middle.absolute path)
    let route ← (after.follow (middle.absolute path)).mapError
      fun obstacle => ⟨obstacle, middle.absolute path⟩
    return (after, ⟨.file route 0, .debug⟩) := by
  unfold openLog prepare
  dsimp only
  split <;> rfl

theorem openLog_eq_ok_iff : openLog fs path = .ok (after, h) ↔
    ∃ middle route, prepare fs path = .ok middle ∧
      middle.createFile (middle.absolute path) = .ok after ∧
      after.follow (middle.absolute path) = .ok route ∧ h = ⟨.file route 0, .debug⟩ := by
  rw [openLog_eq]
  constructor
  · intro opened
    obtain ⟨middle, prepared, rest⟩ := exists_of_bind opened
    obtain ⟨after', created, rest⟩ := exists_of_bind rest
    obtain ⟨route, followed, rest⟩ := exists_of_bind rest
    cases rest
    refine ⟨middle, route, prepared, created, ?_, rfl⟩
    cases leads : after.follow (middle.absolute path) with
    | error obstacle =>
      rw [leads] at followed
      cases followed
    | ok route' =>
      rw [leads] at followed
      cases followed
      rfl
  · rintro ⟨middle, route, prepared, created, followed, rfl⟩
    simp only [prepared, created, followed, bind, Except.bind]
    rfl

theorem createFile_eq_ok_iff : fs.createFile path = .ok after ↔
    fs.tooLong path = false ∧ ∃ route, fs.followParent path.toList = .ok route ∧
      fs.entry? route ≠ some .directory ∧ after = fs.set route (.file []) := by
  unfold createFile
  cases fs.tooLong path with
  | true => simp
  | false =>
    cases fs.followParent path.toList with
    | error obstacle => simp
    | ok route => rcases entry : fs.entry? route with _ | _ | _ <;> simp [entry, eq_comm]

theorem createFile_within (created : fs.createFile path = .ok after) : fs.Within after := by
  obtain ⟨-, route, -, noDirectory, rfl⟩ := createFile_eq_ok_iff.mp created
  apply within_set
  intro old entry
  cases old with
  | file bytes => rfl
  | directory => exact absurd entry noDirectory

/-- The place that holds a log file, by the text of its path. -/
def holder (fs : FileSystem) (path : String) : Route :=
  (steps (splitLast path.toList).1).foldl land (fs.startOf path.toList)

theorem startOf_splitLast (fs : FileSystem) (path : List Char) :
    (splitLast path).1 = [] ∨ fs.startOf (splitLast path).1 = fs.startOf path := by
  by_cases inner : (splitLast path).1 = []
  · exact .inl inner
  · obtain ⟨rest, whole⟩ := splitLast_isPrefix path
    refine .inr ?_
    conv => rhs; rw [← whole]
    exact (startOf_append inner rest).symm

theorem prepare_prepared (prepared : prepare fs path = .ok after) :
    fs.Within after ∧ (after.entry? (holder fs path)).isSome = true := by
  unfold prepare at prepared
  unfold holder
  split at prepared
  · next bare =>
    cases prepared
    rw [List.isEmpty_iff.mp bare]
    exact ⟨.refl fs, isSome_startOf _⟩
  · next inner =>
    obtain ⟨within, route, there⟩ := createDirectories_created prepared
    have start := (startOf_splitLast fs path.toList).resolve_left (mt List.isEmpty_iff.mpr inner)
    have landed := eq_land_of_walk there.walked
    rw [within.startOf_eq, start] at landed
    rw [← landed, there.directory]
    exact ⟨within, rfl⟩

theorem prepare_within (within : fs.Within gs) (prepared : prepare gs path = .ok after) :
    ∃ after', prepare fs path = .ok after' ∧ after'.Within after := by
  unfold prepare at prepared ⊢
  split
  · next bare =>
    rw [if_pos bare] at prepared
    cases prepared
    exact ⟨fs, rfl, within⟩
  · next inner =>
    rw [if_neg inner] at prepared
    exact within.createDirectories (mt List.isEmpty_iff.mpr inner) prepared

/-! ## Opening -/

/-- The path leads to a file. -/
def IsFileAt (files : FileSystem) (path : String) (route : Route) : Prop :=
  files.follow (files.absolute path) = .ok route ∧ ∃ bytes, files.entry? route = some (.file bytes)

theorem IsFileAt.within {route : Route} (there : IsFileAt fs path route) (within : fs.Within gs) :
    IsFileAt gs path route := by
  obtain ⟨leads, bytes, entry⟩ := there
  obtain ⟨e, entry', same⟩ := within.kinds route _ entry
  rw [IsFileAt, within.absolute_eq]
  refine ⟨within.follow leads, ?_⟩
  cases e with
  | file bytes' => exact ⟨bytes', entry'⟩
  | directory => cases same

/-- A path leads to the same place with and without slashes at its end. -/
theorem eq_of_follow_of_followParent {route route' : Route} (some_char : path.toList ≠ [])
    (follows : gs.follow path = .ok route) (current : gs.current = fs.current)
    (created : fs.followParent path.toList = .ok route') : route = route' := by
  obtain ⟨-, walked, -⟩ := follow_eq_ok_iff.mp follows
  rw [followParent_eq some_char] at created
  have start : gs.startOf path.toList = fs.startOf path.toList := by rw [startOf, startOf, current]
  rw [eq_land_of_walk walked, eq_land_of_walk created, start, ← foldl_land_filter,
    ← foldl_land_filter (pieces (dropTrailingSlashes path.toList))]
  exact congrArg (List.foldl land _) (steps_dropTrailingSlashes path.toList).symm

/-- A log file that is opened is there, and all that was there stays. -/
theorem openLog_opened (opened : openLog fs path = .ok (after, h)) :
    fs.Within after ∧ ∃ route, h = ⟨.file route 0, .debug⟩ ∧ IsFileAt after path route := by
  obtain ⟨middle, route, prepared, created, follows, rfl⟩ := openLog_eq_ok_iff.mp opened
  obtain ⟨within, -⟩ := prepare_prepared prepared
  have within' := createFile_within created
  refine ⟨within.trans within', route, rfl, ?_⟩
  rw [IsFileAt, within'.absolute_eq]
  refine ⟨follows, [], ?_⟩
  obtain ⟨-, route', found, -, rfl⟩ := createFile_eq_ok_iff.mp created
  have some_char := (follow_eq_ok_iff.mp follows).1
  rw [eq_of_follow_of_followParent some_char follows within'.current found, entry_set, if_pos rfl]

/-- Above the place that a beginning of the path of a log file names is nothing but what holds the log
file, and what is above that. -/
theorem prefix_holder (named : ∀ name ∈ fs.current, IsName name) {q : List Char} {above : Route}
    (pre : q <+: (fs.absolute path).toList) (below : above <+: (pieces q).foldl land [])
    (proper : above ≠ (pieces q).foldl land []) : above <+: holder fs path := by
  obtain ⟨-, onWay⟩ := prefix_of_absolute named pre
  obtain ⟨before, last, cut⟩ :=
    (List.eq_nil_or_concat (pieces q)).resolve_left (splitAtChar_ne_nil _ _)
  rw [List.concat_eq_append] at cut
  rw [cut, List.dropLast_concat] at onWay
  rw [cut, List.foldl_append, List.foldl_cons, List.foldl_nil] at below proper
  exact (prefix_of_prefix_land below proper).trans onWay

/-- A walk along a beginning of the path of a log file succeeds where less is there, if what holds the
log file is. -/
theorem walk_back_of_prefix {low high : FileSystem} (within : low.Within high)
    (named : ∀ name ∈ fs.current, IsName name) {q : List Char} {route : Route}
    (pre : q <+: (fs.absolute path).toList) (held : (low.entry? (holder fs path)).isSome = true)
    (walked : (pieces q).foldlM high.step [] = .ok route) :
    (pieces q).foldlM low.step [] = .ok route := by
  obtain ⟨noDots, onWay⟩ := prefix_of_absolute named pre
  obtain ⟨before, last, cut⟩ :=
    (List.eq_nil_or_concat (pieces q)).resolve_left (splitAtChar_ne_nil _ _)
  rw [cut, List.concat_eq_append] at walked noDots onWay ⊢
  rw [List.dropLast_concat] at noDots onWay
  exact within.walk_back noDots walked (isSome_above onWay held)

/-- A log file that can be opened can be opened where less is there, and no more is there afterwards. -/
theorem openLog_within (within : fs.Within gs) (named : ∀ name ∈ fs.current, IsName name)
    (opened : openLog gs path = .ok (after, h)) :
    ∃ after', openLog fs path = .ok (after', h) ∧ after'.Within after := by
  obtain ⟨high, route, prepared, created, follows, rfl⟩ := openLog_eq_ok_iff.mp opened
  obtain ⟨low, prepared', within'⟩ := prepare_within within prepared
  obtain ⟨grown, held⟩ := prepare_prepared prepared'
  have grown' := createFile_within created
  have same : high.absolute path = fs.absolute path := by rw [within'.absolute_eq, grown.absolute_eq]
  rw [same] at created follows
  have rooted : isRooted (fs.absolute path).toList = true := by
    obtain ⟨n, text⟩ := exists_absolute_eq named path
    rw [text]
    rfl
  obtain ⟨fits, place, found, noDirectory, rfl⟩ := createFile_eq_ok_iff.mp created
  obtain ⟨some_char, walked, there⟩ := follow_eq_ok_iff.mp follows
  rw [startOf, rooted, if_pos rfl] at walked
  have found' : low.followParent (fs.absolute path).toList = .ok place := by
    rw [followParent_eq some_char, startOf, rooted, if_pos rfl] at found ⊢
    exact walk_back_of_prefix within' named (List.rdropWhile_prefix _ _) held found
  have short : IsShort (fs.absolute path).toList :=
    isShort_of_followParent ((congrArg high.tooLong String.ofList_toList).trans fits) found
  have created' : low.createFile (fs.absolute path) = .ok (low.set place (.file [])) := by
    refine createFile_eq_ok_iff.mpr ⟨short.tooLong_eq_false, place, found', ?_, rfl⟩
    exact fun directory => noDirectory (within'.directory directory)
  have within'' : (low.set place (.file [])).Within (high.set place (.file [])) := by
    refine (within'.trans grown').set ⟨_, entry_set.trans (if_pos rfl), rfl⟩ fun r below proper => ?_
    rw [followParent_eq some_char, startOf, rooted, if_pos rfl] at found'
    rw [eq_land_of_walk found'] at below proper
    exact isSome_above (prefix_holder named (List.rdropWhile_prefix _ _) below proper) held
  refine ⟨_, openLog_eq_ok_iff.mpr ⟨low, route, prepared', ?_, ?_, rfl⟩, within''⟩
  · rw [grown.absolute_eq]
    exact created'
  · have arrived := eq_of_follow_of_followParent some_char follows grown'.current found
    rw [grown.absolute_eq, follow_eq_ok_iff, startOf, rooted, if_pos rfl, arrived, entry_set, if_pos rfl]
    rw [arrived] at walked
    refine ⟨some_char, ?_, rfl⟩
    obtain ⟨e, entry⟩ := Option.isSome_iff_exists.mp held
    obtain ⟨e', entry', -⟩ := (createFile_within created').kinds _ e entry
    exact walk_back_of_prefix within'' named List.prefix_rfl (by rw [entry', Option.isSome_some]) walked

end Terminal

end ImportBoundary.Log
