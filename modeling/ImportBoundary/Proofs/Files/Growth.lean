import ImportBoundary.Files.Creation
import ImportBoundary.Proofs.Files.Tree

/-!
# File systems that grow

What is created stays: one file system is within another if whatever is in the first is in the second as
well, a file as a file and a directory as a directory (`Within`). A path that leads somewhere leads there
in whatever the file system grows to (`Within.follow`). It led there before as well, if all that it leads
through was there (`Within.walk_back`).
-/

namespace ImportBoundary

open Text PathChars

namespace FileSystem

/-! ## Definition -/

/-- Whatever is in the first file system is in the second one, and of the same kind. -/
structure Within (fs gs : FileSystem) : Prop where
  current : gs.current = fs.current
  kinds : ∀ route e, fs.entry? route = some e →
    ∃ e', gs.entry? route = some e' ∧ e'.isFile = e.isFile

/-- The route that a piece of a path names, whatever is there. -/
def land (route : Route) (piece : List Char) : Route :=
  if piece = [] ∨ piece = ['.'] then route
  else if piece = ['.', '.'] then route.dropLast
  else route ++ [String.ofList piece]

/-! ## Where pieces lead -/

section

variable {fs : FileSystem} {start route : Route} {ps : List (List Char)} {piece : List Char}

theorem step_directory (directory : fs.entry? route = some .directory) :
    fs.step route piece = .ok (land route piece) := by
  unfold step land
  simp only [directory]
  split
  · rfl
  · split <;> rfl

theorem step_eq_ok_iff {after : Route} : fs.step route piece = .ok after ↔
    fs.entry? route = some .directory ∧ after = land route piece := by
  constructor
  · intro stepped
    have directory := entry_of_step stepped
    rw [step_directory directory] at stepped
    exact ⟨directory, (Except.ok.inj stepped).symm⟩
  · rintro ⟨directory, rfl⟩
    exact step_directory directory

/-- A walk can only end in one place. -/
theorem eq_land_of_walk (walked : ps.foldlM fs.step start = .ok route) :
    route = ps.foldl land start := by
  induction ps generalizing start with
  | nil => exact (Except.ok.inj walked).symm
  | cons piece ps ih =>
    rw [List.foldlM_cons] at walked
    obtain ⟨middle, first, rest⟩ := exists_of_bind walked
    obtain ⟨-, rfl⟩ := step_eq_ok_iff.mp first
    exact ih rest

theorem land_of_not_leads (stays : leads piece = false) : land route piece = route :=
  if_pos (eq_of_not_leads stays)

theorem foldl_land_filter (ps : List (List Char)) (start : Route) :
    (ps.filter leads).foldl land start = ps.foldl land start := by
  induction ps generalizing start with
  | nil => rfl
  | cons piece ps ih =>
    cases leading : leads piece with
    | true =>
      rw [List.filter_cons_of_pos leading]
      exact ih _
    | false =>
      rw [List.filter_cons_of_neg (Bool.eq_false_iff.mp leading), ih, List.foldl_cons,
        land_of_not_leads leading]

/-- The steps alone lead to a directory where all pieces do. -/
theorem walk_of_filter (directory : fs.entry? route = some .directory)
    (walked : (ps.filter leads).foldlM fs.step start = .ok route) :
    ps.foldlM fs.step start = .ok route := by
  induction ps generalizing start with
  | nil => exact walked
  | cons piece ps ih =>
    cases leading : leads piece with
    | true =>
      rw [List.filter_cons_of_pos leading, List.foldlM_cons] at walked
      obtain ⟨middle, first, rest⟩ := exists_of_bind walked
      rw [List.foldlM_cons, first]
      exact ih rest
    | false =>
      rw [List.filter_cons_of_neg (Bool.eq_false_iff.mp leading)] at walked
      have onward := ih walked
      have here : fs.entry? start = some .directory := by
        cases ps with
        | nil =>
          cases onward
          exact directory
        | cons second ps => exact entry_of_foldlM (List.cons_ne_nil _ _) onward
      rw [List.foldlM_cons, step_of_not_leads here leading]
      exact onward

/-- A piece leads down by a name, or to something above. -/
theorem prefix_of_prefix_land {above : Route} (pre : above <+: land route piece)
    (proper : above ≠ land route piece) : above <+: route := by
  unfold land at pre proper
  split at pre
  · exact pre
  · next solid =>
    rw [if_neg solid] at proper
    split at pre
    · exact pre.trans (List.dropLast_prefix route)
    · next noDots =>
      rw [if_neg noDots] at proper
      exact (List.prefix_concat_iff.mp pre).resolve_left proper

/-- Pieces other than `..` lead down. -/
theorem prefix_foldl_land (noDots : ∀ piece ∈ ps, piece ≠ ['.', '.']) :
    start <+: ps.foldl land start := by
  induction ps generalizing start with
  | nil => exact List.prefix_rfl
  | cons piece ps ih =>
    obtain ⟨first, others⟩ := List.forall_mem_cons.mp noDots
    refine List.IsPrefix.trans ?_ (ih others)
    unfold land
    split
    · exact List.prefix_rfl
    · exact List.prefix_append _ _

/-! ## What stands above -/

theorem isSome_above {above : Route} (pre : above <+: route)
    (there : (fs.entry? route).isSome = true) : (fs.entry? above).isSome = true := by
  rw [entry_isSome_iff] at there ⊢
  rcases there with onWay | ⟨e, listed, below⟩
  · exact .inl (pre.trans onWay)
  · exact .inr ⟨e, listed, pre.trans below⟩

/-- The place where a path starts is there. -/
theorem isSome_startOf (path : List Char) : (fs.entry? (fs.startOf path)).isSome = true := by
  rw [entry_isSome_iff]
  unfold startOf
  split
  · exact .inl List.nil_prefix
  · exact .inl List.prefix_rfl

end

/-! ## Growing -/

namespace Within

variable {fs gs hs : FileSystem} {start route : Route} {ps : List (List Char)} {piece : List Char}

theorem refl (fs : FileSystem) : fs.Within fs :=
  ⟨rfl, fun _ e entry => ⟨e, entry, rfl⟩⟩

theorem trans (first : fs.Within gs) (second : gs.Within hs) : fs.Within hs where
  current := second.current.trans first.current
  kinds route e entry := by
    obtain ⟨e', entry', same⟩ := first.kinds route e entry
    obtain ⟨e'', entry'', same'⟩ := second.kinds route e' entry'
    exact ⟨e'', entry'', same'.trans same⟩

theorem directory (within : fs.Within gs) (here : fs.entry? route = some .directory) :
    gs.entry? route = some .directory := by
  obtain ⟨e, entry, same⟩ := within.kinds route _ here
  cases e with
  | file bytes => cases same
  | directory => exact entry

/-- What is a directory later on has been one since it is there. -/
theorem directory_before (within : fs.Within gs) (there : (fs.entry? route).isSome = true)
    (later : gs.entry? route = some .directory) : fs.entry? route = some .directory := by
  obtain ⟨e, entry⟩ := Option.isSome_iff_exists.mp there
  obtain ⟨e', entry', same⟩ := within.kinds route e entry
  cases later.symm.trans entry'
  cases e with
  | file bytes => cases same
  | directory => exact entry

theorem startOf_eq (within : fs.Within gs) (path : List Char) :
    gs.startOf path = fs.startOf path := by
  rw [startOf, startOf, within.current]

theorem absolute_eq (within : fs.Within gs) (path : String) : gs.absolute path = fs.absolute path := by
  rw [absolute, absolute, currentPath, currentPath, within.current]

theorem walk (within : fs.Within gs) (walked : ps.foldlM fs.step start = .ok route) :
    ps.foldlM gs.step start = .ok route := by
  induction ps generalizing start with
  | nil => exact walked
  | cons piece ps ih =>
    rw [List.foldlM_cons] at walked ⊢
    obtain ⟨middle, first, rest⟩ := exists_of_bind walked
    obtain ⟨here, landed⟩ := step_eq_ok_iff.mp first
    rw [step_eq_ok_iff.mpr ⟨within.directory here, landed⟩]
    exact ih rest

/-- Where a path leads, it leads when the file system has grown. -/
theorem follow (within : fs.Within gs) {path : String} (leads : fs.follow path = .ok route) :
    gs.follow path = .ok route := by
  obtain ⟨some_char, walked, there⟩ := follow_eq_ok_iff.mp leads
  obtain ⟨e, entry⟩ := Option.isSome_iff_exists.mp there
  obtain ⟨e', entry', -⟩ := within.kinds route e entry
  rw [follow_eq_ok_iff, within.startOf_eq]
  exact ⟨some_char, within.walk walked, by rw [entry', Option.isSome_some]⟩

/-- A walk down that succeeds has succeeded before, if its end was there. -/
theorem walk_down_back (within : fs.Within gs) (noDots : ∀ piece ∈ ps, piece ≠ ['.', '.'])
    (walked : ps.foldlM gs.step start = .ok route) (there : (fs.entry? route).isSome = true) :
    ps.foldlM fs.step start = .ok route := by
  induction ps generalizing start with
  | nil => exact walked
  | cons piece ps ih =>
    have down : start <+: (piece :: ps).foldl land start := prefix_foldl_land noDots
    rw [← eq_land_of_walk walked] at down
    rw [List.foldlM_cons] at walked ⊢
    obtain ⟨middle, first, rest⟩ := exists_of_bind walked
    obtain ⟨later, landed⟩ := step_eq_ok_iff.mp first
    have here := within.directory_before (isSome_above down there) later
    rw [step_eq_ok_iff.mpr ⟨here, landed⟩]
    exact ih (fun piece mem => noDots piece (List.mem_cons_of_mem _ mem)) rest

/-- A walk that succeeds has succeeded before, if it is down to what holds its end and that was
there. -/
theorem walk_back (within : fs.Within gs) {last : List Char} (noDots : ∀ piece ∈ ps, piece ≠ ['.', '.'])
    (walked : (ps ++ [last]).foldlM gs.step start = .ok route)
    (there : (fs.entry? (ps.foldl land start)).isSome = true) :
    (ps ++ [last]).foldlM fs.step start = .ok route := by
  rw [List.foldlM_append] at walked ⊢
  obtain ⟨middle, before, final⟩ := exists_of_bind walked
  rw [← eq_land_of_walk before] at there
  rw [within.walk_down_back noDots before there]
  rw [List.foldlM_cons] at final
  obtain ⟨stop, stepped, rest⟩ := exists_of_bind final
  obtain ⟨later, landed⟩ := step_eq_ok_iff.mp stepped
  cases rest
  have here := within.directory_before there later
  exact congrArg (· >>= pure) (step_eq_ok_iff.mpr ⟨here, landed⟩)

end Within

/-! ## One more entry -/

section

variable {fs gs : FileSystem} {route r : Route} {e : Entry}

theorem fst_replaced (x : Route × Entry) :
    (if x.1 = route then (route, e) else x).1 = x.1 := by
  split
  · next same => exact same.symm
  · rfl

theorem lookup_replaced (entries : List (Route × Entry)) :
    (entries.map fun x => if x.1 = route then (route, e) else x).lookup r =
      (entries.lookup r).map fun old => if r = route then e else old := by
  induction entries with
  | nil => rfl
  | cons first rest ih =>
    rw [List.map_cons, List.lookup_cons, List.lookup_cons, fst_replaced, ih]
    cases here : r == first.1 with
    | false => rfl
    | true =>
      rw [eq_of_beq here]
      by_cases same : first.1 = route
      · simp only [if_pos same, Option.map_some]
      · simp only [if_neg same, Option.map_some]

/-- An entry that is set is listed, and all others as before. -/
theorem lookup_set : (fs.set route e).entries.lookup r =
    if r = route then some e else fs.entries.lookup r := by
  unfold set
  split
  · next listed =>
    rw [lookup_replaced]
    obtain ⟨old, found⟩ := Option.isSome_iff_exists.mp listed
    by_cases same : r = route
    · simp [same, found]
    · simp [same]
  · next new =>
    rw [Option.not_isSome_iff_eq_none] at new
    rw [List.lookup_append, List.lookup_cons, List.lookup_nil]
    by_cases same : r = route
    · simp [same, new]
    · have other : (r == route) = false := beq_eq_false_iff_ne.mpr same
      simp [same, other]

theorem any_set : (fs.set route e).entries.any (fun x => r.isPrefixOf x.1) =
    (fs.entries.any (fun x => r.isPrefixOf x.1) || r.isPrefixOf route) := by
  unfold set
  split
  · next listed =>
    obtain ⟨old, found⟩ := Option.isSome_iff_exists.mp listed
    rw [List.any_map, Bool.eq_iff_iff, Bool.or_eq_true, List.any_eq_true, List.any_eq_true]
    simp only [Function.comp_apply, fst_replaced]
    refine (or_iff_left_of_imp fun above => ?_).symm
    exact ⟨_, mem_of_lookup found, above⟩
  · rw [List.any_append, List.any_cons, List.any_nil, Bool.or_false]

/-- What stands where after an entry has been set: the entry, and directories above it. -/
theorem entry_set : entry? (fs.set route e) r =
    if r = route then some e
    else (fs.entry? r).or (if r <+: route then some .directory else none) := by
  have current : (fs.set route e).current = fs.current := by
    unfold set
    split <;> rfl
  unfold entry?
  rw [lookup_set, current, any_set]
  by_cases same : r = route
  · simp only [if_pos same]
  · simp only [if_neg same]
    cases fs.entries.lookup r with
    | some old => rfl
    | none =>
      simp only [← Bool.or_assoc, ← List.isPrefixOf_iff_prefix]
      cases r.isPrefixOf fs.current || fs.entries.any fun x => r.isPrefixOf x.1 with
      | true => rfl
      | false => rfl

/-- Setting an entry of the kind that stands there is growing. -/
theorem within_set (fits : ∀ old, fs.entry? route = some old → e.isFile = old.isFile) :
    fs.Within (fs.set route e) where
  current := by
    unfold set
    split <;> rfl
  kinds r old entry := by
    rw [entry_set]
    by_cases same : r = route
    · subst same
      exact ⟨e, if_pos rfl, fits old entry⟩
    · rw [if_neg same, entry, Option.some_or]
      exact ⟨old, rfl, rfl⟩

/-- An entry can be set in what is within a file system that has it, where all above it is there. -/
theorem Within.set (within : fs.Within gs)
    (there : ∃ e', gs.entry? route = some e' ∧ e'.isFile = e.isFile)
    (above : ∀ r, r <+: route → r ≠ route → (fs.entry? r).isSome = true) :
    (fs.set route e).Within gs where
  current := by
    rw [within.current]
    unfold FileSystem.set
    split <;> rfl
  kinds r old entry := by
    rw [entry_set] at entry
    by_cases same : r = route
    · rw [if_pos same] at entry
      cases entry
      rw [same]
      exact there
    · rw [if_neg same] at entry
      cases before : fs.entry? r with
      | some e =>
        rw [before, Option.some_or] at entry
        cases entry
        exact within.kinds r old before
      | none =>
        rw [before, Option.none_or] at entry
        split at entry
        · next pre =>
          have here := above r pre same
          rw [before] at here
          cases here
        · cases entry

end

end FileSystem

end ImportBoundary
