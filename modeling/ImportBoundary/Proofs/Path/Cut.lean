import ImportBoundary.Proofs.Path.Canonical

/-!
# Paths that are cut

A path that holds U+0000 is normalized like any other, and cut at the first U+0000 in the end. What is
left is canonical exactly if the cut leaves only segments, or nothing at all behind the root or the
drive (`isCanonical_normalize_iff`). Otherwise it ends in a slash, or in `.` or `..`. Nothing is cut off
a path without U+0000 (`endsWell_of_nulFree`).
-/

namespace ImportBoundary

open Text PathChars

namespace PathChars

/-! ## Definition -/

/-- The path that is simplified: `p` itself, or `p` behind the directory `base`. -/
def targetOf (base p : List Char) : List Char :=
  if isAbsolute (unifySlashes p) then unifySlashes p else join (unifySlashes base) (unifySlashes p)

/-- The names that a path leads through before it is cut. -/
def namesOf (base p : List Char) : List (List Char) :=
  let target := targetOf base p
  foldPieces true (pieces (if hasDrive target then target.drop 2 else target))

/-- What is left of some names when their path is cut at the first U+0000. -/
def cutNames : List (List Char) → List (List Char)
  | [] => []
  | s :: rest => if NulFree s then s :: cutNames rest else [untilNul s]

/-- The cut leaves only segments, or nothing. -/
def EndsWell (base p : List Char) : Prop :=
  (∀ s ∈ cutNames (namesOf base p), IsSegment s) ∨ cutNames (namesOf base p) = [[]]

/-! ## Cutting -/

theorem cutNames_ne_nil {names : List (List Char)} (h : names ≠ []) : cutNames names ≠ [] := by
  cases names with
  | nil => exact absurd rfl h
  | cons s rest =>
    unfold cutNames
    split <;> exact List.cons_ne_nil _ _

theorem untilNul_cons {c : Char} (h : c ≠ '\x00') (s : List Char) :
    untilNul (c :: s) = c :: untilNul s := by
  simp [untilNul, h]

theorem untilNul_append_of_nulFree {s : List Char} (h : NulFree s) (t : List Char) :
    untilNul (s ++ t) = s ++ untilNul t := by
  refine List.takeWhile_append_of_pos fun c hc => ?_
  have : c ≠ '\x00' := fun eq => h (eq ▸ hc)
  simpa using this

theorem untilNul_append_of_not_nulFree {s : List Char} (h : ¬ NulFree s) (t : List Char) :
    untilNul (s ++ t) = untilNul s := by
  induction s with
  | nil => exact absurd List.not_mem_nil h
  | cons c s ih =>
    by_cases nul : c = '\x00'
    · simp [untilNul, nul]
    · have later : ¬ NulFree s := fun free =>
        h (List.not_mem_cons_of_ne_of_not_mem (Ne.symm nul) free)
      rw [List.cons_append, untilNul_cons nul, untilNul_cons nul, ih later]

theorem joinWith_cons (s : List Char) {rest : List (List Char)} (h : rest ≠ []) :
    joinWith ['/'] (s :: rest) = s ++ '/' :: joinWith ['/'] rest := by
  cases rest with
  | nil => exact absurd rfl h
  | cons t rest => simp [joinWith]

theorem nulFree_untilNul (p : List Char) : NulFree (untilNul p) := by
  intro nul
  have := List.mem_takeWhile_imp nul
  simp at this

theorem normalize_eq_target (base p : List Char) :
    normalize base p = if hasDrive (targetOf base p) then
      (targetOf base p).take 2 ++ simplify ((targetOf base p).drop 2)
      else simplify (targetOf base p) :=
  rfl

theorem nulFree_simplify (p : List Char) : NulFree (simplify p) := by
  have dot : NulFree ['.'] := by decide
  simp only [simplify]
  split
  · exact dot
  · split
    · exact dot
    · exact nulFree_untilNul _

/-- Nothing that is normalized holds U+0000. -/
theorem nulFree_normalize (base p : List Char) : NulFree (normalize base p) := by
  rw [normalize_eq_target]
  generalize targetOf base p = target
  split
  · next drive =>
    unfold hasDrive at drive
    split at drive
    · next letter rest =>
      have letter : letter ≠ '\x00' := by
        rintro rfl
        exact absurd drive (by decide)
      intro nul
      rcases List.mem_append.mp nul with nul | nul
      · simp [Ne.symm letter] at nul
      · exact nulFree_simplify _ nul
    · cases drive
  · exact nulFree_simplify _

/-- A path that is cut keeps the names before the cut and a part of one. -/
theorem untilNul_joinWith (names : List (List Char)) :
    untilNul (joinWith ['/'] names) = joinWith ['/'] (cutNames names) := by
  induction names with
  | nil => rfl
  | cons s rest ih =>
    cases rest with
    | nil =>
      by_cases free : NulFree s
      · rw [cutNames, if_pos free]
        exact Address.untilNul_eq free
      · rw [cutNames, if_neg free]
        rfl
    | cons t rest =>
      have more := List.cons_ne_nil t rest
      rw [joinWith_cons s more]
      by_cases free : NulFree s
      · have cut : cutNames (s :: t :: rest) = s :: cutNames (t :: rest) := by
          rw [cutNames, if_pos free]
        rw [untilNul_append_of_nulFree free, untilNul_cons (by decide), ih, cut,
          joinWith_cons s (cutNames_ne_nil more)]
      · rw [untilNul_append_of_not_nulFree free, cutNames, if_neg free]
        rfl

/-! ## Names -/

/-- A piece that a path keeps, whatever else is in it. -/
def IsName (s : List Char) : Prop :=
  s ≠ [] ∧ s ≠ ['.'] ∧ s ≠ ['.', '.'] ∧ '/' ∉ s

theorem isName_pushPiece {segments : List (List Char)} {piece : List Char}
    (kept : ∀ s ∈ segments, IsName s) (slash : '/' ∉ piece) :
    ∀ s ∈ pushPiece true segments piece, IsName s := by
  unfold pushPiece
  split
  · exact kept
  · next solid =>
    obtain ⟨empty, dot⟩ := not_or.mp solid
    split
    · cases segments with
      | nil => simp
      | cons last before =>
        obtain ⟨name, others⟩ := List.forall_mem_cons.mp kept
        dsimp only
        rw [if_neg name.2.2.1]
        exact others
    · next dots => exact List.forall_mem_cons.mpr ⟨⟨empty, dot, dots, slash⟩, kept⟩

theorem isName_foldPieces {ps : List (List Char)} (slash : ∀ piece ∈ ps, '/' ∉ piece) :
    ∀ s ∈ foldPieces true ps, IsName s := by
  have fold : ∀ segments : List (List Char), (∀ s ∈ segments, IsName s) →
      ∀ s ∈ ps.foldl (pushPiece true) segments, IsName s := by
    induction ps with
    | nil => exact fun _ kept => kept
    | cons piece ps ih =>
      intro segments kept
      obtain ⟨first, others⟩ := List.forall_mem_cons.mp slash
      exact ih others _ (isName_pushPiece kept first)
  intro s hs
  exact fold [] (by simp) s (List.mem_reverse.mp hs)

theorem mem_pushPiece {segments : List (List Char)} {piece s : List Char}
    (h : s ∈ pushPiece true segments piece) : s ∈ segments ∨ s = piece := by
  unfold pushPiece at h
  split at h
  · exact .inl h
  · split at h
    · cases segments with
      | nil => simp at h
      | cons last before =>
        dsimp only at h
        split at h
        · rcases List.mem_cons.mp h with rfl | h
          · exact .inr rfl
          · exact .inl h
        · exact .inl (List.mem_cons_of_mem _ h)
    · rcases List.mem_cons.mp h with rfl | h
      · exact .inr rfl
      · exact .inl h

theorem mem_of_mem_foldPieces {ps : List (List Char)} {s : List Char}
    (h : s ∈ foldPieces true ps) : s ∈ ps := by
  have fold : ∀ segments : List (List Char), s ∈ ps.foldl (pushPiece true) segments →
      s ∈ segments ∨ s ∈ ps := by
    clear h
    induction ps with
    | nil => exact fun _ h => .inl h
    | cons piece ps ih =>
      intro segments h
      rcases ih _ h with h | h
      · rcases mem_pushPiece h with h | rfl
        · exact .inl h
        · exact .inr List.mem_cons_self
      · exact .inr (List.mem_cons_of_mem _ h)
  exact (fold [] (List.mem_reverse.mp h)).resolve_left List.not_mem_nil

/-- The names that a path leads through hold no separators, however they are written. -/
theorem isName_of_mem_namesOf {base p s : List Char} (h : s ∈ namesOf base p) :
    IsName s ∧ '\\' ∉ s := by
  have slash : ∀ piece ∈ pieces (if hasDrive (targetOf base p) then (targetOf base p).drop 2
      else targetOf base p), '/' ∉ piece := fun piece hp => (mem_of_mem_piece hp).1
  refine ⟨isName_foldPieces slash s h, fun backslash => ?_⟩
  have char := (mem_of_mem_piece (mem_of_mem_foldPieces h)).2 _ backslash
  have target : '\\' ∈ targetOf base p := by
    split at char
    · exact List.mem_of_mem_drop char
    · exact char
  unfold targetOf at target
  split at target
  · exact backslash_not_mem_unifySlashes p target
  · rcases mem_join target with h | h | h
    · exact backslash_not_mem_unifySlashes base h
    · exact absurd h (by decide)
    · exact backslash_not_mem_unifySlashes p h

end PathChars

namespace Address

theorem opensOnce_targetOf {base : List Char} (absolute : isAbsolute base = true) (p : List Char) :
    OpensOnce (targetOf base p) := by
  unfold targetOf
  rw [isAbsolute_unifySlashes]
  cases hp : isAbsolute p with
  | true => exact opensOnce_unifySlashes hp
  | false => exact (join_opensOnce (opensOnce_unifySlashes absolute) (isRooted_unifySlashes hp)).1

/-- A path that starts with one slash comes to what is left of its names. -/
theorem simplify_slash_cut {rest : List Char} (single : isRooted rest = false) :
    simplify ('/' :: rest) =
      '/' :: joinWith ['/'] (cutNames (foldPieces true (pieces ('/' :: rest)))) := by
  have head : ('/' :: rest).head? ≠ some '\x00' := by simp
  simp only [simplify, leadingSlashes_slash single, Nat.lt_one_iff, decide_true]
  rw [if_neg head]
  simp only [List.replicate_succ, List.replicate_zero, List.singleton_append]
  rw [untilNul_cons (by decide), untilNul_joinWith]
  rfl

/-- What is normalized from an absolute base is an opening and what is left of some names. -/
theorem normalize_eq_cut {base : List Char} (absolute : isAbsolute base = true) (p : List Char) :
    ∃ drive, normalize base p = opening drive ++ joinWith ['/'] (cutNames (namesOf base p)) := by
  obtain ⟨drive, rest, target, single⟩ := opensOnce_targetOf absolute p
  refine ⟨drive, ?_⟩
  have names : namesOf base p = foldPieces true (pieces (if hasDrive (targetOf base p) then
      (targetOf base p).drop 2 else targetOf base p)) := rfl
  rw [normalize_eq_target, names, target, hasDrive_opening]
  cases drive with
  | none => exact simplify_slash_cut single
  | some d => exact congrArg ([d.1, ':'] ++ ·) (simplify_slash_cut single)

/-- Different openings start different texts. -/
theorem opening_append_inj {drive drive' : Option Drive} {rest rest' : List Char}
    (h : opening drive ++ rest = opening drive' ++ rest') : drive = drive' ∧ rest = rest' := by
  cases drive with
  | none =>
    cases drive' with
    | none => exact ⟨rfl, (List.cons.inj h).2⟩
    | some d => exact absurd (List.cons.inj h).1.symm (Drive.ne_of_not_isAlpha d (by decide))
  | some d =>
    cases drive' with
    | none => exact absurd (List.cons.inj h).1 (Drive.ne_of_not_isAlpha d (by decide))
    | some d' =>
      simp only [opening, List.cons_append, List.nil_append, List.cons.injEq, true_and] at h
      exact ⟨congrArg some (Subtype.ext h.1), h.2⟩

/-- An opening and some names are the text of an address if all the names are segments, or if nothing
follows the opening. -/
theorem exists_text_iff {drive : Option Drive} {names : List (List Char)}
    (slash : ∀ s ∈ names, '/' ∉ s) :
    (∃ a : Address, a.text = opening drive ++ joinWith ['/'] names) ↔
      (∀ s ∈ names, IsSegment s) ∨ names = [[]] := by
  constructor
  · rintro ⟨a, eq⟩
    obtain ⟨-, same⟩ := opening_append_inj eq
    by_cases none : names = []
    · exact .inl (by simp [none])
    · have split := splitAtChar_joinWith none slash
      rw [← same] at split
      by_cases top : a.names = []
      · rw [top] at split
        exact .inr split.symm
      · rw [splitAtChar_joinWith top fun _ => slash_not_mem_names] at split
        rw [← split]
        exact .inl fun s => names_spec
  · rintro (segments | rfl)
    · have keep : (names.attach.map fun s => (⟨s.1, segments s.1 s.2⟩ : Segment)).map Subtype.val =
          names := by simp
      exact ⟨⟨drive, _⟩, congrArg (fun ns => opening drive ++ joinWith ['/'] ns) keep⟩
    · exact ⟨top drive, rfl⟩

theorem isCanonical_iff {p : String} : IsCanonical p ↔ ∃ a : Address, a.text = p.toList := by
  constructor
  · intro canonical
    exact ⟨ofPath p, by rw [← String.toList_ofList (l := (ofPath p).text)]; exact congrArg _ canonical⟩
  · rintro ⟨a, eq⟩
    have path : a.path = p := by rw [Address.path, eq, String.ofList_toList]
    exact path ▸ isCanonical_path a

end Address

namespace Path

open Address

theorem slash_not_mem_cutNames {names : List (List Char)} (h : ∀ s ∈ names, '/' ∉ s) :
    ∀ s ∈ cutNames names, '/' ∉ s := by
  induction names with
  | nil => simp [cutNames]
  | cons s rest ih =>
    obtain ⟨first, others⟩ := List.forall_mem_cons.mp h
    unfold cutNames
    split
    · exact List.forall_mem_cons.mpr ⟨first, ih others⟩
    · intro t ht
      rw [List.mem_singleton.mp ht]
      exact fun slash => first ((List.takeWhile_prefix _).subset slash)

/-- What is normalized from an absolute base is canonical exactly if the cut leaves only segments, or
nothing. -/
theorem isCanonical_normalize_iff {base : String} (absolute : isAbsolute base = true) (p : String) :
    IsCanonical (normalize base p) ↔ EndsWell base.toList p.toList := by
  obtain ⟨drive, eq⟩ := normalize_eq_cut absolute p.toList
  rw [isCanonical_iff, normalize, String.toList_ofList, eq]
  exact exists_text_iff (slash_not_mem_cutNames fun s hs => (isName_of_mem_namesOf hs).1.2.2.2)

/-- Nothing is cut off a path without U+0000. -/
theorem endsWell_of_nulFree {base p : String} (absolute : isAbsolute base = true)
    (baseNul : IsNulFree base) (nul : IsNulFree p) : EndsWell base.toList p.toList := by
  rw [← isCanonical_normalize_iff absolute, normalize_of_base absolute baseNul nul]
  exact isCanonical_path _

theorem isNulFree_normalize (base p : String) : IsNulFree (normalize base p) := by
  rw [IsNulFree, normalize, String.toList_ofList]
  exact nulFree_normalize base.toList p.toList

end Path

end ImportBoundary
