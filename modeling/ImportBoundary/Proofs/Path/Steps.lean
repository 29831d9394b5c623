import ImportBoundary.Files.Basic
import ImportBoundary.Proofs.Path.Relative

/-!
# Steps of a path

The pieces of a path that lead somewhere: all but the empty ones and `.`. Doubled slashes, slashes
at the end and `.` leave the steps of a path as they are, and the steps alone decide where a rooted
path leads from the root (`Path.normalize_rooted`) and a path that starts with `.` from a directory
(`Address.resolve_relative`).
-/

namespace ImportBoundary

open Text PathChars

namespace PathChars

/-- A piece of a path that leads somewhere. -/
def leads (piece : List Char) : Bool :=
  decide (piece ≠ [] ∧ piece ≠ ['.'])

/-- The pieces of a path that lead somewhere. -/
def steps (p : List Char) : List (List Char) :=
  (pieces p).filter leads

theorem eq_of_not_leads {piece : List Char} (h : leads piece = false) :
    piece = [] ∨ piece = ['.'] := by
  have stays := of_decide_eq_false h
  rw [not_and_or, not_not, not_not] at stays
  exact stays

theorem steps_append (p q : List Char) : steps (p ++ '/' :: q) = steps p ++ steps q := by
  rw [steps, pieces, splitAtChar_append, List.filter_append]
  rfl

theorem steps_slash (p : List Char) : steps ('/' :: p) = steps p :=
  steps_append [] p

theorem steps_of_slash_not_mem {name : List Char} (slash : '/' ∉ name) (some_char : name ≠ [])
    (noDot : name ≠ ['.']) : steps name = [name] := by
  simp [steps, leads, splitAtChar_of_not_mem slash, some_char, noDot]

/-- Names that a path keeps. -/
theorem steps_joinWith {names : List (List Char)}
    (h : ∀ s ∈ names, '/' ∉ s ∧ s ≠ [] ∧ s ≠ ['.']) : steps (joinWith ['/'] names) = names := by
  cases names with
  | nil => rfl
  | cons s names =>
    rw [steps, pieces, splitAtChar_joinWith (List.cons_ne_nil _ _) fun s hs => (h s hs).1,
      List.filter_eq_self]
    intro s hs
    exact decide_eq_true (h s hs).2

theorem mem_steps {p s : List Char} (h : s ∈ steps p) :
    ('/' ∉ s ∧ s ≠ [] ∧ s ≠ ['.']) ∧ ∀ c ∈ s, c ∈ p := by
  obtain ⟨piece, leads⟩ := List.mem_filter.mp h
  obtain ⟨noSlash, sub⟩ := mem_of_mem_piece piece
  exact ⟨⟨noSlash, of_decide_eq_true leads⟩, sub⟩

theorem steps_slashes (n : Nat) (p : List Char) : steps (List.replicate n '/' ++ p) = steps p := by
  induction n with
  | zero => rfl
  | succ n ih => rw [List.replicate_succ, List.cons_append, steps_slash, ih]

/-- The name before a run of slashes is found whole, so it is carried along. -/
theorem steps_append_collapse {name : List Char} (slash : '/' ∉ name) (p : List Char) :
    steps (name ++ collapse p) = steps (name ++ p) := by
  fun_induction collapse p generalizing name with
  | case1 cs ih => rw [ih slash, steps_append, steps_append, steps_slash]
  | case2 c cs _ ih =>
    by_cases hc : c = '/'
    · subst hc
      rw [steps_append, steps_append]
      exact congrArg _ (ih (List.not_mem_nil))
    · rw [List.append_cons, ih (by simp [slash, Ne.symm hc]), ← List.append_cons]
  | case3 => rfl

theorem steps_collapse (p : List Char) : steps (collapse p) = steps p :=
  steps_append_collapse List.not_mem_nil p

theorem steps_dropTrailingSlashes (p : List Char) : steps (dropTrailingSlashes p) = steps p := by
  induction p using List.reverseRecOn with
  | nil => rfl
  | append_singleton p c ih =>
    by_cases hc : c = '/'
    · subst hc
      have same : dropTrailingSlashes (p ++ ['/']) = dropTrailingSlashes p := by
        simp [dropTrailingSlashes]
      rw [same, ih, steps_append]
      exact (List.append_nil _).symm
    · have same : dropTrailingSlashes (p ++ [c]) = p ++ [c] := by simp [dropTrailingSlashes, hc]
      rw [same]

/-- What a root starts with is left of it without its last slashes, unless nothing is. -/
theorem dropTrailingSlashes_rooted {root : List Char} (rooted : isRooted root = true) :
    dropTrailingSlashes (collapse root) = [] ∨
      ∃ rest, dropTrailingSlashes (collapse root) = '/' :: rest ∧ isRooted rest = false := by
  obtain ⟨cut, whole⟩ : dropTrailingSlashes (collapse root) <+: collapse root :=
    List.rdropWhile_prefix _ _
  cases kept : dropTrailingSlashes (collapse root) with
  | nil => exact .inl rfl
  | cons c rest =>
    rw [kept, List.cons_append] at whole
    rw [← isRooted_collapse, ← whole, isRooted_cons] at rooted
    obtain rfl := of_decide_eq_true rooted
    refine .inr ⟨rest, rfl, ?_⟩
    have opens : collapse root = [] ++ '/' :: (rest ++ cut) := whole.symm
    have single := single_slash opens
    cases rest with
    | nil => rfl
    | cons d rest => rwa [isRooted_append (List.cons_ne_nil _ _)] at single

end PathChars

namespace Path

theorem tidyChars_eq (p : List Char) : tidyChars p =
    let text := List.replicate (leadingSlashes p) '/' ++ joinWith ['/'] (steps p)
    if text.isEmpty then ['.'] else text :=
  rfl

theorem steps_tidyChars (p : List Char) : steps (tidyChars p) = steps p := by
  have joined : steps (List.replicate (leadingSlashes p) '/' ++ joinWith ['/'] (steps p)) =
      steps p := by
    rw [steps_slashes, steps_joinWith fun s hs => (mem_steps hs).1]
  simp only [tidyChars_eq]
  split
  · next nothing =>
    rw [← joined, List.isEmpty_iff.mp nothing]
    rfl
  · exact joined

theorem leadingSlashes_rooted {p : List Char} (rooted : isRooted p = true) :
    ∃ n, leadingSlashes p = n + 1 := by
  unfold leadingSlashes
  split
  · exact ⟨0, rfl⟩
  · exact ⟨1, rfl⟩
  · exact ⟨0, rfl⟩
  · next other =>
    unfold isRooted at rooted
    split at rooted
    · exact absurd rfl (other _)
    · cases rooted

theorem isRooted_tidyChars {p : List Char} (rooted : isRooted p = true) :
    isRooted (tidyChars p) = true := by
  obtain ⟨n, lead⟩ := leadingSlashes_rooted rooted
  rw [tidyChars_eq, lead, List.replicate_succ, List.cons_append]
  rfl

/-- A path that is tidied holds nothing new but dots and slashes. -/
theorem mem_tidyChars {p : List Char} {c : Char} (h : c ∈ tidyChars p) :
    c ∈ p ∨ c = '/' ∨ c = '.' := by
  simp only [tidyChars_eq] at h
  split at h
  · exact .inr (.inr (List.mem_singleton.mp h))
  · rcases List.mem_append.mp h with slash | joined
    · exact .inr (.inl (List.eq_of_mem_replicate slash))
    · rcases Address.mem_joinWith joined with slash | ⟨s, inSteps, inPiece⟩
      · exact .inr (.inl slash)
      · exact .inl ((mem_steps inSteps).2 c inPiece)

end Path

namespace Address

/-- Only the steps of a path lead anywhere. -/
theorem follow_steps (a : Address) (p : List Char) : a.follow (steps p) = a.follow (pieces p) := by
  unfold steps
  generalize pieces p = ps
  induction ps generalizing a with
  | nil => rfl
  | cons piece ps ih =>
    cases leading : leads piece with
    | true =>
      rw [List.filter_cons_of_pos leading]
      exact ih (a.step piece)
    | false =>
      have stays : a.step piece = a := by
        rcases eq_of_not_leads leading with rfl | rfl
        · exact step_nil a
        · simp [step, IsSegment]
      rw [List.filter_cons_of_neg (Bool.eq_false_iff.mp leading), ih, follow, follow,
        List.foldl_cons, stays]

/-- The address of a rooted path is where its steps lead from the root. -/
theorem read_unifySlashes {p : List Char} (rooted : isRooted p = true) (noBackslash : '\\' ∉ p) :
    read (unifySlashes p) = (top none).follow (steps p) := by
  obtain ⟨rest, slash⟩ : ∃ rest, collapse p = '/' :: rest := by
    rw [← isRooted_collapse] at rooted
    cases cut : collapse p with
    | nil => rw [cut] at rooted; cases rooted
    | cons c rest =>
      rw [cut, isRooted_cons] at rooted
      exact ⟨rest, by rw [of_decide_eq_true rooted]⟩
  rw [unifySlashes, map_unifySeparator noBackslash, ← steps_collapse, slash, steps_slash,
    follow_steps]
  exact read_opening none rest

/-- Climbing takes back the last segments. -/
theorem follow_climb (a : Address) {segments : List Segment} {n : Nat} (le : n ≤ segments.length) :
    (a.below segments).follow (List.replicate n ['.', '.']) =
      a.below (segments.take (segments.length - n)) := by
  induction n generalizing segments with
  | zero => rw [Nat.sub_zero, List.take_length]; rfl
  | succ n ih =>
    have inner : segments ≠ [] := List.length_pos_iff.mp (Nat.lt_of_lt_of_le (Nat.succ_pos n) le)
    have shorter : segments.dropLast.length = segments.length - 1 := List.length_dropLast
    have up : (a.below segments).step ['.', '.'] = a.below segments.dropLast :=
      (if_pos rfl).trans (up_below_of_ne_nil a inner)
    rw [List.replicate_succ, follow, List.foldl_cons, up]
    refine (ih (by omega)).trans ?_
    rw [shorter, List.dropLast_eq_take, List.take_take]
    congr 2
    omega

theorem resolve_relative (a : Address) {rest : List Char} (clean : Clean ('.' :: rest)) :
    a.resolve ('.' :: rest) = a.follow (steps ('.' :: rest)) := by
  have unified : unifySlashes ('.' :: rest) = '.' :: collapse rest := by
    rw [unifySlashes, map_unifySeparator clean.2, collapse_cons_of_ne (by decide)]
  have noDrive : hasDrive ('.' :: collapse rest) = false := by
    unfold hasDrive
    split
    · next same =>
      obtain ⟨rfl, -⟩ := List.cons.inj same
      decide
    · rfl
  have relative : isAbsolute ('.' :: rest) = false := by
    rw [isAbsolute, unified, noDrive]
    rfl
  rw [resolve, relative, ← steps_collapse, collapse_cons_of_ne (by decide), follow_steps, unified]
  rfl

end Address

namespace Path

theorem isAbsolute_of_isRooted {p : String} (rooted : isRooted p.toList = true)
    (clean : Clean p.toList) : isAbsolute p = true := by
  rw [isAbsolute, PathChars.isAbsolute, PathChars.unifySlashes, Address.map_unifySeparator clean.2,
    isRooted_collapse, rooted, Bool.true_or]

/-- Whatever the base, a rooted path is where its steps lead from the root. -/
theorem normalize_rooted (base : String) {p : String} (rooted : isRooted p.toList = true)
    (clean : Clean p.toList) :
    normalize base p = ((Address.top none).follow (steps p.toList)).path := by
  rw [normalize_of_isAbsolute base (isAbsolute_of_isRooted rooted clean) clean.1, Address.ofPath,
    Address.read_unifySlashes rooted clean.2]

/-- A rooted path that is tidied and has its slashes unified is as rooted and clean as before, and
has the same steps. -/
theorem unifySlashes_tidy {p : String} (rooted : isRooted p.toList = true) (clean : Clean p.toList) :
    isRooted (unifySlashes (tidy p)).toList = true ∧ Clean (unifySlashes (tidy p)).toList ∧
      steps (unifySlashes (tidy p)).toList = steps p.toList := by
  have without {c : Char} (h : c ∉ p.toList) (slash : c ≠ '/') (dot : c ≠ '.') :
      c ∉ tidyChars p.toList := by
    intro inside
    rcases mem_tidyChars inside with inside | same | same
    · exact h inside
    · exact slash same
    · exact dot same
  have text : (unifySlashes (tidy p)).toList = collapse (tidyChars p.toList) := by
    rw [unifySlashes, tidy, String.toList_ofList, String.toList_ofList, PathChars.unifySlashes,
      Address.map_unifySeparator (without clean.2 (by decide) (by decide))]
  rw [text, isRooted_collapse, steps_collapse, steps_tidyChars]
  exact ⟨isRooted_tidyChars rooted,
    ⟨fun h => without clean.1 (by decide) (by decide) (mem_of_mem_collapse h),
      fun h => without clean.2 (by decide) (by decide) (mem_of_mem_collapse h)⟩, rfl⟩

/-- A name below a directory of packages, by its steps. -/
theorem child_tidy {q : String} (name : String)
    (slash : q = "" ∨ ∃ rest, q.toList = '/' :: rest ∧ isRooted rest = false) :
    child (tidy (if q.isEmpty then "/" else q)) name =
      String.ofList ('/' :: joinWith ['/'] (steps q.toList ++ [name.toList])) := by
  have tidied : tidy (if q.isEmpty then "/" else q) =
      String.ofList ('/' :: joinWith ['/'] (steps q.toList)) := by
    rcases slash with rfl | ⟨rest, text, single⟩
    · rfl
    · have some_char : q.isEmpty = false := by
        refine Bool.eq_false_iff.mpr fun empty => ?_
        rw [String.isEmpty_iff.mp empty] at text
        cases text
      rw [some_char, if_neg Bool.false_ne_true, tidy, tidyChars_eq, text,
        Address.leadingSlashes_slash single]
      rfl
  have noDot : String.ofList ('/' :: joinWith ['/'] (steps q.toList)) ≠ "." := by
    intro dot
    have chars := congrArg String.toList dot
    rw [String.toList_ofList] at chars
    exact absurd (List.cons.inj chars).1 (by decide)
  rw [tidied, child, if_neg noDot, String.toList_ofList, ← String.toList_inj]
  cases found : steps q.toList with
  | nil => simp [joinWith]
  | cons first rest =>
    obtain ⟨⟨noSlash, some_char, -⟩, -⟩ := mem_steps (p := q.toList) (found ▸ List.mem_cons_self ..)
    have below : ('/' :: joinWith ['/'] (first :: rest)).all (· = '/') = false := by
      cases first with
      | nil => exact absurd rfl some_char
      | cons c cs =>
        have notSlash : c ≠ '/' := fun same => noSlash (same ▸ List.mem_cons_self ..)
        rw [joinWith_cons_flatMap]
        simp [notSlash]
    rw [below, if_neg Bool.false_ne_true, joinWith_concat _ _ (List.cons_ne_nil _ _)]
    simp

end Path

end ImportBoundary
