import ImportBoundary.Proofs.Path.Address
import Mathlib.Data.List.Basic
import Mathlib.Data.List.TakeWhile

/-!
# Normalized paths are the texts of addresses

`normalize` works on text: it joins, cuts off a drive, drops `.` and `..` and glues the rest
together again. On texts without U+0000 it comes to this: take the base to its address, follow the
path from there (`Address.resolve`), and write the address down (`normalize_eq_text`), however the
base is spelled.
-/

namespace ImportBoundary

open Text

namespace PathChars

theorem Clean.isSegment_piece {p piece : List Char} (hp : Clean p) (h : piece ∈ pieces p) :
    IsSegment piece ↔ piece ≠ [] ∧ piece ≠ ['.'] ∧ piece ≠ ['.', '.'] := by
  obtain ⟨slash, sub⟩ := mem_of_mem_piece h
  constructor
  · rintro ⟨empty, dot, dots, -⟩
    exact ⟨empty, dot, dots⟩
  · rintro ⟨empty, dot, dots⟩
    exact ⟨empty, dot, dots, slash, fun h => hp.2 (sub _ h), fun h => hp.1 (sub _ h)⟩

end PathChars

namespace Address

open PathChars

/-! ## The text of an address is unified -/

theorem collapse_joinWith {names : List (List Char)} (h : ∀ s ∈ names, s ≠ [] ∧ '/' ∉ s) :
    collapse ('/' :: joinWith ['/'] names) = '/' :: joinWith ['/'] names := by
  induction names with
  | nil => rfl
  | cons s names ih =>
    obtain ⟨empty, slash⟩ := h s (List.mem_cons_self ..)
    cases names with
    | nil => simpa [joinWith, collapse] using collapse_slash_append empty slash []
    | cons t names =>
      have rest := ih fun s hs => h s (List.mem_cons_of_mem _ hs)
      have := collapse_slash_append empty slash ('/' :: joinWith ['/'] (t :: names))
      simpa [joinWith, rest] using this

theorem names_spec {a : Address} {s : List Char} (h : s ∈ a.names) : IsSegment s := by
  obtain ⟨segment, -, rfl⟩ := List.mem_map.mp h
  exact segment.2

theorem Drive.ne_of_not_isAlpha (d : Drive) {c : Char} (h : c.isAlpha = false) : d.1 ≠ c := by
  intro eq
  have := d.2
  rw [eq, h] at this
  exact Bool.false_ne_true this

theorem collapse_text (a : Address) : collapse a.text = a.text := by
  have body : collapse ('/' :: joinWith ['/'] a.names) = '/' :: joinWith ['/'] a.names :=
    collapse_joinWith fun s hs => ⟨(names_spec hs).1, (names_spec hs).2.2.2.1⟩
  cases hd : a.drive with
  | none => simpa [text, opening, hd] using body
  | some d =>
    have letter : d.1 ≠ '/' := Drive.ne_of_not_isAlpha d (by decide)
    have colon : ':' ≠ '/' := by decide
    simp only [text, opening, hd, List.cons_append, List.nil_append]
    rw [collapse_cons_of_ne letter, collapse_cons_of_ne colon, body]

theorem mem_joinWith {names : List (List Char)} {c : Char} (h : c ∈ joinWith ['/'] names) :
    c = '/' ∨ ∃ s ∈ names, c ∈ s := by
  induction names with
  | nil => simp [joinWith] at h
  | cons s names ih =>
    cases names with
    | nil => exact .inr ⟨s, List.mem_cons_self .., h⟩
    | cons t names =>
      simp only [joinWith, List.mem_append, List.mem_singleton] at h
      rcases h with (h | h) | h
      · exact .inr ⟨s, List.mem_cons_self .., h⟩
      · exact .inl h
      · rcases ih h with h | ⟨u, hu, h⟩
        · exact .inl h
        · exact .inr ⟨u, List.mem_cons_of_mem _ hu, h⟩

theorem mem_opening {drive : Option Drive} {c : Char} (h : c ∈ opening drive) :
    c = '/' ∨ c = ':' ∨ c.isAlpha = true := by
  cases drive with
  | none => exact .inl (List.mem_singleton.mp h)
  | some d =>
    simp only [opening, List.mem_cons, List.not_mem_nil, or_false] at h
    rcases h with rfl | rfl | rfl
    · exact .inr (.inr d.2)
    · exact .inr (.inl rfl)
    · exact .inl rfl

theorem clean_opening (drive : Option Drive) : Clean (opening drive) := by
  constructor <;> intro h <;> exact absurd (mem_opening h) (by decide)

theorem clean_joinWith {names : List (List Char)} (h : ∀ s ∈ names, IsSegment s) :
    Clean (joinWith ['/'] names) := by
  constructor <;> intro hm <;> rcases mem_joinWith hm with hm | ⟨s, hs, hm⟩
  · exact absurd hm (by decide)
  · exact (h s hs).2.2.2.2.2 hm
  · exact absurd hm (by decide)
  · exact (h s hs).2.2.2.2.1 hm

theorem clean_text (a : Address) : Clean a.text :=
  (clean_opening a.drive).append (clean_joinWith fun _ => names_spec)

theorem map_unifySeparator {p : List Char} (h : '\\' ∉ p) : p.map unifySeparator = p := by
  induction p with
  | nil => rfl
  | cons c p ih =>
    obtain ⟨hc, hp⟩ := not_or.mp (mt List.mem_cons.mpr h)
    rw [List.map_cons, ih hp, unifySeparator, if_neg (Ne.symm hc)]

theorem unifySlashes_text (a : Address) : unifySlashes a.text = a.text := by
  rw [unifySlashes, map_unifySeparator a.clean_text.2, collapse_text]

/-! ## Simplifying -/

/-- The stack of the code holds the segments of the address, the last first. -/
theorem foldl_pushPiece {ps : List (List Char)}
    (h : ∀ piece ∈ ps, IsSegment piece ↔ piece ≠ [] ∧ piece ≠ ['.'] ∧ piece ≠ ['.', '.'])
    (a : Address) : ps.foldl (pushPiece true) a.names.reverse = (a.follow ps).names.reverse := by
  induction ps generalizing a with
  | nil => rfl
  | cons piece ps ih =>
    have push : pushPiece true a.names.reverse piece = (a.step piece).names.reverse := by
      have segment := h piece (List.mem_cons_self ..)
      by_cases dots : piece = ['.', '.']
      · subst dots
        have up : (a.step ['.', '.']).names = a.names.dropLast := by simp [step, up, names]
        rw [up]
        cases ha : a.names.reverse with
        | nil => simp_all [pushPiece]
        | cons last before =>
          have kept : last ≠ ['.', '.'] := by
            have : last ∈ a.names := List.mem_reverse.mp (ha ▸ List.mem_cons_self ..)
            exact (names_spec this).2.2.1
          simp [pushPiece, kept, ← List.tail_reverse, ha]
      · by_cases named : IsSegment piece
        · obtain ⟨empty, dot, -⟩ := segment.mp named
          simp [pushPiece, step, dots, named, empty, dot, names, below]
        · have skipped : piece = [] ∨ piece = ['.'] := by
            by_cases empty : piece = []
            · exact .inl empty
            · refine .inr (Classical.byContradiction fun dot => ?_)
              exact named (segment.mpr ⟨empty, dot, dots⟩)
          simp [pushPiece, step, dots, named, skipped]
    rw [List.foldl_cons, push]
    exact ih (fun p hp => h p (List.mem_cons_of_mem _ hp)) (a.step piece)

theorem foldPieces_pieces {p : List Char} (h : Clean p) (drive : Option Drive) :
    foldPieces true (pieces p) = ((top drive).follow (pieces p)).names := by
  have := foldl_pushPiece (fun _ => h.isSegment_piece) (top drive)
  rw [foldPieces, show ([] : List (List Char)) = (top drive).names.reverse from rfl, this,
    List.reverse_reverse]

theorem untilNul_eq {p : List Char} (h : NulFree p) : untilNul p = p := by
  apply List.takeWhile_eq_self_iff.mpr
  intro c hc
  have : c ≠ '\x00' := fun eq => h (eq ▸ hc)
  simpa using this

theorem leadingSlashes_slash {rest : List Char} (single : isRooted rest = false) :
    leadingSlashes ('/' :: rest) = 1 := by
  cases rest with
  | nil => rfl
  | cons c rest =>
    have hc : c ≠ '/' := by simpa [isRooted_cons] using single
    simp [leadingSlashes, hc]

/-- A path that starts with one slash comes to the segments that it leads through. -/
theorem simplify_slash {rest : List Char} (single : isRooted rest = false) (clean : Clean rest)
    (drive : Option Drive) :
    simplify ('/' :: rest) = '/' :: joinWith ['/'] ((top drive).follow (pieces rest)).names := by
  have first : pieces ('/' :: rest) = [] :: pieces rest := by simp [splitAtChar]
  have fold : foldPieces true (pieces ('/' :: rest)) = foldPieces true (pieces rest) := by
    simp [first, foldPieces, pushPiece]
  have whole : NulFree ('/' :: joinWith ['/'] ((top drive).follow (pieces rest)).names) :=
    ((clean_opening none).append (clean_joinWith fun _ => names_spec)).1
  have head : ('/' :: rest).head? ≠ some '\x00' := by simp
  simp only [simplify, leadingSlashes_slash single, Nat.lt_one_iff, decide_true]
  rw [show splitAtChar '/' ('/' :: rest) = pieces ('/' :: rest) from rfl, fold,
    foldPieces_pieces clean drive, if_neg head]
  simp only [List.replicate_succ, List.replicate_zero, List.cons_append, List.nil_append]
  rw [untilNul_eq whole]
  simp

/-- The path starts at the root or a drive, and with one slash only. -/
def OpensOnce (p : List Char) : Prop :=
  ∃ drive rest, p = opening drive ++ rest ∧ isRooted rest = false

theorem opensOnce_unifySlashes {p : List Char} (h : isAbsolute p = true) :
    OpensOnce (unifySlashes p) := by
  have single (before : List Char) {after : List Char}
      (e : unifySlashes p = before ++ '/' :: after) : isRooted after = false := single_slash e
  rcases Bool.or_eq_true_iff.mp h with rooted | drive
  · cases hp : unifySlashes p with
    | nil => simp [hp, isRooted] at rooted
    | cons c rest =>
      obtain rfl : c = '/' := by simpa [hp, isRooted_cons] using rooted
      exact ⟨none, rest, rfl, single [] hp⟩
  · unfold hasDrive at drive
    split at drive
    · next letter rest hp =>
      exact ⟨some ⟨letter, drive⟩, rest, hp, single [letter, ':'] hp⟩
    · exact absurd drive Bool.false_ne_true

theorem opensOnce_text (a : Address) : OpensOnce a.text := by
  refine ⟨a.drive, _, rfl, ?_⟩
  cases hn : a.names with
  | nil => rfl
  | cons s names =>
    obtain ⟨empty, -, -, slash, -⟩ := names_spec (a := a) (s := s) (hn ▸ List.mem_cons_self ..)
    cases s with
    | nil => exact absurd rfl empty
    | cons c s =>
      have hc : c ≠ '/' := by
        rintro rfl
        exact slash (List.mem_cons_self ..)
      cases names <;> simp [joinWith, isRooted_cons, hc]

theorem hasDrive_opening (drive : Option Drive) {rest : List Char} :
    hasDrive (opening drive ++ rest) = drive.isSome := by
  cases drive with
  | some d => exact d.2
  | none =>
    change hasDrive ('/' :: rest) = false
    unfold hasDrive
    split
    · next eq =>
      obtain ⟨rfl, -⟩ := List.cons.inj eq
      rfl
    · rfl

/-- A path without U+0000 and backslashes that opens once is simplified to the text of its address,
behind its drive if it has one. -/
theorem simplify_eq_text {p : List Char} (opens : OpensOnce p) (clean : Clean p) :
    (if hasDrive p then p.take 2 ++ simplify (p.drop 2) else simplify p) = (read p).text := by
  obtain ⟨drive, rest, rfl, single⟩ := opens
  have restClean : Clean rest :=
    ⟨fun h => clean.1 (List.mem_append_right _ h), fun h => clean.2 (List.mem_append_right _ h)⟩
  rw [read_opening, text, follow_drive, hasDrive_opening]
  cases drive with
  | none => exact simplify_slash single restClean none
  | some d =>
    have := simplify_slash single restClean (some d)
    simpa [opening, top] using this

/-! ## Joining -/

/-- A relative path that is joined to a base is followed from the base's address. -/
theorem join_opensOnce {base p : List Char} (opens : OpensOnce base) (hp : isRooted p = false) :
    OpensOnce (join base p) ∧ read (join base p) = (read base).follow (pieces p) := by
  obtain ⟨drive, rest, rfl, single⟩ := opens
  have joined : ∃ tail, join (opening drive ++ rest) p = opening drive ++ tail ∧
      isRooted tail = false ∧ ∀ a : Address, a.follow (pieces tail) =
        (a.follow (pieces rest)).follow (pieces p) := by
    have apart : (opening drive ++ rest).isEmpty = false := by cases drive <;> rfl
    have slashed : (opening drive).getLast? = some '/' := by cases drive <;> rfl
    by_cases empty : rest = []
    · refine ⟨p, ?_, hp, fun a => ?_⟩
      · simp [join, hp, empty, slashed]
      · rw [empty]
        exact congrArg (fun b : Address => b.follow (pieces p)) a.follow_nil_piece.symm
    · have last : (opening drive ++ rest).getLast? = rest.getLast? := by
        rw [List.getLast?_append_of_ne_nil _ empty]
      by_cases ends : rest.getLast? = some '/'
      · obtain ⟨before, rfl⟩ : ∃ before, rest = before ++ ['/'] :=
          (List.getLast?_eq_some_iff.mp ends)
        refine ⟨before ++ '/' :: p, ?_, ?_, fun a => ?_⟩
        · simp [join, hp, last, apart]
        · have : before ++ '/' :: p = (before ++ ['/']) ++ p := by simp
          rw [this, isRooted_append empty]
          exact single
        · rw [pieces, splitAtChar_append, follow_append, pieces, splitAtChar_append, follow_append]
          exact congrArg (fun b : Address => b.follow (pieces p)) (follow_nil_piece _).symm
      · refine ⟨rest ++ '/' :: p, ?_, ?_, fun a => ?_⟩
        · simp [join, hp, last, apart, ends]
        · rw [isRooted_append empty]
          exact single
        · rw [pieces, splitAtChar_append, follow_append]
  obtain ⟨tail, eq, tailSingle, leads⟩ := joined
  refine ⟨⟨drive, tail, eq, tailSingle⟩, ?_⟩
  rw [eq, read_opening, read_opening, leads]

theorem unifySlashes_idem (p : List Char) :
    unifySlashes (unifySlashes p) = unifySlashes p := by
  have collapsed (q : List Char) : collapse (collapse q) = collapse q := by
    fun_induction collapse q with
    | case1 cs ih => exact ih
    | case2 c cs apart ih =>
      by_cases slash : c = '/'
      · cases cs with
        | nil => simp [collapse, slash]
        | cons d cs =>
          have hd : d ≠ '/' := by
            rintro rfl
            exact apart cs slash rfl
          rw [collapse_cons_of_ne hd] at ih ⊢
          rw [slash, collapse]
          · rw [ih]
          · intro rest _ eq
            exact hd (List.cons.inj eq).1
      · rw [collapse_cons_of_ne slash, ih]
    | case3 => rfl
  rw [unifySlashes, map_unifySeparator (backslash_not_mem_unifySlashes p)]
  exact collapsed _

theorem isAbsolute_unifySlashes (p : List Char) : isAbsolute (unifySlashes p) = isAbsolute p := by
  rw [isAbsolute, unifySlashes_idem, isAbsolute]

theorem isRooted_unifySlashes {p : List Char} (h : isAbsolute p = false) :
    isRooted (unifySlashes p) = false :=
  (Bool.or_eq_false_iff.mp h).1

/-- A path is normalized by following it from the address of its base. -/
theorem normalize_eq_text {base p : List Char} (opens : OpensOnce (unifySlashes base))
    (baseNul : NulFree base) (nul : NulFree p) :
    normalize base p = ((read (unifySlashes base)).resolve p).text := by
  have clean := clean_unifySlashes nul
  rw [PathChars.normalize, isAbsolute_unifySlashes, resolve]
  cases hp : isAbsolute p with
  | true =>
    simp only [if_true]
    exact simplify_eq_text (opensOnce_unifySlashes hp) clean
  | false =>
    obtain ⟨joined, leads⟩ := join_opensOnce opens (isRooted_unifySlashes hp)
    simp only [Bool.false_eq_true, if_false]
    rw [← leads]
    exact simplify_eq_text joined ((clean_unifySlashes baseNul).join clean)

theorem normalize_text (a : Address) {p : List Char} (nul : NulFree p) :
    normalize a.text p = (a.resolve p).text := by
  have opens : OpensOnce (unifySlashes a.text) := by
    rw [unifySlashes_text]
    exact a.opensOnce_text
  rw [normalize_eq_text opens a.clean_text.1 nul, unifySlashes_text, read_text]

/-- An absolute path is normalized to the text of its address, whatever the base is. -/
theorem normalize_absolute (base : List Char) {p : List Char} (h : isAbsolute p = true)
    (nul : NulFree p) : normalize base p = (read (unifySlashes p)).text := by
  rw [PathChars.normalize, isAbsolute_unifySlashes, h]
  simp only [if_true]
  exact simplify_eq_text (opensOnce_unifySlashes h) (clean_unifySlashes nul)

theorem isAbsolute_text (a : Address) : isAbsolute a.text = true := by
  rw [isAbsolute, unifySlashes_text, text, hasDrive_opening]
  cases a.drive <;> simp [opening, isRooted]

/-- What a path that starts with one slash is simplified to starts with a slash, even if the path is
cut at a U+0000. -/
theorem isRooted_simplify {rest : List Char} (single : isRooted rest = false) :
    isRooted (simplify ('/' :: rest)) = true := by
  simp [simplify, leadingSlashes_slash single, untilNul, isRooted]

theorem isAbsolute_opening (drive : Option Drive) {rest : List Char} (h : isRooted rest = true) :
    isAbsolute ((opening drive).dropLast ++ rest) = true := by
  obtain ⟨tail, rfl⟩ : ∃ tail, rest = '/' :: tail := by
    cases rest with
    | nil => cases h
    | cons c tail => exact ⟨tail, by simpa [isRooted_cons] using h⟩
  cases drive with
  | none =>
    have rooted : isRooted (unifySlashes ('/' :: tail)) = true := by
      rw [unifySlashes, isRooted_collapse]
      rfl
    exact Bool.or_eq_true_iff.mpr (.inl rooted)
  | some d =>
    have slash : unifySeparator d.1 = d.1 := if_neg (Drive.ne_of_not_isAlpha d (by decide))
    have letter : d.1 ≠ '/' := Drive.ne_of_not_isAlpha d (by decide)
    obtain ⟨more, head⟩ : ∃ more, collapse ('/' :: tail.map unifySeparator) = '/' :: more := by
      have rooted := isRooted_collapse ('/' :: tail.map unifySeparator)
      cases hc : collapse ('/' :: tail.map unifySeparator) with
      | nil => rw [hc] at rooted; cases rooted
      | cons c more => exact ⟨more, by rw [hc] at rooted; simpa [isRooted_cons] using rooted⟩
    have driven : unifySlashes (d.1 :: ':' :: '/' :: tail) = d.1 :: ':' :: '/' :: more := by
      rw [unifySlashes, List.map_cons, slash, collapse_cons_of_ne letter, List.map_cons,
        show unifySeparator ':' = ':' from rfl, collapse_cons_of_ne (by decide), List.map_cons,
        show unifySeparator '/' = '/' from rfl, head]
    refine Bool.or_eq_true_iff.mpr (.inr ?_)
    change hasDrive (unifySlashes (d.1 :: ':' :: '/' :: tail)) = true
    rw [driven]
    exact d.2

/-- Whatever is normalized from an absolute base is absolute. -/
theorem isAbsolute_normalize {base : List Char} (h : isAbsolute base = true) (p : List Char) :
    isAbsolute (normalize base p) = true := by
  have opens : OpensOnce (if isAbsolute (unifySlashes p) then unifySlashes p
      else join (unifySlashes base) (unifySlashes p)) := by
    rw [isAbsolute_unifySlashes]
    cases hp : isAbsolute p with
    | true => exact opensOnce_unifySlashes hp
    | false => exact (join_opensOnce (opensOnce_unifySlashes h) (isRooted_unifySlashes hp)).1
  obtain ⟨drive, rest, target, single⟩ := opens
  simp only [PathChars.normalize, target, hasDrive_opening]
  cases drive with
  | none => exact isAbsolute_opening none (isRooted_simplify single)
  | some d => exact isAbsolute_opening (some d) (isRooted_simplify single)

end Address

end ImportBoundary
