import ImportBoundary.Source.Extraction
import ImportBoundary.Proofs.Path.Steps
import ImportBoundary.Proofs.Source.Written

/-!
# Modules as paths

A module is words with dots in between, and its path is the same words with slashes in between, so it
leads down by one segment for each word (`steps_slashed`). The dots in front of it lead up, one step for
each after the first, and no further than to the root or the drive (`normalize_levelPath`).
-/

namespace ImportBoundary

open Text PathChars

namespace Source

/-! ## Words as segments -/

/-- A word that a name can be: at least one character, all of them such as names consist of. -/
def IsWord (n : String) : Prop :=
  n ≠ "" ∧ ∀ c ∈ n.toList, isNameChar c = true

theorem ne_of_isNameChar {c d : Char} (h : isNameChar c = true) (other : isNameChar d = false) :
    c ≠ d := by
  rintro rfl
  exact Bool.false_ne_true (other.symm.trans h)

theorem IsPlainName.isWord {n : String} (h : IsPlainName n) : IsWord n := by
  obtain ⟨c, rest, text, -⟩ := head_of_isAsciiName h.ascii
  constructor
  · rintro rfl
    cases text
  · intro c hc
    exact isNameChar_of_isPlain (h.ascii.2 c hc)

theorem isWord_of_isPlainName {names : List String} (plain : ∀ n ∈ names, IsPlainName n) :
    ∀ n ∈ names, IsWord n :=
  fun n hn => (plain n hn).isWord

theorem IsWord.isSegment {n : String} (h : IsWord n) : IsSegment n.toList := by
  have without {d : Char} (other : isNameChar d = false) : d ∉ n.toList := fun inside =>
    ne_of_isNameChar (h.2 d inside) other rfl
  have some_char : n.toList ≠ [] := fun empty => h.1 (String.toList_eq_nil_iff.mp empty)
  have noDot : n.toList ≠ ['.'] := fun dot => without (d := '.') (by decide) (by simp [dot])
  have noDots : n.toList ≠ ['.', '.'] := fun dots => without (d := '.') (by decide) (by simp [dots])
  exact ⟨some_char, noDot, noDots, without (by decide), without (by decide), without (by decide)⟩

theorem exists_segments_of_words {names : List String} (words : ∀ n ∈ names, IsWord n) :
    ∃ segments : List Segment, segments.map Subtype.val = names.map String.toList := by
  refine ⟨names.pmap (fun n h => ⟨n.toList, IsWord.isSegment h⟩) words, ?_⟩
  rw [List.map_pmap]
  simp

/-- The names as the segments of a path. -/
def slashed (names : List String) : List Char :=
  joinWith ['/'] (names.map String.toList)

section

variable {names : List String}

theorem steps_slashed (words : ∀ n ∈ names, IsWord n) :
    steps (slashed names) = names.map String.toList := by
  refine steps_joinWith fun s hs => ?_
  obtain ⟨n, hn, rfl⟩ := List.mem_map.mp hs
  obtain ⟨some_char, noDot, -, noSlash, -⟩ := (words n hn).isSegment
  exact ⟨noSlash, some_char, noDot⟩

theorem mem_slashed (words : ∀ n ∈ names, IsWord n) {c : Char} (h : c ∈ slashed names) :
    c = '/' ∨ isNameChar c = true := by
  rcases Address.mem_joinWith h with slash | ⟨s, hs, inside⟩
  · exact .inl slash
  · obtain ⟨n, hn, rfl⟩ := List.mem_map.mp hs
    exact .inr ((words n hn).2 c inside)

theorem clean_slashed (words : ∀ n ∈ names, IsWord n) : Clean (slashed names) := by
  constructor <;> intro inside <;> rcases mem_slashed words inside with slash | char
  · exact absurd slash (by decide)
  · exact absurd char (by decide)
  · exact absurd slash (by decide)
  · exact absurd char (by decide)

/-- A module's dots become slashes, and nothing else changes. -/
theorem modulePath_dotted (words : ∀ n ∈ names, IsWord n) :
    (modulePath (String.ofList (dotted names))).toList = slashed names := by
  have kept : ∀ n ∈ names, n.toList.map (fun c => if c = '.' then '/' else c) = n.toList := by
    intro n hn
    refine (List.map_congr_left fun c hc => ?_).trans (List.map_id _)
    exact if_neg (ne_of_isNameChar ((words n hn).2 c hc) (by decide))
  rw [modulePath, String.toList_map, String.toList_ofList, dotted, slashed]
  cases names with
  | nil => rfl
  | cons n names =>
    rw [List.map_cons, joinWith_cons_flatMap, joinWith_cons_flatMap, List.map_append,
      kept n (List.mem_cons_self ..), List.map_flatMap, List.flatMap_map, List.flatMap_map]
    congr 1
    refine List.flatMap_congr fun m hm => ?_
    rw [List.map_append, kept m (List.mem_cons_of_mem _ hm)]
    rfl

/-- Cut at its dots, a module is its words again. -/
theorem splitAtChar_dotted (words : ∀ n ∈ names, IsWord n) (some_name : names ≠ []) :
    splitAtChar '.' (dotted names) = names.map String.toList := by
  refine splitAtChar_joinWith (by simpa using some_name) ?_
  intro s hs inside
  obtain ⟨n, hn, rfl⟩ := List.mem_map.mp hs
  exact ne_of_isNameChar ((words n hn).2 '.' inside) (by decide) rfl

end

/-! ## Climbing -/

theorem steps_climb (n : Nat) (p : List Char) :
    steps ((String.join (List.replicate n "../")).toList ++ p) =
      List.replicate n ['.', '.'] ++ steps p := by
  rw [String.toList_join]
  induction n with
  | zero => rfl
  | succ n ih =>
    rw [List.replicate_succ, List.flatMap_cons, List.append_assoc, List.replicate_succ,
      List.cons_append, ← ih]
    exact steps_append ['.', '.'] _

/-- One level is the source's own directory. -/
theorem steps_levelPath {level : Nat} (one : 1 ≤ level) (p : List Char) :
    steps ((levelPath level).toList ++ p) = List.replicate (level - 1) ['.', '.'] ++ steps p := by
  match level, one with
  | 1, _ => exact steps_append ['.'] p
  | level + 2, _ => exact steps_climb (level + 1) p

theorem clean_climb (n : Nat) : Clean (String.join (List.replicate n "../")).toList := by
  have without {c : Char} (other : c ∉ "../".toList) :
      c ∉ (String.join (List.replicate n "../")).toList := by
    intro inside
    rw [String.toList_join] at inside
    obtain ⟨s, among, inside⟩ := List.mem_flatMap.mp inside
    exact other (List.eq_of_mem_replicate among ▸ inside)
  exact ⟨without (by decide), without (by decide)⟩

theorem levelPath_spec {level : Nat} (one : 1 ≤ level) :
    ∃ rest, (levelPath level).toList = '.' :: rest ∧ Clean ('.' :: rest) := by
  match level, one with
  | 1, _ => exact ⟨['/'], rfl, by decide, by decide⟩
  | level + 2, _ =>
    have starts : ∃ rest, (levelPath (level + 2)).toList = '.' :: rest := by
      rw [show levelPath (level + 2) = String.join (List.replicate (level + 1) "../") from rfl,
        String.toList_join, List.replicate_succ]
      exact ⟨_, rfl⟩
    obtain ⟨rest, text⟩ := starts
    exact ⟨rest, text, text ▸ clean_climb (level + 1)⟩

/-- Dots and what follows them lead from the directory of a path: up first, and then down. -/
theorem normalize_levelPath (a : Address) {level : Nat} (one : 1 ≤ level) {rest : String}
    (clean : Clean rest.toList) :
    Path.normalize (Path.parent a.path) (levelPath level ++ rest) =
      ((a.up.follow (List.replicate (level - 1) ['.', '.'])).follow (steps rest.toList)).path := by
  obtain ⟨more, dots, cleanDots⟩ := levelPath_spec one
  have specifier : (levelPath level ++ rest).toList = '.' :: (more ++ rest.toList) := by
    rw [String.toList_append, dots, List.cons_append]
  have whole : Clean ('.' :: (more ++ rest.toList)) := cleanDots.append clean
  have nul : Path.IsNulFree (levelPath level ++ rest) := by
    rw [Path.IsNulFree, specifier]
    exact whole.1
  rw [Path.normalize_parent _ nul, specifier, Address.resolve_relative _ whole, ← List.cons_append,
    ← dots, steps_levelPath one, Address.follow_append]

end Source

end ImportBoundary
