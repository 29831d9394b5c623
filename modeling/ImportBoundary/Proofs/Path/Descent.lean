import ImportBoundary.Proofs.Path.Cut
import ImportBoundary.Proofs.Path.Steps

/-!
# Normalizing as a descent

A path is normalized in one go from left to right: it starts at its own root or drive, or at those of
the base and the segments behind them (`startOf`), and takes one piece after the other (`goOn`),
between the slashes as they are written. No join, no collapsing of slashes and no cutting off of a
drive is needed to say where this comes to (`Path.normalize_descends`).
-/

namespace ImportBoundary

open Text

namespace PathChars

/-! ## Definition -/

/-- The root or the drive that a path starts with, and what is written behind it. -/
def splitTop : List Char → Option (List Char × List Char)
  | '/' :: rest => some (['/'], rest)
  | letter :: ':' :: '/' :: rest =>
    if letter.isAlpha then some ([letter, ':', '/'], rest) else none
  | _ => none

/-- The names between the slashes of a text. -/
def namesIn (p : List Char) : List (List Char) :=
  (pieces p).filter (· ≠ [])

/-- One more piece, behind the segments so far: nothing and `.` lead nowhere, `..` takes back a segment
where there is one. -/
def goOn (segments : List (List Char)) (piece : List Char) : List (List Char) :=
  if piece = [] ∨ piece = ['.'] then segments
  else if piece = ['.', '.'] then segments.dropLast
  else segments ++ [piece]

/-- Where a descent starts: the root or drive, the segments behind it, and the text that leads on. -/
structure Start where
  top : List Char
  segments : List (List Char)
  rest : List Char

/-- Where `q` starts from: from its own top, or from the top and the segments of the directory
`base`. -/
def startOf (base q : List Char) : Option Start :=
  match splitTop q with
  | some (top, rest) => some ⟨top, [], rest⟩
  | none => (splitTop base).map fun (top, rest) => ⟨top, namesIn rest, q⟩

/-- What the descent comes to. -/
def Start.text (s : Start) : List Char :=
  s.top ++ joinWith ['/'] ((pieces s.rest).foldl goOn s.segments)

/-! ## Tops -/

theorem splitTop_opening (drive : Option Drive) (rest : List Char) :
    splitTop (Address.opening drive ++ rest) = some (Address.opening drive, rest) := by
  cases drive with
  | none => rfl
  | some d =>
    have letter : d.1 ≠ '/' := Address.Drive.ne_of_not_isAlpha d (by decide)
    obtain ⟨c, alpha⟩ := d
    change splitTop (c :: ':' :: '/' :: rest) = some ([c, ':', '/'], rest)
    rw [splitTop, if_pos alpha]
    exact letter

/-- A top is the root or a drive. -/
theorem exists_drive_of_splitTop {p top rest : List Char} (h : splitTop p = some (top, rest)) :
    ∃ drive, top = Address.opening drive ∧ p = Address.opening drive ++ rest := by
  unfold splitTop at h
  split at h
  · obtain ⟨rfl, rfl⟩ := Prod.mk.inj (Option.some.inj h)
    exact ⟨none, rfl, rfl⟩
  · next letter rest _ =>
    by_cases alpha : letter.isAlpha = true
    · rw [if_pos alpha] at h
      obtain ⟨rfl, rfl⟩ := Prod.mk.inj (Option.some.inj h)
      exact ⟨some ⟨letter, alpha⟩, rfl, rfl⟩
    · rw [if_neg alpha] at h
      cases h
  · cases h

/-- Collapsing keeps a character that is no slash at the start. -/
theorem exists_of_collapse_eq_cons {c : Char} (h : c ≠ '/') {p rest : List Char}
    (eq : collapse p = c :: rest) : ∃ q, p = c :: q ∧ collapse q = rest := by
  cases p with
  | nil => cases eq
  | cons d p =>
    by_cases slash : d = '/'
    · have rooted := isRooted_collapse (d :: p)
      rw [eq, isRooted_cons, isRooted_cons, slash] at rooted
      exact absurd (of_decide_eq_true rooted) h
    · rw [collapse_cons_of_ne slash] at eq
      obtain ⟨rfl, rfl⟩ := List.cons.inj eq
      exact ⟨p, rfl, rfl⟩

theorem exists_of_isRooted {p : List Char} (h : isRooted p = true) : ∃ rest, p = '/' :: rest := by
  cases p with
  | nil => cases h
  | cons c rest =>
    rw [isRooted_cons] at h
    exact ⟨rest, by rw [of_decide_eq_true h]⟩

/-- Collapsing leaves a top as it is, and the steps behind it. -/
theorem collapse_opening (drive : Option Drive) (rest : List Char) :
    ∃ more, collapse (Address.opening drive ++ rest) = Address.opening drive ++ more ∧
      steps more = steps rest := by
  have slash : ∃ more, collapse ('/' :: rest) = '/' :: more ∧ steps more = steps rest := by
    have rooted : isRooted (collapse ('/' :: rest)) = true := by
      rw [isRooted_collapse]
      rfl
    obtain ⟨more, eq⟩ := exists_of_isRooted rooted
    refine ⟨more, eq, ?_⟩
    rw [← steps_slash more, ← eq, steps_collapse, steps_slash]
  obtain ⟨more, eq, same⟩ := slash
  cases drive with
  | none => exact ⟨more, eq, same⟩
  | some d =>
    have letter : d.1 ≠ '/' := Address.Drive.ne_of_not_isAlpha d (by decide)
    refine ⟨more, ?_, same⟩
    simp only [Address.opening, List.cons_append, List.nil_append]
    rw [collapse_cons_of_ne letter, collapse_cons_of_ne (by decide), eq]

/-- A path is absolute exactly if it starts with a top. -/
theorem isAbsolute_iff_splitTop {p : List Char} :
    isAbsolute p = true ↔ ∃ top rest, splitTop (p.map unifySeparator) = some (top, rest) := by
  constructor
  · intro absolute
    obtain ⟨drive, rest, eq, -⟩ := Address.opensOnce_unifySlashes absolute
    rw [unifySlashes] at eq
    generalize p.map unifySeparator = q at eq ⊢
    cases drive with
    | none =>
      have rooted : isRooted q = true := by
        rw [← isRooted_collapse, eq]
        rfl
      obtain ⟨rest, rfl⟩ := exists_of_isRooted rooted
      exact ⟨_, rest, splitTop_opening none rest⟩
    | some d =>
      have letter : d.1 ≠ '/' := Address.Drive.ne_of_not_isAlpha d (by decide)
      have colon : ':' ≠ '/' := by decide
      obtain ⟨q, rfl, behind⟩ := exists_of_collapse_eq_cons letter eq
      obtain ⟨q, rfl, slash⟩ := exists_of_collapse_eq_cons colon behind
      have rooted : isRooted q = true := by
        rw [← isRooted_collapse, slash]
        rfl
      obtain ⟨rest, rfl⟩ := exists_of_isRooted rooted
      exact ⟨_, rest, splitTop_opening (some d) rest⟩
  · rintro ⟨top, rest, split⟩
    obtain ⟨drive, -, eq⟩ := exists_drive_of_splitTop split
    obtain ⟨more, collapsed, -⟩ := collapse_opening drive rest
    rw [isAbsolute, unifySlashes, eq, collapsed, Address.hasDrive_opening]
    cases drive with
    | none => rfl
    | some d => exact Bool.or_true _

/-! ## Pieces -/

/-- Pieces that hold no separator and no U+0000 lead the same way as texts and as an address. -/
theorem foldl_goOn {ps : List (List Char)}
    (segment : ∀ piece ∈ ps, IsSegment piece ↔ piece ≠ [] ∧ piece ≠ ['.'] ∧ piece ≠ ['.', '.'])
    (a : Address) : ps.foldl goOn a.names = (a.follow ps).names := by
  induction ps generalizing a with
  | nil => rfl
  | cons piece ps ih =>
    obtain ⟨first, others⟩ := List.forall_mem_cons.mp segment
    have step : goOn a.names piece = (a.step piece).names := by
      unfold goOn Address.step
      by_cases dots : piece = ['.', '.']
      · simp [dots, Address.names, Address.up]
      · by_cases nowhere : piece = [] ∨ piece = ['.']
        · have none : ¬ IsSegment piece := by
            intro segment
            exact nowhere.elim segment.1 segment.2.1
          rw [if_pos nowhere, if_neg dots, dif_neg none]
        · obtain ⟨empty, dot⟩ := not_or.mp nowhere
          rw [if_neg nowhere, if_neg dots, if_neg dots, dif_pos (first.mpr ⟨empty, dot, dots⟩),
            Address.names_below]
          rfl
    rw [List.foldl_cons, step, ih others]
    rfl

theorem namesIn_joinWith_names (a : Address) : namesIn (joinWith ['/'] a.names) = a.names := by
  cases empty : a.names with
  | nil => rfl
  | cons s names =>
    have slash : ∀ t ∈ s :: names, '/' ∉ t := fun t mem =>
      Address.slash_not_mem_names (empty ▸ mem)
    have some_char : ∀ t ∈ s :: names, t ≠ [] := fun t mem => (Address.names_spec (empty ▸ mem)).1
    rw [namesIn, pieces, splitAtChar_joinWith (List.cons_ne_nil _ _) slash, List.filter_eq_self]
    intro t mem
    exact decide_eq_true (some_char t mem)

/-- A descent that starts at an address comes to the text of an address. -/
theorem text_start (a : Address) {rest : List Char} (clean : Clean rest) :
    (Start.mk (Address.opening a.drive) a.names rest).text = (a.follow (pieces rest)).text := by
  rw [Start.text, Address.text, Address.follow_drive,
    foldl_goOn fun piece mem => clean.isSegment_piece mem]

end PathChars

namespace Path

open PathChars Address

theorem clean_map_unifySeparator {p : List Char} (nul : NulFree p) :
    Clean (p.map unifySeparator) := by
  constructor
  · intro inside
    obtain ⟨c, mem, same⟩ := List.mem_map.mp inside
    unfold unifySeparator at same
    split at same
    · exact absurd same (by decide)
    · exact nul (same ▸ mem)
  · intro inside
    obtain ⟨c, -, same⟩ := List.mem_map.mp inside
    exact unifySeparator_ne_backslash c same

/-- Collapsing slashes makes no difference to where a text leads. -/
theorem follow_pieces_collapse (a : Address) (q : List Char) :
    a.follow (pieces (collapse q)) = a.follow (pieces q) := by
  rw [← follow_steps, steps_collapse, follow_steps]

/-- A path with another one behind it leads through the one and then through the other. -/
theorem follow_pieces_append (a : Address) (p q : List Char) :
    a.follow (pieces (p ++ '/' :: q)) = (a.follow (pieces p)).follow (pieces q) := by
  rw [pieces, splitAtChar_append, follow_append]

/-- A path is relative exactly if it starts with no top. -/
theorem splitTop_eq_none_iff {p : String} :
    splitTop (p.toList.map unifySeparator) = none ↔ isAbsolute p = false := by
  have absolute_iff := isAbsolute_iff_splitTop (p := p.toList)
  constructor
  · intro topless
    rw [topless] at absolute_iff
    exact Bool.eq_false_iff.mpr fun absolute => nomatch absolute_iff.mp absolute
  · intro relative
    cases split : splitTop (p.toList.map unifySeparator) with
    | none => rfl
    | some parts =>
      have absolute : isAbsolute p = true := absolute_iff.mpr ⟨_, _, split⟩
      rw [relative] at absolute
      cases absolute

/-- The address of an absolute path is where the text behind its top leads. -/
theorem ofPath_of_splitTop {p : String} {drive : Option Drive} {rest : List Char}
    (eq : p.toList.map unifySeparator = opening drive ++ rest) :
    ofPath p = (Address.top drive).follow (pieces rest) := by
  obtain ⟨more, collapsed, same⟩ := collapse_opening drive rest
  rw [ofPath, PathChars.unifySlashes, eq, collapsed, read_opening, ← follow_steps, same,
    follow_steps]

/-- A relative path is followed piece by piece as it is written. -/
theorem resolve_of_relative (a : Address) {p : String} (relative : isAbsolute p = false) :
    a.resolve p.toList = a.follow (pieces (p.toList.map unifySeparator)) := by
  have leads : PathChars.isAbsolute p.toList = false := relative
  rw [resolve, leads, if_neg Bool.false_ne_true, PathChars.unifySlashes, follow_pieces_collapse]

/-- A text without separators is no absolute path: every top ends in a slash. -/
theorem isAbsolute_of_no_separator {s : String} (slash : '/' ∉ s.toList)
    (backslash : '\\' ∉ s.toList) : isAbsolute s = false := by
  apply splitTop_eq_none_iff.mp
  cases split : splitTop (s.toList.map unifySeparator) with
  | none => rfl
  | some parts =>
    obtain ⟨drive, -, eq⟩ := exists_drive_of_splitTop split
    rw [map_unifySeparator backslash] at eq
    exact absurd (by simp [eq, opening_eq]) slash

/-- A text without separators leads one step. -/
theorem resolve_of_no_separator (a : Address) {s : String} (slash : '/' ∉ s.toList)
    (backslash : '\\' ∉ s.toList) : a.resolve s.toList = a.step s.toList := by
  rw [resolve_of_relative a (isAbsolute_of_no_separator slash backslash),
    map_unifySeparator backslash, pieces, splitAtChar_of_not_mem slash]
  rfl

theorem resolve_dot (a : Address) : a.resolve ".".toList = a :=
  (resolve_of_no_separator a (by decide) (by decide)).trans a.step_dot

/-- An absolute path descends from its own top, whatever the base is. -/
theorem descends_of_isAbsolute (base nf : String) {p : String} (absolute : isAbsolute p = true)
    (nul : IsNulFree p) :
    ∃ (start : Start) (a : Address), startOf nf.toList (p.toList.map unifySeparator) = some start ∧
      start.top = opening a.drive ∧ start.text = a.text ∧ normalize base p = a.path := by
  obtain ⟨top, rest, split⟩ := isAbsolute_iff_splitTop.mp absolute
  obtain ⟨drive, rfl, eq⟩ := exists_drive_of_splitTop split
  have clean : Clean rest := by
    have whole := clean_map_unifySeparator nul
    rw [eq] at whole
    exact ⟨fun inside => whole.1 (List.mem_append_right _ inside),
      fun inside => whole.2 (List.mem_append_right _ inside)⟩
  refine ⟨⟨opening drive, [], rest⟩, (Address.top drive).follow (pieces rest), ?_, ?_,
    text_start (Address.top drive) clean, ?_⟩
  · rw [startOf, split]
  · rw [follow_drive]
    rfl
  · rw [normalize_of_isAbsolute base absolute nul, ofPath_of_splitTop eq]

/-- A relative path descends from the top and the segments of its base. -/
theorem descends_of_relative {base p : String} (absolute : isAbsolute base = true)
    (baseNul : IsNulFree base) (relative : isAbsolute p = false) (nul : IsNulFree p) :
    ∃ (start : Start) (a : Address),
      startOf (normalize "/" base).toList (p.toList.map unifySeparator) = some start ∧
      start.top = opening a.drive ∧ start.text = a.text ∧ normalize base p = a.path := by
  have topless := splitTop_eq_none_iff.mpr relative
  have directory : (normalize "/" base).toList =
      opening (ofPath base).drive ++ joinWith ['/'] (ofPath base).names := by
    rw [normalize_of_isAbsolute "/" absolute baseNul, Address.path, String.toList_ofList,
      Address.text]
  refine ⟨⟨opening (ofPath base).drive, (ofPath base).names, p.toList.map unifySeparator⟩,
    (ofPath base).follow (pieces (p.toList.map unifySeparator)), ?_, ?_,
    text_start (ofPath base) (clean_map_unifySeparator nul), ?_⟩
  · rw [startOf, topless, directory, splitTop_opening]
    simp only [Option.map_some, namesIn_joinWith_names]
  · rw [follow_drive]
  · rw [normalize_of_base absolute baseNul nul, resolve_of_relative _ relative]

/-- Normalizing is a descent from the base that is normalized itself, or from the own root or drive of
an absolute path. The result is canonical and stays below that root or drive, it is the same for every
base if the path is absolute, and normalizing it once more changes nothing. -/
theorem normalize_descends {base p : String} (absolute : isAbsolute base = true)
    (nul : IsNulFree p) (baseNul : isAbsolute p = false → IsNulFree base) :
    (∃ start, startOf (normalize "/" base).toList (p.toList.map unifySeparator) = some start ∧
      (normalize base p).toList = start.text ∧
      covers (String.ofList start.top) (normalize base p) = true) ∧
    IsCanonical (normalize base p) ∧ isAbsolute (normalize base p) = true ∧
    (isAbsolute p = true → ∀ b, normalize b p = normalize base p) ∧
    ∀ b, normalize b (normalize base p) = normalize base p := by
  have descends : ∃ (start : Start) (a : Address),
      startOf (normalize "/" base).toList (p.toList.map unifySeparator) = some start ∧
      start.top = opening a.drive ∧ start.text = a.text ∧ normalize base p = a.path := by
    cases own : isAbsolute p with
    | true => exact descends_of_isAbsolute base _ own nul
    | false => exact descends_of_relative absolute (baseNul own) own nul
  obtain ⟨start, a, started, top, text, result⟩ := descends
  have topPath : String.ofList start.top = (Address.top a.drive).path := by
    rw [top, Address.path, Address.text]
    simp [Address.top, names, joinWith]
  have above : (Address.top a.drive).IsAbove a := ⟨rfl, List.nil_prefix⟩
  rw [result]
  refine ⟨⟨start, started, ?_, ?_⟩, isCanonical_path a, isAbsolute_path a, ?_, ?_⟩
  · rw [Address.path, String.toList_ofList, text]
  · rw [topPath, covers_path, decide_eq_true above]
  · intro own b
    rw [← result, normalize_of_isAbsolute b own nul, normalize_of_isAbsolute base own nul]
  · intro b
    exact normalize_of_path b a

/-- A path that climbs beyond a drive and comes down again, with both kinds of slashes. -/
theorem normalize_descends_drive :
    let base := "C:\\work\\src"
    let p := "..\\..//../lib/./x\\"
    isAbsolute base = true ∧ IsNulFree p ∧ (isAbsolute p = false → IsNulFree base) ∧
      (∃ start, startOf (normalize "/" base).toList (p.toList.map unifySeparator) = some start ∧
        (normalize base p).toList = start.text ∧
        covers (String.ofList start.top) (normalize base p) = true) ∧
      IsCanonical (normalize base p) ∧ isAbsolute (normalize base p) = true ∧
      (isAbsolute p = true → ∀ b, normalize b p = normalize base p) ∧
      ∀ b, normalize b (normalize base p) = normalize base p := by
  intro base p
  have baseNul : isAbsolute p = false → IsNulFree base := fun _ => by decide
  exact ⟨by decide, by decide, baseNul, normalize_descends (by decide) (by decide) baseNul⟩

example : normalize "C:\\work\\src" "..\\..//../lib/./x\\" = "C:/lib/x" := by
  decide

end Path

end ImportBoundary
