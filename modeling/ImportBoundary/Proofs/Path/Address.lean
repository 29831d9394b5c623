import ImportBoundary.Proofs.Path.Pieces

/-!
# Addresses

An absolute path as it is meant: the root or a drive, and the segments from there on. `text` is the
one spelling of an address, and `read` takes any absolute path to the address that it spells, piece
by piece (`read_text`). The text says nothing that the address does not, so whatever is decided on
texts can be decided on drives and segments.
-/

namespace ImportBoundary

open Text PathChars

/-- A name that a path keeps when it is simplified. -/
def IsSegment (s : List Char) : Prop :=
  s ≠ [] ∧ s ≠ ['.'] ∧ s ≠ ['.', '.'] ∧ '/' ∉ s ∧ '\\' ∉ s ∧ '\x00' ∉ s

instance (s : List Char) : Decidable (IsSegment s) :=
  inferInstanceAs (Decidable (_ ∧ _))

/-- A segment of a path. -/
abbrev Segment := { s : List Char // IsSegment s }

/-- The letter of a drive. -/
abbrev Drive := { c : Char // c.isAlpha = true }

/-- A place under the root or a drive, by the segments on the way down to it. -/
structure Address where
  drive : Option Drive
  segments : List Segment
  deriving DecidableEq

namespace Address

/-- The root, or the top of a drive. -/
def top (drive : Option Drive) : Address :=
  ⟨drive, []⟩

/-- The address that holds this one; a top is above itself. -/
def up (a : Address) : Address :=
  { a with segments := a.segments.dropLast }

/-- The address of more segments below this one. -/
def below (a : Address) (segments : List Segment) : Address :=
  { a with segments := a.segments ++ segments }

/-- One more piece of a path: `..` leads up, a segment leads down, all else leads nowhere. -/
def step (a : Address) (piece : List Char) : Address :=
  if piece = ['.', '.'] then a.up
  else if h : IsSegment piece then a.below [⟨piece, h⟩]
  else a

/-- The address that some pieces lead to. -/
def follow (a : Address) (pieces : List (List Char)) : Address :=
  pieces.foldl step a

/-- What a path starts with: a slash, or a drive and a slash. -/
def opening : Option Drive → List Char
  | none => ['/']
  | some d => [d.1, ':', '/']

/-- The segments as texts. -/
def names (a : Address) : List (List Char) :=
  a.segments.map Subtype.val

/-- The one spelling of an address. -/
def text (a : Address) : List Char :=
  opening a.drive ++ joinWith ['/'] a.names

/-- The address of an absolute path. -/
def read (p : List Char) : Address :=
  match p with
  | letter :: ':' :: '/' :: rest =>
    if h : letter.isAlpha = true then (top (some ⟨letter, h⟩)).follow (pieces rest)
    else (top none).follow (pieces p)
  | _ => (top none).follow (pieces p)

/-- Where a path leads from an address; an absolute path leads away from it. -/
def resolve (a : Address) (p : List Char) : Address :=
  if isAbsolute p then read (unifySlashes p) else a.follow (pieces (unifySlashes p))

/-- `b` is `a` or lies below it. -/
def IsAbove (a b : Address) : Prop :=
  a.drive = b.drive ∧ a.segments <+: b.segments

instance (a b : Address) : Decidable (a.IsAbove b) :=
  inferInstanceAs (Decidable (_ ∧ _))

/-- The last segment; a top has none. -/
def name (a : Address) : List Char :=
  a.names.getLast?.getD []

/-- How an address is shown to someone at `base`: by the segments between them, or in full. -/
def shownFrom (base a : Address) : List Char :=
  if base.IsAbove a then
    let rest := a.names.drop base.names.length
    if rest.isEmpty then ['.'] else joinWith ['/'] rest
  else a.text

/-! ## Following pieces -/

theorem follow_append (a : Address) (ps qs : List (List Char)) :
    a.follow (ps ++ qs) = (a.follow ps).follow qs :=
  List.foldl_append

theorem step_nil (a : Address) : a.step [] = a := by
  simp [step, IsSegment]

theorem step_dot (a : Address) : a.step ['.'] = a := by
  simp [step, IsSegment]

theorem follow_nil_piece (a : Address) : a.follow [[]] = a :=
  a.step_nil

theorem step_segment (a : Address) (s : Segment) : a.step s.1 = a.below [s] := by
  rw [step, if_neg s.2.2.2.1, dif_pos s.2]

theorem follow_segments (a : Address) (segments : List Segment) :
    a.follow (segments.map Subtype.val) = a.below segments := by
  induction segments generalizing a with
  | nil => simp [follow, below]
  | cons s segments ih =>
    calc a.follow ((s :: segments).map Subtype.val)
        = (a.below [s]).follow (segments.map Subtype.val) := by
          rw [List.map_cons, follow, List.foldl_cons, step_segment]; rfl
      _ = a.below (s :: segments) := by rw [ih]; simp [below]

theorem follow_drive (a : Address) (ps : List (List Char)) : (a.follow ps).drive = a.drive := by
  induction ps generalizing a with
  | nil => rfl
  | cons p ps ih =>
    have same : (a.step p).drive = a.drive := by unfold step; split <;> (try split) <;> rfl
    exact (ih (a.step p)).trans same

/-! ## Texts and addresses -/

theorem slash_not_mem_names {a : Address} {s : List Char} (h : s ∈ a.names) : '/' ∉ s := by
  obtain ⟨segment, -, rfl⟩ := List.mem_map.mp h
  exact segment.2.2.2.2.1

/-- What follows the opening of a path is read from the top. -/
theorem read_opening (drive : Option Drive) (rest : List Char) :
    read (opening drive ++ rest) = (top drive).follow (pieces rest) := by
  cases drive with
  | some d => simp [opening, read, d.2]
  | none =>
    have slash : pieces ('/' :: rest) = [] :: pieces rest := by simp [splitAtChar]
    have start : (top none).follow (pieces ('/' :: rest)) = (top none).follow (pieces rest) := by
      rw [slash, follow, List.foldl_cons, step_nil]; rfl
    change read ('/' :: rest) = _
    unfold read
    split
    · rename_i letter after eq
      obtain ⟨rfl, -⟩ := List.cons.inj eq
      rw [dif_neg (by decide)]
      exact start
    · exact start

theorem read_text (a : Address) : read a.text = a := by
  obtain ⟨drive, segments⟩ := a
  rw [text, read_opening]
  cases segments with
  | nil => exact follow_nil_piece _
  | cons s segments =>
    rw [pieces, splitAtChar_joinWith (by simp [names]) fun _ => slash_not_mem_names]
    exact (follow_segments ..).trans (by simp [below, top])

theorem text_injective {a b : Address} (h : a.text = b.text) : a = b := by
  rw [← read_text a, ← read_text b, h]

end Address

end ImportBoundary
