import ImportBoundary.Proofs.Edge.Creation

/-!
# Paths in stages

A path can be normalized in one go or in stages: what `x` leads to from a base, and what `y` leads to
from there, is what `x/y` leads to from the base (`Path.normalize_normalize`). So an edge leads where
its record's two texts lead together, over the directory of the source (`target_staged`).

Only a drive without its slash is different: alone it is a name like any other, but with something
behind it it is a drive.
-/

namespace ImportBoundary

open Text PathChars

namespace Path

open Address

/-- One ASCII letter and a colon, and nothing behind them. -/
def isBareDrive (p : String) : Bool :=
  match p.toList with
  | [letter, ':'] => letter.isAlpha
  | _ => false

theorem map_joined (x y : String) : (x ++ "/" ++ y).toList.map unifySeparator =
    x.toList.map unifySeparator ++ '/' :: y.toList.map unifySeparator := by
  simp [unifySeparator]

theorem isNulFree_joined {x y : String} (hx : IsNulFree x) (hy : IsNulFree y) :
    IsNulFree (x ++ "/" ++ y) := by
  intro nul
  simp only [String.toList_append, List.mem_append] at nul
  rcases nul with (nul | nul) | nul
  · exact hx nul
  · exact absurd nul (by decide)
  · exact hy nul

/-- A letter and a colon have been written as such. -/
theorem isBareDrive_of_map {p : String} {letter : Char} (alpha : letter.isAlpha = true)
    (h : p.toList.map unifySeparator = [letter, ':']) : isBareDrive p = true := by
  have kept {c d : Char} (same : unifySeparator c = d) (noSlash : d ≠ '/') : c = d := by
    unfold unifySeparator at same
    split at same
    · exact absurd same.symm noSlash
    · exact same
  obtain ⟨c, rest, text, first, rest_eq⟩ := List.map_eq_cons_iff.mp h
  obtain ⟨d, nothing, rfl, second, empty⟩ := List.map_eq_cons_iff.mp rest_eq
  obtain rfl := List.map_eq_nil_iff.mp empty
  obtain rfl := kept second (by decide)
  obtain rfl := kept first (by rintro rfl; cases alpha)
  rw [isBareDrive, text]
  exact alpha

/-- What is put behind a path without a top does not give it one, but for a bare drive. -/
theorem splitTop_joined {p : List Char} (some_char : p ≠ [])
    (noDrive : ∀ c : Char, c.isAlpha = true → p ≠ [c, ':']) (topless : splitTop p = none)
    (q : List Char) : splitTop (p ++ '/' :: q) = none := by
  cases split : splitTop (p ++ '/' :: q) with
  | none => rfl
  | some parts =>
    -- the top of the whole would be in `p` already, since `p` is long enough
    obtain ⟨drive, -, eq⟩ := exists_drive_of_splitTop split
    cases drive with
    | none =>
      cases p with
      | nil => exact absurd rfl some_char
      | cons c p =>
        obtain ⟨rfl, -⟩ := List.cons.inj eq
        cases topless
    | some d =>
      match p, some_char with
      | [c], _ => simp [opening] at eq
      | [c, colon], _ =>
        simp only [opening, List.cons_append, List.nil_append, List.cons.injEq] at eq
        obtain ⟨rfl, rfl, -⟩ := eq
        exact absurd rfl (noDrive d.1 d.2)
      | c :: colon :: slash :: p, _ =>
        simp only [opening, List.cons_append, List.nil_append, List.cons.injEq] at eq
        obtain ⟨rfl, rfl, rfl, -⟩ := eq
        have top := splitTop_opening (some d) p
        rw [show opening (some d) ++ p = d.1 :: ':' :: '/' :: p from rfl, topless] at top
        cases top

theorem isAbsolute_joined {x : String} (relative : isAbsolute x = false) (some_char : x ≠ "")
    (noDrive : isBareDrive x = false) (y : String) : isAbsolute (x ++ "/" ++ y) = false := by
  apply splitTop_eq_none_iff.mp
  rw [map_joined]
  apply splitTop_joined _ _ (splitTop_eq_none_iff.mpr relative)
  · intro empty
    exact some_char (String.toList_eq_nil_iff.mp (List.map_eq_nil_iff.mp empty))
  · intro c alpha drive
    rw [isBareDrive_of_map alpha drive] at noDrive
    cases noDrive

/-- A path that starts with a step up is relative. -/
theorem isAbsolute_climbing (p : String) : isAbsolute ("../" ++ p) = false :=
  isAbsolute_joined (x := "..") (by decide) (by decide) (by decide) p

theorem isNulFree_climbing {p : String} (nul : IsNulFree p) : IsNulFree ("../" ++ p) :=
  isNulFree_joined (x := "..") (by decide) nul

/-- Resolving `y` from what `x` leads to is resolving both at once, unless `x` is a bare drive. -/
theorem normalize_normalize {base x y : String} (absolute : isAbsolute base = true)
    (baseNul : IsNulFree base) (some_char : x ≠ "") (noDrive : isBareDrive x = false)
    (xNul : IsNulFree x) (relative : isAbsolute y = false) (yNul : IsNulFree y) :
    normalize (normalize base x) y = normalize base (x ++ "/" ++ y) := by
  have bothNul := isNulFree_joined xNul yNul
  cases own : isAbsolute x with
  | true =>
    obtain ⟨top, rest, split⟩ := isAbsolute_iff_splitTop.mp own
    obtain ⟨drive, -, eq⟩ := exists_drive_of_splitTop split
    have bothEq : (x ++ "/" ++ y).toList.map unifySeparator =
        opening drive ++ (rest ++ '/' :: y.toList.map unifySeparator) := by
      rw [map_joined, eq, List.append_assoc]
    have bothAbsolute : isAbsolute (x ++ "/" ++ y) = true := by
      apply isAbsolute_iff_splitTop.mpr
      rw [bothEq]
      exact ⟨_, _, splitTop_opening drive _⟩
    rw [normalize_of_isAbsolute base own xNul, normalize_path _ yNul,
      resolve_of_relative _ relative, normalize_of_isAbsolute base bothAbsolute bothNul,
      ofPath_of_splitTop eq, ofPath_of_splitTop bothEq, follow_pieces_append]
  | false =>
    have bothRelative := isAbsolute_joined own some_char noDrive y
    rw [normalize_of_base absolute baseNul xNul, normalize_path _ yNul,
      resolve_of_relative _ relative, resolve_of_relative _ own,
      normalize_of_base absolute baseNul bothNul, resolve_of_relative _ bothRelative, map_joined,
      follow_pieces_append]

end Path

namespace Edge

open ImportBoundary.Path ImportBoundary.Address

/-- The record of an edge of which nothing but the two paths is known. -/
def plainRecord (source specifier : String) : List (String × Json) :=
  [("source_file", .str source), ("import_specifier", .str specifier)]

theorem ofRecord_plainRecord {root source specifier : String}
    (absolute : Path.isAbsolute root = true) (some_source : source ≠ "")
    (some_specifier : specifier ≠ "") :
    ofRecord root (plainRecord source specifier) =
      .ok (edgeAt root (plainRecord source specifier) none) := by
  have complete : completeLocation (plainRecord source specifier) = .ok none := by
    simp [completeLocation, requiredFields, plainRecord, fieldOf, Json.isEmptyValue, some_source,
      some_specifier, List.lookup_cons, locationOf]
  rw [ofRecord_eq absolute, complete]
  rfl

/-- The directory of a path that has been normalized is one step up from it. -/
theorem normalize_parent_climbing (a : Address) {specifier : String}
    (relative : Path.isAbsolute specifier = false) (nul : IsNulFree specifier) :
    Path.normalize (Path.parent a.path) specifier = Path.normalize a.path ("../" ++ specifier) := by
  have climbs : pieces (("../" ++ specifier).toList.map unifySeparator) =
      ['.', '.'] :: pieces (specifier.toList.map unifySeparator) := by
    rw [show "../" ++ specifier = ".." ++ "/" ++ specifier from rfl, map_joined, pieces,
      splitAtChar_append]
    rfl
  rw [normalize_parent a nul, resolve_of_relative _ relative,
    normalize_path a (isNulFree_climbing nul),
    resolve_of_relative _ (isAbsolute_climbing specifier), climbs]
  rfl

/-- A path that is normalized in stages comes to the same as in one go, unless the first part is a
bare drive; and the target of a record is the source and the specifier, with one step up between them,
normalized from the directory of the records. -/
theorem target_staged :
    (∀ base x y : String, Path.isAbsolute base = true → IsNulFree base → x ≠ "" →
      isBareDrive x = false → IsNulFree x → Path.isAbsolute y = false → IsNulFree y →
      Path.normalize (Path.normalize base x) y = Path.normalize base (x ++ "/" ++ y)) ∧
    ∀ root source specifier : String, Path.isAbsolute root = true → IsNulFree root →
      source ≠ "" → isBareDrive source = false → IsNulFree source →
      specifier ≠ "" → Path.isAbsolute specifier = false → IsNulFree specifier →
      ∃ e, ofRecord root (plainRecord source specifier) = .ok e ∧
        e.target = Path.normalize root (source ++ "/../" ++ specifier) := by
  constructor
  · intro base x y absolute baseNul some_char noDrive xNul relative yNul
    exact normalize_normalize absolute baseNul some_char noDrive xNul relative yNul
  · intro root source specifier absolute rootNul some_source noDrive sourceNul some_specifier
      relative nul
    refine ⟨_, ofRecord_plainRecord absolute some_source some_specifier, ?_⟩
    have file : Path.normalize "/" (Path.normalize root source) = Path.normalize root source := by
      rw [normalize_of_base absolute rootNul sourceNul, normalize_of_path]
    have directory : Path.normalize (Path.parent (Path.normalize root source)) specifier =
        Path.normalize (Path.normalize root source) ("../" ++ specifier) := by
      rw [normalize_of_base absolute rootNul sourceNul]
      exact normalize_parent_climbing _ relative nul
    calc Path.normalize (Path.parent (Path.normalize "/" (Path.normalize root source))) specifier
        = Path.normalize (Path.normalize root source) ("../" ++ specifier) := by
          rw [file, directory]
      _ = Path.normalize root (source ++ "/" ++ ("../" ++ specifier)) :=
          normalize_normalize absolute rootNul some_source noDrive sourceNul
            (isAbsolute_climbing specifier) (isNulFree_climbing nul)
      _ = Path.normalize root (source ++ "/../" ++ specifier) := by
          rw [show "../" = ".." ++ "/" from rfl]
          simp only [String.append_assoc]
          rfl

/-- Stages that climb beyond a drive, with a name in between that is no drive because more follows its
colon. -/
theorem target_staged_drive :
    Path.normalize (Path.normalize "C:\\a\\" "..\\..\\D:x") "..//C:" =
      Path.normalize "C:\\a\\" ("..\\..\\D:x" ++ "/" ++ "..//C:") ∧
    ∃ e, ofRecord "C:\\a\\" (plainRecord "..\\f.py" "..\\x") = .ok e ∧
      e.target = Path.normalize "C:\\a\\" ("..\\f.py" ++ "/../" ++ "..\\x") := by
  obtain ⟨stages, edges⟩ := target_staged
  constructor
  · apply stages <;> decide
  · apply edges <;> decide

/-- A bare drive is a name below the base by itself, and a drive with something behind it. -/
example : Path.normalize (Path.normalize "/b" "C:") "y" = "/b/C:/y" ∧
    Path.normalize "/b" ("C:" ++ "/" ++ "y") = "C:/y" := by
  decide

end Edge

end ImportBoundary
