import ImportBoundary.Proofs.Path.Ancestry

/-!
# The last segment of a path

`parent` and `lastSegment` cut a path at its last slash, and `normalize` puts the two parts together
again (`normalize_parent_lastSegment`). Not every part looks like what it stands for: the parent of what
stands on a drive has lost its slash, the last segment of the root and of a drive is empty, and a segment
may be a letter and a colon. But a drive without its slash still stands for the drive
(`Address.normalize_stem`), and a text without separators leads one step at most, whatever it looks like
(`Path.resolve_of_no_separator`).
-/

namespace ImportBoundary

namespace PathChars

theorem nulFree_lastSegment {p : List Char} (nul : NulFree p) : NulFree (lastSegment p) := by
  intro inside
  have suffix : lastSegment p <:+ unifySlashes p := List.rtakeWhile_suffix _ _
  exact nulFree_unifySlashes nul (suffix.subset inside)

end PathChars

namespace Address

open PathChars

/-! ## The name of an address -/

/-- A top has no name; the name of any other address is a segment. -/
theorem name_spec (a : Address) : a.name = [] ∨ IsSegment a.name := by
  rcases a.eq_top_or_below with ⟨drive, rfl⟩ | ⟨b, s, rfl⟩
  · exact .inl rfl
  · rw [name_below]
    exact .inr s.2

theorem clean_name (a : Address) : Clean a.name ∧ '/' ∉ a.name := by
  rcases a.name_spec with none | segment
  · rw [none]
    exact ⟨⟨List.not_mem_nil, List.not_mem_nil⟩, List.not_mem_nil⟩
  · obtain ⟨-, -, -, slash, backslash, nul⟩ := segment
    exact ⟨⟨nul, backslash⟩, slash⟩

/-- An address is one step by its name below the one that holds it. A top stays where it is. -/
theorem step_name (a : Address) : a.up.step a.name = a := by
  rcases a.eq_top_or_below with ⟨drive, rfl⟩ | ⟨b, s, rfl⟩
  · exact step_nil (top drive)
  · rw [up_below, name_below, step_segment]

end Address

namespace Path

open Address PathChars

/-! ## Parts of canonical paths -/

theorem toList_lastSegment_path (a : Address) : (lastSegment a.path).toList = a.name := by
  rw [lastSegment_path, String.toList_ofList]

theorem normalize_parent_name (a : Address) :
    normalize (parent a.path) (lastSegment a.path) = a.path := by
  obtain ⟨clean, slash⟩ := a.clean_name
  rw [← toList_lastSegment_path] at clean slash
  have leads : a.up.resolve (lastSegment a.path).toList = a := by
    rw [resolve_of_no_separator a.up slash clean.2, toList_lastSegment_path, step_name]
  rw [normalize_parent a clean.1, leads]

/-- A segment leads one step down, also if it is a letter and a colon. -/
theorem normalize_segment (a : Address) {s : String} (segment : IsSegment s.toList) :
    normalize a.path s = (a.below [⟨s.toList, segment⟩]).path := by
  have ⟨_, _, _, slash, backslash, nul⟩ := segment
  rw [normalize_path a nul, resolve_of_no_separator a slash backslash]
  exact congrArg path (a.step_segment ⟨s.toList, segment⟩)

theorem normalize_parent_dot (a : Address) : normalize (parent a.path) "." = a.up.path := by
  rw [normalize_parent a (by decide), resolve_dot]

/-- A text that is the last segment of the path it leads to is a segment, unless it is empty. -/
theorem isSegment_of_lastSegment (a : Address) {s : String} (some_char : s ≠ "")
    (back : lastSegment (normalize a.path s) = s) : IsSegment s.toList := by
  have nul : IsNulFree s := by
    rw [← back, IsNulFree, lastSegment, String.toList_ofList]
    exact nulFree_lastSegment (isNulFree_normalize a.path s)
  rw [normalize_path a nul] at back
  have named : (a.resolve s.toList).name = s.toList := by
    rw [← toList_lastSegment_path, back]
  rcases (a.resolve s.toList).name_spec with none | segment
  · exact absurd (String.toList_eq_nil_iff.mp (named ▸ none)) some_char
  · exact named ▸ segment

/-- A canonical path is put together again from its parent and its last segment, and the last segment
holds no separator. A segment leads from a directory to a path of which it is the last segment, and the
parent of that path leads back to the directory. Of the other texts, only the empty one can be the last
segment of the path it leads to. -/
theorem normalize_parent_lastSegment :
    (∀ p, IsCanonical p → normalize (parent p) (lastSegment p) = p ∧
      '/' ∉ (lastSegment p).toList ∧ '\\' ∉ (lastSegment p).toList) ∧
    ∀ q, IsCanonical q →
      (∀ s : String, IsSegment s.toList → lastSegment (normalize q s) = s ∧
        normalize (parent (normalize q s)) "." = q) ∧
      ∀ s : String, s ≠ "" → lastSegment (normalize q s) = s → IsSegment s.toList := by
  constructor
  · intro p canonical
    obtain ⟨a, rfl⟩ : ∃ a : Address, a.path = p := ⟨ofPath p, canonical⟩
    obtain ⟨clean, slash⟩ := a.clean_name
    rw [toList_lastSegment_path]
    exact ⟨normalize_parent_name a, slash, clean.2⟩
  · intro q canonical
    obtain ⟨a, rfl⟩ : ∃ a : Address, a.path = q := ⟨ofPath q, canonical⟩
    constructor
    · intro s segment
      rw [normalize_segment a segment]
      constructor
      · rw [lastSegment_path, name_below, String.ofList_toList]
      · rw [normalize_parent_dot, up_below]
    · intro s some_char back
      exact isSegment_of_lastSegment a some_char back

/-- A drive and its parts, and a segment on it that looks like a drive. -/
theorem normalize_parent_lastSegment_drive :
    let p := "C:/"
    let q := "C:/"
    let s := "D:"
    (IsCanonical p ∧ IsCanonical q ∧ IsSegment s.toList ∧ s ≠ "") ∧
      (normalize (parent p) (lastSegment p) = p ∧
        '/' ∉ (lastSegment p).toList ∧ '\\' ∉ (lastSegment p).toList) ∧
      (lastSegment (normalize q s) = s ∧ normalize (parent (normalize q s)) "." = q) ∧
      (lastSegment (normalize q s) = s → IsSegment s.toList) := by
  intro p q s
  have canonical : IsCanonical p := by
    rw [isCanonical_iff_normalize]
    decide
  have segment : IsSegment s.toList := by decide
  obtain ⟨parts, below⟩ := normalize_parent_lastSegment
  obtain ⟨leads, only⟩ := below q canonical
  exact ⟨⟨canonical, canonical, segment, by decide⟩, parts p canonical, leads s segment,
    only s (by decide)⟩

example : parent "C:/D:" = "C:" ∧ lastSegment "C:/D:" = "D:" ∧ normalize "C:" "D:" = "C:/D:" := by
  decide

end Path

end ImportBoundary
