import ImportBoundary.Proofs.Path.Order

/-!
# Canonical paths

The functions on texts in terms of addresses. `Address.path` is the path of an address,
`Address.ofPath` the address of an absolute path; a path is canonical when it is the path of an
address. Whatever `normalize` gives for an absolute base is canonical, and on canonical paths every
other function on paths is one on addresses.
-/

namespace ImportBoundary

namespace Address

/-- The path of an address. -/
def path (a : Address) : String :=
  String.ofList a.text

/-- The address of an absolute path, however it is spelled. -/
def ofPath (p : String) : Address :=
  read (PathChars.unifySlashes p.toList)

/-- A path that is the one spelling of an address. -/
def IsCanonical (p : String) : Prop :=
  (ofPath p).path = p

theorem ofPath_path (a : Address) : ofPath a.path = a := by
  rw [ofPath, path, String.toList_ofList, unifySlashes_text, read_text]

theorem path_injective {a b : Address} (h : a.path = b.path) : a = b := by
  rw [← ofPath_path a, ← ofPath_path b, h]

theorem isCanonical_path (a : Address) : IsCanonical a.path :=
  congrArg path a.ofPath_path

end Address

namespace Path

open Address
open PathChars (NulFree)

/-- No U+0000 is in the text. -/
abbrev IsNulFree (p : String) : Prop :=
  NulFree p.toList

theorem isAbsolute_path (a : Address) : isAbsolute a.path = true := by
  rw [isAbsolute, path, String.toList_ofList, isAbsolute_text]

/-- Whatever is normalized from an absolute base is absolute, also where U+0000 is in the texts. -/
theorem isAbsolute_normalize {base : String} (h : isAbsolute base = true) (p : String) :
    isAbsolute (normalize base p) = true := by
  rw [isAbsolute, normalize, String.toList_ofList]
  exact Address.isAbsolute_normalize h p.toList

theorem isNulFree_path (a : Address) : IsNulFree a.path := by
  rw [IsNulFree, path, String.toList_ofList]
  exact a.clean_text.1

theorem covers_path (a b : Address) : covers a.path b.path = decide (a.IsAbove b) := by
  simp only [covers, path, String.toList_ofList, covers_text]

/-- Parents are compared as the addresses above. -/
theorem covers_parent_path (a b : Address) :
    covers (parent a.path) (parent b.path) = decide (a.up.IsAbove b.up) := by
  simp only [covers, parent, path, String.toList_ofList, parent_text, covers_stem]

theorem lastSegment_path (a : Address) : lastSegment a.path = String.ofList a.name := by
  simp only [lastSegment, path, String.toList_ofList, lastSegment_text]

theorem shownFrom_path (base a : Address) :
    shownFrom base.path a.path = String.ofList (base.shownFrom a) := by
  simp only [shownFrom, path, String.toList_ofList, shownFrom_text]

theorem normalize_path (a : Address) {p : String} (nul : IsNulFree p) :
    normalize a.path p = (a.resolve p.toList).path := by
  simp only [normalize, path, String.toList_ofList, normalize_text a nul]

theorem normalize_parent (a : Address) {p : String} (nul : IsNulFree p) :
    normalize (parent a.path) p = (a.up.resolve p.toList).path := by
  simp only [normalize, parent, path, String.toList_ofList, parent_text, normalize_stem a.up nul]

theorem normalize_of_isAbsolute (base : String) {p : String} (h : isAbsolute p = true)
    (nul : IsNulFree p) : normalize base p = (ofPath p).path := by
  rw [normalize, normalize_absolute base.toList h nul]
  rfl

/-- A path that is normalized stays as it is, whatever the base. -/
theorem normalize_of_path (base : String) (a : Address) : normalize base a.path = a.path := by
  rw [normalize_of_isAbsolute base (isAbsolute_path a) (isNulFree_path a), ofPath_path]

/-- Any absolute base stands for its address. -/
theorem normalize_of_base {base p : String} (h : isAbsolute base = true)
    (baseNul : IsNulFree base) (nul : IsNulFree p) :
    normalize base p = ((ofPath base).resolve p.toList).path := by
  rw [normalize, normalize_eq_text (opensOnce_unifySlashes h) baseNul nul]
  rfl

theorem anyCovers_iff {roots : List String} {target : String} :
    anyCovers roots target = true ↔ ∃ r ∈ roots, covers r target = true := by
  simp [anyCovers]

end Path

end ImportBoundary
