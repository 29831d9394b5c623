import ImportBoundary.Proofs.Files.Contents
import ImportBoundary.Proofs.Files.Length

/-!
# File trees

Which lists of entries are a tree of files and directories (`IsTree`): names are names, and nothing
lies below a file. In a tree what stands somewhere below a path can be reached by the path and the names
from there on (`IsTree.follow_child`).
-/

namespace ImportBoundary

open Text PathChars

namespace FileSystem

/-! ## Definition -/

/-- A name that a file or a directory can have. -/
def IsName (name : String) : Prop :=
  name ≠ "" ∧ name ≠ "." ∧ name ≠ ".." ∧ '/' ∉ name.toList ∧ '\x00' ∉ name.toList

instance (name : String) : Decidable (IsName name) :=
  inferInstanceAs (Decidable (_ ∧ _))

/-- Files and directories have names. -/
structure IsNamed (fs : FileSystem) : Prop where
  entries : ∀ e ∈ fs.entries, ∀ name ∈ e.1, IsName name
  current : ∀ name ∈ fs.current, IsName name

/-- The entries are those of a tree: a file is listed once, nothing is listed below it, and it is
neither the root nor on the way to the current directory. -/
structure IsTree (fs : FileSystem) : Prop extends fs.IsNamed where
  leaf : ∀ e ∈ fs.entries, e.2.isFile = true →
    (∀ other ∈ fs.entries, e.1 <+: other.1 → other = e) ∧ ¬ e.1 <+: fs.current ∧ e.1 ≠ []

/-! ## What stands in a tree -/

variable {fs : FileSystem}

theorem mem_of_lookup {entries : List (Route × Entry)} {route : Route} {e : Entry}
    (h : entries.lookup route = some e) : (route, e) ∈ entries := by
  induction entries with
  | nil => cases h
  | cons first rest ih =>
    rw [List.lookup_cons] at h
    cases here : route == first.1 with
    | true =>
      rw [here] at h
      cases h
      rw [eq_of_beq here]
      exact List.mem_cons_self
    | false =>
      rw [here] at h
      exact List.mem_cons_of_mem _ (ih h)

/-- Whatever has something listed at it or below it is there. -/
theorem entry_isSome_iff {route : Route} : (fs.entry? route).isSome = true ↔
    route <+: fs.current ∨ ∃ e ∈ fs.entries, route <+: e.1 := by
  unfold entry?
  cases found : fs.entries.lookup route with
  | some e => exact iff_of_true rfl (.inr ⟨_, mem_of_lookup found, List.prefix_rfl⟩)
  | none => simp

/-- A file is listed. -/
theorem mem_of_entry_file {route : Route} {bytes : List UInt8}
    (h : fs.entry? route = some (.file bytes)) : (route, .file bytes) ∈ fs.entries := by
  unfold entry? at h
  split at h
  · next e found =>
    cases h
    exact mem_of_lookup found
  · split at h <;> cases h

theorem IsNamed.isName (named : fs.IsNamed) {route : Route}
    (there : (fs.entry? route).isSome = true) {name : String} (mem : name ∈ route) :
    IsName name := by
  rcases entry_isSome_iff.mp there with onWay | ⟨e, listed, below⟩
  · exact named.current name (onWay.subset mem)
  · exact named.entries e listed name (below.subset mem)

/-- In a tree nothing lies below a file. -/
theorem IsTree.not_below_file (tree : fs.IsTree) {route rest : Route} {bytes : List UInt8}
    (file : fs.entry? route = some (.file bytes)) (inner : rest ≠ []) :
    fs.entry? (route ++ rest) = none := by
  obtain ⟨alone, offWay, -⟩ := tree.leaf _ (mem_of_entry_file file) rfl
  have absent : ¬ (fs.entry? (route ++ rest)).isSome = true := by
    rw [entry_isSome_iff]
    rintro (onWay | ⟨other, mem, below⟩)
    · exact offWay ((List.prefix_append route rest).trans onWay)
    · have same := alone other mem ((List.prefix_append route rest).trans below)
      have short := (same ▸ below).length_le
      have long := List.length_pos_iff.mpr inner
      simp only [List.length_append] at short
      omega
  exact Option.not_isSome_iff_eq_none.mp absent

/-- In a tree the way to whatever is there leads through directories. -/
theorem IsTree.directory_above (tree : fs.IsTree) {route rest : Route} (inner : rest ≠ [])
    (there : (fs.entry? (route ++ rest)).isSome = true) :
    fs.entry? route = some .directory := by
  have above : (fs.entry? route).isSome = true := by
    rw [entry_isSome_iff] at there ⊢
    rcases there with onWay | ⟨e, mem, below⟩
    · exact .inl ((List.prefix_append route rest).trans onWay)
    · exact .inr ⟨e, mem, (List.prefix_append route rest).trans below⟩
  obtain ⟨e, entry⟩ := Option.isSome_iff_exists.mp above
  cases e with
  | directory => exact entry
  | file bytes =>
    rw [tree.not_below_file entry inner] at there
    cases there

/-! ## Paths in a tree -/

theorem step_of_isName {route : Route} {name : String}
    (directory : fs.entry? route = some .directory) (isName : IsName name) :
    fs.step route name.toList = .ok (route ++ [name]) := by
  obtain ⟨some_char, noDot, noDots, -, -⟩ := isName
  have pieces : name.toList ≠ [] ∧ name.toList ≠ ['.'] ∧ name.toList ≠ ['.', '.'] := by
    refine ⟨fun same => some_char ?_, fun same => noDot ?_, fun same => noDots ?_⟩ <;>
      exact String.toList_inj.mp same
  simp [step, directory, pieces]

/-- On the way to whatever is there no piece holds U+0000. -/
theorem IsNamed.nulFree_of_walk (named : fs.IsNamed) {ps : List (List Char)} {start route : Route}
    (walked : ps.foldlM fs.step start = .ok route) (there : (fs.entry? route).isSome = true) :
    ∀ piece ∈ ps, NulFree piece := by
  induction ps generalizing start with
  | nil => simp
  | cons piece ps ih =>
    rw [List.foldlM_cons] at walked
    obtain ⟨middle, first, rest⟩ := exists_of_bind walked
    refine List.forall_mem_cons.mpr ⟨?_, ih rest⟩
    have stands : (fs.entry? middle).isSome = true := by
      cases ps with
      | nil =>
        cases rest
        exact there
      | cons second ps => rw [entry_of_foldlM (List.cons_ne_nil _ _) rest, Option.isSome_some]
    simp only [step, entry_of_step first] at first
    split at first
    · next nowhere => rcases nowhere with rfl | rfl <;> decide
    · split at first
      · next dots => rw [dots]; decide
      · cases first
        have isName := named.isName stands (List.mem_append_right start List.mem_cons_self)
        rw [NulFree, ← String.toList_ofList (l := piece)]
        exact isName.2.2.2.2

/-- Where names are names, no path that leads anywhere holds U+0000. -/
theorem IsNamed.nulFree (named : fs.IsNamed) {p : String} {e : Entry} (found : fs.at? p = some e) :
    NulFree p.toList := by
  obtain ⟨route, follows, -⟩ := at_eq_some_iff.mp found
  obtain ⟨-, walked, there⟩ := follow_eq_ok_iff.mp follows
  intro inside
  obtain ⟨piece, mem, inPiece⟩ := exists_piece_of_mem inside (by decide : '\x00' ≠ '/')
  exact named.nulFree_of_walk walked there piece mem inPiece

/-- Names lead down to whatever is there. -/
theorem IsTree.walk_names (tree : fs.IsTree) {base r : Route}
    (there : (fs.entry? (base ++ r)).isSome = true) :
    (r.map String.toList).foldlM fs.step base = .ok (base ++ r) := by
  induction r generalizing base with
  | nil =>
    rw [List.append_nil]
    rfl
  | cons name r ih =>
    have isName : IsName name := tree.toIsNamed.isName there (by simp)
    have directory := tree.directory_above (List.cons_ne_nil name r) there
    rw [List.append_cons] at there ⊢
    rw [List.map_cons, List.foldlM_cons, step_of_isName directory isName]
    exact ih there

/-- Pieces that lead nowhere stay in a directory. -/
theorem walk_of_not_leads {ps : List (List Char)} {route : Route}
    (directory : fs.entry? route = some .directory) (stay : ∀ piece ∈ ps, leads piece = false) :
    ps.foldlM fs.step route = .ok route := by
  induction ps with
  | nil => rfl
  | cons piece ps ih =>
    obtain ⟨first, others⟩ := List.forall_mem_cons.mp stay
    rw [List.foldlM_cons, step_of_not_leads directory first]
    exact ih others

/-- Names as one path. -/
theorem toList_intercalate_slash (r : Route) :
    ("/".intercalate r).toList = joinWith ['/'] (r.map String.toList) := by
  rw [String.toList_intercalate]
  induction r with
  | nil => rfl
  | cons name r ih =>
    cases r with
    | nil => simp [joinWith]
    | cons second r =>
      rw [List.map_cons, List.map_cons, List.intercalate_cons_cons, ← List.map_cons, ih]
      rfl

theorem pieces_intercalate_slash {r : Route} (some_name : r ≠ []) (named : ∀ name ∈ r, IsName name) :
    pieces ("/".intercalate r).toList = r.map String.toList := by
  rw [toList_intercalate_slash]
  apply splitAtChar_joinWith (mt List.map_eq_nil_iff.mp some_name)
  intro s mem
  obtain ⟨name, inside, rfl⟩ := List.mem_map.mp mem
  exact (named name inside).2.2.2.1

/-- Names as one path start with a character that is no slash. -/
theorem exists_cons_intercalate_slash {r : Route} (some_name : r ≠ [])
    (named : ∀ name ∈ r, IsName name) :
    ∃ c cs, ("/".intercalate r).toList = c :: cs ∧ c ≠ '/' := by
  have split := pieces_intercalate_slash some_name named
  have someChars : ∀ s ∈ pieces ("/".intercalate r).toList, s ≠ [] := by
    intro s mem empty
    rw [split] at mem
    obtain ⟨name, inside, same⟩ := List.mem_map.mp mem
    exact (named name inside).1 (String.toList_eq_nil_iff.mp (same.trans empty))
  cases chars : ("/".intercalate r).toList with
  | nil =>
    rw [chars] at someChars
    exact absurd rfl (someChars [] List.mem_cons_self)
  | cons c cs =>
    refine ⟨c, cs, rfl, ?_⟩
    rintro rfl
    have head : pieces ('/' :: cs) = [] :: pieces cs := splitAtChar_append '/' [] cs
    rw [chars, head] at someChars
    exact absurd rfl (someChars [] List.mem_cons_self)

/-- A path starts where its beginning does. -/
theorem startOf_append {p : List Char} (some_char : p ≠ []) (rest : List Char) :
    fs.startOf (p ++ rest) = fs.startOf p := by
  rw [startOf, isRooted_append some_char]
  rfl

/-- Behind one path another one leads on from where the first one led. -/
theorem walk_onward {start base : Route} {p : List Char} (q : List Char)
    (walked : (pieces p).foldlM fs.step start = .ok base) :
    (pieces (p ++ '/' :: q)).foldlM fs.step start = (pieces q).foldlM fs.step base := by
  rw [pieces, splitAtChar_append, List.foldlM_append]
  exact congrArg (· >>= fun s => (pieces q).foldlM fs.step s) walked

/-- Slashes and dots lead nowhere. -/
theorem eq_of_walk_of_not_leads {ps : List (List Char)} {start base : Route} (some_piece : ps ≠ [])
    (walked : ps.foldlM fs.step start = .ok base) (stay : ∀ piece ∈ ps, leads piece = false) :
    base = start := by
  rw [walk_of_not_leads (entry_of_foldlM some_piece walked) stay] at walked
  cases walked
  rfl

theorem leads_of_slashes {p piece : List Char} (slashes : ∀ c ∈ p, c = '/')
    (mem : piece ∈ pieces p) : leads piece = false := by
  obtain ⟨noSlash, sub⟩ := mem_of_mem_piece mem
  cases piece with
  | nil => rfl
  | cons c cs =>
    have slash : c = '/' := slashes c (sub c List.mem_cons_self)
    exact absurd (slash ▸ List.mem_cons_self) noSlash

section

variable {root names : String} {base route : Route}

/-- Behind a path and a slash, names lead on from where the path leads. -/
theorem follow_behind (leads : fs.follow root = .ok base)
    (down : (pieces names.toList).foldlM fs.step base = .ok route)
    (there : (fs.entry? route).isSome = true) : fs.follow (root ++ "/" ++ names) = .ok route := by
  obtain ⟨some_char, walked, -⟩ := follow_eq_ok_iff.mp leads
  rw [follow_eq_ok_iff, String.toList_append, String.toList_append, List.append_assoc,
    startOf_append some_char]
  exact ⟨by simp [some_char], (walk_onward names.toList walked).trans down, there⟩

/-- Behind slashes alone, names need no other slash. -/
theorem follow_behind_slashes (slashes : ∀ c ∈ root.toList, c = '/') (leads : fs.follow root = .ok base)
    (directory : fs.entry? base = some .directory)
    (down : (pieces names.toList).foldlM fs.step base = .ok route)
    (there : (fs.entry? route).isSome = true) : fs.follow (root ++ names) = .ok route := by
  obtain ⟨some_char, walked, -⟩ := follow_eq_ok_iff.mp leads
  have stays : base = fs.startOf root.toList :=
    eq_of_walk_of_not_leads (splitAtChar_ne_nil _ _) walked fun _ => leads_of_slashes slashes
  rw [follow_eq_ok_iff, String.toList_append, startOf_append some_char, ← stays]
  obtain ⟨before, last, eq⟩ := List.eq_nil_or_concat root.toList |>.resolve_left some_char
  rw [eq, List.concat_eq_append] at slashes ⊢
  obtain rfl : last = '/' := slashes last (by simp)
  have onWay : (pieces before).foldlM fs.step base = .ok base :=
    walk_of_not_leads directory fun _ =>
      leads_of_slashes fun c mem => slashes c (List.mem_append_left _ mem)
  rw [List.append_assoc]
  exact ⟨by simp, (walk_onward names.toList onWay).trans down, there⟩

/-- Names alone lead on from the current directory. -/
theorem follow_relative {c : Char} {cs : List Char} (chars : names.toList = c :: cs) (noSlash : c ≠ '/')
    (down : (pieces names.toList).foldlM fs.step fs.current = .ok route)
    (there : (fs.entry? route).isSome = true) : fs.follow names = .ok route := by
  have relative : fs.startOf names.toList = fs.current := by
    rw [startOf, chars, isRooted_cons, decide_eq_false noSlash, if_neg Bool.false_ne_true]
  rw [follow_eq_ok_iff, relative]
  exact ⟨by simp [chars], down, there⟩

end

/-- What lies below a path is reached by the path and the names from there on. -/
theorem IsTree.follow_child (tree : fs.IsTree) {root : String} {base r : Route}
    (leads : fs.follow root = .ok base) (some_name : r ≠ [])
    (there : (fs.entry? (base ++ r)).isSome = true) :
    fs.follow (Path.child root ("/".intercalate r)) = .ok (base ++ r) := by
  have named : ∀ name ∈ r, IsName name := fun name mem =>
    tree.toIsNamed.isName there (List.mem_append_right base mem)
  have down := tree.walk_names there
  rw [← pieces_intercalate_slash some_name named] at down
  unfold Path.child
  by_cases dot : root = "."
  · rw [if_pos dot]
    obtain ⟨c, cs, chars, noSlash⟩ := exists_cons_intercalate_slash some_name named
    have start : base = fs.current := by
      subst dot
      obtain ⟨-, walked, -⟩ := follow_eq_ok_iff.mp leads
      exact eq_of_walk_of_not_leads (splitAtChar_ne_nil _ _) walked (by decide)
    rw [start] at down there ⊢
    exact follow_relative chars noSlash down there
  · rw [if_neg dot]
    by_cases slashes : root.toList.all (· = '/') = true
    · rw [if_pos slashes]
      exact follow_behind_slashes (by simpa using slashes) leads
        (tree.directory_above some_name there) down there
    · rw [if_neg slashes]
      exact follow_behind leads down there

/-- What is read at the end of the way to something below a path. -/
theorem IsTree.read_child (tree : fs.IsTree) {root : String} {base r : Route} {e : Entry}
    (leads : fs.follow root = .ok base) (some_name : r ≠ []) (entry : fs.entry? (base ++ r) = some e) :
    (∃ bytes, fs.read (Path.child root ("/".intercalate r)) = .ok bytes) ↔ e.isFile = true := by
  have there : (fs.entry? (base ++ r)).isSome = true := by rw [entry]; rfl
  rw [read, tree.follow_child leads some_name there]
  simp only [entry]
  cases e <;> simp [Entry.isFile]

end FileSystem

end ImportBoundary
