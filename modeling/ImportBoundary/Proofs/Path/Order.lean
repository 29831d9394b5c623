import ImportBoundary.Proofs.Path.Normal
import Mathlib.Data.List.DropRight

/-!
# The order of addresses

`covers`, `parent`, `lastSegment` and `shownFrom` cut and compare texts. On normalized paths they
are what they should be: a prefix of the segments under the same drive (`covers_text`), the
address above, the last segment, and the segments between two addresses.

A parent is spelled a little differently: the top of a drive loses its slash (`stem`). Parents are
only compared with each other, where that makes no difference (`covers_stem`).
-/

namespace ImportBoundary

open Text PathChars

namespace Address

/-- What a path starts with, without its slash. -/
def head : Option Drive → List Char
  | none => []
  | some d => [d.1, ':']

/-- The text of an address with no slash at its end. -/
def trunk (a : Address) : List Char :=
  head a.drive ++ a.names.flatMap ('/' :: ·)

/-- How `parent` spells an address. -/
def stem (a : Address) : List Char :=
  if a = top none then ['/'] else a.trunk

/-! ## Tops and what lies below them -/

theorem eq_top_or_below (a : Address) :
    (∃ drive, a = top drive) ∨ ∃ b s, a = below b [s] := by
  obtain ⟨drive, segments⟩ := a
  rcases List.eq_nil_or_concat segments with rfl | ⟨before, s, rfl⟩
  · exact .inl ⟨drive, rfl⟩
  · exact .inr ⟨⟨drive, before⟩, s, by simp [below]⟩

theorem up_below (a : Address) (s : Segment) : (a.below [s]).up = a := by
  simp [up, below]

theorem names_below (a : Address) (segments : List Segment) :
    (a.below segments).names = a.names ++ segments.map Subtype.val := by
  simp [names, below]

theorem name_below (a : Address) (s : Segment) : (a.below [s]).name = s.1 := by
  simp [name, names, below]

theorem trunk_below (a : Address) (segments : List Segment) :
    (a.below segments).trunk = a.trunk ++ segments.flatMap ('/' :: ·.1) := by
  simp [trunk, names, below]

theorem trunk_below_one (a : Address) (s : Segment) :
    (a.below [s]).trunk = a.trunk ++ '/' :: s.1 := by
  simp [trunk_below]

theorem opening_eq (drive : Option Drive) : opening drive = head drive ++ ['/'] := by
  cases drive <;> rfl

theorem slash_joinWith {names : List (List Char)} (h : names ≠ []) :
    '/' :: joinWith ['/'] names = names.flatMap ('/' :: ·) := by
  induction names with
  | nil => exact absurd rfl h
  | cons s names ih =>
    cases names with
    | nil => simp [joinWith]
    | cons t names =>
      have rest := ih (List.cons_ne_nil _ _)
      simpa [joinWith] using rest

theorem text_top (drive : Option Drive) : (top drive).text = (top drive).trunk ++ ['/'] := by
  simp [text, opening_eq, trunk, top, names, joinWith]

theorem text_below (a : Address) (s : Segment) : (a.below [s]).text = (a.below [s]).trunk := by
  have inner : (a.below [s]).names ≠ [] := by simp [names_below]
  simp only [text, opening_eq, trunk, ← slash_joinWith inner, List.append_assoc, List.cons_append,
    List.nil_append]

theorem stem_below (a : Address) (s : Segment) : (a.below [s]).stem = (a.below [s]).trunk := by
  rw [stem, if_neg]
  intro h
  have := congrArg segments h
  simp [below, top] at this

theorem slash_not_mem_head (drive : Option Drive) : '/' ∉ head drive := by
  cases drive with
  | none => simp [head]
  | some d =>
    have : '/' ≠ d.1 := (Drive.ne_of_not_isAlpha d (by decide)).symm
    simp [head, this]

theorem pieces_trunk (a : Address) : pieces a.trunk = head a.drive :: a.names := by
  obtain ⟨drive, segments⟩ := a
  induction segments using List.reverseRecOn with
  | nil => simpa [trunk, names] using splitAtChar_of_not_mem (slash_not_mem_head drive)
  | append_singleton segments s ih =>
    have last : pieces s.1 = [s.1] := splitAtChar_of_not_mem s.2.2.2.2.1
    have cut : Address.mk drive (segments ++ [s]) = below ⟨drive, segments⟩ [s] := rfl
    rw [cut, trunk_below_one, pieces, splitAtChar_append, ← pieces, ih, ← pieces, last, names_below]
    rfl

theorem head_injective {c d : Option Drive} (h : head c = head d) : c = d := by
  cases c <;> cases d <;> simp_all [head, Subtype.ext_iff]

theorem names_injective {a b : Address} (h : a.names = b.names) : a.segments = b.segments :=
  List.map_injective_iff.mpr Subtype.val_injective h

/-! ## Slashes at the end -/

theorem getLast?_trunk (a : Address) : a.trunk.getLast? ≠ some '/' := by
  rcases a.eq_top_or_below with ⟨drive, rfl⟩ | ⟨b, s, rfl⟩
  · cases drive <;> simp [trunk, top, head, names]
  · rw [trunk_below_one, List.getLast?_append_of_ne_nil _ (List.cons_ne_nil _ _),
      List.getLast?_cons_of_ne_nil s.2.1]
    intro h
    exact s.2.2.2.2.1 (List.mem_of_getLast? h)

theorem dropTrailingSlashes_eq (p : List Char) :
    dropTrailingSlashes p = p.rdropWhile (· = '/') :=
  rfl

theorem dropTrailingSlashes_trunk (a : Address) : dropTrailingSlashes a.trunk = a.trunk := by
  rw [dropTrailingSlashes_eq, List.rdropWhile_eq_self_iff]
  intro hl h
  apply a.getLast?_trunk
  rw [List.getLast?_eq_some_getLast hl]
  simpa using h

theorem dropTrailingSlashes_trunk_slash (a : Address) :
    dropTrailingSlashes (a.trunk ++ ['/']) = a.trunk := by
  rw [dropTrailingSlashes_eq, List.rdropWhile_concat_pos _ _ _ (by simp)]
  exact a.dropTrailingSlashes_trunk

/-! ## Ancestors -/

/-- A trunk with a slash is a prefix of those of the addresses strictly below it. -/
theorem trunk_slash_prefix_iff (a b : Address) :
    a.trunk ++ ['/'] <+: b.trunk ↔ ∃ s rest, b = a.below (s :: rest) := by
  constructor
  · rintro ⟨tail, h⟩
    have cut : (head a.drive :: a.names) ++ pieces tail = head b.drive :: b.names := by
      rw [← pieces_trunk, ← pieces_trunk, ← h, List.append_assoc, List.singleton_append]
      exact (splitAtChar_append '/' _ _).symm
    obtain ⟨heads, tails⟩ := List.cons.inj cut
    obtain ⟨before, after, split, hb, ha⟩ := List.map_eq_append_iff.mp tails.symm
    have before_eq : before = a.segments := List.map_injective_iff.mpr Subtype.val_injective hb
    cases after with
    | nil => exact absurd ha.symm (splitAtChar_ne_nil _ _)
    | cons s rest =>
      refine ⟨s, rest, ?_⟩
      rw [below, ← before_eq, ← split, head_injective heads]
  · rintro ⟨s, rest, rfl⟩
    exact ⟨s.1 ++ rest.flatMap ('/' :: ·.1), by simp [trunk_below]⟩

theorem isAbove_iff (a b : Address) :
    a.IsAbove b ↔ b = a ∨ ∃ s rest, b = a.below (s :: rest) := by
  constructor
  · rintro ⟨drive, rest, segments⟩
    have hb : b = a.below rest := by rw [below, drive, segments]
    cases rest with
    | nil => exact .inl (by simpa [below] using hb)
    | cons s rest => exact .inr ⟨s, rest, hb⟩
  · rintro (rfl | ⟨s, rest, rfl⟩)
    · exact ⟨rfl, List.prefix_rfl⟩
    · exact ⟨rfl, List.prefix_append ..⟩

theorem trunk_injective {a b : Address} (h : a.trunk = b.trunk) : a = b := by
  have := congrArg pieces h
  rw [pieces_trunk, pieces_trunk] at this
  obtain ⟨heads, names⟩ := List.cons.inj this
  obtain ⟨drive, segments⟩ := a
  obtain rfl : drive = b.drive := head_injective heads
  obtain rfl : segments = b.segments := names_injective names
  rfl

/-- Addresses are written with no slash at the end, but perhaps for the tops. -/
def IsSpelling (spell : Address → List Char) : Prop :=
  ∀ a, spell a = a.trunk ∨ a.segments = [] ∧ spell a = a.trunk ++ ['/']

theorem isSpelling_text : IsSpelling text := by
  intro a
  rcases a.eq_top_or_below with ⟨drive, rfl⟩ | ⟨b, s, rfl⟩
  · exact .inr ⟨rfl, text_top drive⟩
  · exact .inl (text_below b s)

theorem isSpelling_stem : IsSpelling stem := by
  intro a
  by_cases h : a = top none
  · subst h
    exact .inr ⟨rfl, rfl⟩
  · exact .inl (if_neg h)

theorem IsSpelling.dropTrailingSlashes {spell : Address → List Char} (h : IsSpelling spell)
    (a : Address) : dropTrailingSlashes (spell a) = a.trunk := by
  rcases h a with eq | ⟨-, eq⟩ <;> rw [eq]
  · exact a.dropTrailingSlashes_trunk
  · exact a.dropTrailingSlashes_trunk_slash

theorem IsSpelling.injective {spell : Address → List Char} (h : IsSpelling spell) {a b : Address}
    (eq : spell a = spell b) : a = b := by
  apply trunk_injective
  rw [← h.dropTrailingSlashes a, ← h.dropTrailingSlashes b, eq]

/-- Covering is the prefix order on the segments under one drive. -/
theorem IsSpelling.covers {spell : Address → List Char} (h : IsSpelling spell) (a b : Address) :
    PathChars.covers (spell a) (spell b) = decide (a.IsAbove b) := by
  rw [PathChars.covers, h.dropTrailingSlashes, Bool.eq_iff_iff, Bool.or_eq_true, beq_iff_eq,
    List.isPrefixOf_iff_prefix, decide_eq_true_iff, isAbove_iff]
  constructor
  · rintro (same | below)
    · exact .inl (h.injective same)
    · rcases h b with eq | ⟨topmost, eq⟩
      · exact .inr ((trunk_slash_prefix_iff a b).mp (eq ▸ below))
      · -- the top of a drive has no slash before its own
        obtain ⟨tail, e⟩ := eq ▸ below
        have cut : (head a.drive :: a.names) ++ pieces tail = [head b.drive, []] := by
          have hb : pieces (b.trunk ++ '/' :: []) = [head b.drive, []] := by
            rw [pieces, splitAtChar_append, ← pieces, pieces_trunk, names, topmost]
            rfl
          rw [← hb, ← pieces_trunk, ← e, List.append_assoc, List.singleton_append]
          exact (splitAtChar_append '/' _ _).symm
        obtain ⟨heads, tails⟩ := List.cons.inj cut
        have none : a.names = [] := by
          rcases List.append_eq_singleton_iff.mp tails with ⟨none, -⟩ | ⟨-, empty⟩
          · exact none
          · exact absurd empty (splitAtChar_ne_nil _ _)
        refine .inl (trunk_injective ?_)
        rw [trunk, trunk, heads, none, names, topmost]
        rfl
  · rintro (rfl | ⟨s, rest, rfl⟩)
    · exact .inl rfl
    · have inner : spell (a.below (s :: rest)) = (a.below (s :: rest)).trunk := by
        rcases h (a.below (s :: rest)) with eq | ⟨topmost, -⟩
        · exact eq
        · simp [below] at topmost
      rw [inner]
      exact .inr ((trunk_slash_prefix_iff _ _).mpr ⟨s, rest, rfl⟩)

theorem covers_text (a b : Address) : covers a.text b.text = decide (a.IsAbove b) :=
  isSpelling_text.covers a b

theorem covers_stem (a b : Address) : covers a.stem b.stem = decide (a.IsAbove b) :=
  isSpelling_stem.covers a b

/-! ## Parents and last segments -/

theorem throughLastSlash_eq (p : List Char) : throughLastSlash p = p.rdropWhile (· ≠ '/') :=
  rfl

theorem afterLastSlash_eq (p : List Char) : afterLastSlash p = p.rtakeWhile (· ≠ '/') :=
  rfl

theorem throughLastSlash_append {s : List Char} (h : '/' ∉ s) (p : List Char) :
    throughLastSlash (p ++ '/' :: s) = p ++ ['/'] := by
  induction s using List.reverseRecOn with
  | nil => exact List.rdropWhile_concat_neg _ _ _ (by simp)
  | append_singleton s c ih =>
    have hc : c ≠ '/' := fun eq => h (by simp [eq])
    rw [throughLastSlash_eq, ← List.cons_append, ← List.append_assoc,
      List.rdropWhile_concat_pos _ _ _ (by simpa using hc)]
    exact ih fun hs => h (List.mem_append_left _ hs)

theorem afterLastSlash_append {s : List Char} (h : '/' ∉ s) (p : List Char) :
    afterLastSlash (p ++ '/' :: s) = s := by
  induction s using List.reverseRecOn with
  | nil => exact List.rtakeWhile_concat_neg _ _ _ (by simp)
  | append_singleton s c ih =>
    have hc : c ≠ '/' := fun eq => h (by simp [eq])
    rw [afterLastSlash_eq, ← List.cons_append, ← List.append_assoc,
      List.rtakeWhile_concat_pos _ _ _ (by simpa using hc), ← afterLastSlash_eq,
      ih fun hs => h (List.mem_append_left _ hs)]

theorem throughLastSlash_of_slash_not_mem {s : List Char} (h : '/' ∉ s) : throughLastSlash s = [] := by
  rw [throughLastSlash_eq, List.rdropWhile_eq_nil_iff]
  intro c mem
  exact decide_eq_true fun slash => h (slash ▸ mem)

theorem afterLastSlash_of_slash_not_mem {s : List Char} (h : '/' ∉ s) : afterLastSlash s = s := by
  rw [afterLastSlash_eq, List.rtakeWhile_eq_self_iff]
  intro c mem
  exact decide_eq_true fun slash => h (slash ▸ mem)

theorem eq_top_of_trunk_slashes {a : Address} (h : (a.trunk ++ ['/']).all (· = '/') = true) :
    a = top none := by
  apply trunk_injective
  change a.trunk = []
  cases last : a.trunk.getLast? with
  | none => exact List.getLast?_eq_none_iff.mp last
  | some c =>
    have : c = '/' := by
      have := List.all_eq_true.mp h c (List.mem_append_left _ (List.mem_of_getLast? last))
      simpa using this
    exact absurd (this ▸ last) a.getLast?_trunk

/-- Going up from an address, as `parent` spells it. -/
theorem parent_text (a : Address) : parent a.text = a.up.stem := by
  have cut (b : Address) :
      (if (b.trunk ++ ['/']).all (· = '/') then b.trunk ++ ['/']
        else dropTrailingSlashes (b.trunk ++ ['/'])) = b.stem := by
    by_cases root : b = top none
    · subst root
      rfl
    · rw [if_neg (mt eq_top_of_trunk_slashes root), dropTrailingSlashes_trunk_slash, stem,
        if_neg root]
  rw [parent, unifySlashes_text]
  rcases a.eq_top_or_below with ⟨drive, rfl⟩ | ⟨b, s, rfl⟩
  · rw [text_top, throughLastSlash_append (s := []) (List.not_mem_nil)]
    exact cut (top drive)
  · rw [text_below, trunk_below_one, throughLastSlash_append s.2.2.2.2.1, up_below]
    exact cut b

theorem lastSegment_text (a : Address) : lastSegment a.text = a.name := by
  rw [lastSegment, unifySlashes_text]
  rcases a.eq_top_or_below with ⟨drive, rfl⟩ | ⟨b, s, rfl⟩
  · rw [text_top, afterLastSlash_append (s := []) (List.not_mem_nil)]
    rfl
  · rw [text_below, trunk_below_one, afterLastSlash_append s.2.2.2.2.1, name_below]

/-- A drive that has lost its slash stands for its top when a path is taken from there. -/
theorem normalize_bareDrive (d : Drive) (p : List Char) :
    normalize [d.1, ':'] p = normalize (top (some d)).text p := by
  have letter : d.1 ≠ '/' ∧ d.1 ≠ '\\' :=
    ⟨Drive.ne_of_not_isAlpha d (by decide), Drive.ne_of_not_isAlpha d (by decide)⟩
  have same : unifySlashes [d.1, ':'] = [d.1, ':'] := by
    rw [unifySlashes, map_unifySeparator (by simp [letter.2.symm]), collapse_cons_of_ne letter.1,
      collapse_cons_of_ne (by decide)]
    rfl
  rw [PathChars.normalize, PathChars.normalize, isAbsolute_unifySlashes, unifySlashes_text, same]
  cases hp : isAbsolute p with
  | true => rfl
  | false =>
    have hr := isRooted_unifySlashes hp
    have joined : join [d.1, ':'] (unifySlashes p) = join (top (some d)).text (unifySlashes p) := by
      change _ = join [d.1, ':', '/'] (unifySlashes p)
      simp [join, hr]
    simp only [Bool.false_eq_true, if_false]
    rw [joined]

/-- A path can be taken from the spelling that `parent` gives as well as from the text. -/
theorem normalize_stem (a : Address) {p : List Char} (nul : NulFree p) :
    normalize a.stem p = (a.resolve p).text := by
  rcases a.eq_top_or_below with ⟨_ | d, rfl⟩ | ⟨b, s, rfl⟩
  · exact normalize_text (top none) nul
  · have bare : (top (some d)).stem = [d.1, ':'] := by
      rw [stem, if_neg (by simp [top])]
      rfl
    rw [bare, normalize_bareDrive]
    exact normalize_text _ nul
  · rw [stem_below, ← text_below]
    exact normalize_text _ nul

/-! ## Shown paths -/

theorem shownFrom_text (base a : Address) :
    PathChars.shownFrom base.text a.text = base.shownFrom a := by
  rw [PathChars.shownFrom, covers_text, shownFrom, isSpelling_text.dropTrailingSlashes]
  by_cases above : base.IsAbove a
  · rw [if_pos above, decide_eq_true above]
    rcases (isAbove_iff base a).mp above with rfl | ⟨s, rest, rfl⟩
    · simp
    · have apart : (base.below (s :: rest)).text ≠ base.text := by
        intro h
        have := congrArg segments (text_injective h)
        simp [below] at this
      have tail : (base.below (s :: rest)).names.drop base.names.length =
          (s :: rest).map Subtype.val := by
        rw [names_below, List.drop_left]
      have text_eq : (base.below (s :: rest)).text =
          base.trunk ++ '/' :: joinWith ['/'] ((s :: rest).map Subtype.val) := by
        rcases isSpelling_text (base.below (s :: rest)) with eq | ⟨topmost, -⟩
        · rw [eq, trunk_below, slash_joinWith (by simp)]
          simp
        · simp [below] at topmost
      simp only [Bool.not_true, Bool.false_eq_true, if_false, apart, tail]
      rw [text_eq, ← List.drop_drop, List.drop_left]
      simp
  · rw [if_neg above, decide_eq_false above]
    rfl

end Address

end ImportBoundary
