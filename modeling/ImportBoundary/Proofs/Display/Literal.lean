import ImportBoundary.Proofs.Display.Emoji
import ImportBoundary.Proofs.Display.Markup
import Mathlib.Data.List.TakeWhile

/-!
# Markup that is shown as it is written

A text is literal if markup finds nothing in it: no tag, no backslash before a bracket, and no name of
an emoji between colons. Such a text is shown character for character, and no other one is
(`plain_eq_self_iff`). Whatever markup does to a text takes brackets, backslashes or colons out of it and
puts none in, so their number tells a text from what is shown of it (`plain_cases`).
-/

namespace ImportBoundary.Display.Markup

open Text

/-! ## Definition -/

/-- A tag stands in the text: it begins as a tag does and ends at the first bracket. -/
def HasTag (cs : List Char) : Prop :=
  ∃ before body after, cs = before ++ '[' :: (body ++ ']' :: after) ∧
    (∃ c ∈ body.head?, startsTag c = true) ∧ '[' ∉ body ∧ ']' ∉ body

/-- A backslash stands before an opening bracket. -/
def HasEscape (cs : List Char) : Prop :=
  ['\\', '['] <:+: cs

/-- An emoji is named between colons. The colons are taken in pairs from the left, and one from which
a blank is reached before the next colon stands alone. -/
inductive HasCode : List Char → Prop
  | here {cs name rest} (between : untilColon? cs = some (name, rest))
      (emoji : (emojiOf? name).isSome = true) : HasCode (':' :: cs)
  | later {cs name rest} (between : untilColon? cs = some (name, rest)) (code : HasCode rest) :
      HasCode (':' :: cs)
  | alone {cs} (single : untilColon? cs = none) (code : HasCode cs) : HasCode (':' :: cs)
  | skip {c cs} (other : c ≠ ':') (code : HasCode cs) : HasCode (c :: cs)

/-- Markup finds nothing in the text. -/
structure IsLiteral (cs : List Char) : Prop where
  noTag : ¬ HasTag cs
  noEscape : ¬ HasEscape cs
  noCode : ¬ HasCode cs

/-- How many characters of a text mean something to markup. -/
def weight (cs : List Char) : Nat :=
  cs.countP isSpecial

@[simp] theorem weight_nil : weight [] = 0 := rfl

theorem weight_append (cs ds : List Char) : weight (cs ++ ds) = weight cs + weight ds :=
  List.countP_append

theorem weight_cons (c : Char) (cs : List Char) :
    weight (c :: cs) = weight cs + if isSpecial c then 1 else 0 :=
  List.countP_cons

theorem weight_special {c : Char} (h : isSpecial c = true) (cs : List Char) :
    weight (c :: cs) = weight cs + 1 := by
  rw [weight_cons, if_pos h]

theorem weight_eq_zero {cs : List Char} (h : ∀ c ∈ cs, isSpecial c = false) : weight cs = 0 := by
  rw [weight, List.countP_eq_zero]
  intro c hc
  rw [h c hc]
  exact Bool.false_ne_true

theorem not_mem_of_weight_eq_zero {cs : List Char} (none : weight cs = 0) {c : Char}
    (special : isSpecial c = true) : c ∉ cs :=
  fun h => List.countP_eq_zero.mp none c h special

theorem not_hasCode_of_noColon {cs : List Char} (noColon : ':' ∉ cs) : ¬ HasCode cs := by
  intro code
  induction code with
  | here | later | alone => exact noColon List.mem_cons_self
  | skip _ _ ih => exact ih fun h => noColon (List.mem_cons_of_mem _ h)

/-- Without brackets and emoji there is nothing for markup to find. -/
theorem isLiteral_of_noBracket {cs : List Char} (noBracket : '[' ∉ cs) (noCode : ¬ HasCode cs) :
    IsLiteral cs where
  noTag := by
    rintro ⟨before, body, after, rfl, -⟩
    exact noBracket (by simp)
  noEscape escape := noBracket (escape.subset (by simp))
  noCode := noCode

/-- A text without brackets, backslashes and colons means nothing to markup. -/
theorem isLiteral_of_weight_eq_zero {cs : List Char} (none : weight cs = 0) : IsLiteral cs :=
  isLiteral_of_noBracket (not_mem_of_weight_eq_zero none rfl)
    (not_hasCode_of_noColon (not_mem_of_weight_eq_zero none rfl))

theorem weight_le_of_sublist {cs ds : List Char} (h : cs.Sublist ds) : weight cs ≤ weight ds :=
  h.countP_le

/-- What becomes of a text in which something is looked for: the text itself if it is not there, and
otherwise one that means less to markup. -/
def Spares (found : Prop) (out cs : List Char) : Prop :=
  (¬ found ∧ out = cs) ∨ (found ∧ weight out < weight cs)

namespace Spares

variable {found found' : Prop} {out cs : List Char}

theorem le (h : Spares found out cs) : weight out ≤ weight cs := by
  rcases h with ⟨-, rfl⟩ | ⟨-, less⟩
  · exact Nat.le_refl _
  · exact Nat.le_of_lt less

theorem append_left (h : Spares found out cs) (before : List Char) :
    Spares found (before ++ out) (before ++ cs) := by
  rcases h with ⟨none, rfl⟩ | ⟨some, less⟩
  · exact .inl ⟨none, rfl⟩
  · refine .inr ⟨some, ?_⟩
    rw [weight_append, weight_append]
    exact Nat.add_lt_add_left less _

theorem eq (h : Spares found out cs) (none : ¬ found) : out = cs := by
  rcases h with ⟨-, same⟩ | ⟨some, -⟩
  · exact same
  · exact absurd some none

theorem of_iff (h : Spares found out cs) (same : found' ↔ found) : Spares found' out cs := by
  rwa [Spares, same]

end Spares

/-! ## Emoji -/

theorem untilColon_spec {cs name rest : List Char} (h : untilColon? cs = some (name, rest)) :
    cs = name ++ ':' :: rest := by
  unfold untilColon? at h
  simp only at h
  split at h
  · next after eq =>
    cases h
    rw [← eq]
    exact (List.prefix_iff_eq_append.mp (List.takeWhile_prefix _)).symm
  · cases h

theorem untilColon_kept {cs name rest : List Char} (h : untilColon? cs = some (name, rest)) :
    (':' :: name ++ [':']) ++ rest = ':' :: cs := by
  rw [untilColon_spec h]
  simp

theorem not_hasCode_nil : ¬ HasCode [] := nofun

theorem hasCode_skip {c : Char} {cs : List Char} (other : c ≠ ':') :
    HasCode (c :: cs) ↔ HasCode cs := by
  refine ⟨fun code => ?_, .skip other⟩
  cases code with
  | skip _ code => exact code
  | _ => exact absurd rfl other

theorem hasCode_alone {cs : List Char} (single : untilColon? cs = none) :
    HasCode (':' :: cs) ↔ HasCode cs := by
  refine ⟨fun code => ?_, .alone single⟩
  cases code with
  | here between | later between => simp [single] at between
  | alone _ code => exact code
  | skip other => exact absurd rfl other

theorem hasCode_between {cs name rest : List Char} (between : untilColon? cs = some (name, rest)) :
    HasCode (':' :: cs) ↔ (emojiOf? name).isSome = true ∨ HasCode rest := by
  constructor
  · intro code
    cases code with
    | here found emoji =>
      rw [between] at found
      cases found
      exact .inl emoji
    | later found code =>
      rw [between] at found
      cases found
      exact .inr code
    | alone single => simp [between] at single
    | skip other => exact absurd rfl other
  · rintro (emoji | code)
    · exact .here between emoji
    · exact .later between code

theorem hasCode_append {before cs : List Char} (noColon : ':' ∉ before) :
    HasCode (before ++ cs) ↔ HasCode cs := by
  induction before with
  | nil => rfl
  | cons c before ih =>
    rw [List.mem_cons, not_or] at noColon
    rw [List.cons_append, hasCode_skip (Ne.symm noColon.1), ih noColon.2]

/-- An emoji that is put in takes two colons out. -/
theorem weight_emoji_lt {name e : List Char} (emoji : emojiOf? name = some e) :
    weight e < weight (':' :: name ++ [':']) := by
  have weightless : weight e = 0 := weight_eq_zero fun c hc => (emojiOf_spec emoji c hc).1
  rw [weightless, List.cons_append, weight_special rfl]
  exact Nat.succ_pos _

theorem spares_replaceEmojiIn {fuel : Nat} {cs : List Char} (enough : cs.length ≤ fuel) :
    Spares (HasCode cs) (replaceEmojiIn fuel cs) cs := by
  induction fuel generalizing cs with
  | zero =>
    obtain rfl := List.eq_nil_of_length_eq_zero (Nat.le_zero.mp enough)
    exact .inl ⟨not_hasCode_nil, rfl⟩
  | succ fuel ih =>
    cases cs with
    | nil => exact .inl ⟨not_hasCode_nil, rfl⟩
    | cons c cs =>
      rw [List.length_cons] at enough
      rw [replaceEmojiIn]
      have kept := (ih (Nat.le_of_succ_le_succ enough)).append_left [c]
      by_cases colon : c = ':'
      · subst colon
        rw [if_pos rfl]
        cases between : untilColon? cs with
        | none => exact kept.of_iff (hasCode_alone between)
        | some found =>
          obtain ⟨name, rest⟩ := found
          have shorter : rest.length < cs.length := by
            rw [untilColon_spec between, List.length_append, List.length_cons]
            omega
          have later := ih (show rest.length ≤ fuel by omega)
          have whole := untilColon_kept between
          rw [hasCode_between between]
          dsimp only
          cases emoji : emojiOf? name with
          | some e =>
            have less := weight_emoji_lt emoji
            have le := later.le
            refine .inr ⟨.inl rfl, ?_⟩
            rw [Option.getD_some, ← whole, weight_append, weight_append (':' :: name ++ [':'])]
            omega
          | none =>
            rw [Option.getD_none, ← whole]
            exact (later.append_left _).of_iff (by simp)
      · rw [if_neg colon]
        exact kept.of_iff (hasCode_skip colon)

theorem spares_replaceEmoji (cs : List Char) : Spares (HasCode cs) (replaceEmoji cs) cs :=
  spares_replaceEmojiIn (Nat.le_refl _)

/-- What is put into a text is an emoji. -/
theorem mem_replaceEmojiIn {fuel : Nat} {cs : List Char} {c : Char}
    (h : c ∈ replaceEmojiIn fuel cs) : c ∈ cs ∨ isVisible c = true := by
  fun_induction replaceEmojiIn fuel cs with
  | case1 => exact .inl h
  | case2 => exact .inl h
  | case3 fuel cs name rest between ih =>
    have kept := untilColon_kept between
    rcases List.mem_append.mp h with replaced | later
    · revert replaced
      cases emoji : emojiOf? name with
      | some e =>
        intro replaced
        exact .inr (emojiOf_spec emoji c replaced).2
      | none =>
        intro replaced
        exact .inl (kept ▸ List.mem_append_left rest replaced)
    · exact (ih later).imp_left fun among => kept ▸ List.mem_append_right _ among
  | case4 fuel cs single ih =>
    rcases List.mem_cons.mp h with rfl | later
    · exact .inl List.mem_cons_self
    · exact (ih later).imp_left (List.mem_cons_of_mem _)
  | case5 fuel c' cs other ih =>
    rcases List.mem_cons.mp h with rfl | later
    · exact .inl List.mem_cons_self
    · exact (ih later).imp_left (List.mem_cons_of_mem _)

theorem mem_replaceEmoji {cs : List Char} {c : Char} (h : c ∈ replaceEmoji cs) :
    c ∈ cs ∨ isVisible c = true :=
  mem_replaceEmojiIn h

/-! ## Escapes -/

theorem unescape_sublist (cs : List Char) : (unescape cs).Sublist cs := by
  fun_induction unescape cs with
  | case1 cs ih => exact (ih.cons_cons '[').cons '\\'
  | case2 c cs other ih => exact ih.cons_cons c
  | case3 => exact .slnil

/-- A backslash before a bracket is left out. -/
theorem spares_unescape (cs : List Char) : Spares (HasEscape cs) (unescape cs) cs := by
  fun_induction unescape cs with
  | case1 cs ih =>
    have le := weight_le_of_sublist (unescape_sublist cs)
    refine .inr ⟨⟨[], cs, rfl⟩, ?_⟩
    rw [weight_special rfl, weight_special rfl, weight_special rfl]
    omega
  | case2 c cs other ih =>
    have notHere : ¬ ['\\', '['] <+: c :: cs := by
      rintro ⟨rest, eq⟩
      obtain ⟨slash, tail⟩ := List.cons.inj eq
      exact other rest slash.symm tail.symm
    refine (ih.append_left [c]).of_iff ?_
    rw [HasEscape, List.infix_cons_iff]
    exact or_iff_right notHere
  | case3 =>
    refine .inl ⟨?_, rfl⟩
    intro escape
    have length := escape.length_le
    simp at length

/-! ## Tags -/

theorem tagBody_spec {cs body rest : List Char} (h : tagBody? cs = some (body, rest)) :
    cs = body ++ ']' :: rest ∧ (∃ c ∈ body.head?, startsTag c = true) ∧ '[' ∉ body ∧ ']' ∉ body := by
  unfold tagBody? at h
  cases cs with
  | nil => cases h
  | cons c tail =>
    dsimp only at h
    split at h
    · next starts =>
      have notBracket : c ≠ ']' ∧ c ≠ '[' := by
        constructor <;> (rintro rfl; revert starts; decide)
      split at h
      · next after eq =>
        cases h
        refine ⟨?_, ⟨c, ?_, starts⟩, ?_, ?_⟩
        · rw [← eq]
          exact (List.prefix_iff_eq_append.mp (List.takeWhile_prefix _)).symm
        · rw [List.takeWhile_cons_of_pos (by simp [notBracket])]
          rfl
        · intro inside
          simpa using List.mem_takeWhile_imp inside
        · intro inside
          simpa using List.mem_takeWhile_imp inside
      · cases h
    · cases h

/-- A bracket begins a tag if what follows it reads as one. -/
theorem hasTag_bracket {cs : List Char} :
    HasTag ('[' :: cs) ↔ (tagBody? cs).isSome = true ∨ HasTag cs := by
  constructor
  · rintro ⟨before, body, after, eq, ⟨c, first, starts⟩, noOpening, noClosing⟩
    cases before with
    | nil =>
      obtain ⟨-, rfl⟩ := List.cons.inj eq
      cases body with
      | nil => cases first
      | cons d body =>
        obtain rfl : d = c := Option.some.inj first
        rw [tagBody_append d body starts noClosing noOpening after]
        exact .inl rfl
    | cons d before =>
      obtain ⟨-, rfl⟩ := List.cons.inj eq
      exact .inr ⟨before, body, after, rfl, ⟨c, first, starts⟩, noOpening, noClosing⟩
  · rintro (tag | ⟨before, body, after, rfl, shape⟩)
    · obtain ⟨⟨body, after⟩, found⟩ := Option.isSome_iff_exists.mp tag
      obtain ⟨split, shape⟩ := tagBody_spec found
      exact ⟨[], body, after, by rw [split]; rfl, shape⟩
    · exact ⟨'[' :: before, body, after, rfl, shape⟩

theorem hasTag_append {before cs : List Char} (noBracket : '[' ∉ before) :
    HasTag (before ++ cs) ↔ HasTag cs := by
  induction before with
  | nil => rfl
  | cons d before ih =>
    rw [List.mem_cons, not_or] at noBracket
    rw [← ih noBracket.2]
    constructor
    · rintro ⟨first, body, after, eq, shape⟩
      cases first with
      | nil => exact absurd (List.cons.inj eq).1.symm noBracket.1
      | cons e first => exact ⟨first, body, after, (List.cons.inj eq).2, shape⟩
    · rintro ⟨first, body, after, eq, shape⟩
      exact ⟨d :: first, body, after, congrArg (d :: ·) eq, shape⟩

theorem not_hasTag_nil : ¬ HasTag [] := by
  rintro ⟨before, body, after, eq, -⟩
  simp at eq

/-- The text of a piece. -/
def Piece.chars : Piece → List Char
  | .text cs => cs
  | .tag .. => []

/-- The texts of some pieces. -/
def charsOf (ps : List Piece) : List Char :=
  ps.flatMap Piece.chars

theorem charsOf_append (ps qs : List Piece) : charsOf (ps ++ qs) = charsOf ps ++ charsOf qs :=
  List.flatMap_append

theorem charsOf_textPiece (cs : List Char) : charsOf (textPiece cs) = cs := by
  cases cs <;> simp [textPiece, charsOf, Piece.chars]

theorem charsOf_text_cons (cs : List Char) (ps : List Piece) :
    charsOf (.text cs :: ps) = cs ++ charsOf ps := rfl

theorem charsOf_tag_cons (position : Nat) (tag : Tag) (ps : List Piece) :
    charsOf (.tag position tag :: ps) = charsOf ps := rfl

/-- A text begins with a number of backslashes. -/
theorem takeWhile_backslash (cs : List Char) :
    cs.takeWhile (· = '\\') = List.replicate (cs.takeWhile (· = '\\')).length '\\' ∧
      cs.takeWhile (· = '\\') ++ cs.drop (cs.takeWhile (· = '\\')).length = cs := by
  constructor
  · exact List.eq_replicate_of_mem fun c hc => by simpa using List.mem_takeWhile_imp hc
  · exact List.prefix_iff_eq_append.mp (List.takeWhile_prefix _)

theorem weight_backslashes (n : Nat) : weight (List.replicate n '\\') = n := by
  simp [weight, List.countP_replicate, isSpecial]

/-- A text lacks some of another, and at least one character that means something to markup. -/
structure Loses (out cs : List Char) : Prop where
  sublist : out.Sublist cs
  lighter : weight out < weight cs

theorem Loses.append_left {out cs : List Char} (h : Loses out cs) (before : List Char) :
    Loses (before ++ out) (before ++ cs) := by
  refine ⟨h.sublist.append_left before, ?_⟩
  rw [weight_append, weight_append]
  exact Nat.add_lt_add_left h.lighter _

/-- A tag is left out, and half of the backslashes before it. -/
theorem loses_tag {n : Nat} {body rest out : List Char} (later : out.Sublist rest) :
    Loses (List.replicate (n / 2) '\\' ++ out)
      (List.replicate n '\\' ++ '[' :: (body ++ ']' :: rest)) where
  sublist :=
    ((List.replicate_sublist_replicate _).mpr (Nat.div_le_self n 2)).append
      ((List.sublist_append_of_sublist_right (later.cons ']')).cons '[')
  lighter := by
    have le := weight_le_of_sublist later
    rw [weight_append, weight_append, weight_special rfl, weight_append, weight_cons ']',
      weight_backslashes, weight_backslashes]
    omega

/-- A tag after an odd number of backslashes is text, and more than half of them are left out. -/
theorem loses_escapedTag {n : Nat} {body rest out : List Char} (odd : n % 2 = 1)
    (later : out.Sublist rest) :
    Loses (List.replicate (n / 2) '\\' ++ ('[' :: body ++ [']'] ++ out))
      (List.replicate n '\\' ++ '[' :: (body ++ ']' :: rest)) where
  sublist := by
    refine ((List.replicate_sublist_replicate _).mpr (Nat.div_le_self n 2)).append ?_
    rw [List.append_assoc]
    exact ((later.cons_cons ']').append_left body).cons_cons '['
  lighter := by
    have le := weight_le_of_sublist later
    rw [List.append_assoc, List.singleton_append, List.cons_append, weight_append, weight_append,
      weight_special rfl, weight_append, weight_cons ']', weight_special rfl, weight_append,
      weight_cons ']', weight_backslashes, weight_backslashes]
    omega

/-- The pieces come of a text after some characters that are shown already: they are one text if it
has no tag, and otherwise they lack some of it. -/
def Reads (shown cs : List Char) (ps : List Piece) : Prop :=
  (¬ HasTag cs ∧ ps = textPiece (shown.reverse ++ cs)) ∨
    (HasTag cs ∧ Loses (charsOf ps) (shown.reverse ++ cs))

namespace Reads

variable {shown : List Char}

theorem sublist {cs : List Char} {ps : List Piece} (h : Reads shown cs ps) :
    (charsOf ps).Sublist (shown.reverse ++ cs) := by
  rcases h with ⟨-, rfl⟩ | ⟨-, loses⟩
  · have same := charsOf_textPiece (shown.reverse ++ cs)
    exact same.symm ▸ List.Sublist.refl _
  · exact loses.sublist

/-- Characters before a text that are no part of a tag can be shown already. -/
theorem moved (before : List Char) {rest : List Char} {ps : List Piece}
    (h : Reads (before.reverse ++ shown) rest ps) (same : HasTag (before ++ rest) ↔ HasTag rest) :
    Reads shown (before ++ rest) ps := by
  rwa [Reads, List.reverse_append, List.reverse_reverse, List.append_assoc, ← same] at h

/-- Backslashes and a tag, which is text if their number is odd. -/
theorem tagged {n position : Nat} {after body rest : List Char} {ps : List Piece}
    (tag : tagBody? after = some (body, rest)) (later : (charsOf ps).Sublist rest) :
    Reads shown (List.replicate n '\\' ++ '[' :: after)
      (if n % 2 = 1 then
        textPiece shown.reverse ++ textPiece (List.replicate (n / 2) '\\') ++
          .text ('[' :: body ++ [']']) :: ps
      else
        textPiece shown.reverse ++ textPiece (List.replicate (n / 2) '\\') ++
          .tag position (tagOf body) :: ps) := by
  have noBracket : '[' ∉ List.replicate n '\\' := by simp [List.mem_replicate]
  refine .inr ⟨(hasTag_append noBracket).mpr (hasTag_bracket.mpr (.inl (by rw [tag]; rfl))), ?_⟩
  rw [(tagBody_spec tag).1]
  split
  · next odd =>
    rw [charsOf_append, charsOf_append, charsOf_textPiece, charsOf_textPiece, charsOf_text_cons,
      List.append_assoc]
    exact (loses_escapedTag odd later).append_left _
  · rw [charsOf_append, charsOf_append, charsOf_textPiece, charsOf_textPiece, charsOf_tag_cons,
      List.append_assoc]
    exact (loses_tag later).append_left _

end Reads

theorem reads_piecesFrom {position : Nat} {shown : List Char} {fuel : Nat} {cs : List Char}
    (enough : cs.length < fuel) : Reads shown cs (piecesFrom position shown fuel cs) := by
  induction fuel generalizing position shown cs with
  | zero => omega
  | succ fuel ih =>
    cases cs with
    | nil => exact .inl ⟨not_hasTag_nil, by rw [List.append_nil]; rfl⟩
    | cons c cs =>
      rw [piecesFrom]
      obtain ⟨written, whole⟩ := takeWhile_backslash (c :: cs)
      revert written whole
      generalize (c :: cs).takeWhile (· = '\\') = slashes
      generalize slashes.length = n
      generalize (c :: cs).drop n = tail
      rintro rfl whole
      have length := congrArg List.length whole
      simp only [List.length_append, List.length_replicate, List.length_cons] at length enough
      have noBracket : '[' ∉ List.replicate n '\\' := by simp [List.mem_replicate]
      dsimp only
      split
      · next after =>
        rw [List.length_cons] at length
        rw [← whole]
        cases tag : tagBody? after with
        | some found =>
          have shorter := length_tagBody tag
          have later : Reads [] found.2
              (piecesFrom (position + n + found.1.length + 2) [] fuel found.2) := ih (by omega)
          exact .tagged tag later.sublist
        | none =>
          have same : HasTag ((List.replicate n '\\' ++ ['[']) ++ after) ↔ HasTag after := by
            rw [List.append_assoc, hasTag_append noBracket, List.singleton_append, hasTag_bracket, tag]
            simp
          have later : Reads ((List.replicate n '\\' ++ ['[']).reverse ++ shown) after
              (piecesFrom (position + n + 1) ('[' :: List.replicate n '\\' ++ shown) fuel after) := by
            rw [List.reverse_append, List.reverse_replicate]
            exact ih (by omega)
          have moved := later.moved _ same
          rwa [List.append_assoc] at moved
      · next other =>
        split
        · next zero =>
          subst zero
          obtain rfl : tail = c :: cs := whole
          have bracket : c ≠ '[' := fun h => other cs (by rw [h])
          exact .moved [c] (ih (by omega)) (hasTag_append (by simpa using Ne.symm bracket))
        · have later : Reads ((List.replicate n '\\').reverse ++ shown) tail
              (piecesFrom (position + n) (List.replicate n '\\' ++ shown) fuel tail) := by
            rw [List.reverse_replicate]
            exact ih (by omega)
          have moved := later.moved _ (hasTag_append noBracket)
          rwa [whole] at moved

/-! ## What is shown -/

/-- What is shown of some pieces is in their text, emoji apart, and means no more to markup. -/
theorem plainFrom_spec {tags : List (List Char)} {ps : List Piece} {out : List Char}
    (h : plainFrom tags ps = .ok out) :
    weight out ≤ weight (charsOf ps) ∧ ∀ c ∈ out, c ∈ charsOf ps ∨ isVisible c = true := by
  induction ps generalizing tags out with
  | nil =>
    cases h
    exact ⟨Nat.le_refl _, by simp⟩
  | cons p ps ih =>
    cases p with
    | text chars =>
      rw [plainFrom] at h
      cases rest : plainFrom tags ps with
      | error fault =>
        rw [rest] at h
        cases h
      | ok later =>
        rw [rest] at h
        cases h
        obtain ⟨le, among⟩ := ih rest
        rw [charsOf_text_cons]
        constructor
        · have emoji := (spares_replaceEmoji (unescape chars)).le
          have escapes := weight_le_of_sublist (unescape_sublist chars)
          rw [weight_append, weight_append]
          omega
        · intro c hc
          rcases List.mem_append.mp hc with first | rest
          · exact (mem_replaceEmoji first).imp_left fun h =>
              List.mem_append_left _ ((unescape_sublist chars).subset h)
          · exact (among c rest).imp_left (List.mem_append_right _)
    | tag position tag =>
      rw [plainFrom] at h
      cases opened : openTags tags position tag with
      | error fault =>
        rw [opened] at h
        cases h
      | ok tags =>
        rw [opened] at h
        exact ih h

theorem reads_pieces (cs : List Char) : Reads [] cs (pieces cs) :=
  reads_piecesFrom (Nat.lt_succ_self _)

theorem plain_of_not_hasTag {cs : List Char} (none : ¬ HasTag cs) :
    plain cs = .ok (replaceEmoji (unescape cs)) := by
  rcases reads_pieces cs with ⟨-, same⟩ | ⟨tag, -⟩
  · rw [plain, same]
    cases cs with
    | nil => rfl
    | cons c cs => exact congrArg Except.ok (List.append_nil _)
  · exact absurd tag none

/-- A text in which markup finds nothing is shown as it is written. -/
theorem plain_of_isLiteral {cs : List Char} (h : IsLiteral cs) : plain cs = .ok cs := by
  rw [plain_of_not_hasTag h.noTag, (spares_unescape cs).eq h.noEscape,
    (spares_replaceEmoji cs).eq h.noCode]

/-- What markup finds in a text, it takes out. -/
theorem plain_cases {cs out : List Char} (h : plain cs = .ok out) :
    (IsLiteral cs ∧ out = cs) ∨ weight out < weight cs := by
  rcases reads_pieces cs with ⟨noTag, -⟩ | ⟨-, loses⟩
  · rw [plain_of_not_hasTag noTag] at h
    cases h
    rcases spares_unescape cs with ⟨noEscape, unescaped⟩ | ⟨-, less⟩
    · rw [unescaped]
      rcases spares_replaceEmoji cs with ⟨noCode, same⟩ | ⟨-, less⟩
      · exact .inl ⟨⟨noTag, noEscape, noCode⟩, same⟩
      · exact .inr less
    · exact .inr (Nat.lt_of_le_of_lt (spares_replaceEmoji _).le less)
  · exact .inr (Nat.lt_of_le_of_lt (plainFrom_spec h).1 loses.lighter)

theorem plain_eq_self_iff {cs : List Char} : plain cs = .ok cs ↔ IsLiteral cs := by
  refine ⟨fun h => ?_, plain_of_isLiteral⟩
  rcases plain_cases h with ⟨literal, -⟩ | less
  · exact literal
  · exact absurd less (Nat.lt_irrefl _)

/-- Markup shows no control that is not in the text. -/
theorem plain_visible {cs out : List Char} (h : plain cs = .ok out)
    (visible : ∀ c ∈ cs, isVisible c = true) : ∀ c ∈ out, isVisible c = true := by
  intro c hc
  rcases (plainFrom_spec h).2 c hc with inside | shown
  · exact visible c ((reads_pieces cs).sublist.subset inside)
  · exact shown

/-! ## Numbers between colons -/

theorem untilColon_append {name : List Char} (rest : List Char)
    (single : ∀ c ∈ name, c ≠ ':' ∧ isBlank c = false) :
    untilColon? (name ++ ':' :: rest) = some (name, rest) := by
  have taken : (name ++ ':' :: rest).takeWhile (fun c => c ≠ ':' && !isBlank c) = name := by
    rw [List.takeWhile_append_of_pos]
    · simp
    · intro c hc
      simp [single c hc]
  rw [untilColon?, taken]
  simp only [List.drop_left]

theorem isSpecial_of_isNumeral {c : Char} (h : isNumeral c = true) : isSpecial c = false := by
  refine Bool.eq_false_iff.mpr fun special => ?_
  simp only [isSpecial, Bool.or_eq_true, beq_iff_eq] at special
  rcases special with (rfl | rfl) | rfl <;> exact absurd h (by decide)

theorem isBlank_of_isNumeral {c : Char} (h : isNumeral c = true) : isBlank c = false := by
  have all : ∀ n < 58, n = 45 ∨ 48 ≤ n → blankClass.contains n = false := by decide
  simp only [isNumeral, isAsciiDigit, Bool.or_eq_true, Bool.and_eq_true, decide_eq_true_eq,
    beq_iff_eq] at h
  rcases h with ⟨low, high⟩ | rfl
  · exact all c.toNat (Nat.lt_succ_of_le (UInt32.le_iff_toNat_le.mp high))
      (.inr (UInt32.le_iff_toNat_le.mp low))
  · decide

theorem not_mem_of_isNumeral {cs : List Char} (number : ∀ c ∈ cs, isNumeral c = true) {c : Char}
    (special : isSpecial c = true) : c ∉ cs :=
  not_mem_of_weight_eq_zero (weight_eq_zero fun c hc => isSpecial_of_isNumeral (number c hc)) special

/-- A name with two numbers after it is literal, unless the first number is the name of an emoji. -/
theorem isLiteral_numbered {name line column : List Char} (ordinary : weight name = 0)
    (first : ∀ c ∈ line, isNumeral c = true) (second : ∀ c ∈ column, isNumeral c = true)
    (noEmoji : String.ofList line ∉ emojiNumbers) :
    IsLiteral (name ++ ':' :: (line ++ ':' :: column)) := by
  refine isLiteral_of_noBracket ?_ fun code => ?_
  · simp [not_mem_of_weight_eq_zero ordinary (c := '[') rfl,
      not_mem_of_isNumeral first (c := '[') rfl, not_mem_of_isNumeral second (c := '[') rfl]
  · have between := untilColon_append column fun c hc =>
      ⟨fun colon => not_mem_of_isNumeral first rfl (colon ▸ hc), isBlank_of_isNumeral (first c hc)⟩
    rw [hasCode_append (not_mem_of_weight_eq_zero ordinary rfl), hasCode_between between] at code
    rcases code with emoji | code
    · obtain ⟨e, named⟩ := Option.isSome_iff_exists.mp emoji
      exact noEmoji (emojiOf_number named first)
    · exact not_hasCode_of_noColon (not_mem_of_isNumeral second rfl) code

end ImportBoundary.Display.Markup
