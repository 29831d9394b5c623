import ImportBoundary.Display.Markup

/-!
# What emoji are made of

No emoji holds a bracket, a backslash, a colon or a control (`emojiOf_spec`), so putting one into a
text adds nothing to it that markup gives a meaning to; and three emoji have the name of a number
(`emojiOf_number`). Both are read off the one text of all names and emoji.
-/

namespace ImportBoundary.Display

open Text

/-- The characters that markup gives a meaning to. -/
def isSpecial (c : Char) : Bool :=
  c == '[' || c == '\\' || c == ':'

/-- The character is no control. -/
def isVisible (c : Char) : Bool :=
  0x20 ≤ c.toNat

/-- The character may stand in a number. -/
def isNumeral (c : Char) : Bool :=
  isAsciiDigit c || c == '-'

/-- The numbers that are names of emoji. -/
def emojiNumbers : List String :=
  ["100", "1234", "-1"]

/-! ## Words -/

theorem mem_wordsFrom {word cs w : List Char} (h : w ∈ wordsFrom word cs)
    (inside : ∀ c ∈ word, isBlank c = false) {c : Char} (hc : c ∈ w) :
    (c ∈ word ∨ c ∈ cs) ∧ isBlank c = false := by
  induction cs generalizing word with
  | nil =>
    rw [wordsFrom] at h
    split at h
    · cases h
    · obtain rfl := List.mem_singleton.mp h
      have among := List.mem_reverse.mp hc
      exact ⟨.inl among, inside c among⟩
  | cons d cs ih =>
    have onward (h : w ∈ wordsFrom [] cs) : (c ∈ word ∨ c ∈ d :: cs) ∧ isBlank c = false := by
      obtain ⟨among | among, noBlank⟩ := ih h (by simp)
      · cases among
      · exact ⟨.inr (List.mem_cons_of_mem _ among), noBlank⟩
    rw [wordsFrom] at h
    split at h
    · split at h
      · exact onward h
      · rcases List.mem_cons.mp h with rfl | later
        · have among := List.mem_reverse.mp hc
          exact ⟨.inl among, inside c among⟩
        · exact onward later
    · next letter =>
      have longer : ∀ c ∈ d :: word, isBlank c = false :=
        List.forall_mem_cons.mpr ⟨Bool.eq_false_iff.mpr letter, inside⟩
      obtain ⟨among | among, noBlank⟩ := ih h longer
      · rcases List.mem_cons.mp among with same | among
        · exact ⟨.inr (same ▸ List.mem_cons_self ..), noBlank⟩
        · exact ⟨.inl among, noBlank⟩
      · exact ⟨.inr (List.mem_cons_of_mem _ among), noBlank⟩

/-- The words of a text are made of its characters, blanks aside. -/
theorem mem_words {cs w : List Char} (h : w ∈ words cs) {c : Char} (hc : c ∈ w) :
    c ∈ cs ∧ isBlank c = false := by
  obtain ⟨among | among, noBlank⟩ := mem_wordsFrom h (by simp) hc
  · cases among
  · exact ⟨among, noBlank⟩

theorem mem_inPairs {ws : List (List Char)} {name e : String} (h : (name, e) ∈ inPairs ws) :
    name.toList ∈ ws ∧ e.toList ∈ ws := by
  fun_induction inPairs ws with
  | case1 a b rest ih =>
    rcases List.mem_cons.mp h with same | later
    · obtain ⟨rfl, rfl⟩ := Prod.mk.inj same
      simp
    · exact (ih later).imp (fun h => by simp [h]) fun h => by simp [h]
  | case2 => cases h

theorem mem_words_of_emoji {name e : String} (h : emoji? name = some e) :
    name.toList ∈ words emojiText.toList ∧ e.toList ∈ words emojiText.toList := by
  obtain ⟨before, after, split, -⟩ := List.lookup_eq_some_iff.mp h
  exact mem_inPairs (show (name, e) ∈ emojiTable by simp [split])

/-! ## The list of emoji -/

/-- The character means nothing to markup, and is no control but the end of a line. -/
def isOrdinary (c : Char) : Bool :=
  !isSpecial c && (isVisible c || c == '\n')

/-- The word is no number, or one that is the name of an emoji. -/
def isKnown (w : List Char) : Bool :=
  !w.all isNumeral || (emojiNumbers.map String.toList).contains w

/-- What a character is in the list of emoji. -/
inductive CharKind
  | blank
  | numeral
  | other
  | special

def kindOf (c : Char) : CharKind :=
  if !isOrdinary c then .special
  else if isBlank c then .blank
  else if isNumeral c then .numeral
  else .other

/-- Goes through a text once: all its characters are ordinary, and its words are known. The word so far
comes last character first, as long as it may be a number. -/
def scan (number : Option (List Char)) : List Char → Bool
  | [] => number.all fun w => w.isEmpty || isKnown w.reverse
  | c :: cs =>
    match kindOf c with
    | .blank => (number.all fun w => w.isEmpty || isKnown w.reverse) && scan (some []) cs
    | .numeral => scan (number.map (c :: ·)) cs
    | .other => scan none cs
    | .special => false

/-- The word so far, last character first, as long as it may be a number. -/
def numberSoFar (word : List Char) : Option (List Char) :=
  if word.all isNumeral then some word else none

/-- A word that is read to its end is known. -/
theorem isKnown_of_ends {word : List Char} (some_char : word ≠ [])
    (ends : (numberSoFar word).all (fun w => w.isEmpty || isKnown w.reverse) = true) :
    isKnown word.reverse = true := by
  rw [numberSoFar] at ends
  by_cases number : word.all isNumeral = true
  · rwa [if_pos number, Option.all_some, List.isEmpty_eq_false_iff.mpr some_char,
      Bool.false_or] at ends
  · rw [isKnown, List.all_reverse, Bool.eq_false_iff.mpr number]
    rfl

/-- Within a word the number goes on with a numeral, and with any other character there is none. -/
theorem scan_numberSoFar_cons {c : Char} {cs word : List Char} (ordinary : isOrdinary c = true)
    (letter : isBlank c = false) :
    scan (numberSoFar word) (c :: cs) = scan (numberSoFar (c :: word)) cs := by
  cases numeral : isNumeral c with
  | true =>
    have kind : kindOf c = .numeral := by simp [kindOf, ordinary, letter, numeral]
    have longer : numberSoFar (c :: word) = (numberSoFar word).map (c :: ·) := by
      by_cases number : word.all isNumeral = true <;> simp [numberSoFar, numeral, number]
    rw [scan, kind, longer]
  | false =>
    have kind : kindOf c = .other := by simp [kindOf, ordinary, letter, numeral]
    have none : numberSoFar (c :: word) = none := by simp [numberSoFar, numeral]
    rw [scan, kind, none]

theorem scan_spec {cs word : List Char} (ok : scan (numberSoFar word) cs = true) :
    (∀ c ∈ cs, isOrdinary c = true) ∧ ∀ w ∈ wordsFrom word cs, isKnown w = true := by
  induction cs generalizing word with
  | nil =>
    refine ⟨by simp, ?_⟩
    intro w mem
    rw [wordsFrom] at mem
    split at mem
    · cases mem
    · next some_char =>
      rw [List.mem_singleton.mp mem]
      exact isKnown_of_ends (mt List.isEmpty_iff.mpr some_char) ok
  | cons c cs ih =>
    rw [wordsFrom, List.forall_mem_cons]
    by_cases ordinary : isOrdinary c = true
    · cases blank : isBlank c with
      | true =>
        have kind : kindOf c = .blank := by simp [kindOf, ordinary, blank]
        rw [scan, kind] at ok
        obtain ⟨ends, rest⟩ := Bool.and_eq_true_iff.mp ok
        obtain ⟨others, known⟩ := @ih [] rest
        refine ⟨⟨ordinary, others⟩, ?_⟩
        rw [if_pos rfl]
        split
        · exact known
        · next some_char =>
          exact List.forall_mem_cons.mpr
            ⟨isKnown_of_ends (mt List.isEmpty_iff.mpr some_char) ends, known⟩
      | false =>
        rw [scan_numberSoFar_cons ordinary blank] at ok
        obtain ⟨others, known⟩ := ih ok
        exact ⟨⟨ordinary, others⟩, known⟩
    · have kind : kindOf c = .special := by simp [kindOf, ordinary]
      rw [scan, kind] at ok
      cases ok

/-- A text that is written out is read off its characters, without going through its bytes. -/
theorem scan_of_eq {s : String} (cs : List Char) (written : s = String.ofList cs)
    (ok : scan (some []) cs = true) : scan (some []) s.toList = true := by
  rwa [written, String.toList_ofList]

set_option maxRecDepth 200000 in
theorem scan_emojiText : scan (some []) emojiText.toList = true := by
  unfold emojiText
  exact scan_of_eq _ (by with_reducible rfl) (by decide +kernel)

theorem emoji_spec {name e : String} (h : emoji? name = some e) :
    ∀ c ∈ e.toList, isSpecial c = false ∧ isVisible c = true := by
  intro c hc
  obtain ⟨among, noBlank⟩ := mem_words (mem_words_of_emoji h).2 hc
  have ordinary := (@scan_spec _ [] scan_emojiText).1 c among
  obtain ⟨notSpecial, shown⟩ := Bool.and_eq_true_iff.mp ordinary
  refine ⟨by simpa using notSpecial, ?_⟩
  rcases Bool.or_eq_true_iff.mp shown with visible | newline
  · exact visible
  · rw [eq_of_beq newline] at noBlank
    exact absurd noBlank (by decide)

theorem emoji_number {name e : String} (h : emoji? name = some e)
    (number : ∀ c ∈ name.toList, isNumeral c = true) : name ∈ emojiNumbers := by
  have word := (@scan_spec _ [] scan_emojiText).2 _ (mem_words_of_emoji h).1
  simpa [isKnown, List.all_eq_true.mpr number, String.toList_inj] using word

namespace Markup

/-- An emoji is made of characters that are shown as they are. -/
theorem emojiOf_spec {name e : List Char} (h : emojiOf? name = some e) :
    ∀ c ∈ e, isSpecial c = false ∧ isVisible c = true := by
  intro c hc
  simp only [emojiOf?, Option.map_eq_some_iff] at h
  obtain ⟨emoji, found, rfl⟩ := h
  rcases List.mem_append.mp hc with inside | variant
  · exact emoji_spec found c inside
  · revert variant
    unfold splitVariant
    simp only
    split
    · intro variant
      obtain rfl := List.mem_singleton.mp variant
      decide
    · split
      · intro variant
        obtain rfl := List.mem_singleton.mp variant
        decide
      · intro none
        cases none

theorem toNat_lt_of_isNumeral {c : Char} (h : isNumeral c = true) : c.toNat < 0x41 := by
  simp only [isNumeral, isAsciiDigit, Bool.or_eq_true, Bool.and_eq_true, decide_eq_true_eq,
    beq_iff_eq] at h
  rcases h with ⟨-, digit⟩ | rfl
  · exact Nat.lt_of_le_of_lt (UInt32.le_iff_toNat_le.mp digit) (by decide)
  · decide

theorem lowered_number {name : List Char} (number : ∀ c ∈ name, isNumeral c = true) :
    Style.lowered name = name := by
  refine (List.map_congr_left fun c hc => ?_).trans (List.map_id name)
  have small := toNat_lt_of_isNumeral (number c hc)
  have same : toLower c.toNat = c.toNat := by
    rw [toLower, if_pos (by omega), if_neg (by simp; omega)]
  rw [same, Char.ofNat_toNat, id]

theorem splitVariant_number {name : List Char} (number : ∀ c ∈ name, isNumeral c = true) :
    splitVariant name = (name, []) := by
  have noSuffix {suffix : String} {c : Char} (letter : isNumeral c = false)
      (inside : c ∈ suffix.toList) : ¬ suffix.toList.isSuffixOf name = true := by
    intro ends
    have numeral := number c ((List.isSuffixOf_iff_suffix.mp ends).subset inside)
    rw [letter] at numeral
    cases numeral
  rw [splitVariant]
  simp only
  rw [if_neg (noSuffix (c := 'e') (by decide) (by decide)),
    if_neg (noSuffix (c := 'e') (by decide) (by decide))]

/-- Numbers are names of emoji in three cases only. -/
theorem emojiOf_number {name e : List Char} (h : emojiOf? name = some e)
    (number : ∀ c ∈ name, isNumeral c = true) : String.ofList name ∈ emojiNumbers := by
  simp only [emojiOf?, splitVariant_number number, lowered_number number,
    Option.map_eq_some_iff] at h
  obtain ⟨emoji, found, -⟩ := h
  refine emoji_number found fun c hc => number c ?_
  rwa [String.toList_ofList] at hc

end Markup

end ImportBoundary.Display
