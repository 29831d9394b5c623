import ImportBoundary.Json.Reader
import ImportBoundary.Json.Writer
import ImportBoundary.Proofs.Text.Digit

/-!
# JSON strings that are read back

However a character is written, in itself, by a letter or by its code, it is read back
(`readString_writeChar`), and so is a whole string (`readString_write`). A string whose text ends
before its quote is not read (`lacks_readString_write`).
-/

namespace ImportBoundary.Json

open Text

variable {opening tail : List Char}

theorem readString_plain {c : Char} (quote : c ≠ '"') (escape : c ≠ '\\') (plain : 0x20 ≤ c.toNat) :
    readString opening (c :: tail) = (readString opening tail).map fun r => (c :: r.1, r.2) := by
  rw [readString]
  · rw [if_neg (by omega)]
  all_goals simp [quote, escape]

theorem readString_letter {letter c : Char} (h : escaped? letter = some c) :
    readString opening ('\\' :: letter :: tail) =
      (readString opening tail).map fun r => (c :: r.1, r.2) := by
  have known : letter ≠ 'u' := by
    rintro rfl
    cases h
  rw [readString]
  · rw [h]
  all_goals simp [known]

theorem readString_code {a b c d : Char} {code : Nat} (h : hexCode? a b c d = some code)
    (whole : isHighSurrogate code = false) (more : tail ≠ []) :
    readString opening ('\\' :: 'u' :: a :: b :: c :: d :: tail) =
      (readString opening tail).map fun r => (charOfCode code :: r.1, r.2) := by
  by_cases paired : ∃ a' b' c' d' rest, tail = '\\' :: 'u' :: a' :: b' :: c' :: d' :: rest
  · obtain ⟨a', b', c', d', rest, rfl⟩ := paired
    rw [readString, h]
    simp only [whole, Bool.false_and, Bool.false_eq_true, if_false]
  · obtain ⟨next, rest, rfl⟩ := List.exists_cons_of_ne_nil more
    rw [readString, h]
    intro a' b' c' d' more slash letter
    exact paired ⟨a', b', c', d', more, by rw [slash, letter]⟩

theorem readString_pair {a b c d a' b' c' d' : Char} {high low : Nat}
    (h : hexCode? a b c d = some high) (h' : hexCode? a' b' c' d' = some low)
    (first : isHighSurrogate high = true) (second : isLowSurrogate low = true) (more : tail ≠ []) :
    readString opening
        ('\\' :: 'u' :: a :: b :: c :: d :: '\\' :: 'u' :: a' :: b' :: c' :: d' :: tail) =
      (readString opening tail).map fun r => (charOfPair high low :: r.1, r.2) := by
  rw [readString, h, h']
  have there : tail.isEmpty = false := by simpa using more
  simp only [first, there, second]
  rfl

/-! ## Codes -/

theorem exists_hexDigits {n : Nat} (h : n < 0x10000) :
    ∃ a b c d, hexDigits 4 n = [a, b, c, d] ∧ hexCode? a b c d = some n := by
  have digit {c : Char} (hc : c ∈ hexDigits 4 n) := exists_radixDigit?_of_mem_hexDigits hc
  have value := valueInBase_hexDigits 4 n
  obtain ⟨a, b, c, d, digits⟩ : ∃ a b c d, hexDigits 4 n = [a, b, c, d] := by
    have length : (hexDigits 4 n).length = 4 := length_hexDigits h (by decide)
    generalize hexDigits 4 n = cs at length
    rcases cs with _ | ⟨a, _ | ⟨b, _ | ⟨c, _ | ⟨d, _ | _⟩⟩⟩⟩ <;> simp at length ⊢
  rw [digits] at digit value
  obtain ⟨da, ha⟩ := digit (c := a) (by simp)
  obtain ⟨db, hb⟩ := digit (c := b) (by simp)
  obtain ⟨dc, hc⟩ := digit (c := c) (by simp)
  obtain ⟨dd, hd⟩ := digit (c := d) (by simp)
  refine ⟨a, b, c, d, digits, ?_⟩
  simp only [valueInBase, List.foldl_cons, List.foldl_nil, ha, hb, hc, hd, Option.getD_some] at value
  simp only [hexCode?, ha, hb, hc, hd, Option.bind_eq_bind, Option.bind_some]
  rw [← value, Nat.zero_mul, Nat.zero_add]
  rfl

theorem charOfCode_toNat (c : Char) : charOfCode c.toNat = c := by
  have valid : c.toNat < 0xD800 ∨ 0xDFFF < c.toNat ∧ c.toNat < 0x110000 := c.valid
  have whole : ¬ (isHighSurrogate c.toNat || isLowSurrogate c.toNat) = true := by
    simp only [isHighSurrogate, isLowSurrogate, Bool.or_eq_true, Bool.and_eq_true, decide_eq_true_eq]
    omega
  rw [charOfCode, if_neg whole, Char.ofNat_toNat]

theorem readString_unicodeEscape (c : Char) (more : tail ≠ []) :
    readString opening (unicodeEscape c ++ tail) =
      (readString opening tail).map fun r => (c :: r.1, r.2) := by
  have valid : c.toNat < 0xD800 ∨ 0xDFFF < c.toNat ∧ c.toNat < 0x110000 := c.valid
  unfold unicodeEscape
  split
  · next basic =>
    obtain ⟨x, y, z, w, digits, code⟩ := exists_hexDigits basic
    have whole : isHighSurrogate c.toNat = false := by
      simp only [isHighSurrogate, Bool.and_eq_false_iff, decide_eq_false_iff_not]
      omega
    rw [digits]
    exact (readString_code code whole more).trans (by rw [charOfCode_toNat])
  · next beyond =>
    obtain ⟨x, y, z, w, digits, code⟩ :=
      exists_hexDigits (n := 0xD800 + (c.toNat - 0x10000) / 0x400) (by omega)
    obtain ⟨x', y', z', w', digits', code'⟩ :=
      exists_hexDigits (n := 0xDC00 + (c.toNat - 0x10000) % 0x400) (by omega)
    have first : isHighSurrogate (0xD800 + (c.toNat - 0x10000) / 0x400) = true := by
      simp only [isHighSurrogate, Bool.and_eq_true, decide_eq_true_eq]
      omega
    have second : isLowSurrogate (0xDC00 + (c.toNat - 0x10000) % 0x400) = true := by
      simp only [isLowSurrogate, Bool.and_eq_true, decide_eq_true_eq]
      omega
    have char : charOfPair (0xD800 + (c.toNat - 0x10000) / 0x400)
        (0xDC00 + (c.toNat - 0x10000) % 0x400) = c := by
      rw [charOfPair, show 0x10000 + (0xD800 + (c.toNat - 0x10000) / 0x400 - 0xD800) * 0x400 +
        (0xDC00 + (c.toNat - 0x10000) % 0x400 - 0xDC00) = c.toNat by omega, Char.ofNat_toNat]
    simp only [digits, digits']
    exact (readString_pair code code' first second more).trans (by rw [char])

/-! ## Characters and strings -/

/-- The three ways in which a character is written: by a letter, in itself, by its code. -/
inductive Written (shows : Alphabet) (c : Char) : List Char → Prop
  | letter {letter : Char} (h : escaped? letter = some c) : Written shows c ['\\', letter]
  | plain (quote : c ≠ '"') (escape : c ≠ '\\') (shown : shows c = true) : Written shows c [c]
  | code : Written shows c (unicodeEscape c)

theorem written_writeChar (shows : Alphabet) (c : Char) : Written shows c (writeChar shows c) := by
  unfold writeChar
  iterate 7
    split
    · next same => subst same; exact .letter rfl
  split
  · next shown => exact .plain ‹_› ‹_› shown
  · exact .code

/-- A visible ASCII character, or a blank. -/
def IsAsciiText (c : Char) : Prop :=
  0x20 ≤ c.toNat ∧ c.toNat < 0x7F

instance (c : Char) : Decidable (IsAsciiText c) :=
  inferInstanceAs (Decidable (_ ∧ _))

theorem isAsciiText_of_mem_hexDigits {width n : Nat} {c : Char} (h : c ∈ hexDigits width n) :
    IsAsciiText c := by
  have digitChar (d : Fin 16) : IsAsciiText (Nat.digitChar d) := by
    revert d
    decide
  rcases List.mem_append.mp h with zero | digit
  · rw [List.eq_of_mem_replicate zero]
    decide
  · obtain ⟨d, less, rfl⟩ := exists_digit_of_mem_toDigits (by decide) digit
    exact digitChar ⟨d, less⟩

theorem isAsciiText_of_mem_unicodeEscape {c d : Char} (h : d ∈ unicodeEscape c) :
    IsAsciiText d := by
  have code (n : Nat) : ∀ d ∈ '\\' :: 'u' :: hexDigits 4 n, IsAsciiText d := by
    simp only [List.forall_mem_cons]
    exact ⟨by decide, by decide, fun _ => isAsciiText_of_mem_hexDigits⟩
  unfold unicodeEscape at h
  split at h
  · exact code _ d h
  · rcases List.mem_append.mp h with high | low
    · exact code _ d high
    · exact code _ d low

/-- A character is written in ASCII, unless it stands for itself. -/
theorem writeChar_cases (shows : Alphabet) (c : Char) :
    (∀ d ∈ writeChar shows c, IsAsciiText d) ∨ writeChar shows c = [c] ∧ shows c = true := by
  have written := written_writeChar shows c
  generalize writeChar shows c = text at written
  cases written with
  | @letter letter known =>
    have visible : IsAsciiText letter := by
      unfold escaped? at known
      split at known <;> first | decide | cases known
    simp only [List.forall_mem_cons]
    exact .inl ⟨by decide, visible, nofun⟩
  | plain quote escape shown => exact .inr ⟨rfl, shown⟩
  | code => exact .inl fun _ => isAsciiText_of_mem_unicodeEscape

variable {shows : Alphabet} (plain : ∀ c, shows c = true → 0x20 ≤ c.toNat)

include plain

theorem readString_writeChar (c : Char) (more : tail ≠ []) :
    readString opening (writeChar shows c ++ tail) =
      (readString opening tail).map fun r => (c :: r.1, r.2) := by
  have written := written_writeChar shows c
  generalize writeChar shows c = text at written
  cases written with
  | letter known => exact readString_letter known
  | plain quote escape shown => exact readString_plain quote escape (plain c shown)
  | code => exact readString_unicodeEscape c more

/-- A string up to its closing quote. -/
theorem readString_write (s rest : List Char) :
    readString opening (s.flatMap (writeChar shows) ++ '"' :: rest) = .ok (s, rest) := by
  induction s with
  | nil => rfl
  | cons c s ih =>
    rw [List.flatMap_cons, List.append_assoc, readString_writeChar plain c (by simp), ih]
    rfl

/-! ## Strings without an end -/

omit plain

/-- Something is missing in the text. -/
def Lacks {α : Type} (r : Except Stop α) : Prop :=
  ∃ defect rest, r = .error (.lacks defect rest)

theorem Lacks.map {α β : Type} {r : Except Stop α} (h : Lacks r) (f : α → β) : Lacks (r.map f) := by
  obtain ⟨defect, rest, rfl⟩ := h
  exact ⟨defect, rest, rfl⟩

theorem lacks_readString_nil : Lacks (readString opening []) :=
  ⟨_, _, rfl⟩

theorem lacks_readString_code (a b c d : Char) :
    Lacks (readString opening ['\\', 'u', a, b, c, d]) := by
  refine ⟨.hexEscape, ['u', a, b, c, d], ?_⟩
  rw [readString] <;> simp

theorem lacks_readString_unicodeEscape (c : Char) :
    Lacks (readString opening (unicodeEscape c)) := by
  have valid : c.toNat < 0xD800 ∨ 0xDFFF < c.toNat ∧ c.toNat < 0x110000 := c.valid
  unfold unicodeEscape
  split
  · next basic =>
    obtain ⟨x, y, z, w, digits, -⟩ := exists_hexDigits basic
    rw [digits]
    exact lacks_readString_code x y z w
  · obtain ⟨x, y, z, w, digits, code⟩ :=
      exists_hexDigits (n := 0xD800 + (c.toNat - 0x10000) / 0x400) (by omega)
    obtain ⟨x', y', z', w', digits', -⟩ :=
      exists_hexDigits (n := 0xDC00 + (c.toNat - 0x10000) % 0x400) (by omega)
    simp only [digits, digits', List.cons_append, List.nil_append]
    rw [readString, code]
    simp only [List.isEmpty_nil, Bool.not_true, Bool.and_false, Bool.false_eq_true, if_false]
    exact (lacks_readString_code x' y' z' w').map _

include plain

theorem lacks_readString_writeChar (c : Char) : Lacks (readString opening (writeChar shows c)) := by
  have written := written_writeChar shows c
  generalize writeChar shows c = text at written
  cases written with
  | letter known =>
    rw [readString_letter known]
    exact lacks_readString_nil.map _
  | plain quote escape shown =>
    rw [readString_plain quote escape (plain c shown)]
    exact lacks_readString_nil.map _
  | code => exact lacks_readString_unicodeEscape c

/-- Where a string ends before its closing quote, it is not read. -/
theorem lacks_readString_write (s : List Char) :
    Lacks (readString opening (s.flatMap (writeChar shows))) := by
  induction s with
  | nil => exact lacks_readString_nil
  | cons c s ih =>
    rw [List.flatMap_cons]
    by_cases last : s.flatMap (writeChar shows) = []
    · rw [last, List.append_nil]
      exact lacks_readString_writeChar plain c
    · rw [readString_writeChar plain c last]
      exact ih.map _

end ImportBoundary.Json
