import ImportBoundary.Source.Token

/-!
# A line of names and dots

The tokens of a source that is one line of ASCII names, dots and blanks
(`exists_tokensOf_of_isLine`). Three dots in a row are one token, wherever they stand.
-/

namespace ImportBoundary.Source

open Text

/-- A character of an ASCII name. -/
def isPlain (c : Char) : Bool :=
  c.isAlphanum || c == '_'

/-- A name of ASCII letters, digits and underscores, which does not start with a digit. -/
def IsAsciiName (name : List Char) : Prop :=
  name.head?.map isAsciiDigit = some false ∧ ∀ c ∈ name, isPlain c = true

instance (name : List Char) : Decidable (IsAsciiName name) :=
  decidable_of_iff (name.head?.map isAsciiDigit = some false ∧ name.all isPlain = true)
    (and_congr_right fun _ => List.all_eq_true)

/-- What can follow a name: a blank, a dot or the end of the line. -/
def EndsName (cs : List Char) : Prop :=
  ∃ c rest, cs = c :: rest ∧ (c = ' ' ∨ c = '.' ∨ c = '\n')

/-- A line of names, dots and blanks, and what its tokens are. -/
inductive IsLine : List Char → List Lexeme → Prop
  | stop : IsLine ['\n'] [.newline, .endMarker]
  | blank {cs ls} (rest : IsLine cs ls) : IsLine (' ' :: cs) ls
  | word {name cs ls} (ascii : IsAsciiName name) (ends : EndsName cs) (rest : IsLine cs ls) :
      IsLine (name ++ cs) (.name (String.ofList name) :: ls)
  | dot {cs ls} (single : ['.', '.'].isPrefixOf cs = false) (noNumber : startsWithDigit cs = false)
      (rest : IsLine cs ls) : IsLine ('.' :: cs) (.op "." :: ls)
  | ellipsis {cs ls} (rest : IsLine cs ls) : IsLine ('.' :: '.' :: '.' :: cs) (.op "..." :: ls)

/-! ## Characters -/

theorem toNat_lt_of_isPlain {c : Char} (h : isPlain c = true) : c.toNat < 128 := by
  have below {high : UInt32} (le : c.val ≤ high) (ascii : high.toNat < 128) : c.toNat < 128 :=
    Nat.lt_of_le_of_lt (UInt32.le_iff_toNat_le.mp le) ascii
  rcases Bool.or_eq_true_iff.mp h with alphanum | underscore
  · rcases Bool.or_eq_true_iff.mp alphanum with letter | digit
    · rcases Bool.or_eq_true_iff.mp letter with upper | lower
      · exact below (of_decide_eq_true upper).2 (by decide)
      · exact below (of_decide_eq_true (Bool.and_eq_true_iff.mp lower).2) (by decide)
    · exact below (of_decide_eq_true (Bool.and_eq_true_iff.mp digit).2) (by decide)
  · rw [beq_iff_eq.mp underscore]
    decide

theorem ne_of_isPlain {c d : Char} (h : isPlain c = true) (other : isPlain d = false) : c ≠ d := by
  rintro rfl
  exact Bool.false_ne_true (other.symm.trans h)

theorem isNameChar_of_isPlain {c : Char} (h : isPlain c = true) : isNameChar c = true :=
  Bool.or_eq_true_iff.mpr (.inl h)

/-- A reader at a point outside of brackets and blocks. -/
def Reader.at (cs : List Char) (line column : Nat) : Reader :=
  { cursor := ⟨cs, line, column⟩ }

theorem advance_append (name cs : List Char) (line column : Nat) :
    ∃ column', Cursor.advance ⟨name ++ cs, line, column⟩ name.length = ⟨cs, line, column'⟩ := by
  induction name generalizing column with
  | nil => exact ⟨column, rfl⟩
  | cons c name ih => exact ih _

/-! ## Words -/

theorem drop_length_takeWhile (p : Char → Bool) (cs : List Char) :
    cs.drop (cs.takeWhile p).length = cs.dropWhile p :=
  calc cs.drop (cs.takeWhile p).length
      = (cs.takeWhile p ++ cs.dropWhile p).drop (cs.takeWhile p).length := by
        rw [List.takeWhile_append_dropWhile]
    _ = cs.dropWhile p := List.drop_left

/-- No quote comes after the letters at the head of a name. -/
theorem not_quote_of_word {name cs : List Char} (plain : ∀ c ∈ name, isPlain c = true)
    (ends : EndsName cs) {q : Char} {rest : List Char}
    (h : (name ++ cs).dropWhile Char.isAlpha = q :: rest) : q ≠ '"' ∧ q ≠ '\x27' := by
  induction name with
  | nil =>
    obtain ⟨c, cs, rfl, rfl | rfl | rfl⟩ := ends
    all_goals
      cases h
      decide
  | cons c name ih =>
    by_cases letter : c.isAlpha = true
    · rw [List.cons_append, List.dropWhile_cons_of_pos letter] at h
      exact ih (fun d hd => plain d (List.mem_cons_of_mem _ hd)) h
    · rw [List.cons_append, List.dropWhile_cons_of_neg letter] at h
      cases h
      have start := plain q (List.mem_cons_self ..)
      exact ⟨ne_of_isPlain start (by decide), ne_of_isPlain start (by decide)⟩

theorem openingQuote_word {name cs : List Char} (plain : ∀ c ∈ name, isPlain c = true)
    (ends : EndsName cs) : openingQuote? (name ++ cs) = none := by
  rw [openingQuote?, drop_length_takeWhile]
  cases after : (name ++ cs).dropWhile Char.isAlpha with
  | nil => rfl
  | cons q rest =>
    obtain ⟨noDouble, noSingle⟩ := not_quote_of_word plain ends after
    simp [noDouble, noSingle]

theorem wordAt_word {c : Char} {name cs : List Char} (plain : ∀ d ∈ c :: name, isPlain d = true)
    (ends : EndsName cs) : wordAt c (name ++ cs) = .ok (c :: name) := by
  have stops : cs.takeWhile isNameChar = [] := by
    obtain ⟨d, cs, rfl, rfl | rfl | rfl⟩ := ends <;> rfl
  have taken : (name ++ cs).takeWhile isNameChar = name := by
    rw [List.takeWhile_append_of_pos fun d hd =>
      isNameChar_of_isPlain (plain d (List.mem_cons_of_mem _ hd)), stops, List.append_nil]
  have ascii : (c :: name).all (fun d => decide (d.toNat < 128)) = true :=
    List.all_eq_true.mpr fun d hd => decide_eq_true (toNat_lt_of_isPlain (plain d hd))
  simp only [wordAt, taken, ascii, if_true]

theorem readToken_word {c : Char} {name cs : List Char} (ascii : IsAsciiName (c :: name))
    (ends : EndsName cs) (line column : Nat) :
    ∃ column', readToken (.at (c :: name ++ cs) line column) c (name ++ cs) =
      .ok (.name (String.ofList (c :: name)), .at cs line column') := by
  obtain ⟨noDigit, plain⟩ := ascii
  have noDigit : isAsciiDigit c = false := Option.some.inj noDigit
  obtain ⟨column', past⟩ := advance_append (c :: name) cs line column
  have quote : openingQuote? (c :: (name ++ cs)) = none := openingQuote_word plain ends
  refine ⟨column', ?_⟩
  simp only [readToken, quote, isNameChar_of_isPlain (plain c (List.mem_cons_self ..)), noDigit,
    wordAt_word plain ends, Bool.not_false, Bool.and_self, if_true]
  simp only [Reader.at, past]

/-! ## Dots -/

theorem readToken_dot {cs : List Char} (single : ['.', '.'].isPrefixOf cs = false)
    (noNumber : startsWithDigit cs = false) (line column : Nat) :
    readToken (.at ('.' :: cs) line column) '.' cs =
      .ok (.op ".", .at cs line (column + 1)) := by
  have op : operatorAt '.' cs = ['.'] := by
    simp [operatorAt, longOperators, single]
  have noWord : (isNameChar '.' && !isAsciiDigit '.') = false := by decide
  simp only [readToken, show openingQuote? ('.' :: cs) = none from rfl, noWord, noNumber, op]
  rfl

theorem readToken_ellipsis (cs : List Char) (line column : Nat) :
    readToken (.at ('.' :: '.' :: '.' :: cs) line column) '.' ('.' :: '.' :: cs) =
      .ok (.op "...", .at cs line (column + 3)) := by
  have op : operatorAt '.' ('.' :: '.' :: cs) = ['.', '.', '.'] := by
    simp [operatorAt, longOperators]
  have noWord : (isNameChar '.' && !isAsciiDigit '.') = false := by decide
  have noNumber : startsWithDigit ('.' :: '.' :: cs) = false := rfl
  simp only [readToken, show openingQuote? ('.' :: '.' :: '.' :: cs) = none from rfl, noWord,
    noNumber, op]
  rfl

/-! ## Lines -/

theorem skipBlanks_at {c : Char} (cs : List Char) (line column : Nat) (noSpace : isSpace c = false)
    (noComment : c ≠ '#') :
    skipBlanks (.at (c :: cs) line column) = .at (c :: cs) line column := by
  simp [skipBlanks, Cursor.skipWhile, Reader.at, Cursor.advance, noSpace, noComment]

/-- A token that is read in a line, and what comes after it. -/
theorem tokensFrom_readToken {c : Char} {cs cs' : List Char} {l : Lexeme} {line column column' : Nat}
    (special : isSpace c = false ∧ c ≠ '#' ∧ c ≠ '\n' ∧ c ≠ '\\')
    (read : readToken (.at (c :: cs) line column) c cs = .ok (l, .at cs' line column'))
    (tokens : List Token) (fuel : Nat) :
    tokensFrom (.at (c :: cs) line column) (.inLine false) tokens (fuel + 1) =
      tokensFrom (.at cs' line column') (.inLine false) (⟨l, line, column⟩ :: tokens) fuel := by
  obtain ⟨noSpace, noComment, noNewline, noBackslash⟩ := special
  rw [tokensFrom]
  simp only [skipBlanks_at cs line column noSpace noComment]
  split
  · next empty => cases empty
  · next newline =>
    cases newline
    exact absurd rfl noNewline
  · next backslash =>
    cases backslash
    exact absurd rfl noBackslash
  · next same =>
    cases same
    simp only [read]
    rfl

theorem tokensFrom_blank (cs : List Char) (line column : Nat) (tokens : List Token) (fuel : Nat) :
    tokensFrom (.at (' ' :: cs) line column) (.inLine false) tokens (fuel + 1) =
      tokensFrom (.at cs line (column + 1)) (.inLine false) tokens (fuel + 1) :=
  rfl

theorem tokensFrom_stop (line column : Nat) (tokens : List Token) (fuel : Nat) :
    tokensFrom (.at ['\n'] line column) (.inLine false) tokens (fuel + 3) =
      (tokens.reverse ++ [⟨.newline, line, column⟩, ⟨.endMarker, line, 0⟩], none) := by
  have ends : tokensFrom (.at ['\n'] line column) (.inLine false) tokens (fuel + 3) =
      ((⟨.endMarker, line, 0⟩ :: ⟨.newline, line, column⟩ :: tokens).reverse, none) := rfl
  rw [ends]
  simp

theorem special_of_isPlain {c : Char} (h : isPlain c = true) :
    isSpace c = false ∧ c ≠ '#' ∧ c ≠ '\n' ∧ c ≠ '\\' := by
  have other {d : Char} (hd : isPlain d = false) : c ≠ d := ne_of_isPlain h hd
  refine ⟨?_, other (by decide), other (by decide), other (by decide)⟩
  simp [isSpace, other (d := ' ') (by decide), other (d := '\t') (by decide),
    other (d := '\x0c') (by decide)]

/-- The line from any point on, and the end of the source after it. -/
theorem tokensFrom_of_isLine {cs : List Char} {ls : List Lexeme} (h : IsLine cs ls)
    (line column : Nat) (tokens : List Token) {fuel : Nat} (enough : cs.length + 2 ≤ fuel) :
    ∃ more, tokensFrom (.at cs line column) (.inLine false) tokens fuel =
      (tokens.reverse ++ more, none) ∧ more.map (·.lexeme) = ls := by
  -- One token of the line is read, and the induction hypothesis reads the rest.
  have read {c : Char} {cs cs' : List Char} {l : Lexeme} {ls : List Lexeme}
      {column column' fuel : Nat} {tokens : List Token}
      (special : isSpace c = false ∧ c ≠ '#' ∧ c ≠ '\n' ∧ c ≠ '\\')
      (one : readToken (.at (c :: cs) line column) c cs = .ok (l, .at cs' line column'))
      (rest : ∃ more, tokensFrom (.at cs' line column') (.inLine false)
        (⟨l, line, column⟩ :: tokens) fuel =
          ((⟨l, line, column⟩ :: tokens).reverse ++ more, none) ∧ more.map (·.lexeme) = ls) :
      ∃ more, tokensFrom (.at (c :: cs) line column) (.inLine false) tokens (fuel + 1) =
        (tokens.reverse ++ more, none) ∧ more.map (·.lexeme) = l :: ls := by
    obtain ⟨more, ran, same⟩ := rest
    refine ⟨⟨l, line, column⟩ :: more, ?_, by simp [same]⟩
    rw [tokensFrom_readToken special one, ran]
    simp
  induction h generalizing column tokens fuel with
  | stop =>
    obtain ⟨fuel, rfl⟩ := Nat.exists_eq_add_of_le' enough
    exact ⟨_, tokensFrom_stop line column tokens fuel, rfl⟩
  | @blank cs ls rest ih =>
    obtain ⟨fuel, rfl⟩ := Nat.exists_eq_add_of_le' (Nat.le_trans (Nat.le_add_left 1 _) enough)
    rw [tokensFrom_blank]
    refine ih (column + 1) tokens ?_
    rw [List.length_cons] at enough
    omega
  | @word name cs ls ascii ends rest ih =>
    cases name with
    | nil => cases ascii.1
    | cons c name =>
      obtain ⟨fuel, rfl⟩ := Nat.exists_eq_add_of_le' (Nat.le_trans (Nat.le_add_left 1 _) enough)
      obtain ⟨column', one⟩ := readToken_word ascii ends line column
      refine read (special_of_isPlain (ascii.2 c (List.mem_cons_self ..))) one (ih column' _ ?_)
      simp only [List.length_append, List.length_cons] at enough
      omega
  | @dot cs ls single noNumber rest ih =>
    obtain ⟨fuel, rfl⟩ := Nat.exists_eq_add_of_le' (Nat.le_trans (Nat.le_add_left 1 _) enough)
    refine read (by decide) (readToken_dot single noNumber line column) (ih _ _ ?_)
    rw [List.length_cons] at enough
    omega
  | @ellipsis cs ls rest ih =>
    obtain ⟨fuel, rfl⟩ := Nat.exists_eq_add_of_le' (Nat.le_trans (Nat.le_add_left 1 _) enough)
    refine read (by decide) (readToken_ellipsis cs line column) (ih _ _ ?_)
    simp only [List.length_cons] at enough
    omega

/-- A line that starts with a name is not indented. -/
theorem tokensFrom_lineStart {c : Char} (plain : isPlain c = true) (cs : List Char)
    (line : Nat) (tokens : List Token) (fuel : Nat) :
    tokensFrom (.at (c :: cs) line 0) .lineStart tokens (fuel + 1) =
      tokensFrom (.at (c :: cs) line 0) (.inLine false) tokens fuel := by
  have other {d : Char} (hd : isPlain d = false) : c ≠ d := ne_of_isPlain plain hd
  have measured : measure (.at (c :: cs) line 0) line 0 0 ⟨0, 0⟩ (c :: cs) =
      .ok (⟨0, 0⟩, ⟨c :: cs, line, 0⟩) := by
    unfold measure
    split
    case h_7 => rfl
    all_goals next same => exact absurd (List.cons.inj same).1 (other (by decide))
  rw [tokensFrom]
  simp only [Reader.at] at measured ⊢
  rw [measured]
  simp [other (d := '#') (by decide), other (d := '\n') (by decide), changeBlocks, innermost]

/-- A source of one line, which does not start with a blank, has the tokens of the line. -/
theorem exists_tokensOf_of_isLine {text : List Char} {ls : List Lexeme}
    (start : ∃ c rest, text = c :: rest ∧ isPlain c = true) (h : IsLine (endLine text) ls) :
    ∃ ts, tokensOf text = (ts, none) ∧ ts.map (·.lexeme) = ls := by
  obtain ⟨c, rest, ended, plain⟩ : ∃ c rest, endLine text = c :: rest ∧ isPlain c = true := by
    obtain ⟨c, rest, rfl, plain⟩ := start
    unfold endLine
    split
    · exact ⟨c, rest, rfl, plain⟩
    · exact ⟨c, rest ++ ['\n'], rfl, plain⟩
  rw [ended] at h
  have enough : (c :: rest).length + 2 ≤ 2 * (c :: rest).length + 1 := by
    rw [List.length_cons]
    omega
  obtain ⟨more, ran, same⟩ := tokensFrom_of_isLine h 1 0 [] enough
  refine ⟨more, ?_, same⟩
  rw [tokensOf, ended]
  exact (tokensFrom_lineStart plain rest 1 [] _).trans ran

end ImportBoundary.Source
