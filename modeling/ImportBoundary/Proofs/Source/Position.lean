import ImportBoundary.Proofs.Source.Words
import Mathlib.Algebra.Ring.Nat

/-!
# Where tokens stand

The reader's point is always the position behind what has been read (`Cursor.IsBehind`): its line is
one more than the number of newlines before it, its column the number of bytes after the last of them.
So every name and every operator among the tokens of a text stands where its line and its column say,
and they stand one behind the other (`standing_tokensOf`).
-/

namespace ImportBoundary.Source

open Text

/-! ## Definition -/

/-- The line that goes on behind a text. -/
def lineAfter (before : List Char) : Nat :=
  before.count '\n' + 1

/-- The bytes of the last line of a text. -/
def columnAfter (before : List Char) : Nat :=
  ((before.reverse.takeWhile (· ≠ '\n')).map Char.utf8Size).sum

/-- The word stands in the text behind `before`, and that is where the line and the column are. -/
structure StandsBehind (text before : List Char) (word : String) (line column : Nat) : Prop where
  stands : before ++ word.toList <+: text
  line_eq : line = lineAfter before
  column_eq : column = columnAfter before

/-- One position in a text comes before another one. -/
def IsBefore (line column line' column' : Nat) : Prop :=
  line < line' ∨ line = line' ∧ column < column'

/-- The point of a cursor is the one behind `before`. -/
structure Cursor.IsBehind (text before : List Char) (c : Cursor) : Prop where
  rest_eq : text = before ++ c.rest
  line_eq : c.line = lineAfter before
  column_eq : c.column = columnAfter before

/-- The point of a cursor is behind `before`, or further on. -/
def Cursor.GoesOn (text before : List Char) (c : Cursor) : Prop :=
  ∃ more, c.IsBehind text (before ++ more)

/-! ## Positions -/

section

variable {before more : List Char}

theorem lineAfter_append (before more : List Char) :
    lineAfter (before ++ more) = lineAfter before + more.count '\n' := by
  rw [lineAfter, lineAfter, List.count_append]
  omega

theorem columnAfter_append (before : List Char) (sameLine : '\n' ∉ more) :
    columnAfter (before ++ more) = columnAfter before + (more.map Char.utf8Size).sum := by
  have kept : ∀ c ∈ more.reverse, decide (c ≠ '\n') = true := by
    intro c mem
    refine decide_eq_true ?_
    rintro rfl
    exact sameLine (List.mem_reverse.mp mem)
  rw [columnAfter, columnAfter, List.reverse_append, List.takeWhile_append_of_pos kept,
    List.map_append, List.sum_append, List.map_reverse, List.sum_reverse, Nat.add_comm]

theorem columnAfter_newline (before : List Char) : columnAfter (before ++ ['\n']) = 0 := by
  rw [columnAfter, List.reverse_append]
  simp

/-- What stands further on in a text has a later position. -/
theorem isBefore_append (some_char : more ≠ []) :
    IsBefore (lineAfter before) (columnAfter before) (lineAfter (before ++ more))
      (columnAfter (before ++ more)) := by
  rw [lineAfter_append]
  by_cases newline : '\n' ∈ more
  · have lines := List.count_pos_iff.mpr newline
    exact .inl (by omega)
  · obtain ⟨c, rest, rfl⟩ := List.exists_cons_of_ne_nil some_char
    have bytes := c.utf8Size_pos
    refine .inr ⟨by rw [List.count_eq_zero_of_not_mem newline]; rfl, ?_⟩
    rw [columnAfter_append _ newline, List.map_cons, List.sum_cons]
    omega

end

/-! ## Points -/

@[simp]
theorem Cursor.rest_past (c : Cursor) (ch : Char) (rest : List Char) :
    (c.past ch rest).rest = rest := by
  unfold Cursor.past
  split <;> rfl

theorem Cursor.IsBehind.goesOn {text before : List Char} {c : Cursor}
    (behind : c.IsBehind text before) : c.GoesOn text before :=
  ⟨[], by rwa [List.append_nil]⟩

theorem Cursor.GoesOn.of_append {text before more : List Char} {c : Cursor}
    (goesOn : c.GoesOn text (before ++ more)) : c.GoesOn text before := by
  obtain ⟨others, behind⟩ := goesOn
  exact ⟨more ++ others, by rwa [← List.append_assoc]⟩

namespace Cursor.IsBehind

variable {text before : List Char} {c : Cursor}

theorem past {ch : Char} {rest : List Char} (behind : c.IsBehind text before)
    (next : c.rest = ch :: rest) : (c.past ch rest).IsBehind text (before ++ [ch]) := by
  have whole : text = before ++ [ch] ++ rest := by
    rw [behind.rest_eq, next, List.append_assoc, List.singleton_append]
  unfold Cursor.past
  by_cases newline : ch = '\n'
  · subst newline
    rw [if_pos rfl]
    exact ⟨whole, by rw [lineAfter_append, behind.line_eq]; rfl, (columnAfter_newline before).symm⟩
  · rw [if_neg newline]
    refine ⟨whole, ?_, ?_⟩
    · rw [lineAfter_append, behind.line_eq, List.count_eq_zero_of_not_mem (by simp [Ne.symm newline])]
      rfl
    · rw [columnAfter_append _ (by simp [Ne.symm newline]), behind.column_eq]
      simp

theorem advance {n : Nat} (behind : c.IsBehind text before) (sameLine : '\n' ∉ c.rest.take n) :
    (c.advance n).IsBehind text (before ++ c.rest.take n) := by
  induction n generalizing c before with
  | zero =>
    rw [List.take_zero, List.append_nil]
    exact behind
  | succ n ih =>
    cases next : c.rest with
    | nil =>
      rw [Cursor.advance, next, List.take_nil, List.append_nil]
      exact behind
    | cons ch rest =>
      rw [next, List.take_succ_cons, List.mem_cons, not_or] at sameLine
      have step : (c.past ch rest) = ⟨rest, c.line, c.column + ch.utf8Size⟩ :=
        if_neg (Ne.symm sameLine.1)
      have one := behind.past next
      rw [step] at one
      have whole := ih one sameLine.2
      rw [List.append_assoc, List.singleton_append] at whole
      rw [Cursor.advance, next, List.take_succ_cons]
      exact whole

theorem skipWhile (behind : c.IsBehind text before) {skips : Char → Bool}
    (newline : skips '\n' = false) : (c.skipWhile skips).GoesOn text before := by
  have taken : c.rest.take (c.rest.takeWhile skips).length = c.rest.takeWhile skips :=
    (List.prefix_iff_eq_take.mp (List.takeWhile_prefix skips)).symm
  refine ⟨_, behind.advance ?_⟩
  rw [taken]
  intro inside
  exact Bool.false_ne_true (newline.symm.trans (List.mem_takeWhile_imp inside))

end Cursor.IsBehind

section

variable {text before : List Char} {r next : Reader}

theorem goesOn_skipBlanks (behind : r.cursor.IsBehind text before) :
    (skipBlanks r).cursor.GoesOn text before := by
  have space : isSpace '\n' = false := by decide
  have inComment : decide ('\n' ≠ '\n') = false := by decide
  obtain ⟨blanks, behind⟩ := behind.skipWhile space
  simp only [skipBlanks]
  split
  · exact (behind.skipWhile inComment).of_append
  · exact ⟨blanks, behind⟩

theorem goesOn_continueLine {cursor : Cursor} (behind : r.cursor.IsBehind text before)
    (goes : continueLine r = .ok cursor) : cursor.GoesOn text before := by
  unfold continueLine at goes
  split at goes
  · cases goes
  · next rest next =>
    cases goes
    exact (behind.past next).goesOn.of_append
  · cases goes

/-- The characters of an indentation take one byte each. -/
theorem isBehind_blank {line column : Nat} {ch : Char} {rest : List Char}
    (behind : (Cursor.mk (ch :: rest) line column).IsBehind text before) (newline : ch ≠ '\n')
    (byte : ch.utf8Size = 1) :
    (Cursor.mk rest line (column + 1)).IsBehind text (before ++ [ch]) := by
  have past := behind.past rfl
  rwa [Cursor.past, if_neg newline, byte] at past

/-- The point after a line's indentation. -/
theorem goesOn_measure {line column continued : Nat} {i indentation : Indentation}
    {cs : List Char} {cursor : Cursor} (behind : (Cursor.mk cs line column).IsBehind text before)
    (measured : measure r line column continued i cs = .ok (indentation, cursor)) :
    cursor.GoesOn text before := by
  fun_induction measure r line column continued i cs generalizing before with
  | case1 line column continued i rest ih =>
    exact (ih (isBehind_blank behind (by decide) (by decide)) measured).of_append
  | case2 line column continued i rest ih =>
    exact (ih (isBehind_blank behind (by decide) (by decide)) measured).of_append
  | case3 line column continued i rest ih =>
    exact (ih (isBehind_blank behind (by decide) (by decide)) measured).of_append
  | case4 => cases measured
  | case5 line column continued i rest _ ih =>
    have backslash := behind.past rfl
    rw [Cursor.past, if_neg (by decide)] at backslash
    have newline := backslash.past rfl
    rw [Cursor.past, if_pos rfl] at newline
    exact (ih newline measured).of_append.of_append
  | case6 => cases measured
  | case7 =>
    cases measured
    exact behind.goesOn

theorem goesOn_textEnd {quote : Char} {size seen : Nat} {c cursor : Cursor} {cs : List Char}
    (behind : c.IsBehind text before) (rest : c.rest = cs)
    (ends : textEnd quote size seen c cs = .ok cursor) :
    cursor.GoesOn text before := by
  fun_induction textEnd quote size seen c cs generalizing before with
  | case1 | case2 | case5 => cases ends
  | case3 =>
    cases ends
    exact (behind.past rest).goesOn.of_append
  | case4 _ _ _ _ _ ih | case7 _ _ _ _ _ _ _ ih =>
    exact (ih (behind.past rest) (Cursor.rest_past ..) ends).of_append
  | case6 _ _ _ _ _ _ ih =>
    have skipped := (behind.past rest).past (Cursor.rest_past ..)
    exact (ih skipped (Cursor.rest_past ..) ends).of_append.of_append

/-- The point after a text. -/
theorem goesOn_skipText {quote : Char} {rest : List Char} {cursor : Cursor}
    (behind : r.cursor.IsBehind text before) (next : r.cursor.rest = quote :: rest)
    (skipped : skipText r quote rest = .ok cursor) : cursor.GoesOn text before := by
  have opened := behind.past next
  -- one quote opens the text, or three of them
  have started : ∃ size start, start.GoesOn text before ∧
      textEnd quote size 0 start start.rest = .ok cursor := by
    unfold skipText at skipped
    simp only at skipped
    split at skipped
    · next found =>
      cases skipped
      refine ⟨_, _, ?_, found⟩
      split
      · split
        · have third := (opened.past (Cursor.rest_past ..)).past (Cursor.rest_past ..)
          exact third.goesOn.of_append.of_append.of_append
        · exact opened.goesOn.of_append
      · exact opened.goesOn.of_append
    · cases skipped
  obtain ⟨size, start, ⟨more, behind⟩, ends⟩ := started
  exact (goesOn_textEnd behind rfl ends).of_append

/-- Behind as many characters of a line as are read. -/
theorem Cursor.IsBehind.advance_of_prefix {word cs : List Char} {c : Cursor}
    (behind : c.IsBehind text before) (next : c.rest = cs) (word_eq : word <+: cs)
    (sameLine : '\n' ∉ word) : (c.advance word.length).IsBehind text (before ++ word) := by
  have taken : c.rest.take word.length = word := by
    rw [next]
    exact (List.prefix_iff_eq_take.mp word_eq).symm
  have advanced := behind.advance (n := word.length) (by rwa [taken])
  rwa [taken] at advanced

theorem newline_not_mem_takeWhile {p : Char → Bool} {cs : List Char} (newline : p '\n' = false) :
    '\n' ∉ cs.takeWhile p := by
  intro inside
  exact Bool.false_ne_true (newline.symm.trans (List.mem_takeWhile_imp inside))

theorem newline_not_mem_operatorAt {c : Char} (cs : List Char) (newline : c ≠ '\n') :
    operatorAt c cs <+: c :: cs ∧ '\n' ∉ operatorAt c cs := by
  unfold operatorAt
  split
  · next op found =>
    have none : ∀ op ∈ longOperators, '\n' ∉ op.toList := by decide
    have starts := List.find?_some found
    exact ⟨List.isPrefixOf_iff_prefix.mp starts, none op (List.mem_of_find?_eq_some found)⟩
  · exact ⟨⟨cs, rfl⟩, by simp [Ne.symm newline]⟩

/-- A number is no longer than the run of characters that numbers can hold. -/
theorem exists_number {c : Char} {cs : List Char} {length : Nat} (newline : c ≠ '\n')
    (read : numberLength c cs = .ok length) :
    ∃ number, length = number.length ∧ number <+: c :: cs ∧ '\n' ∉ number := by
  simp only [numberLength] at read
  cases ends : numberEnd c (cs.takeWhile isNumberChar) with
  | error complaint =>
    rw [ends] at read
    cases read
  | ok rest =>
    simp only [ends, Except.map, Except.ok.injEq] at read
    subst read
    have run : c :: cs.takeWhile isNumberChar <+: c :: cs :=
      (List.prefix_cons_inj c).mpr (List.takeWhile_prefix _)
    have sameLine : '\n' ∉ c :: cs.takeWhile isNumberChar :=
      List.not_mem_cons_of_ne_of_not_mem (Ne.symm newline) (newline_not_mem_takeWhile (by decide))
    refine ⟨(c :: cs.takeWhile isNumberChar).take
      ((cs.takeWhile isNumberChar).length + 1 - rest.length), ?_, ?_, ?_⟩
    · rw [List.length_take, List.length_cons]
      omega
    · exact (List.take_prefix _ _).trans run
    · exact fun inside => sameLine (List.mem_of_mem_take inside)

/-- The letters before a text, and the quote behind them. -/
theorem openingQuote?_spec {cs after : List Char} {marks : Nat} {quote : Char}
    (found : openingQuote? cs = some (marks, quote, after)) :
    ∃ letters, marks = letters.length ∧ cs = letters ++ quote :: after ∧ '\n' ∉ letters := by
  simp only [openingQuote?] at found
  split at found
  · next q rest behind =>
    split at found
    · cases found
      refine ⟨cs.takeWhile Char.isAlpha, rfl, ?_, newline_not_mem_takeWhile (by decide)⟩
      have letters := List.prefix_iff_eq_take.mp (List.takeWhile_prefix Char.isAlpha (l := cs))
      conv_lhs => rw [← List.take_append_drop (cs.takeWhile Char.isAlpha).length cs]
      rw [← letters, behind]
    · cases found
  · cases found

/-- The point after a token, which for a name or an operator is behind its characters. -/
theorem isBehind_of_scans {c : Char} {cs : List Char} {l : Lexeme}
    (behind : r.cursor.IsBehind text before) (rest : r.cursor.rest = c :: cs) (newline : c ≠ '\n')
    (scans : Scans r c cs l next) :
    ∃ more, next.cursor.IsBehind text (before ++ more) ∧
      (l.spelling ≠ "" → more = l.spelling.toList ∧ '\n' ∉ more) := by
  cases scans with
  | @text marks quote after cursor opens closes =>
    obtain ⟨letters, rfl, eq, sameLine⟩ := openingQuote?_spec opens
    have marked := behind.advance_of_prefix rest ⟨_, eq.symm⟩ sameLine
    have quoted : (r.cursor.advance letters.length).rest = quote :: after := by
      have whole := marked.rest_eq
      rw [behind.rest_eq, rest, eq, List.append_assoc, List.append_cancel_left_eq,
        List.append_cancel_left_eq] at whole
      exact whole.symm
    obtain ⟨more, ends⟩ := goesOn_skipText marked quoted closes
    exact ⟨letters ++ more, by rwa [← List.append_assoc], fun some_char => absurd rfl some_char⟩
  | name _ isWord =>
    obtain rfl := eq_of_wordAt isWord
    have pre : c :: cs.takeWhile isNameChar <+: c :: cs :=
      (List.prefix_cons_inj c).mpr (List.takeWhile_prefix _)
    have sameLine : '\n' ∉ c :: cs.takeWhile isNameChar :=
      List.not_mem_cons_of_ne_of_not_mem (Ne.symm newline) (newline_not_mem_takeWhile (by decide))
    exact ⟨_, behind.advance_of_prefix rest pre sameLine,
      fun _ => ⟨String.toList_ofList.symm, sameLine⟩⟩
  | number isNumber =>
    obtain ⟨number, rfl, pre, sameLine⟩ := exists_number newline isNumber
    exact ⟨_, behind.advance_of_prefix rest pre sameLine, fun some_char => absurd rfl some_char⟩
  | op =>
    obtain ⟨pre, sameLine⟩ := newline_not_mem_operatorAt cs newline
    exact ⟨_, behind.advance_of_prefix rest pre sameLine,
      fun _ => ⟨String.toList_ofList.symm, sameLine⟩⟩

end

/-! ## Tokens -/

/-- The token is a name or an operator. -/
def Token.isWritten (t : Token) : Bool :=
  t.lexeme.spelling ≠ ""

/-- The names and operators among some tokens, the last of which comes first, stand one behind the
other in a text. -/
structure Standing (before : List Char) (tokens : List Token) : Prop where
  stands : ∀ t ∈ tokens, t.isWritten = true → '\n' ∉ t.lexeme.spelling.toList ∧
    ∃ start, StandsBehind before start t.lexeme.spelling t.line t.column
  ordered : (tokens.filter Token.isWritten).Pairwise fun later earlier =>
    IsBefore earlier.line earlier.column later.line later.column

namespace Standing

variable {before more : List Char} {tokens : List Token} {t : Token}

theorem append (standing : Standing before tokens) (more : List Char) :
    Standing (before ++ more) tokens := by
  refine ⟨?_, standing.ordered⟩
  intro t mem written
  obtain ⟨sameLine, start, stands, line, column⟩ := standing.stands t mem written
  exact ⟨sameLine, start, stands.trans (List.prefix_append _ _), line, column⟩

theorem cons_other (standing : Standing before tokens) (other : t.isWritten = false) :
    Standing before (t :: tokens) := by
  refine ⟨?_, ?_⟩
  · intro u mem written
    rcases List.mem_cons.mp mem with rfl | old
    · exact absurd written (Bool.eq_false_iff.mp other)
    · exact standing.stands u old written
  · rw [List.filter_cons_of_neg (Bool.eq_false_iff.mp other)]
    exact standing.ordered

theorem append_others {others : List Token} (standing : Standing before tokens)
    (other : ∀ t ∈ others, t.isWritten = false) : Standing before (others ++ tokens) := by
  induction others with
  | nil => exact standing
  | cons t others ih =>
    obtain ⟨first, rest⟩ := List.forall_mem_cons.mp other
    exact (ih rest).cons_other first

/-- A name or an operator that is read next stands behind all others. -/
theorem cons_written (standing : Standing before tokens) (written : t.isWritten = true)
    (sameLine : '\n' ∉ t.lexeme.spelling.toList)
    (line : t.line = lineAfter before) (column : t.column = columnAfter before) :
    Standing (before ++ t.lexeme.spelling.toList) (t :: tokens) := by
  refine ⟨?_, ?_⟩
  · intro u mem is
    rcases List.mem_cons.mp mem with rfl | old
    · exact ⟨sameLine, before, List.prefix_rfl, line, column⟩
    · exact (standing.append _).stands u old is
  · rw [List.filter_cons_of_pos written, List.pairwise_cons]
    refine ⟨?_, standing.ordered⟩
    intro u mem
    obtain ⟨old, is⟩ := List.mem_filter.mp mem
    obtain ⟨-, start, ⟨rest, rfl⟩, line', column'⟩ := standing.stands u old is
    have some_char : u.lexeme.spelling ≠ "" := of_decide_eq_true is
    rw [line, column, line', column', List.append_assoc]
    exact isBefore_append (by simp [some_char])

end Standing

/-- The reader's point is behind the names and operators that have been read, at the start of a line
if that is the stage. -/
structure IsRead (text : List Char) (r : Reader) (stage : Stage) (tokens : List Token)
    (before : List Char) : Prop where
  behind : r.cursor.IsBehind text before
  standing : Standing before tokens
  begins : stage = .lineStart → r.cursor.column = 0

section

variable {text before : List Char} {r next : Reader} {stage stage' : Stage}
variable {tokens more : List Token}

/-- Within a line nothing is asked of the column. -/
theorem IsRead.inLine {blank : Bool} (behind : r.cursor.IsBehind text before)
    (standing : Standing before tokens) : IsRead text r (.inLine blank) tokens before := by
  refine ⟨behind, standing, ?_⟩
  intro same
  cases same

/-- A line starts behind a newline. -/
theorem IsRead.lineStart {rest : List Char} (behind : r.cursor.IsBehind text before)
    (goesOn : r.cursor.rest = '\n' :: rest) (standing : Standing before tokens) :
    IsRead text { r with cursor := r.cursor.past '\n' rest } .lineStart tokens
      (before ++ ['\n']) := by
  refine ⟨behind.past goesOn, standing.append _, ?_⟩
  intro _
  rw [Cursor.past, if_pos rfl]

/-- The point after the indentation of a line. -/
theorem IsRead.measured {i : Indentation} {cursor : Cursor}
    (isRead : IsRead text r .lineStart tokens before)
    (measured : measure r r.cursor.line 0 0 ⟨0, 0⟩ r.cursor.rest = .ok (i, cursor)) :
    ∃ further, cursor.IsBehind text (before ++ further) ∧ Standing (before ++ further) tokens := by
  have begins : (Cursor.mk r.cursor.rest r.cursor.line 0).IsBehind text before :=
    ⟨isRead.behind.rest_eq, isRead.behind.line_eq,
      by rw [← isRead.behind.column_eq, isRead.begins rfl]⟩
  obtain ⟨further, behind⟩ := goesOn_measure begins measured
  exact ⟨further, behind, isRead.standing.append further⟩

/-- The point after the blanks in a line. -/
theorem IsRead.skipBlanks {blank : Bool} (isRead : IsRead text r (.inLine blank) tokens before) :
    ∃ before', (skipBlanks r).cursor.IsBehind text before' ∧ Standing before' tokens := by
  obtain ⟨blanks, behind⟩ := goesOn_skipBlanks isRead.behind
  exact ⟨before ++ blanks, behind, isRead.standing.append blanks⟩

/-- A token that is read stands behind all others if it is a name or an operator. -/
theorem IsRead.mark {blank : Bool} {c : Char} {cs : List Char} {l : Lexeme}
    (behind : r.cursor.IsBehind text before) (standing : Standing before tokens)
    (goesOn : r.cursor.rest = c :: cs) (newline : c ≠ '\n') (scans : Scans r c cs l next) :
    ∃ before', IsRead text next (.inLine blank) (r.mark l :: tokens) before' := by
  obtain ⟨word, further, isWord⟩ := isBehind_of_scans behind goesOn newline scans
  refine ⟨_, .inLine further ?_⟩
  cases written : (r.mark l).isWritten with
  | false => exact (standing.cons_other written).append word
  | true =>
    obtain ⟨rfl, sameLine⟩ := isWord (of_decide_eq_true written)
    have line : (r.mark l).line = lineAfter before := by
      rw [← behind.line_eq]
      simp [Reader.mark, Cursor.lineBegun, goesOn]
    exact standing.cons_written written sameLine line behind.column_eq

theorem isRead_of_step (isRead : IsRead text r stage tokens before)
    (step : Step r stage more next stage') :
    ∃ before', IsRead text next stage' (more ++ tokens) before' := by
  cases step with
  | indentation measured =>
    obtain ⟨further, behind, standing⟩ := isRead.measured measured
    exact ⟨_, .inLine behind standing⟩
  | block measured _ changed =>
    obtain ⟨further, behind, standing⟩ := isRead.measured measured
    refine ⟨_, .inLine behind (standing.append_others ?_)⟩
    intro t mem
    obtain ⟨l, among, rfl⟩ := List.mem_map.mp mem
    rcases eq_of_mem_changeBlocks changed l among with rfl | rfl <;> rfl
  | lineBreak goesOn =>
    obtain ⟨before, behind, standing⟩ := isRead.skipBlanks
    exact ⟨_, .lineStart behind goesOn standing⟩
  | newline goesOn =>
    obtain ⟨before, behind, standing⟩ := isRead.skipBlanks
    exact ⟨_, .lineStart behind goesOn (standing.cons_other rfl)⟩
  | continuation goesOn continued =>
    obtain ⟨before, behind, standing⟩ := isRead.skipBlanks
    obtain ⟨further, behind⟩ := goesOn_continueLine (behind.past goesOn) continued
    exact ⟨_, .inLine behind ((standing.append _).append further)⟩
  | token goesOn newline _ scans =>
    obtain ⟨before, behind, standing⟩ := isRead.skipBlanks
    exact IsRead.mark behind standing goesOn newline scans

/-- The names and operators that are read from a text stand in it, one behind the other. -/
theorem standing_endLine (text : List Char) :
    Standing (endLine text) (tokensOf text).1.reverse := by
  have begins : IsRead (endLine text) { cursor := ⟨endLine text, 1, 0⟩ } .lineStart [] [] :=
    ⟨⟨rfl, rfl, rfl⟩, ⟨by simp, .nil⟩, fun _ => rfl⟩
  obtain ⟨last, _, read, ⟨before, isRead⟩, ends⟩ := exists_of_tokensOf
    (P := fun r stage tokens => ∃ before, IsRead (endLine text) r stage tokens before)
    (fun ⟨_, isRead⟩ step => isRead_of_step isRead step) ⟨[], begins⟩
  have standing : Standing (endLine text) read := by
    rw [isRead.behind.rest_eq]
    exact isRead.standing.append last.cursor.rest
  obtain all | all := ends
  · rw [all, List.reverse_reverse]
    exact standing
  · rw [all, List.reverse_reverse]
    exact standing.cons_other rfl

end

/-- What stands in a text with a newline added, and holds none, stands in the text. -/
theorem prefix_of_endLine {text before : List Char} {word : String} (some_char : word ≠ "")
    (sameLine : '\n' ∉ word.toList) (stands : before ++ word.toList <+: endLine text) :
    before ++ word.toList <+: text := by
  unfold endLine at stands
  split at stands
  · exact stands
  · rcases List.prefix_concat_iff.mp stands with whole | inside
    · have last := congrArg List.getLast? whole
      rw [List.getLast?_append_of_ne_nil _ (by simp [some_char]), List.getLast?_concat] at last
      exact absurd (List.mem_of_getLast? last) sameLine
    · exact inside

/-- The names and operators of a text stand where their lines and columns say, one behind the other. -/
theorem standing_tokensOf (text : List Char) :
    (∀ t ∈ (tokensOf text).1, t.isWritten = true →
      ∃ before, StandsBehind text before t.lexeme.spelling t.line t.column) ∧
    ((tokensOf text).1.filter Token.isWritten).Pairwise fun earlier later =>
      IsBefore earlier.line earlier.column later.line later.column := by
  have standing := standing_endLine text
  constructor
  · intro t mem written
    obtain ⟨sameLine, before, stands, line, column⟩ :=
      standing.stands t (List.mem_reverse.mpr mem) written
    have some_char : t.lexeme.spelling ≠ "" := of_decide_eq_true written
    exact ⟨before, prefix_of_endLine some_char sameLine stands, line, column⟩
  · have ordered := standing.ordered
    rw [List.filter_reverse, List.pairwise_reverse] at ordered
    exact ordered

end ImportBoundary.Source
