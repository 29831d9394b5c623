import ImportBoundary.Source.Token

/-!
# Steps of the reader

What the reader can do at its point is said once: which tokens there are in a line (`Scans`), and how
it goes on from a line's start or from within it (`Step`). What each step keeps therefore holds at the
end of every run (`exists_of_tokensOf`).
-/

namespace ImportBoundary.Source

/-! ## Tokens in a line -/

/-- The tokens in a line that goes on with `c`, and the reader after each. -/
inductive Scans (r : Reader) (c : Char) (cs : List Char) : Lexeme → Reader → Prop
  | text {marks : Nat} {quote : Char} {rest : List Char} {cursor : Cursor}
      (opens : openingQuote? (c :: cs) = some (marks, quote, rest))
      (closes : skipText { r with cursor := r.cursor.advance marks } quote rest = .ok cursor) :
      Scans r c cs .text { r with cursor }
  | name {word : List Char} (starts : isNameChar c = true) (isWord : wordAt c cs = .ok word) :
      Scans r c cs (.name (String.ofList word)) { r with cursor := r.cursor.advance word.length }
  | number {length : Nat} (isNumber : numberLength c cs = .ok length) :
      Scans r c cs .number { r with cursor := r.cursor.advance length }
  | op {brackets : List Bracket} (opens : bracketsAfter r (operatorAt c cs) = .ok brackets) :
      Scans r c cs (.op (String.ofList (operatorAt c cs)))
        { r with cursor := r.cursor.advance (operatorAt c cs).length, brackets }

variable {r next : Reader} {stage stage' : Stage} {tokens more : List Token}

theorem scans_of_readToken {c : Char} {cs : List Char} {l : Lexeme}
    (read : readToken r c cs = .ok (l, next)) : Scans r c cs l next := by
  simp only [readToken] at read
  split at read
  · next marks quote rest opens =>
    cases closes : skipText { r with cursor := r.cursor.advance marks } quote rest with
    | error b =>
      rw [closes] at read
      cases read
    | ok cursor =>
      rw [closes] at read
      cases read
      exact .text opens closes
  · split at read
    · next starts =>
      split at read
      · cases read
      · next word isWord =>
        cases read
        exact .name (Bool.and_eq_true_iff.mp starts).1 isWord
    · split at read
      · split at read
        · cases read
        · next length isNumber =>
          cases read
          exact .number isNumber
      · split at read
        · cases read
        · next brackets opens =>
          cases read
          exact .op opens

/-! ## Steps -/

/-- The line goes on with a comment or with nothing. -/
def startsBlank (cursor : Cursor) : Bool :=
  cursor.rest.head? = some '#' || cursor.rest.head? = some '\n'

/-- A step of the reader: the stage before it, the tokens that it reads, the last of them first, and
the reader and its stage after it. Lines that are blank or between brackets have no tokens for their
start and their end. -/
inductive Step (r : Reader) : Stage → List Token → Reader → Stage → Prop
  | indentation {i : Indentation} {cursor : Cursor}
      (measured : measure r r.cursor.line 0 0 ⟨0, 0⟩ r.cursor.rest = .ok (i, cursor))
      (inert : (startsBlank cursor || !r.brackets.isEmpty) = true) :
      Step r .lineStart [] { r with cursor } (.inLine (startsBlank cursor))
  | block {i : Indentation} {cursor : Cursor} {changes : List Lexeme} {blocks : List Indentation}
      (measured : measure r r.cursor.line 0 0 ⟨0, 0⟩ r.cursor.rest = .ok (i, cursor))
      (counts : (startsBlank cursor || !r.brackets.isEmpty) = false)
      (changed : changeBlocks { r with cursor } i = .ok (changes, blocks)) :
      Step r .lineStart (changes.map { r with cursor }.mark) { r with cursor, blocks }
        (.inLine false)
  | lineBreak {blank : Bool} {rest : List Char}
      (goesOn : (skipBlanks r).cursor.rest = '\n' :: rest)
      (inert : (blank || !(skipBlanks r).brackets.isEmpty) = true) :
      Step r (.inLine blank) []
        { skipBlanks r with cursor := (skipBlanks r).cursor.past '\n' rest } .lineStart
  | newline {blank : Bool} {rest : List Char}
      (goesOn : (skipBlanks r).cursor.rest = '\n' :: rest)
      (counts : (blank || !(skipBlanks r).brackets.isEmpty) = false) :
      Step r (.inLine blank) [(skipBlanks r).mark .newline]
        { skipBlanks r with cursor := (skipBlanks r).cursor.past '\n' rest } .lineStart
  | continuation {blank : Bool} {rest : List Char} {cursor : Cursor}
      (goesOn : (skipBlanks r).cursor.rest = '\\' :: rest)
      (continued : continueLine
        { skipBlanks r with cursor := (skipBlanks r).cursor.past '\\' rest } = .ok cursor) :
      Step r (.inLine blank) [] { skipBlanks r with cursor } (.inLine blank)
  | token {blank : Bool} {c : Char} {cs : List Char} {l : Lexeme} {next : Reader}
      (goesOn : (skipBlanks r).cursor.rest = c :: cs) (newline : c ≠ '\n') (backslash : c ≠ '\\')
      (scans : Scans (skipBlanks r) c cs l next) :
      Step r (.inLine blank) [(skipBlanks r).mark l] next (.inLine blank)

/-- The reader is at its end, or goes on after a step. -/
theorem tokensFrom_succ (r : Reader) (stage : Stage) (tokens : List Token) (fuel : Nat) :
    (∃ more next stage', Step r stage more next stage' ∧
      tokensFrom r stage tokens (fuel + 1) = tokensFrom next stage' (more ++ tokens) fuel) ∨
    (tokensFrom r stage tokens (fuel + 1)).1 = tokens.reverse ∨
    (tokensFrom r stage tokens (fuel + 1)).1 =
      ((skipBlanks r).mark .endMarker :: tokens).reverse := by
  cases stage with
  | lineStart =>
    simp only [tokensFrom]
    split
    · exact .inr (.inl rfl)
    · next measured =>
      split
      · next inert => exact .inl ⟨_, _, _, .indentation measured inert, rfl⟩
      · next counts =>
        split
        · exact .inr (.inl rfl)
        · next changed =>
          exact .inl ⟨_, _, _, .block measured (Bool.eq_false_iff.mpr counts) changed, rfl⟩
  | inLine blank =>
    simp only [tokensFrom]
    split
    · split
      · exact .inr (.inr rfl)
      · exact .inr (.inl rfl)
    · next goesOn =>
      split
      · next inert => exact .inl ⟨_, _, _, .lineBreak goesOn inert, rfl⟩
      · next counts =>
        exact .inl ⟨_, _, _, .newline goesOn (Bool.eq_false_iff.mpr counts), rfl⟩
    · next goesOn =>
      split
      · exact .inr (.inl rfl)
      · next continued => exact .inl ⟨_, _, _, .continuation goesOn continued, rfl⟩
    · next newline backslash goesOn =>
      split
      · exact .inr (.inl rfl)
      · next read =>
        exact .inl ⟨_, _, _, .token goesOn newline backslash (scans_of_readToken read), rfl⟩

/-- What each step keeps holds at the end of a run, of all its tokens but the mark of the end. -/
theorem exists_of_tokensFrom {P : Reader → Stage → List Token → Prop}
    (keeps : ∀ {r next : Reader} {stage stage' : Stage} {tokens more : List Token},
      P r stage tokens → Step r stage more next stage' → P next stage' (more ++ tokens))
    (fuel : Nat) (holds : P r stage tokens) :
    ∃ last stage' read, P last stage' read ∧
      ((tokensFrom r stage tokens fuel).1 = read.reverse ∨
        (tokensFrom r stage tokens fuel).1 =
          ((skipBlanks last).mark .endMarker :: read).reverse) := by
  induction fuel generalizing r stage tokens with
  | zero => exact ⟨r, stage, tokens, holds, .inl rfl⟩
  | succ fuel ih =>
    obtain ⟨more, next, stage', step, goesOn⟩ | ends := tokensFrom_succ r stage tokens fuel
    · rw [goesOn]
      exact ih (keeps holds step)
    · exact ⟨r, stage, tokens, holds, ends⟩

theorem exists_of_tokensOf {P : Reader → Stage → List Token → Prop} {text : List Char}
    (keeps : ∀ {r next : Reader} {stage stage' : Stage} {tokens more : List Token},
      P r stage tokens → Step r stage more next stage' → P next stage' (more ++ tokens))
    (begins : P { cursor := ⟨endLine text, 1, 0⟩ } .lineStart []) :
    ∃ last stage read, P last stage read ∧
      ((tokensOf text).1 = read.reverse ∨
        (tokensOf text).1 = ((skipBlanks last).mark .endMarker :: read).reverse) :=
  exists_of_tokensFrom keeps _ begins

end ImportBoundary.Source
