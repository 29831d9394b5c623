import ImportBoundary.Display.Message
import ImportBoundary.Proofs.Text.Digit

/-!
# Markup that can be shown

Markup can be shown if every tag in it that closes something finds it open (`Shows`). Whether it does
is read off the text from left to right with the open tags in hand (`closes`): text in between has no
part in it (`closes_text`), a tag changes what is open (`closes_tag`). So nothing can be wrong with a
text without brackets (`closes_of_noBracket`).
-/

namespace ImportBoundary.Display.Markup

open Text

/-- The text is markup that can be shown. -/
def Shows (text : String) : Prop :=
  ∃ shown, plain text.toList = .ok shown

/-- Every tag of the text that closes something finds it open, when some tags are open before. -/
def closes (tags : List (List Char)) (cs : List Char) : Bool :=
  (plainFrom tags (piecesFrom 0 [] (cs.length + 1) cs)).isOk

theorem shows_iff {text : String} : Shows text ↔ closes [] text.toList = true := by
  rw [Shows, closes, plain, pieces]
  cases plainFrom [] (piecesFrom 0 [] (text.toList.length + 1) text.toList) <;>
    simp [Except.isOk, Except.toBool]

/-! ## Pieces -/

theorem plainFrom_text (tags : List (List Char)) (chars : List Char) (ps : List Piece) :
    (plainFrom tags (.text chars :: ps)).isOk = (plainFrom tags ps).isOk := by
  rw [plainFrom]
  cases plainFrom tags ps <;> rfl

theorem plainFrom_textPiece (tags : List (List Char)) (chars : List Char) (ps : List Piece) :
    (plainFrom tags (textPiece chars ++ ps)).isOk = (plainFrom tags ps).isOk := by
  unfold textPiece
  split
  · rfl
  · exact plainFrom_text tags chars ps

theorem plainFrom_onlyText (tags : List (List Char)) (chars : List Char) :
    (plainFrom tags (textPiece chars)).isOk = true := by
  have := plainFrom_textPiece tags chars []
  rwa [List.append_nil] at this

/-- What a tag opens or closes does not depend on where it stands. -/
theorem openTags_position (tags : List (List Char)) (position position' : Nat) (tag : Tag) :
    (openTags tags position tag).toOption = (openTags tags position' tag).toOption := by
  unfold openTags
  split
  · split
    · split <;> rfl
    · next name _ _ =>
      cases Style.normalize (dropBlank name) with
      | error bad => rfl
      | ok normal =>
        dsimp only [Except.mapError, bind, Except.bind]
        split <;> rfl
  · rfl

/-- An opening tag is the last of those that are open. -/
theorem openTags_opening (tags : List (List Char)) (position : Nat) {c : Char}
    {name normal : List Char} (parameters : Option (List Char)) (opens : c ≠ '/')
    (same : Style.normalize (c :: name) = .ok normal) :
    openTags tags position ⟨c :: name, parameters⟩ = .ok (normal :: tags) := by
  unfold openTags
  split
  · next closing => exact absurd (List.cons.inj closing).1 opens
  · rw [same]
    rfl

/-- A closing tag closes the last tag if it has the same name. -/
theorem openTags_closing (tags : List (List Char)) (position : Nat) {name normal : List Char}
    (parameters : Option (List Char)) (named : dropBlank name ≠ [])
    (same : Style.normalize (dropBlank name) = .ok normal) :
    openTags (normal :: tags) position ⟨'/' :: name, parameters⟩ = .ok tags := by
  simp only [openTags]
  rw [if_neg (by simpa using named), same]
  simp [Except.mapError, bind, Except.bind, pure, Except.pure]

/-- Only a colour that is given by its parts can be one that cannot be read. -/
theorem isColor_of_code {cs : List Char} {known : Bool} (code : isColorCode cs = .ok known) :
    ∃ found, isColor cs = .ok found := by
  unfold isColor
  split
  · exact ⟨true, rfl⟩
  · exact ⟨known, code⟩

/-- No tag closes anything where nothing is open. -/
theorem openTags_nil (position : Nat) (name : List Char) (parameters : Option (List Char)) :
    (openTags [] position ⟨'/' :: name, parameters⟩).toOption = none := by
  simp only [openTags]
  split
  · rfl
  · cases Style.normalize (dropBlank name) <;> rfl

theorem plainFrom_tag (tags : List (List Char)) (position : Nat) (tag : Tag) (ps : List Piece) :
    (plainFrom tags (.tag position tag :: ps)).isOk =
      match (openTags tags 0 tag).toOption with
      | some tags => (plainFrom tags ps).isOk
      | none => false := by
  rw [plainFrom, openTags_position tags 0 position tag]
  cases openTags tags position tag <;> rfl

theorem length_tagBody {cs body rest : List Char} (h : tagBody? cs = some (body, rest)) :
    rest.length < cs.length := by
  unfold tagBody? at h
  cases cs with
  | nil => cases h
  | cons c tail =>
    dsimp only at h
    split at h
    · split at h
      · next after eq =>
        cases h
        have := congrArg List.length eq
        simp only [List.length_drop, List.length_cons] at this ⊢
        omega
      · cases h
    · cases h

/-- Neither what has been shown before, nor the position, nor spare fuel has a part in it. -/
theorem closes_piecesFrom (tags : List (List Char)) (position position' : Nat)
    (shown shown' : List Char) {fuel fuel' : Nat} {cs : List Char} (enough : cs.length < fuel)
    (enough' : cs.length < fuel') :
    (plainFrom tags (piecesFrom position shown fuel cs)).isOk =
      (plainFrom tags (piecesFrom position' shown' fuel' cs)).isOk := by
  induction fuel generalizing tags position position' shown shown' fuel' cs with
  | zero => omega
  | succ fuel ih =>
    cases fuel' with
    | zero => omega
    | succ fuel' =>
      cases cs with
      | nil =>
        simp only [piecesFrom, plainFrom_onlyText]
      | cons c cs =>
        rw [piecesFrom, piecesFrom]
        simp only [List.length_cons] at enough enough'
        have shorter : ((c :: cs).drop ((c :: cs).takeWhile (· = '\\')).length).length ≤
          cs.length + 1 - ((c :: cs).takeWhile (· = '\\')).length := by simp
        revert shorter
        generalize ((c :: cs).takeWhile (· = '\\')).length = n
        generalize (c :: cs).drop n = tail
        intro shorter
        dsimp only
        split
        · next after =>
          rw [List.length_cons] at shorter
          cases ht : tagBody? after with
          | none =>
            dsimp only
            exact ih _ _ _ _ _ (by omega) (by omega)
          | some found =>
            have := length_tagBody ht
            dsimp only
            split
            · simp only [List.append_assoc, plainFrom_textPiece, plainFrom_text]
              exact ih _ _ _ _ _ (by omega) (by omega)
            · simp only [List.append_assoc, plainFrom_textPiece, plainFrom_tag]
              cases (openTags tags 0 (tagOf found.1)).toOption with
              | none => rfl
              | some tags => exact ih _ _ _ _ _ (by omega) (by omega)
        · split
          · exact ih _ _ _ _ _ (by omega) (by omega)
          · exact ih _ _ _ _ _ (by omega) (by omega)

/-! ## Texts -/

/-- A character that is neither a bracket nor a backslash has no part in it. -/
theorem closes_text (tags : List (List Char)) {c : Char} (bracket : c ≠ '[') (slash : c ≠ '\\')
    (cs : List Char) : closes tags (c :: cs) = closes tags cs := by
  have noSlashes : (c :: cs).takeWhile (· = '\\') = [] := by simp [slash]
  rw [closes, piecesFrom, noSlashes]
  simp only [List.length_nil, List.drop_zero, List.length_cons]
  split
  · next eq => exact absurd (List.cons.inj eq).1 bracket
  · exact closes_piecesFrom tags _ _ _ _ (Nat.lt_succ_self _) (Nat.lt_succ_self _)

theorem closes_append (tags : List (List Char)) {text : List Char}
    (noBracket : '[' ∉ text) (noSlash : '\\' ∉ text) (cs : List Char) :
    closes tags (text ++ cs) = closes tags cs := by
  induction text with
  | nil => rfl
  | cons c text ih =>
    rw [List.mem_cons, not_or] at noBracket noSlash
    rw [List.cons_append, closes_text tags (Ne.symm noBracket.1) (Ne.symm noSlash.1)]
    exact ih noBracket.2 noSlash.2

/-- A tag goes up to its closing bracket. -/
theorem tagBody_append (c : Char) (body : List Char) (starts : startsTag c = true)
    (noClosing : ']' ∉ c :: body) (noOpening : '[' ∉ c :: body) (rest : List Char) :
    tagBody? (c :: body ++ ']' :: rest) = some (c :: body, rest) := by
  have taken : (c :: (body ++ ']' :: rest)).takeWhile (fun d => d ≠ ']' && d ≠ '[') = c :: body := by
    rw [← List.cons_append, List.takeWhile_append_of_pos]
    · simp
    · intro d hd
      have other : d ≠ ']' ∧ d ≠ '[' := ⟨fun h => noClosing (h ▸ hd), fun h => noOpening (h ▸ hd)⟩
      simp [other]
  rw [List.cons_append, tagBody?, if_pos starts]
  dsimp only
  rw [taken, ← List.cons_append, List.drop_left]
  rfl

/-- A tag opens a style or closes one that is open. -/
theorem closes_tag (tags : List (List Char)) {cs body rest : List Char}
    (tag : tagBody? cs = some (body, rest)) :
    closes tags ('[' :: cs) =
      match (openTags tags 0 (tagOf body)).toOption with
      | some tags => closes tags rest
      | none => false := by
  have shorter := length_tagBody tag
  have noSlashes : ('[' :: cs).takeWhile (· = '\\') = [] := by simp
  rw [closes, piecesFrom, noSlashes]
  simp only [List.length_nil, List.drop_zero, tag, Nat.zero_mod, Nat.zero_div,
    List.replicate_zero, zero_ne_one, if_false, List.append_assoc, plainFrom_textPiece,
    plainFrom_tag]
  cases (openTags tags 0 (tagOf body)).toOption with
  | none => rfl
  | some tags =>
    exact closes_piecesFrom tags _ _ _ _ (by simp only [List.length_cons]; omega)
      (Nat.lt_succ_self _)

/-- Nothing is wrong with a text without brackets, whatever else is in it. -/
theorem closes_of_noBracket (tags : List (List Char)) {cs : List Char} (none : '[' ∉ cs) :
    closes tags cs = true := by
  have shown : ∀ fuel position (before cs : List Char), '[' ∉ cs →
      (plainFrom tags (piecesFrom position before fuel cs)).isOk = true := by
    intro fuel
    induction fuel with
    | zero =>
      intro position before cs _
      rw [piecesFrom]
      exact plainFrom_onlyText tags _
    | succ fuel ih =>
      intro position before cs none
      cases cs with
      | nil =>
        simp only [piecesFrom]
        exact plainFrom_onlyText tags _
      | cons c cs =>
        have later : '[' ∉ (c :: cs).drop ((c :: cs).takeWhile (· = '\\')).length :=
          fun h => none (List.mem_of_mem_drop h)
        rw [piecesFrom]
        dsimp only
        split
        · next eq =>
          rw [eq] at later
          exact absurd List.mem_cons_self later
        · split
          · exact ih _ _ _ fun h => none (List.mem_cons_of_mem _ h)
          · exact ih _ _ _ later
  exact shown _ _ _ _ none

theorem shows_of_noBracket {text : String} (none : '[' ∉ text.toList) : Shows text :=
  shows_iff.mpr (closes_of_noBracket [] none)

/-- A text that closes a tag before there is any cannot be shown. -/
theorem not_shows_of_closing {text : String} (before name after : List Char)
    (closing : text.toList = before ++ '[' :: '/' :: name ++ ']' :: after)
    (noBracket : '[' ∉ before) (noSlash : '\\' ∉ before)
    (noClosing : ']' ∉ name) (noOpening : '[' ∉ name) : ¬ Shows text := by
  have body := tagBody_append '/' name (by decide)
    (List.not_mem_cons_of_ne_of_not_mem (by decide) noClosing)
    (List.not_mem_cons_of_ne_of_not_mem (by decide) noOpening) after
  have slash : ∃ rest parameters, tagOf ('/' :: name) = ⟨'/' :: rest, parameters⟩ := by
    unfold tagOf
    simp only [List.takeWhile_cons]
    rw [if_pos (by decide)]
    split <;> exact ⟨_, _, rfl⟩
  obtain ⟨rest, parameters, tag⟩ := slash
  rw [shows_iff, closing, List.append_assoc, closes_append [] noBracket noSlash, List.cons_append,
    closes_tag [] body, tag, openTags_nil]
  exact Bool.false_ne_true

end ImportBoundary.Display.Markup
