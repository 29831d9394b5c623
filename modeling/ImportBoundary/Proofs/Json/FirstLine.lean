import ImportBoundary.Proofs.Json.Text
import ImportBoundary.Proofs.Text.Lines

/-!
# JSON texts that are cut off at a line end

A text that shows everything but the controls has a line end in it exactly if one of its strings has
a separator (`unbroken_text_iff`). What comes before that line end stops inside of a string, so it is
not read (`parse_firstLine`).
-/

namespace ImportBoundary.Json

open Text

variable {shows : Alphabet} {fuel : Nat} {cs rest : List Char} {v : Json}

/-! ## Characters -/

theorem isLineEnd_eq_false {c : Char} (ascii : IsAsciiText c) : isLineEnd c = false := by
  obtain ⟨visible, below⟩ := ascii
  rw [← Bool.not_eq_true]
  simp only [isLineEnd, Bool.or_eq_true, Bool.and_eq_true, decide_eq_true_eq, beq_iff_eq]
  omega

theorem IsScalarText.unbroken (h : IsScalarText v cs) : Unbroken cs := fun c hc => by
  obtain ⟨visible, below⟩ := inScalar_bounds (h.chars c hc)
  exact isLineEnd_eq_false ⟨Nat.le_of_lt visible, below⟩

/-- A character is written without a line end, unless it is one and stands for itself. -/
theorem unbroken_writeChar_or (shows : Alphabet) (c : Char) : Unbroken (writeChar shows c) ∨
    writeChar shows c = [c] ∧ isLineEnd c = true ∧ shows c = true := by
  rcases writeChar_cases shows c with ascii | ⟨alone, shown⟩
  · exact .inl fun d hd => isLineEnd_eq_false (ascii d hd)
  · cases ends : isLineEnd c with
    | false => exact .inl (alone ▸ unbroken_cons.mpr ⟨ends, nofun⟩)
    | true => exact .inr ⟨alone, rfl, shown⟩

/-- Up to a line end a string is written as another string. -/
theorem exists_firstLine_flatMap (shows : Alphabet) (s : List Char) :
    ∃ t : List Char, firstLine (s.flatMap (writeChar shows)) = t.flatMap (writeChar shows) := by
  induction s with
  | nil => exact ⟨[], rfl⟩
  | cons c s ih =>
    obtain ⟨t, same⟩ := ih
    rw [List.flatMap_cons]
    rcases unbroken_writeChar_or shows c with unbroken | ⟨alone, ends, -⟩
    · exact ⟨c :: t, by rw [firstLine_append_of_unbroken unbroken, same, List.flatMap_cons]⟩
    · refine ⟨[], ?_⟩
      rw [alone, List.singleton_append, firstLine, List.takeWhile_cons_of_neg (by simp [ends])]
      rfl

/-! ## Steps that fail -/

theorem lacks_readItems (h : Lacks (readValue fuel cs)) : Lacks (readItems (fuel + 1) cs) := by
  obtain ⟨defect, rest, failed⟩ := h
  exact ⟨defect, rest, by simp only [readItems, failed]⟩

theorem lacks_readMembers_name (h : Lacks (readString ('"' :: cs) cs)) :
    Lacks (readMembers (fuel + 1) ('"' :: cs)) := by
  obtain ⟨defect, rest, failed⟩ := h
  exact ⟨defect, rest, by simp only [readMembers, failed]⟩

theorem lacks_readMembers_value {s : List Char}
    (name : readString ('"' :: cs) cs = .ok (s, ':' :: ' ' :: rest)) (token : StartsToken rest)
    (h : Lacks (readValue fuel rest)) : Lacks (readMembers (fuel + 1) ('"' :: cs)) := by
  have colon : skipGap (':' :: ' ' :: rest) = ':' :: ' ' :: rest := rfl
  obtain ⟨defect, left, failed⟩ := h
  exact ⟨defect, left, by simp only [readMembers, name, colon, skipGap_blank token, failed]⟩

/-! ## Values that are cut off -/

theorem memberText_append (f : String × Json) (more : List Char) :
    memberText shows f ++ more =
      '"' :: (f.1.toList.flatMap (writeChar shows) ++ '"' :: ':' :: ' ' ::
        (text shows f.2 ++ more)) := by
  simp [memberText, writeString]

theorem StartsToken.firstLine (h : StartsToken cs) : StartsToken (firstLine cs) := by
  obtain ⟨c, more, rfl, visible, ascii, closes⟩ := h
  have inside := isLineEnd_eq_false ⟨Nat.le_of_lt visible, ascii⟩
  exact ⟨c, Text.firstLine more, firstLine_cons inside more, visible, ascii, closes⟩

/-- Where the value's text has a line end, what comes before it is no value. -/
def CutShort (shows : Alphabet) (v : Json) : Prop :=
  ¬ Unbroken (text shows v) → ∀ fuel, 2 * (firstLine (text shows v)).length < fuel →
    Lacks (readValue fuel (firstLine (text shows v)))

theorem IsScalarText.cutShort (h : IsScalarText v (text shows v)) : CutShort shows v :=
  fun broken => absurd h.unbroken broken

theorem lacks_readItems_separated {items : List Json} (writable : ∀ v ∈ items, Writable v)
    (reads : ∀ v ∈ items, ReadsBack shows v) (cut : ∀ v ∈ items, CutShort shows v)
    (broken : ¬ Unbroken (separated (items.map (text shows))))
    (enough : 2 * (firstLine (separated (items.map (text shows)))).length + 1 < fuel) :
    Lacks (readItems fuel (firstLine (separated (items.map (text shows))))) := by
  induction items generalizing fuel with
  | nil => exact absurd nofun broken
  | cons v items ih =>
    obtain ⟨fuel, rfl⟩ : ∃ less, fuel = less + 1 := ⟨fuel - 1, by omega⟩
    have first := cut v (List.mem_cons_self ..)
    cases items with
    | nil => exact lacks_readItems (first broken fuel (by simpa [separated] using enough))
    | cons w items =>
      simp only [List.map_cons, separated_cons] at broken enough ⊢
      rw [unbroken_append, unbroken_cons, unbroken_cons] at broken
      -- an item without a line end is read, and the text is cut off after it
      by_cases unbroken : Unbroken (text shows v)
      · rw [firstLine_append_of_unbroken unbroken, firstLine_cons rfl, firstLine_cons rfl] at enough ⊢
        simp only [List.length_append, List.length_cons] at enough
        have token : StartsToken (firstLine (separated (text shows w :: items.map (text shows)))) :=
          (startsToken_separated (startsToken_text (writable w (by simp)))).firstLine
        rw [readItems_next (reads v (by simp) fuel _ (by omega) (endsNumber_comma _)) token]
        have later : Lacks (readItems fuel (firstLine (separated ((w :: items).map (text shows))))) :=
          ih (fun v hv => writable v (List.mem_cons_of_mem _ hv))
            (fun v hv => reads v (List.mem_cons_of_mem _ hv))
            (fun v hv => cut v (List.mem_cons_of_mem _ hv))
            (fun rest => broken ⟨unbroken, rfl, rfl, rest⟩)
            (by simp only [List.map_cons]; omega)
        exact later.map _
      · rw [firstLine_append_of_not_unbroken unbroken] at enough ⊢
        exact lacks_readItems (first unbroken fuel (by omega))

section

variable (plain : ∀ c, shows c = true → 0x20 ≤ c.toNat)

include plain

/-- A name that is cut off, and whatever the text after it. -/
theorem lacks_readString_firstLine (opening s rest : List Char)
    (broken : ¬ Unbroken (s.flatMap (writeChar shows))) :
    Lacks (readString opening (firstLine (s.flatMap (writeChar shows) ++ rest))) := by
  obtain ⟨t, same⟩ := exists_firstLine_flatMap shows s
  rw [firstLine_append_of_not_unbroken broken, same]
  exact lacks_readString_write plain t

theorem lacks_readMembers_member {f : String × Json} (writable : Writable f.2)
    (cut : CutShort shows f.2) (broken : ¬ Unbroken (memberText shows f))
    (enough : 2 * (firstLine (memberText shows f)).length < fuel) :
    Lacks (readMembers (fuel + 1) (firstLine (memberText shows f))) := by
  have shape : memberText shows f ++ [] = _ := memberText_append f []
  rw [List.append_nil, List.append_nil] at shape
  rw [shape] at broken enough ⊢
  rw [firstLine_cons rfl] at enough ⊢
  by_cases unbroken : Unbroken (f.1.toList.flatMap (writeChar shows))
  · rw [unbroken_cons, unbroken_append, unbroken_cons, unbroken_cons, unbroken_cons] at broken
    rw [firstLine_append_of_unbroken unbroken, firstLine_cons rfl, firstLine_cons rfl,
      firstLine_cons rfl] at enough ⊢
    simp only [List.length_append, List.length_cons] at enough
    exact lacks_readMembers_value (readString_write plain _ _) (startsToken_text writable).firstLine
      (cut (fun value => broken ⟨rfl, unbroken, rfl, rfl, rfl, value⟩) fuel (by omega))
  · exact lacks_readMembers_name (lacks_readString_firstLine plain _ _ _ unbroken)

theorem lacks_readMembers_separated {fields : List (String × Json)}
    (writable : ∀ f ∈ fields, Writable f.2) (reads : ∀ f ∈ fields, ReadsBack shows f.2)
    (cut : ∀ f ∈ fields, CutShort shows f.2)
    (broken : ¬ Unbroken (separated (fields.map (memberText shows))))
    (enough : 2 * (firstLine (separated (fields.map (memberText shows)))).length + 1 < fuel) :
    Lacks (readMembers fuel (firstLine (separated (fields.map (memberText shows))))) := by
  induction fields generalizing fuel with
  | nil => exact absurd nofun broken
  | cons f fields ih =>
    obtain ⟨fuel, rfl⟩ : ∃ less, fuel = less + 1 := ⟨fuel - 1, by omega⟩
    have first : ¬ Unbroken (memberText shows f) → 2 * (firstLine (memberText shows f)).length < fuel →
        Lacks (readMembers (fuel + 1) (firstLine (memberText shows f))) :=
      lacks_readMembers_member plain (writable f (List.mem_cons_self ..))
        (cut f (List.mem_cons_self ..))
    cases fields with
    | nil => exact first broken (by simpa [separated] using enough)
    | cons g fields =>
      rw [List.map_cons, List.map_cons, separated_cons, ← List.map_cons] at broken enough ⊢
      by_cases unbroken : Unbroken (memberText shows f)
      · rw [unbroken_append, unbroken_cons, unbroken_cons] at broken
        rw [firstLine_append_of_unbroken unbroken, firstLine_cons rfl, firstLine_cons rfl] at enough ⊢
        have next : StartsToken (firstLine (separated ((g :: fields).map (memberText shows)))) :=
          (startsToken_separated (startsToken_memberText g)).firstLine
        have later : Lacks (readMembers fuel
            (firstLine (separated ((g :: fields).map (memberText shows))))) :=
          ih (fun f hf => writable f (List.mem_cons_of_mem _ hf))
            (fun f hf => reads f (List.mem_cons_of_mem _ hf))
            (fun f hf => cut f (List.mem_cons_of_mem _ hf))
            (fun rest => broken ⟨unbroken, rfl, rfl, rest⟩)
            (by simp only [List.length_append, List.length_cons] at enough; omega)
        rw [memberText_append] at enough ⊢
        simp only [List.length_append, List.length_cons] at enough
        rw [readMembers_next (readString_write plain _ _)
          ((startsToken_text (writable f (by simp))).append _)
          (reads f (by simp) fuel _ (by omega) (endsNumber_comma _)) next]
        exact later.map _
      · rw [firstLine_append_of_not_unbroken unbroken] at enough ⊢
        exact first unbroken (by omega)

theorem Writable.cutShort (h : Writable v) : CutShort shows v := by
  induction h with
  | null => exact isScalarText_null.cutShort
  | bool b => exact (isScalarText_bool b).cutShort
  | int short => exact (isScalarText_writeInt short).cutShort
  | float format => exact (isScalarText_writeFloat format).cutShort
  | str s =>
    intro broken fuel enough
    obtain ⟨fuel, rfl⟩ : ∃ less, fuel = less + 1 := ⟨fuel - 1, by omega⟩
    obtain ⟨inner, cut⟩ := firstLine_enclosed rfl rfl broken
    obtain ⟨t, same⟩ := exists_firstLine_flatMap shows s.toList
    rw [text, writeString, cut, same]
    have cut_off : Lacks (readString ('"' :: t.flatMap (writeChar shows)) _) :=
      lacks_readString_write plain t
    obtain ⟨defect, rest, failed⟩ := cut_off
    exact ⟨defect, rest, by simp only [readValue, failed]⟩
  | @arr items each ih =>
    intro broken fuel enough
    obtain ⟨fuel, rfl⟩ : ∃ less, fuel = less + 1 := ⟨fuel - 1, by omega⟩
    rw [text, itemTexts_eq] at broken enough ⊢
    obtain ⟨inner, cut⟩ := firstLine_enclosed rfl rfl broken
    rw [cut, List.length_cons] at enough
    have token : StartsToken (firstLine (separated (items.map (text shows)))) := by
      cases items with
      | nil => exact absurd unbroken_nil inner
      | cons v items =>
        exact (startsToken_separated (startsToken_text (each v (List.mem_cons_self ..)))).firstLine
    have items : Lacks (readItems fuel (firstLine (separated (items.map (text shows))))) :=
      lacks_readItems_separated each (fun v hv => (each v hv).readsBack plain) ih inner (by omega)
    rw [cut, readValue_arr token]
    exact items.map _
  | @obj fields names each ih =>
    intro broken fuel enough
    obtain ⟨fuel, rfl⟩ : ∃ less, fuel = less + 1 := ⟨fuel - 1, by omega⟩
    rw [text, memberTexts_eq] at broken enough ⊢
    obtain ⟨inner, cut⟩ := firstLine_enclosed rfl rfl broken
    rw [cut, List.length_cons] at enough
    have token : StartsToken (firstLine (separated (fields.map (memberText shows)))) := by
      cases fields with
      | nil => exact absurd unbroken_nil inner
      | cons f fields => exact (startsToken_separated (startsToken_memberText f)).firstLine
    have members : Lacks (readMembers fuel (firstLine (separated (fields.map (memberText shows))))) :=
      lacks_readMembers_separated plain each (fun f hf => (each f hf).readsBack plain) ih inner
        (by omega)
    rw [cut, readValue_obj token]
    exact members.map _

/-- What comes before a line end in the text of a value is malformed. -/
theorem parse_firstLine (h : Writable v) (broken : ¬ Unbroken (text shows v)) :
    ∃ fault, parse (firstLine (text shows v)) = .error (.malformed fault) := by
  have token : StartsToken (firstLine (text shows v)) := (startsToken_text h).firstLine
  obtain ⟨defect, left, cut⟩ :=
    h.cutShort plain broken (2 * (firstLine (text shows v)).length + 1) (by omega)
  have skip := token.skipGap
  obtain ⟨c, rest, same, -, ascii, -⟩ := token
  rw [same] at cut skip ⊢
  have document : readDocument (c :: rest) = .error (.lacks defect left) := by
    rw [readDocument_eq ascii, skip, cut]
  exact ⟨_, by rw [parse, document]; rfl⟩

end

/-! ## Separators -/

/-- The line ends that a JSON string may hold as they are. -/
def isSeparator (c : Char) : Bool :=
  c.toNat == 0x85 || c.toNat == 0x2028 || c.toNat == 0x2029

/-- There is a separator in one of the strings or names. -/
def HasSeparator (v : Json) : Prop :=
  ∃ s, HasString v s ∧ ∃ c ∈ s.toList, isSeparator c = true

theorem isSeparator_iff {c : Char} :
    isSeparator c = true ↔ isLineEnd c = true ∧ allButControls c = true := by
  simp only [isSeparator, isLineEnd, allButControls, Bool.or_eq_true, Bool.and_eq_true,
    decide_eq_true_eq, beq_iff_eq]
  omega

theorem writeChar_separator {c : Char} (h : isSeparator c = true) :
    writeChar allButControls c = [c] := by
  have apart (d : Char) (other : isSeparator d = false) : c ≠ d := by
    rintro rfl
    rw [h] at other
    cases other
  simp [writeChar, apart '"' rfl, apart '\\' rfl, apart '\n' rfl, apart '\r' rfl, apart '\t' rfl,
    apart '\x08' rfl, apart '\x0c' rfl, (isSeparator_iff.mp h).2]

theorem unbroken_writeChar_iff {c : Char} :
    Unbroken (writeChar allButControls c) ↔ ¬ isSeparator c = true := by
  constructor
  · intro unbroken separator
    rw [writeChar_separator separator, unbroken_cons, (isSeparator_iff.mp separator).1] at unbroken
    cases unbroken.1
  · intro plain
    rcases unbroken_writeChar_or allButControls c with unbroken | ⟨-, ends, shown⟩
    · exact unbroken
    · exact absurd (isSeparator_iff.mpr ⟨ends, shown⟩) plain

/-- A text has a line end in it exactly if one of its strings has a separator. -/
theorem unbroken_text_iff (h : Writable v) :
    Unbroken (text allButControls v) ↔ ¬ HasSeparator v := by
  have each {c : Char} : (∀ d ∈ writeChar allButControls c, isLineEnd d = false) ↔
      ¬ isSeparator c = true := unbroken_writeChar_iff
  rw [Unbroken, forall_mem_text_iff isLineEnd_eq_false h, HasSeparator]
  simp only [each, not_exists, not_and]

end ImportBoundary.Json
