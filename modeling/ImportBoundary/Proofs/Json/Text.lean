import ImportBoundary.Proofs.Json.Numbers

/-!
# JSON texts that are read back

`Json.text` writes a value with its names in their own order. Such a text is read as the value it was
written for (`parse_text`), whichever characters the writer shows as they are.
-/

namespace ImportBoundary.Json

open Text

/-! ## Texts -/

mutual

/-- The text of a value, with a blank after each comma and colon. -/
def text (shows : Alphabet) : Json → List Char
  | .null => "null".toList
  | .bool b => if b then "true".toList else "false".toList
  | .int n => writeInt n
  | .float x => writeFloat x
  | .str s => writeString shows s.toList
  | .arr items => '[' :: separated (itemTexts shows items) ++ [']']
  | .obj fields => '\x7b' :: separated (memberTexts shows fields) ++ ['\x7d']

def itemTexts (shows : Alphabet) : List Json → List (List Char)
  | [] => []
  | v :: rest => text shows v :: itemTexts shows rest

def memberTexts (shows : Alphabet) : List (String × Json) → List (List Char)
  | [] => []
  | (name, v) :: rest =>
    (writeString shows name.toList ++ ':' :: ' ' :: text shows v) :: memberTexts shows rest

end

/-- The values that are written for a text to be read: integers have few enough digits, other numbers
are of the format, and the names of an object differ. -/
inductive Writable : Json → Prop
  | null : Writable .null
  | bool (b : Bool) : Writable (.bool b)
  | int {n : Int} (short : (Nat.toDigits 10 n.natAbs).length ≤ Number.maxDigits) : Writable (.int n)
  | float {x : Binary64} (format : IsBinary64 x) : Writable (.float x)
  | str (s : String) : Writable (.str s)
  | arr {items : List Json} (each : ∀ v ∈ items, Writable v) : Writable (.arr items)
  | obj {fields : List (String × Json)} (names : (fields.map (·.1)).Nodup)
    (each : ∀ f ∈ fields, Writable f.2) : Writable (.obj fields)

theorem separated_cons (piece next : List Char) (pieces : List (List Char)) :
    separated (piece :: next :: pieces) = piece ++ ',' :: ' ' :: separated (next :: pieces) :=
  rfl

theorem itemTexts_eq (shows : Alphabet) (items : List Json) :
    itemTexts shows items = items.map (text shows) := by
  induction items with
  | nil => rfl
  | cons v rest ih => rw [itemTexts, ih, List.map_cons]

/-- A name and the text of its value. -/
def memberText (shows : Alphabet) (f : String × Json) : List Char :=
  writeString shows f.1.toList ++ ':' :: ' ' :: text shows f.2

theorem memberTexts_eq (shows : Alphabet) (fields : List (String × Json)) :
    memberTexts shows fields = fields.map (memberText shows) := by
  induction fields with
  | nil => rfl
  | cons f rest ih =>
    obtain ⟨name, v⟩ := f
    rw [memberTexts, ih, List.map_cons, memberText]

variable {shows : Alphabet} {fuel : Nat} {cs rest : List Char} {v : Json}

/-! ## Tokens -/

/-- The text starts with a visible ASCII character that closes nothing. -/
def StartsToken (cs : List Char) : Prop :=
  ∃ c rest, cs = c :: rest ∧ 0x20 < c.toNat ∧ c.toNat < 0x7F ∧ c ≠ ']' ∧ c ≠ '\x7d'

theorem isGap_eq_false {c : Char} (h : 0x20 < c.toNat) : isGap c = false := by
  rw [isGap, Bool.or_eq_false_iff, Bool.or_eq_false_iff, Bool.or_eq_false_iff]
  refine ⟨⟨⟨?_, ?_⟩, ?_⟩, ?_⟩ <;> rw [beq_eq_false_iff_ne] <;> rintro rfl <;> revert h <;> decide

theorem StartsToken.skipGap (h : StartsToken cs) : skipGap cs = cs := by
  obtain ⟨c, rest, rfl, visible, -⟩ := h
  exact List.dropWhile_cons_of_neg (by simp [isGap_eq_false visible])

theorem StartsToken.append (h : StartsToken cs) (rest : List Char) : StartsToken (cs ++ rest) := by
  obtain ⟨c, more, rfl, token⟩ := h
  exact ⟨c, more ++ rest, rfl, token⟩

theorem inScalar_bounds {c : Char} (h : inScalar c = true) : 0x20 < c.toNat ∧ c.toNat < 0x7F := by
  simp only [inScalar, Bool.or_eq_true, Bool.and_eq_true, decide_eq_true_eq] at h
  omega

theorem IsScalarText.exists_cons (h : IsScalarText v cs) :
    ∃ c rest, cs = c :: rest ∧ inScalar c = true := by
  obtain ⟨c, rest, rfl⟩ := List.exists_cons_of_ne_nil h.some_char
  exact ⟨c, rest, rfl, h.chars c (List.mem_cons_self ..)⟩

theorem IsScalarText.startsToken (h : IsScalarText v cs) : StartsToken cs := by
  obtain ⟨c, rest, rfl, scalar⟩ := h.exists_cons
  refine ⟨c, rest, rfl, (inScalar_bounds scalar).1, (inScalar_bounds scalar).2, ?_, ?_⟩ <;>
  · rintro rfl
    cases scalar

theorem startsToken_text (h : Writable v) : StartsToken (text shows v) := by
  cases h with
  | null => exact isScalarText_null.startsToken
  | bool b => exact (isScalarText_bool b).startsToken
  | int short => exact (isScalarText_writeInt short).startsToken
  | float format => exact (isScalarText_writeFloat format).startsToken
  | str s => exact ⟨'"', _, rfl, by decide⟩
  | arr _ => exact ⟨'[', _, rfl, by decide⟩
  | obj _ _ => exact ⟨'\x7b', _, rfl, by decide⟩

theorem startsToken_memberText (f : String × Json) : StartsToken (memberText shows f) :=
  ⟨'"', _, rfl, by decide⟩

theorem startsToken_separated {piece : List Char} {pieces : List (List Char)}
    (h : StartsToken piece) : StartsToken (separated (piece :: pieces)) := by
  cases pieces with
  | nil => exact h
  | cons next pieces => exact h.append _

/-! ## Characters -/

/-- The string is one of the strings or names in the value. -/
inductive HasString : Json → String → Prop
  | str (s : String) : HasString (.str s) s
  | item {items : List Json} {v : Json} {s : String} (h : v ∈ items) (inner : HasString v s) :
    HasString (.arr items) s
  | name {fields : List (String × Json)} {f : String × Json} (h : f ∈ fields) :
    HasString (.obj fields) f.1
  | value {fields : List (String × Json)} {f : String × Json} {s : String} (h : f ∈ fields)
    (inner : HasString f.2 s) : HasString (.obj fields) s

theorem forall_mem_separated_iff {P : Char → Prop} (comma : P ',' ∧ P ' ')
    {pieces : List (List Char)} :
    (∀ c ∈ separated pieces, P c) ↔ ∀ piece ∈ pieces, ∀ c ∈ piece, P c := by
  induction pieces with
  | nil => simp [separated]
  | cons piece pieces ih =>
    cases pieces with
    | nil => simp [separated]
    | cons next pieces =>
      rw [separated_cons, List.forall_mem_append, List.forall_mem_cons, List.forall_mem_cons, ih,
        List.forall_mem_cons (a := piece)]
      simp [comma]

/-- Apart from visible ASCII characters and blanks, the characters of a text are those that are
written for the characters of its strings. -/
theorem forall_mem_text_iff {P : Char → Prop} (known : ∀ {c}, IsAsciiText c → P c)
    (h : Writable v) : (∀ c ∈ text shows v, P c) ↔
      ∀ s, HasString v s → ∀ c ∈ s.toList, ∀ d ∈ writeChar shows c, P d := by
  have scalar {v : Json} (t : IsScalarText v (text shows v)) (none : ∀ s, ¬ HasString v s) :
      (∀ c ∈ text shows v, P c) ↔
        ∀ s, HasString v s → ∀ c ∈ s.toList, ∀ d ∈ writeChar shows c, P d := by
    refine iff_of_true (fun c hc => ?_) fun s has => absurd has (none s)
    exact known ⟨Nat.le_of_lt (inScalar_bounds (t.chars c hc)).1, (inScalar_bounds (t.chars c hc)).2⟩
  have string (s : String) : (∀ c ∈ writeString shows s.toList, P c) ↔
      ∀ c ∈ s.toList, ∀ d ∈ writeChar shows c, P d := by
    rw [writeString, List.cons_append, List.forall_mem_cons, List.forall_mem_append,
      List.forall_mem_flatMap]
    simp [known (c := '"') (by decide)]
  induction h with
  | null => exact scalar isScalarText_null nofun
  | bool b => exact scalar (isScalarText_bool b) nofun
  | int short => exact scalar (isScalarText_writeInt short) nofun
  | float format => exact scalar (isScalarText_writeFloat format) nofun
  | str s =>
    rw [text, string]
    refine ⟨?_, fun h => h s (.str s)⟩
    rintro written s ⟨⟩
    exact written
  | @arr items each ih =>
    rw [text, itemTexts_eq, List.cons_append, List.forall_mem_cons, List.forall_mem_append,
      forall_mem_separated_iff ⟨known (by decide), known (by decide)⟩, List.forall_mem_map]
    simp only [known (c := '[') (by decide), known (c := ']') (by decide), List.mem_singleton,
      forall_eq, and_true, true_and]
    constructor
    · rintro written s (_ | ⟨hv, inner⟩)
      exact (ih _ hv).mp (written _ hv) s inner
    · exact fun written v hv => (ih v hv).mpr fun s inner => written s (.item hv inner)
  | @obj fields names each ih =>
    rw [text, memberTexts_eq, List.cons_append, List.forall_mem_cons, List.forall_mem_append,
      forall_mem_separated_iff ⟨known (by decide), known (by decide)⟩, List.forall_mem_map]
    simp only [memberText, List.forall_mem_append, List.forall_mem_cons, string,
      known (c := '\x7b') (by decide), known (c := '\x7d') (by decide), known (c := ':') (by decide),
      known (c := ' ') (by decide), List.mem_singleton, forall_eq, and_true, true_and]
    constructor
    · intro written s has
      cases has with
      | name hf => exact (written _ hf).1
      | value hf inner => exact (ih _ hf).mp (written _ hf).2 s inner
    · exact fun written f hf => ⟨written f.1 (.name hf),
        (ih f hf).mpr fun s inner => written s (.value hf inner)⟩

/-- No text has a control in it. -/
theorem visible_of_mem_text (plain : ∀ c, shows c = true → 0x20 ≤ c.toNat) (h : Writable v)
    {c : Char} (hc : c ∈ text shows v) : 0x20 ≤ c.toNat := by
  refine (forall_mem_text_iff (fun visible => visible.1) h).mpr (fun s _ c _ d hd => ?_) c hc
  rcases writeChar_cases shows c with ascii | ⟨alone, shown⟩
  · exact (ascii d hd).1
  · rw [alone, List.mem_singleton] at hd
    exact hd ▸ plain c shown

/-! ## Steps of the reader -/

theorem readValue_scalar {t : List Char} (h : IsScalarText v t) (ends : EndsNumber rest) :
    readValue (fuel + 1) (t ++ rest) = .ok (v, rest) := by
  have reads := h.reads rest ends
  obtain ⟨c, more, rfl, scalar⟩ := h.exists_cons
  rw [readValue]
  · exact reads
  all_goals
    rintro cs same
    obtain ⟨rfl, -⟩ := List.cons.inj same
    cases scalar

theorem readValue_str {s : List Char} (h : readString ('"' :: cs) cs = .ok (s, rest)) :
    readValue (fuel + 1) ('"' :: cs) = .ok (.str (String.ofList s), rest) := by
  simp only [readValue, h]

theorem readValue_arr (token : StartsToken cs) :
    readValue (fuel + 1) ('[' :: cs) = (readItems fuel cs).map fun r => (.arr r.1, r.2) := by
  have skip := token.skipGap
  obtain ⟨c, more, rfl, -, -, bracket, -⟩ := token
  simp only [readValue, skip]
  split
  · next same => exact absurd (List.cons.inj same).1 bracket
  · cases readItems fuel (c :: more) <;> rfl

theorem readValue_obj (token : StartsToken cs) :
    readValue (fuel + 1) ('\x7b' :: cs) =
      (readMembers fuel cs).map fun r => (.obj (ofMembers r.1), r.2) := by
  have skip := token.skipGap
  obtain ⟨c, more, rfl, -, -, -, brace⟩ := token
  simp only [readValue, skip]
  split
  · next same => exact absurd (List.cons.inj same).1 brace
  · cases readMembers fuel (c :: more) <;> rfl

theorem skipGap_blank (token : StartsToken cs) : skipGap (' ' :: cs) = cs :=
  token.skipGap

theorem readItems_last (h : readValue fuel cs = .ok (v, ']' :: rest)) :
    readItems (fuel + 1) cs = .ok ([v], rest) := by
  have skip : skipGap (']' :: rest) = ']' :: rest := rfl
  simp only [readItems, h, skip]

theorem readItems_next (h : readValue fuel cs = .ok (v, ',' :: ' ' :: rest))
    (token : StartsToken rest) :
    readItems (fuel + 1) cs = (readItems fuel rest).map fun r => (v :: r.1, r.2) := by
  have skip : skipGap (',' :: ' ' :: rest) = ',' :: ' ' :: rest := rfl
  simp only [readItems, h, skip, skipGap_blank token]
  cases readItems fuel rest <;> rfl

section

variable {s : List Char} (name : readString ('"' :: cs) cs = .ok (s, ':' :: ' ' :: rest))
  (token : StartsToken rest)

include name token

theorem readMembers_last {rest' : List Char} (h : readValue fuel rest = .ok (v, '\x7d' :: rest')) :
    readMembers (fuel + 1) ('"' :: cs) = .ok ([(String.ofList s, v)], rest') := by
  have colon : skipGap (':' :: ' ' :: rest) = ':' :: ' ' :: rest := rfl
  have skip : skipGap ('\x7d' :: rest') = '\x7d' :: rest' := rfl
  simp only [readMembers, name, colon, skipGap_blank token, h, skip]

theorem readMembers_next {rest' : List Char} (h : readValue fuel rest = .ok (v, ',' :: ' ' :: rest'))
    (more : StartsToken rest') :
    readMembers (fuel + 1) ('"' :: cs) =
      (readMembers fuel rest').map fun r => ((String.ofList s, v) :: r.1, r.2) := by
  have colon : skipGap (':' :: ' ' :: rest) = ':' :: ' ' :: rest := rfl
  have skip : skipGap (',' :: ' ' :: rest') = ',' :: ' ' :: rest' := rfl
  simp only [readMembers, name, colon, skipGap_blank token, h, skip, skipGap_blank more]
  cases readMembers fuel rest' <;> rfl

end

/-! ## Values that are read back -/

theorem endsNumber_comma (cs : List Char) : EndsNumber (',' :: cs) := by
  intro c hc
  obtain rfl : ',' = c := Option.some.inj hc
  decide

theorem endsNumber_bracket (cs : List Char) : EndsNumber (']' :: cs) := by
  intro c hc
  obtain rfl : ']' = c := Option.some.inj hc
  decide

theorem endsNumber_brace (cs : List Char) : EndsNumber ('\x7d' :: cs) := by
  intro c hc
  obtain rfl : '\x7d' = c := Option.some.inj hc
  decide

/-- From its text, with enough fuel, the value is read. -/
def ReadsBack (shows : Alphabet) (v : Json) : Prop :=
  ∀ fuel rest, (text shows v).length < fuel → EndsNumber rest →
    readValue fuel (text shows v ++ rest) = .ok (v, rest)

theorem IsScalarText.readsBack (h : IsScalarText v (text shows v)) : ReadsBack shows v := by
  intro fuel rest enough ends
  obtain ⟨fuel, rfl⟩ : ∃ less, fuel = less + 1 := ⟨fuel - 1, by omega⟩
  exact readValue_scalar h ends

/-- The items of an array, one after the other. -/
theorem readItems_separated {items : List Json} (some_item : items ≠ [])
    (writable : ∀ v ∈ items, Writable v) (each : ∀ v ∈ items, ReadsBack shows v)
    (rest : List Char) (enough : (separated (items.map (text shows))).length + 1 < fuel) :
    readItems fuel (separated (items.map (text shows)) ++ ']' :: rest) = .ok (items, rest) := by
  induction items generalizing fuel with
  | nil => exact absurd rfl some_item
  | cons v items ih =>
    obtain ⟨fuel, rfl⟩ : ∃ less, fuel = less + 1 := ⟨fuel - 1, by omega⟩
    have first := each v (List.mem_cons_self ..)
    -- a bracket or a comma comes next, and neither goes on with a number
    cases items with
    | nil =>
      exact readItems_last
        (first fuel _ (by simpa [separated] using enough) (endsNumber_bracket rest))
    | cons w items =>
      simp only [List.map_cons, separated_cons, List.append_assoc, List.cons_append,
        List.length_append, List.length_cons] at enough ⊢
      have token : StartsToken (separated (text shows w :: items.map (text shows)) ++ ']' :: rest) :=
        (startsToken_separated (startsToken_text (writable w (by simp)))).append _
      rw [readItems_next (first fuel _ (by omega) (endsNumber_comma _)) token]
      have others : readItems fuel (separated ((w :: items).map (text shows)) ++ ']' :: rest) = _ :=
        ih (by simp) (fun v hv => writable v (List.mem_cons_of_mem _ hv))
          (fun v hv => each v (List.mem_cons_of_mem _ hv)) (by simp only [List.map_cons]; omega)
      rw [List.map_cons] at others
      rw [others]
      rfl

/-- The members of an object, one after the other. -/
theorem readMembers_separated (plain : ∀ c, shows c = true → 0x20 ≤ c.toNat)
    {fields : List (String × Json)} (some_field : fields ≠ [])
    (writable : ∀ f ∈ fields, Writable f.2) (each : ∀ f ∈ fields, ReadsBack shows f.2)
    (rest : List Char) (enough : (separated (fields.map (memberText shows))).length + 1 < fuel) :
    readMembers fuel (separated (fields.map (memberText shows)) ++ '\x7d' :: rest) =
      .ok (fields, rest) := by
  induction fields generalizing fuel with
  | nil => exact absurd rfl some_field
  | cons f fields ih =>
    obtain ⟨fuel, rfl⟩ : ∃ less, fuel = less + 1 := ⟨fuel - 1, by omega⟩
    have first := each f (List.mem_cons_self ..)
    have token (cs : List Char) : StartsToken (text shows f.2 ++ cs) :=
      (startsToken_text (writable f (List.mem_cons_self ..))).append cs
    have name (opening cs : List Char) : readString opening
        (f.1.toList.flatMap (writeChar shows) ++ '"' :: ':' :: ' ' :: (text shows f.2 ++ cs)) =
          .ok (f.1.toList, ':' :: ' ' :: (text shows f.2 ++ cs)) := readString_write plain _ _
    cases fields with
    | nil =>
      simp only [List.map_cons, List.map_nil, separated, memberText, writeString, List.cons_append,
        List.append_assoc, List.nil_append, List.length_cons, List.length_append] at enough ⊢
      have last := readMembers_last (name _ _) (token _)
        (first fuel _ (by omega) (endsNumber_brace rest))
      rw [String.ofList_toList] at last
      exact last
    | cons g fields =>
      have next : StartsToken (separated ((g :: fields).map (memberText shows)) ++ '\x7d' :: rest) :=
        (startsToken_separated (startsToken_memberText g)).append _
      have others : readMembers fuel
          (separated ((g :: fields).map (memberText shows)) ++ '\x7d' :: rest) = _ :=
        ih (by simp) (fun f hf => writable f (List.mem_cons_of_mem _ hf))
          (fun f hf => each f (List.mem_cons_of_mem _ hf)) (by
            simp only [List.map_cons, separated_cons, List.length_append, List.length_cons] at enough ⊢
            omega)
      rw [List.map_cons, List.map_cons, separated_cons, ← List.map_cons] at enough ⊢
      generalize separated ((g :: fields).map (memberText shows)) = more at *
      simp only [memberText, writeString, List.cons_append, List.append_assoc, List.nil_append,
        List.length_cons, List.length_append] at enough ⊢
      rw [readMembers_next (name _ _) (token _) (first fuel _ (by omega) (endsNumber_comma _)) next,
        others, String.ofList_toList]
      rfl

theorem ofMembers_of_nodup {fields : List (String × Json)} (names : (fields.map (·.1)).Nodup) :
    ofMembers fields = fields := by
  have step (before : List (String × Json)) (names : ((before ++ fields).map (·.1)).Nodup) :
      fields.foldl (fun fs m => put fs m.1 m.2) before = before ++ fields := by
    induction fields generalizing before with
    | nil => simp
    | cons f fields ih =>
      have new : put before f.1 f.2 = before ++ [f] := by
        rw [put, if_neg]
        rw [List.map_append, List.nodup_append] at names
        intro there
        obtain ⟨g, hg, same⟩ := List.any_eq_true.mp there
        exact names.2.2 g.1 (List.mem_map_of_mem hg) f.1 (by simp) (beq_iff_eq.mp same)
      rw [List.foldl_cons, new, ih (by simp_all) (before ++ [f]) (by simpa using names)]
      simp
  exact step [] names

variable (plain : ∀ c, shows c = true → 0x20 ≤ c.toNat)

include plain

theorem Writable.readsBack (h : Writable v) : ReadsBack shows v := by
  induction h with
  | null => exact isScalarText_null.readsBack
  | bool b => exact (isScalarText_bool b).readsBack
  | int short => exact (isScalarText_writeInt short).readsBack
  | float format => exact (isScalarText_writeFloat format).readsBack
  | str s =>
    intro fuel rest enough ends
    obtain ⟨fuel, rfl⟩ : ∃ less, fuel = less + 1 := ⟨fuel - 1, by omega⟩
    rw [text, writeString, List.cons_append, List.cons_append, List.append_assoc,
      List.singleton_append, readValue_str (readString_write plain s.toList rest),
      String.ofList_toList]
  | @arr items each ih =>
    intro fuel rest enough ends
    obtain ⟨fuel, rfl⟩ : ∃ less, fuel = less + 1 := ⟨fuel - 1, by omega⟩
    rw [text, itemTexts_eq] at enough ⊢
    cases items with
    | nil => rfl
    | cons v items =>
      simp only [List.cons_append, List.append_assoc, List.nil_append, List.length_cons,
        List.length_append, List.length_nil] at enough ⊢
      rw [readValue_arr, readItems_separated (by simp) each ih rest (by omega)]
      · rfl
      · exact (startsToken_separated (startsToken_text (each v (by simp)))).append _
  | @obj fields names each ih =>
    intro fuel rest enough ends
    obtain ⟨fuel, rfl⟩ : ∃ less, fuel = less + 1 := ⟨fuel - 1, by omega⟩
    rw [text, memberTexts_eq] at enough ⊢
    cases fields with
    | nil => rfl
    | cons f fields =>
      simp only [List.cons_append, List.append_assoc, List.nil_append, List.length_cons,
        List.length_append, List.length_nil] at enough ⊢
      rw [readValue_obj, readMembers_separated plain (by simp) each ih rest (by omega), Except.map,
        ofMembers_of_nodup names]
      exact (startsToken_separated (startsToken_memberText f)).append _

omit plain in
/-- What starts with an ASCII character starts with no byte order mark. -/
theorem readDocument_eq {c : Char} (ascii : c.toNat < 0x7F) (cs : List Char) :
    readDocument (c :: cs) =
      match readValue (2 * (c :: cs).length + 1) (skipGap (c :: cs)) with
      | .error e => .error e
      | .ok (v, rest) =>
        match skipGap rest with
        | [] => .ok v
        | rest => .error (.lacks .endOfText rest) := by
  have noMark : c ≠ '\uFEFF' := by
    rintro rfl
    exact absurd ascii (by decide)
  unfold readDocument
  split
  · next same => exact absurd (List.cons.inj same).1 noMark
  · rfl

/-- From its text a value is read. -/
theorem parse_text (h : Writable v) : parse (text shows v) = .ok v := by
  have token : StartsToken (text shows v) := startsToken_text h
  have read := h.readsBack plain (2 * (text shows v).length + 1) [] (by omega) nofun
  rw [List.append_nil] at read
  have skip := token.skipGap
  obtain ⟨c, rest, same, -, ascii, -⟩ := token
  rw [same] at read skip ⊢
  rw [parse, readDocument_eq ascii, skip, read]
  rfl

end ImportBoundary.Json
