import ImportBoundary.Failure
import ImportBoundary.Proofs.Edge.Record
import ImportBoundary.Proofs.Number.Integer

/-!
# Locations of records

A line and a column are meant to be integers: a record with any other value there is no edge, told at
its line, and an edge has the location that its record gives (`IsAsDocumented`). Records whose line and
column are not truth values are treated like this but for six cases (`Overlooked`): what is read drops
fractions, stops at infinities, does not look at a column without a line, counts an empty text, list or
object as column zero, and refuses texts of too many digits. Main statement: `isAsDocumented_iff`.
-/

namespace ImportBoundary

open Number (IsIntegerText signedValue maxDigits)

/-! ## Values as integers -/

/-- The number is an integer. -/
def Binary64.IsInteger (n : Int) : Binary64 → Prop
  | .finite negative m e =>
    (if negative then -(m : Int) else m) * Nat.pow 2 e.toNat = n * Nat.pow 2 (-e).toNat
  | _ => False

namespace Json

/-- The value is an integer, a number equal to one, or a text that denotes one. -/
inductive Denotes : Json → Int → Prop
  | int (n : Int) : Denotes (.int n) n
  | float {x : Binary64} {n : Int} (h : x.IsInteger n) : Denotes (.float x) n
  | text {s : String} {negative : Bool} {ds : List Nat} (h : IsIntegerText s.toList negative ds) :
    Denotes (.str s) (signedValue negative ds)

/-- The value is a text that denotes an integer of more digits than are read. -/
inductive IsLong : Json → Prop
  | text {s : String} {negative : Bool} {ds : List Nat} (h : IsIntegerText s.toList negative ds)
    (long : maxDigits < ds.length) : IsLong (.str s)

/-- The value is a number between two integers. -/
inductive HasFraction : Json → Prop
  | float {negative : Bool} {m : Nat} {e : Int}
    (h : ∀ n, ¬ Binary64.IsInteger n (.finite negative m e)) :
    HasFraction (.float (.finite negative m e))

/-- The value is an infinity. -/
inductive IsInfinite : Json → Prop
  | float (negative : Bool) : IsInfinite (.float (.infinite negative))

/-- The value is no number at all, and no text that denotes an integer. -/
inductive IsNoNumber : Json → Prop
  | notANumber : IsNoNumber (.float .notANumber)
  | text {s : String} (h : ∀ negative ds, ¬ IsIntegerText s.toList negative ds) :
    IsNoNumber (.str s)
  | array (items : List Json) : IsNoNumber (.arr items)
  | object (fields : List (String × Json)) : IsNoNumber (.obj fields)

/-- The value is there, and is not an integer. -/
def IsUnusable (v : Json) : Prop :=
  v.HasFraction ∨ v.IsInfinite ∨ v.IsNoNumber

/-- The value is an empty text, list or object. -/
inductive IsHollow : Json → Prop
  | text : IsHollow (.str "")
  | array : IsHollow (.arr [])
  | object : IsHollow (.obj [])

/-- An integer is read from the value: the one that it denotes, or what is left of it without its
fraction. -/
def IsTaken (v : Json) : Prop :=
  (∃ n, v.Denotes n) ∧ ¬ v.IsLong ∨ v.HasFraction

end Json

namespace Edge

open Json

/-- The location that a line and a column give: none without a line, and column zero without a
column. -/
inductive IsLocationOf (line column : Json) : Option Location → Prop
  | none (h : line = .null) : IsLocationOf line column none
  | first {l : Location} (hl : line.Denotes l.line) (hc : column = .null) (zero : l.column = 0) :
    IsLocationOf line column (some l)
  | some {l : Location} (hl : line.Denotes l.line) (hc : column.Denotes l.column) :
    IsLocationOf line column (some l)

/-- Either a value is no integer, and the record is refused for its location, or the record is an edge
with that location. No failure is unexpected. -/
structure IsAsDocumented (root : String) (fields : List (String × Json)) : Prop where
  refused : (fieldOf fields "line").IsUnusable ∨ (fieldOf fields "column").IsUnusable →
    ∃ cause fault, ofRecord root fields = .error cause ∧
      Failure.ofRecordFault cause = .configuration fault ∧ fault.place? = some "line"
  made : ¬ ((fieldOf fields "line").IsUnusable ∨ (fieldOf fields "column").IsUnusable) →
    ∃ e, ofRecord root fields = .ok e ∧
      IsLocationOf (fieldOf fields "line") (fieldOf fields "column") e.location
  expected : ∀ cause, ofRecord root fields = .error cause →
    ∃ fault, Failure.ofRecordFault cause = .configuration fault

/-- What is overlooked in a line and a column. -/
inductive Overlooked (line column : Json) : Prop
  | unlookedColumn (h : line = .null) (bad : column.IsUnusable)
  | infiniteLine (h : line.IsInfinite)
  | infiniteColumn (taken : line.IsTaken) (h : column.IsInfinite)
  | fraction (taken : line.IsTaken) (takenColumn : column.isEmptyValue = true ∨ column.IsTaken)
    (h : line.HasFraction ∨ column.HasFraction)
  | hollowColumn (taken : line.IsTaken) (h : column.IsHollow)
  | long (integer : ∃ n, line.Denotes n) (integerColumn : column = .null ∨ ∃ n, column.Denotes n)
    (h : line.IsLong ∨ column.IsLong)

end Edge

/-! ## Reading a value -/

theorem Binary64.truncate_of_isInteger {x : Binary64} {n : Int} (h : x.IsInteger n) :
    x.truncate = some n := by
  cases x with
  | notANumber => exact h.elim
  | infinite negative => exact h.elim
  | finite negative m e =>
    rw [IsInteger] at h
    rw [truncate]
    have one : ((Nat.pow 2 0 : Nat) : Int) = 1 := rfl
    by_cases up : 0 ≤ e
    · have noFraction : (-e).toNat = 0 := Int.toNat_eq_zero.mpr (by omega)
      rw [noFraction, one, Int.mul_one] at h
      rw [if_pos up, ← h]
      cases negative <;> simp only [Bool.false_eq_true, ↓reduceIte, Int.natCast_mul, Int.neg_mul]
    · have noScale : e.toNat = 0 := Int.toNat_eq_zero.mpr (by omega)
      have positive : 0 < Nat.pow 2 (-e).toNat := Nat.pow_pos (by decide)
      rw [noScale, one, Int.mul_one] at h
      rw [if_neg up]
      generalize Nat.pow 2 (-e).toNat = power at h positive ⊢
      -- the mantissa is a multiple of the power of two that the point stands behind
      have mantissa : m = n.natAbs * power := by
        have sizes := congrArg Int.natAbs h
        rw [Int.natAbs_mul] at sizes
        cases negative <;> simpa using sizes
      have whole : m / power = n.natAbs := by
        rw [mantissa]
        exact Nat.mul_div_cancel _ positive
      have value : (if negative then -(n.natAbs : Int) else n.natAbs) = n := by
        have nonzero : (power : Int) ≠ 0 := by omega
        apply Int.eq_of_mul_eq_mul_right nonzero
        rw [← h, mantissa]
        cases negative <;> simp only [Bool.false_eq_true, ↓reduceIte, Int.natCast_mul, Int.neg_mul]
      rw [whole, value]

namespace Json

theorem HasFraction.isUnusable {v : Json} (h : v.HasFraction) : v.IsUnusable :=
  .inl h

theorem IsInfinite.isUnusable {v : Json} (h : v.IsInfinite) : v.IsUnusable :=
  .inr (.inl h)

theorem IsNoNumber.isUnusable {v : Json} (h : v.IsNoNumber) : v.IsUnusable :=
  .inr (.inr h)

theorem Denotes.not_isUnusable {v : Json} {n : Int} (h : v.Denotes n) : ¬ v.IsUnusable := by
  cases h with
  | int n => rintro (h | h | h) <;> cases h
  | float h =>
    rintro (h' | h' | h')
    · cases h' with
      | float none => exact none _ h
    · cases h'
      exact h
    · cases h'
      exact h
  | text h =>
    rintro (h' | h' | h')
    · cases h'
    · cases h'
    · cases h' with
      | text none => exact none _ _ h

/-- What a value is, and what is read from it. -/
inductive Reads : Json → IntegerReading → Prop
  | null : Reads .null .none
  | integer {v : Json} {n : Int} (h : v.Denotes n) (short : ¬ v.IsLong) : Reads v (.integer n)
  | long {v : Json} {n : Int} (h : v.Denotes n) (long : v.IsLong) : Reads v .none
  | fraction {v : Json} {n : Int} (h : v.HasFraction) : Reads v (.integer n)
  | infinite {v : Json} (h : v.IsInfinite) : Reads v .infinite
  | noNumber {v : Json} (h : v.IsNoNumber) : Reads v .none

theorem reads_text (s : String) : Reads (.str s) (Json.str s).integer := by
  cases found : Number.integer? s.toList with
  | some n =>
    have reading : (Json.str s).integer = .integer n := by simp only [Json.integer, found]
    obtain ⟨negative, ds, text, short, rfl⟩ := Number.integer?_eq_some_iff.mp found
    rw [reading]
    refine .integer (.text text) ?_
    rintro ⟨text', long⟩
    obtain ⟨-, rfl⟩ := text.unique text'
    exact absurd short (Nat.not_le.mpr long)
  | none =>
    have reading : (Json.str s).integer = .none := by simp only [Json.integer, found]
    rw [reading]
    by_cases written : ∃ negative ds, IsIntegerText s.toList negative ds
    · obtain ⟨negative, ds, text⟩ := written
      refine .long (.text text) (.text text ?_)
      apply Nat.lt_of_not_le
      intro short
      have read := Number.integer?_eq_some_iff.mpr ⟨negative, ds, text, short, rfl⟩
      rw [found] at read
      cases read
    · refine .noNumber (.text ?_)
      intro negative ds text
      exact written ⟨negative, ds, text⟩

theorem reads_float (x : Binary64) : Reads (.float x) (Json.float x).integer := by
  cases x with
  | notANumber => exact .noNumber .notANumber
  | infinite negative => exact .infinite (.float negative)
  | finite negative m e =>
    by_cases whole : ∃ n, Binary64.IsInteger n (.finite negative m e)
    · obtain ⟨n, whole⟩ := whole
      have reading : (Json.float (.finite negative m e)).integer = .integer n := by
        simp only [Json.integer, Binary64.truncate_of_isInteger whole]
      rw [reading]
      exact .integer (.float whole) (by rintro ⟨⟩)
    · exact .fraction (.float fun n h => whole ⟨n, h⟩)

/-- Whatever is no truth value is read as what it is. -/
theorem reads {v : Json} (h : ∀ b, v ≠ .bool b) : Reads v v.integer := by
  cases v with
  | null => exact .null
  | bool b => exact absurd rfl (h b)
  | int n => exact .integer (.int n) (by rintro ⟨⟩)
  | float x => exact reads_float x
  | str s => exact reads_text s
  | arr items => exact .noNumber (.array items)
  | obj fields => exact .noNumber (.object fields)

theorem not_isUnusable_null : ¬ Json.null.IsUnusable := by
  rintro (h | h | h) <;> cases h

theorem not_isTaken_null : ¬ Json.null.IsTaken := by
  rintro (⟨⟨n, denotes⟩, -⟩ | fraction)
  · cases denotes
  · cases fraction

/-- An integer is read from the values that are taken, and from no others. -/
theorem isTaken_iff {v : Json} (h : ∀ b, v ≠ .bool b) :
    v.IsTaken ↔ ∃ n, v.integer = .integer n := by
  have read := reads h
  constructor
  · generalize v.integer = reading at read
    intro taken
    cases read with
    | integer | fraction => exact ⟨_, rfl⟩
    | null => exact absurd taken not_isTaken_null
    | long denotes long =>
      rcases taken with ⟨-, short⟩ | fraction
      · exact absurd long short
      · exact absurd fraction.isUnusable denotes.not_isUnusable
    | infinite infinite =>
      rcases taken with ⟨⟨n, denotes⟩, -⟩ | fraction
      · exact absurd infinite.isUnusable denotes.not_isUnusable
      · cases fraction
        cases infinite
    | noNumber none =>
      rcases taken with ⟨⟨n, denotes⟩, -⟩ | fraction
      · exact absurd none.isUnusable denotes.not_isUnusable
      · cases fraction
        cases none
  · rintro ⟨n, reading⟩
    rw [reading] at read
    cases read with
    | integer denotes short => exact .inl ⟨⟨n, denotes⟩, short⟩
    | fraction fraction => exact .inr fraction

theorem not_isIntegerText_nil (negative : Bool) (ds : List Nat) :
    ¬ IsIntegerText [] negative ds := by
  intro text
  have read := Number.parts?_eq_some_iff.mpr text
  cases read

theorem integer_of_isLong {v : Json} (h : v.IsLong) :
    v.integer = .none ∧ v.isEmptyValue = false := by
  obtain @⟨s, negative, ds, text, long⟩ := h
  constructor
  · cases found : Number.integer? s.toList with
    | none => simp only [Json.integer, found]
    | some n =>
      obtain ⟨_, _, text', short, -⟩ := Number.integer?_eq_some_iff.mp found
      obtain ⟨-, rfl⟩ := text.unique text'
      exact absurd short (Nat.not_le.mpr long)
  · apply Bool.eq_false_iff.mpr
    intro empty
    rw [isEmptyValue, String.isEmpty_iff] at empty
    rw [empty] at text
    exact not_isIntegerText_nil _ _ text

theorem IsHollow.isUnusable {v : Json} (h : v.IsHollow) : v.IsUnusable := by
  cases h with
  | text => exact IsNoNumber.isUnusable (.text not_isIntegerText_nil)
  | array => exact IsNoNumber.isUnusable (.array [])
  | object => exact IsNoNumber.isUnusable (.object [])

/-- Values that count as missing. -/
theorem empty_cases {v : Json} (h : ∀ b, v ≠ .bool b) (empty : v.isEmptyValue = true) :
    v = .null ∨ v.Denotes 0 ∨ v.IsHollow := by
  cases v with
  | null => exact .inl rfl
  | bool b => exact absurd rfl (h b)
  | int n =>
    obtain rfl : n = 0 := by simpa [isEmptyValue] using empty
    exact .inr (.inl (.int 0))
  | float x =>
    have zero : x.IsInteger 0 := by
      simp only [isEmptyValue, Binary64.isZero] at empty
      split at empty
      · simp [Binary64.IsInteger]
      · cases empty
    exact .inr (.inl (.float zero))
  | str s =>
    obtain rfl : s = "" := by simpa [isEmptyValue] using empty
    exact .inr (.inr .text)
  | arr items =>
    obtain rfl : items = [] := by simpa [isEmptyValue] using empty
    exact .inr (.inr .array)
  | obj fields =>
    obtain rfl : fields = [] := by simpa [isEmptyValue] using empty
    exact .inr (.inr .object)

/-- What is not unusable is an integer, if it is there. -/
theorem usable_cases {v : Json} (h : ∀ b, v ≠ .bool b) (good : ¬ v.IsUnusable) :
    v = .null ∨ ∃ n, v.Denotes n := by
  have read := reads h
  generalize v.integer = reading at read
  cases read with
  | null => exact .inl rfl
  | integer denotes => exact .inr ⟨_, denotes⟩
  | long denotes => exact .inr ⟨_, denotes⟩
  | fraction fraction => exact absurd fraction.isUnusable good
  | infinite infinite => exact absurd infinite.isUnusable good
  | noNumber none => exact absurd none.isUnusable good

end Json

namespace Edge

open Json

/-! ## Reading a line and a column -/

/-- The integer that a column is read as. -/
def columnReading (column : Json) : IntegerReading :=
  if column.isEmptyValue then .integer 0 else column.integer

/-- What a column is, and what is read from it. -/
inductive ReadsColumn (column : Json) : IntegerReading → Prop
  | null (h : column = .null) : ReadsColumn column (.integer 0)
  | integer {c : Int} (h : column.Denotes c) : ReadsColumn column (.integer c)
  | fraction {c : Int} (h : column.HasFraction) : ReadsColumn column (.integer c)
  | hollow (h : column.IsHollow) : ReadsColumn column (.integer 0)
  | long {c : Int} (h : column.Denotes c) (long : column.IsLong) : ReadsColumn column .none
  | infinite (h : column.IsInfinite) : ReadsColumn column .infinite
  | noNumber (h : column.IsNoNumber) : ReadsColumn column .none

theorem readsColumn {column : Json} (h : ∀ b, column ≠ .bool b) :
    ReadsColumn column (columnReading column) := by
  rw [columnReading]
  by_cases empty : column.isEmptyValue = true
  · rw [if_pos empty]
    rcases empty_cases h empty with null | zero | hollow
    · exact .null null
    · exact .integer zero
    · exact .hollow hollow
  · rw [if_neg empty]
    have read := reads h
    generalize column.integer = reading at read
    cases read with
    | null => exact absurd rfl empty
    | integer denotes => exact .integer denotes
    | long denotes long => exact .long denotes long
    | fraction fraction => exact .fraction fraction
    | infinite infinite => exact .infinite infinite
    | noNumber none => exact .noNumber none

theorem columnReading_eq_integer_iff {column : Json} (h : ∀ b, column ≠ .bool b) :
    (∃ c, columnReading column = .integer c) ↔ column.isEmptyValue = true ∨ column.IsTaken := by
  rw [isTaken_iff h, columnReading]
  cases column.isEmptyValue with
  | true => simp
  | false => simp

/-- What a line and a column that are read come to. -/
def located (line column : Json) : IntegerReading → IntegerReading →
    Except RecordFault (Option Location)
  | .integer n, .integer c => .ok (some { line := n, column := c })
  | .infinite, _ => .error .infiniteLocation
  | .integer _, .infinite => .error .infiniteLocation
  | _, _ => .error (.badLocation line column)

theorem located_none (line column : Json) (reading : IntegerReading) :
    located line column .none reading = .error (.badLocation line column) := by
  cases reading <;> rfl

variable {fields : List (String × Json)}

theorem locationOf_null (h : fieldOf fields "line" = .null) : locationOf fields = .ok none := by
  simp only [locationOf, h]

theorem locationOf_eq (h : fieldOf fields "line" ≠ .null) :
    locationOf fields = located (fieldOf fields "line") (fieldOf fields "column")
      (fieldOf fields "line").integer (columnReading (fieldOf fields "column")) := by
  unfold locationOf
  dsimp only
  split
  · next null => exact absurd null h
  · rfl

/-! ## Locations as documented -/

variable {line column : Json}

/-- What is read of a line and a column is as documented. -/
structure IsLocated (line column : Json) (result : Except RecordFault (Option Location)) :
    Prop where
  refused : line.IsUnusable ∨ column.IsUnusable → ∃ l c, result = .error (.badLocation l c)
  made : ¬ (line.IsUnusable ∨ column.IsUnusable) →
    ∃ location, result = .ok location ∧ IsLocationOf line column location

theorem not_isLocated_ok {location : Option Location} (bad : line.IsUnusable ∨ column.IsUnusable) :
    ¬ IsLocated line column (.ok location) := by
  rintro ⟨refused, -⟩
  obtain ⟨l, c, error⟩ := refused bad
  cases error

theorem not_isLocated_infinite (bad : line.IsUnusable ∨ column.IsUnusable) :
    ¬ IsLocated line column (.error .infiniteLocation) := by
  rintro ⟨refused, -⟩
  obtain ⟨l, c, error⟩ := refused bad
  cases error

theorem isLocated_bad {l c : Json} (bad : line.IsUnusable ∨ column.IsUnusable) :
    IsLocated line column (.error (.badLocation l c)) :=
  ⟨fun _ => ⟨l, c, rfl⟩, fun good => absurd bad good⟩

theorem isLocated_ok {location : Option Location} (is : IsLocationOf line column location)
    (good : ¬ (line.IsUnusable ∨ column.IsUnusable)) : IsLocated line column (.ok location) :=
  ⟨fun bad => absurd bad good, fun _ => ⟨location, rfl, is⟩⟩

theorem not_isLocated_error {fault : RecordFault} (good : ¬ (line.IsUnusable ∨ column.IsUnusable)) :
    ¬ IsLocated line column (.error fault) := by
  intro located
  obtain ⟨location, read, -⟩ := located.made good
  cases read

theorem isLocated_without_line :
    IsLocated .null column (.ok none) ↔ ¬ Overlooked .null column := by
  constructor
  · intro located overlooked
    cases overlooked with
    | unlookedColumn _ bad => exact not_isLocated_ok (.inr bad) located
    | infiniteLine infinite => cases infinite
    | infiniteColumn taken => exact not_isTaken_null taken
    | fraction taken => exact not_isTaken_null taken
    | hollowColumn taken => exact not_isTaken_null taken
    | long integer =>
      obtain ⟨n, denotes⟩ := integer
      cases denotes
  · intro clear
    refine isLocated_ok (.none rfl) ?_
    rintro (bad | bad)
    · exact not_isUnusable_null bad
    · exact clear (.unlookedColumn rfl bad)

section

variable (noBool : ∀ b, line ≠ .bool b) (noBoolColumn : ∀ b, column ≠ .bool b)
  (some_line : line ≠ .null)

include noBool noBoolColumn some_line

theorem not_isLocated_of_overlooked (h : Overlooked line column) :
    ¬ IsLocated line column (located line column line.integer (columnReading column)) := by
  cases h with
  | unlookedColumn null bad => exact absurd null some_line
  | infiniteLine infinite =>
    have endless : line.integer = .infinite := by cases infinite; rfl
    rw [endless]
    exact not_isLocated_infinite (.inl infinite.isUnusable)
  | infiniteColumn taken infinite =>
    obtain ⟨n, read⟩ := (isTaken_iff noBool).mp taken
    have endless : columnReading column = .infinite := by cases infinite; rfl
    rw [read, endless]
    exact not_isLocated_infinite (.inr infinite.isUnusable)
  | fraction taken takenColumn fraction =>
    obtain ⟨n, read⟩ := (isTaken_iff noBool).mp taken
    obtain ⟨c, readColumn⟩ := (columnReading_eq_integer_iff noBoolColumn).mpr takenColumn
    rw [read, readColumn]
    exact not_isLocated_ok (fraction.imp HasFraction.isUnusable HasFraction.isUnusable)
  | hollowColumn taken hollow =>
    obtain ⟨n, read⟩ := (isTaken_iff noBool).mp taken
    have zero : columnReading column = .integer 0 := by cases hollow <;> rfl
    rw [read, zero]
    exact not_isLocated_ok (.inr hollow.isUnusable)
  | long integer integerColumn long =>
    obtain ⟨n, denotes⟩ := integer
    have good : ¬ (line.IsUnusable ∨ column.IsUnusable) := by
      rintro (bad | bad)
      · exact denotes.not_isUnusable bad
      · rcases integerColumn with rfl | ⟨c, denotesColumn⟩
        · exact not_isUnusable_null bad
        · exact denotesColumn.not_isUnusable bad
    rcases long with long | long
    · rw [(integer_of_isLong long).1, located_none]
      exact not_isLocated_error good
    · obtain ⟨unread, some_column⟩ := integer_of_isLong long
      have reading : columnReading column = .none := by
        rw [columnReading, some_column, unread]
        rfl
      rw [reading]
      cases line.integer <;> exact not_isLocated_error good

/-- What is read of a line and a column is as documented where nothing is overlooked. -/
theorem isLocated_of_not_overlooked (clear : ¬ Overlooked line column) :
    IsLocated line column (located line column line.integer (columnReading column)) := by
  have takenColumn := columnReading_eq_integer_iff noBoolColumn
  have read := reads noBool
  have readColumn := readsColumn noBoolColumn
  generalize line.integer = reading at read
  generalize columnReading column = readingColumn at readColumn takenColumn
  cases read with
  | null => exact absurd rfl some_line
  | infinite infinite => exact absurd (.infiniteLine infinite) clear
  | noNumber none =>
    rw [located_none]
    exact isLocated_bad (.inl none.isUnusable)
  | long denotes long =>
    rw [located_none]
    apply isLocated_bad
    by_contra good
    have usable := usable_cases noBoolColumn fun bad => good (.inr bad)
    exact clear (.long ⟨_, denotes⟩ usable (.inl long))
  | fraction fraction =>
    have taken : line.IsTaken := .inr fraction
    cases readingColumn with
    | integer c => exact absurd (.fraction taken (takenColumn.mp ⟨c, rfl⟩) (.inl fraction)) clear
    | none => exact isLocated_bad (.inl fraction.isUnusable)
    | infinite =>
      cases readColumn with
      | infinite infinite => exact absurd (.infiniteColumn taken infinite) clear
  | integer denotes short =>
    have taken : line.IsTaken := .inl ⟨⟨_, denotes⟩, short⟩
    have goodLine := denotes.not_isUnusable
    cases readColumn with
    | null null =>
      refine isLocated_ok (.first denotes null rfl) (not_or.mpr ⟨goodLine, ?_⟩)
      rw [null]
      exact not_isUnusable_null
    | integer denotesColumn =>
      exact isLocated_ok (.some denotes denotesColumn)
        (not_or.mpr ⟨goodLine, denotesColumn.not_isUnusable⟩)
    | fraction fraction =>
      exact absurd (.fraction taken (takenColumn.mp ⟨_, rfl⟩) (.inr fraction)) clear
    | hollow hollow => exact absurd (.hollowColumn taken hollow) clear
    | long denotesColumn long =>
      exact absurd (.long ⟨_, denotes⟩ (.inr ⟨_, denotesColumn⟩) (.inr long)) clear
    | infinite infinite => exact absurd (.infiniteColumn taken infinite) clear
    | noNumber none => exact isLocated_bad (.inr none.isUnusable)

end

/-- The location of a record is read as documented exactly where nothing is overlooked. -/
theorem isLocated_locationOf_iff (noBool : ∀ b, fieldOf fields "line" ≠ .bool b)
    (noBoolColumn : ∀ b, fieldOf fields "column" ≠ .bool b) :
    IsLocated (fieldOf fields "line") (fieldOf fields "column") (locationOf fields) ↔
      ¬ Overlooked (fieldOf fields "line") (fieldOf fields "column") := by
  by_cases null : fieldOf fields "line" = .null
  · rw [locationOf_null null, null]
    exact isLocated_without_line
  · rw [locationOf_eq null]
    constructor
    · intro located overlooked
      exact not_isLocated_of_overlooked noBool noBoolColumn null overlooked located
    · exact isLocated_of_not_overlooked noBool noBoolColumn null

/-! ## Records as documented -/

variable {root : String}

/-- Only what is told of a location is told at the line. -/
theorem badLocation_of_place {cause : RecordFault} {fault : ConfigurationFault}
    (told : Failure.ofRecordFault cause = .configuration fault)
    (place : fault.place? = some "line") : ∃ l c, cause = .badLocation l c := by
  cases cause with
  | badLocation l c => exact ⟨l, c, rfl⟩
  | missingFields names =>
    obtain rfl := Failure.configuration.inj told
    cases place
  | infiniteLocation => cases told
  | relativeSource cause => cases told

/-- A record with its required fields is as documented exactly if its location is. -/
theorem isAsDocumented_iff_isLocated (absolute : Path.isAbsolute root = true)
    (required : ∀ name ∈ requiredFields, (fieldOf fields name).isEmptyValue = false) :
    IsAsDocumented root fields ↔
      IsLocated (fieldOf fields "line") (fieldOf fields "column") (locationOf fields) := by
  have complete : completeLocation fields = locationOf fields := by
    have none : (requiredFields.filter fun name => (fieldOf fields name).isEmptyValue) = [] := by
      simpa [List.filter_eq_nil_iff] using required
    rw [completeLocation, none]
    rfl
  have record := ofRecord_eq absolute fields
  rw [complete] at record
  constructor
  · rintro ⟨refused, made, -⟩
    constructor
    · intro bad
      obtain ⟨cause, fault, failed, told, place⟩ := refused bad
      rw [record] at failed
      cases read : locationOf fields with
      | ok location =>
        rw [read] at failed
        cases failed
      | error other =>
        rw [read] at failed
        obtain rfl : other = cause := Except.error.inj failed
        obtain ⟨l, c, rfl⟩ := badLocation_of_place told place
        exact ⟨l, c, rfl⟩
    · intro good
      obtain ⟨e, done, is⟩ := made good
      rw [record] at done
      cases read : locationOf fields with
      | error cause =>
        rw [read] at done
        cases done
      | ok location =>
        rw [read] at done
        obtain rfl := Except.ok.inj done
        exact ⟨location, rfl, is⟩
  · intro located
    have outcome := em ((fieldOf fields "line").IsUnusable ∨ (fieldOf fields "column").IsUnusable)
    constructor
    · intro bad
      obtain ⟨l, c, read⟩ := located.refused bad
      exact ⟨.badLocation l c, .badLocation l c, by rw [record, read]; rfl, rfl, rfl⟩
    · intro good
      obtain ⟨location, read, is⟩ := located.made good
      exact ⟨edgeAt root fields location, by rw [record, read]; rfl, is⟩
    · intro cause failed
      rw [record] at failed
      rcases outcome with bad | good
      · obtain ⟨l, c, read⟩ := located.refused bad
        rw [read] at failed
        obtain rfl := Except.error.inj failed
        exact ⟨.badLocation l c, rfl⟩
      · obtain ⟨location, read, -⟩ := located.made good
        rw [read] at failed
        cases failed

/-- A record that has its required fields, and no truth value as its line or column, is as documented
exactly if nothing is overlooked in them. -/
theorem isAsDocumented_iff (absolute : Path.isAbsolute root = true)
    (required : ∀ name ∈ requiredFields, (fieldOf fields name).isEmptyValue = false)
    (noBool : ∀ b, fieldOf fields "line" ≠ .bool b)
    (noBoolColumn : ∀ b, fieldOf fields "column" ≠ .bool b) :
    IsAsDocumented root fields ↔
      ¬ Overlooked (fieldOf fields "line") (fieldOf fields "column") := by
  rw [isAsDocumented_iff_isLocated absolute required, isLocated_locationOf_iff noBool noBoolColumn]

/-- A line that is given as a text, with a blank before it and an underscore in it. -/
theorem isAsDocumented_text :
    let fields : List (String × Json) :=
      [("source_file", .str "a/x"), ("import_specifier", .str "./b"), ("line", .str " 1_0")]
    Path.isAbsolute "/r" = true ∧
      (∀ name ∈ requiredFields, (fieldOf fields name).isEmptyValue = false) ∧
      (∀ b, fieldOf fields "line" ≠ .bool b) ∧ (∀ b, fieldOf fields "column" ≠ .bool b) ∧
      IsAsDocumented "/r" fields := by
  intro fields
  have required : ∀ name ∈ requiredFields, (fieldOf fields name).isEmptyValue = false := by decide
  have clear : ¬ Overlooked (.str " 1_0") .null := by
    have short : ¬ (Json.str " 1_0").IsLong := by
      intro long
      have unread := (integer_of_isLong long).1
      revert unread
      decide
    intro overlooked
    cases overlooked with
    | unlookedColumn null => cases null
    | infiniteLine infinite => cases infinite
    | infiniteColumn _ infinite => cases infinite
    | fraction _ _ fraction => rcases fraction with fraction | fraction <;> cases fraction
    | hollowColumn _ hollow => cases hollow
    | long _ _ long =>
      rcases long with long | long
      · exact short long
      · cases long
  exact ⟨by decide, required, nofun, nofun,
    (isAsDocumented_iff (by decide) required nofun nofun).mpr clear⟩

example : (ofRecord "/r" [("source_file", .str "a/x"), ("import_specifier", .str "./b"),
      ("line", .str " 1_0")]).toOption.map (·.location) = some (some { line := 10 }) := by
  decide

/-- A record whose line is one and a half. It is an edge at line one. -/
theorem not_isAsDocumented_fraction :
    let fields : List (String × Json) :=
      [("source_file", .str "/a/x.x"), ("import_specifier", .str "./b"),
        ("line", .float (.ofRatio false 3 2))]
    Path.isAbsolute "/" = true ∧
      (∀ name ∈ requiredFields, (fieldOf fields name).isEmptyValue = false) ∧
      (∀ b, fieldOf fields "line" ≠ .bool b) ∧ (∀ b, fieldOf fields "column" ≠ .bool b) ∧
      ¬ IsAsDocumented "/" fields := by
  intro fields
  refine ⟨by decide, by decide, nofun, nofun, ?_⟩
  rintro ⟨refused, -, -⟩
  have fraction : (fieldOf fields "line").HasFraction := by
    have value : Binary64.ofRatio false 3 2 = .finite false 6755399441055744 (-52) := by decide
    change (Json.float (Binary64.ofRatio false 3 2)).HasFraction
    rw [value]
    refine .float ?_
    intro n whole
    change (6755399441055744 : Int) * 1 = n * 4503599627370496 at whole
    omega
  obtain ⟨cause, -, failed, -⟩ := refused (.inl fraction.isUnusable)
  have made : (ofRecord "/" fields).toOption.isSome = true := by decide
  rw [failed] at made
  cases made

end Edge

end ImportBoundary
