import ImportBoundary.Text.Utf8

/-!
# Which bytes are text

`encode` gives the bytes of a text, and the reader takes back every text that has been encoded and no
other bytes (`decode_eq_ok_iff`). `Scanned` says which bytes a character is read from, with its code;
both the reader and the encoding of one character are compared with it.
-/

namespace ImportBoundary.Text

theorem toNat_ofNat {code : Nat} (h : code < 0xD800 ∨ 0xDFFF < code ∧ code < 0x110000) :
    (Char.ofNat code).toNat = code := by
  have valid : code.isValidChar := h
  rw [Char.ofNat, dif_pos valid]
  rfl

namespace Utf8

/-- The bytes of a text. -/
def encode (cs : List Char) : List UInt8 :=
  cs.flatMap String.utf8EncodeChar

/-! ## One character -/

/-- Characters of one, two, three and four bytes: their first byte, the bytes after it, their code and
the number of their bytes. -/
inductive Scanned (b : UInt8) : List UInt8 → Nat → Nat → Prop
  | one {rest : List UInt8} (first : b.toNat < 0x80) : Scanned b rest b.toNat 1
  | two {x : UInt8} {rest : List UInt8} (first : 0xC2 ≤ b.toNat ∧ b.toNat < 0xE0)
    (second : isContinuation x = true) :
    Scanned b (x :: rest) (b.toNat % 0x20 * 0x40 + payload x) 2
  | three {x y : UInt8} {rest : List UInt8} (first : 0xE0 ≤ b.toNat ∧ b.toNat < 0xF0)
    (second : secondAllowed b x = true) (third : isContinuation y = true) :
    Scanned b (x :: y :: rest) ((b.toNat % 0x10 * 0x40 + payload x) * 0x40 + payload y) 3
  | four {x y z : UInt8} {rest : List UInt8} (first : 0xF0 ≤ b.toNat ∧ b.toNat < 0xF5)
    (second : secondAllowed b x = true) (third : isContinuation y = true)
    (fourth : isContinuation z = true) :
    Scanned b (x :: y :: z :: rest)
      (((b.toNat % 8 * 0x40 + payload x) * 0x40 + payload y) * 0x40 + payload z) 4

variable {b x : UInt8} {bs : List UInt8}

theorem isContinuation_iff : isContinuation x = true ↔ 0x80 ≤ x.toNat ∧ x.toNat < 0xC0 := by
  simp [isContinuation, UInt8.le_iff_toNat_le, UInt8.lt_iff_toNat_lt]

theorem secondAllowed_iff :
    secondAllowed b x = true ↔ (0x80 ≤ x.toNat ∧ x.toNat < 0xC0) ∧
      (b.toNat = 0xE0 → 0xA0 ≤ x.toNat) ∧ (b.toNat = 0xED → x.toNat < 0xA0) ∧
      (b.toNat = 0xF0 → 0x90 ≤ x.toNat) ∧ (b.toNat = 0xF4 → x.toNat < 0x90) := by
  simp only [secondAllowed, Bool.and_eq_true, isContinuation_iff, Bool.not_eq_true',
    Bool.and_eq_false_imp, beq_iff_eq, decide_eq_false_iff_not, Nat.not_le, Nat.not_lt,
    UInt8.le_iff_toNat_le, UInt8.lt_iff_toNat_lt, ← UInt8.toNat_inj, and_assoc]
  rfl

theorem scan_of_scanned {code width : Nat} (h : Scanned b bs code width) :
    scan b bs = (.inl (Char.ofNat code), width) := by
  cases h with
  | one first => simp [scan, UInt8.lt_iff_toNat_lt, first]
  | two first second =>
    have past1 : ¬ b.toNat < 128 := by omega
    have past2 : ¬ b.toNat < 194 := by omega
    simp [scan, UInt8.lt_iff_toNat_lt, past1, past2, first, second]
  | three first second third =>
    have past1 : ¬ b.toNat < 128 := by omega
    have past2 : ¬ b.toNat < 194 := by omega
    have past3 : ¬ b.toNat < 224 := by omega
    simp [scan, UInt8.lt_iff_toNat_lt, past1, past2, past3, first, second, third]
  | four first second third fourth =>
    have past1 : ¬ b.toNat < 128 := by omega
    have past2 : ¬ b.toNat < 194 := by omega
    have past3 : ¬ b.toNat < 224 := by omega
    have past4 : ¬ b.toNat < 240 := by omega
    simp [scan, UInt8.lt_iff_toNat_lt, past1, past2, past3, past4, first, second, third, fourth]

theorem scanned_of_scan {c : Char} {width : Nat} (h : scan b bs = (.inl c, width)) :
    ∃ code, Scanned b bs code width ∧ c = Char.ofNat code := by
  simp only [scan, UInt8.lt_iff_toNat_lt, Bool.not_eq_true'] at h
  split at h
  case isTrue first =>
    cases h
    exact ⟨_, .one first, rfl⟩
  split at h
  · cases h
  rename_i past
  have past : 0xC2 ≤ b.toNat := Nat.le_of_not_lt past
  split at h
  case isTrue first =>
    cases bs with
    | nil => cases h
    | cons x rest =>
      simp only at h
      split at h
      · next second =>
        cases h
        exact ⟨_, .two ⟨past, first⟩ second, rfl⟩
      · cases h
  rename_i past
  have past : 0xE0 ≤ b.toNat := Nat.le_of_not_lt past
  split at h
  case isTrue first =>
    rcases bs with _ | ⟨x, _ | ⟨y, rest⟩⟩
    · cases h
    · simp only at h
      split at h <;> cases h
    · simp only at h
      split at h
      · cases h
      · next second =>
        split at h
        · next third =>
          cases h
          exact ⟨_, .three ⟨past, first⟩ (Bool.not_eq_false _ ▸ second) third, rfl⟩
        · cases h
  rename_i past
  have past : 0xF0 ≤ b.toNat := Nat.le_of_not_lt past
  split at h
  case isTrue first =>
    rcases bs with _ | ⟨x, _ | ⟨y, _ | ⟨z, rest⟩⟩⟩
    · cases h
    · simp only at h
      split at h <;> cases h
    · simp only at h
      split at h
      · cases h
      · split at h <;> cases h
    · simp only at h
      split at h
      · cases h
      · next second =>
        split at h
        · cases h
        · next third =>
          split at h
          · next fourth =>
            cases h
            exact ⟨_, .four ⟨past, first⟩ (Bool.not_eq_false _ ▸ second)
              (Bool.not_eq_false _ ▸ third) fourth, rfl⟩
          · cases h
  · cases h

/-- The bytes of a character are those that it is read from. -/
theorem scanned_encoded (c : Char) (rest : List UInt8) :
    ∃ b bs, String.utf8EncodeChar c ++ rest = b :: bs ∧
      Scanned b bs c.toNat (String.utf8EncodeChar c).length := by
  have valid : c.toNat < 0xD800 ∨ 0xDFFF < c.toNat ∧ c.toNat < 0x110000 := c.valid
  have byte {n : Nat} (h : n < 256) : (UInt8.ofNat n).toNat = n := UInt8.toNat_ofNat_of_lt' h
  have carries {n : Nat} (h : n < 64) : payload (UInt8.ofNat (n + 128)) = n := by
    rw [payload, byte (by omega)]
    omega
  have continues {n : Nat} (h : n < 64) : isContinuation (UInt8.ofNat (n + 128)) = true := by
    rw [isContinuation_iff, byte (by omega)]
    omega
  unfold String.utf8EncodeChar
  rw [show c.val.toNat = c.toNat from rfl]
  generalize c.toNat = n at valid
  dsimp only
  split
  · refine ⟨_, _, rfl, ?_⟩
    have code : n = (UInt8.ofNat n).toNat := (byte (by omega)).symm
    have scanned : Scanned (UInt8.ofNat n) rest _ 1 := .one (by omega)
    rwa [← code] at scanned
  split
  · refine ⟨_, _, rfl, ?_⟩
    have first := byte (n := n / 64 % 32 + 192) (by omega)
    have scanned : Scanned (UInt8.ofNat (n / 64 % 32 + 192)) (UInt8.ofNat (n % 64 + 128) :: rest)
        _ 2 := .two (by omega) (continues (by omega))
    rw [first, carries (by omega)] at scanned
    have code : (n / 64 % 32 + 192) % 0x20 * 0x40 + n % 64 = n := by omega
    rwa [code] at scanned
  split
  · refine ⟨_, _, rfl, ?_⟩
    have first := byte (n := n / 4096 % 16 + 224) (by omega)
    have allowed : secondAllowed (UInt8.ofNat (n / 4096 % 16 + 224))
        (UInt8.ofNat (n / 64 % 64 + 128)) = true := by
      rw [secondAllowed_iff, first, byte (by omega)]
      omega
    have scanned : Scanned (UInt8.ofNat (n / 4096 % 16 + 224))
        (UInt8.ofNat (n / 64 % 64 + 128) :: UInt8.ofNat (n % 64 + 128) :: rest) _ 3 :=
      .three (by omega) allowed (continues (by omega))
    rw [first, carries (by omega), carries (by omega)] at scanned
    have code : ((n / 4096 % 16 + 224) % 0x10 * 0x40 + n / 64 % 64) * 0x40 + n % 64 = n := by
      omega
    rwa [code] at scanned
  · refine ⟨_, _, rfl, ?_⟩
    have first := byte (n := n / 262144 % 8 + 240) (by omega)
    have allowed : secondAllowed (UInt8.ofNat (n / 262144 % 8 + 240))
        (UInt8.ofNat (n / 4096 % 64 + 128)) = true := by
      rw [secondAllowed_iff, first, byte (by omega)]
      omega
    have scanned : Scanned (UInt8.ofNat (n / 262144 % 8 + 240)) (UInt8.ofNat (n / 4096 % 64 + 128) ::
        UInt8.ofNat (n / 64 % 64 + 128) :: UInt8.ofNat (n % 64 + 128) :: rest) _ 4 :=
      .four (by omega) allowed (continues (by omega)) (continues (by omega))
    rw [first, carries (by omega), carries (by omega), carries (by omega)] at scanned
    have code : (((n / 262144 % 8 + 240) % 8 * 0x40 + n / 4096 % 64) * 0x40 + n / 64 % 64) * 0x40 +
        n % 64 = n := by omega
    rwa [code] at scanned

/-- The bytes that a character is read from are its own. -/
theorem encoded_of_scanned {code width : Nat} (h : Scanned b bs code width) :
    b :: bs = String.utf8EncodeChar (Char.ofNat code) ++ bs.drop (width - 1) := by
  have is {n : Nat} {x : UInt8} (h : n = x.toNat) : UInt8.ofNat n = x := by
    rw [h, UInt8.ofNat_toNat]
  have code_eq {n : Nat} (h : n < 0xD800 ∨ 0xDFFF < n ∧ n < 0x110000) :
      (Char.ofNat n).val.toNat = n := toNat_ofNat h
  cases h with
  | one first =>
    rw [String.utf8EncodeChar, code_eq (by omega)]
    simp [show b.toNat ≤ 127 by omega]
  | @two x rest first second =>
    rw [isContinuation_iff] at second
    rw [payload, String.utf8EncodeChar, code_eq (by omega)]
    rw [if_neg (by omega), if_pos (by omega), is (x := b) (by omega), is (x := x) (by omega)]
    rfl
  | @three x y rest first second third =>
    rw [secondAllowed_iff] at second
    rw [isContinuation_iff] at third
    rw [payload, payload, String.utf8EncodeChar, code_eq (by omega)]
    rw [if_neg (by omega), if_neg (by omega), if_pos (by omega), is (x := b) (by omega),
      is (x := x) (by omega), is (x := y) (by omega)]
    rfl
  | @four x y z rest first second third fourth =>
    rw [secondAllowed_iff] at second
    rw [isContinuation_iff] at third fourth
    rw [payload, payload, payload, String.utf8EncodeChar, code_eq (by omega)]
    rw [if_neg (by omega), if_neg (by omega), if_neg (by omega), is (x := b) (by omega),
      is (x := x) (by omega), is (x := y) (by omega), is (x := z) (by omega)]
    rfl

/-! ## A whole text -/

theorem decodeFrom_encode (start : Nat) (cs : List Char) :
    decodeFrom start (encode cs) = .ok cs := by
  induction cs generalizing start with
  | nil => rw [encode, List.flatMap_nil, decodeFrom]
  | cons c cs ih =>
    obtain ⟨b, bs, bytes, scanned⟩ := scanned_encoded c (encode cs)
    have rest : bs.drop ((String.utf8EncodeChar c).length - 1) = encode cs := by
      have whole := encoded_of_scanned scanned
      rw [Char.ofNat_toNat, ← bytes] at whole
      exact (List.append_cancel_left whole).symm
    rw [encode, List.flatMap_cons, ← encode, bytes, decodeFrom, scan_of_scanned scanned,
      Char.ofNat_toNat]
    simp only
    rw [rest, ih]
    rfl

theorem encode_of_decodeFrom {start : Nat} {bs : List UInt8} {cs : List Char}
    (h : decodeFrom start bs = .ok cs) : bs = encode cs := by
  fun_induction decodeFrom start bs generalizing cs with
  | case1 => cases h; rfl
  | case2 start b bs c width found ih =>
    obtain ⟨code, scanned, rfl⟩ := scanned_of_scan found
    cases tail : decodeFrom (start + width) (bs.drop (width - 1)) with
    | error fault => rw [tail] at h; cases h
    | ok cs' =>
      rw [tail] at h
      cases h
      rw [encoded_of_scanned scanned, ih tail, encode, encode, List.flatMap_cons]
  | case3 start b bs defect width found => cases h

/-- The bytes that are read are those of the text. -/
theorem decode_eq_ok_iff {bs : List UInt8} {cs : List Char} :
    decode bs = .ok cs ↔ bs = encode cs := by
  constructor
  · exact encode_of_decodeFrom
  · rintro rfl
    exact decodeFrom_encode 0 cs

theorem encode_injective {cs ds : List Char} (h : encode cs = encode ds) : cs = ds := by
  have same := decode_eq_ok_iff.mpr h
  rw [decode, decodeFrom_encode] at same
  exact Except.ok.inj same

/-- Bytes that are not read are not those of any text. -/
theorem exists_decode_eq_error_iff {bs : List UInt8} :
    (∃ fault, decode bs = .error fault) ↔ ∀ cs, bs ≠ encode cs := by
  constructor
  · rintro ⟨fault, failed⟩ cs same
    rw [decode_eq_ok_iff.mpr same] at failed
    cases failed
  · intro none
    cases read : decode bs with
    | error fault => exact ⟨fault, rfl⟩
    | ok cs => exact absurd (decode_eq_ok_iff.mp read) (none cs)

end Utf8

end ImportBoundary.Text
