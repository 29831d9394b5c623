/-!
# UTF-8

Bytes to characters. `decode` refuses the first malformed sequence and says where it stands;
`decodeLossy` puts U+FFFD in the place of each. Surrogates, overlong forms and code points past
U+10FFFF are malformed.
-/

namespace ImportBoundary.Text.Utf8

/-- What is wrong with a malformed sequence. -/
inductive Defect
  | badStart
  | badContinuation
  | cutShort
  deriving DecidableEq, Repr

def Defect.message : Defect → String
  | .badStart => "invalid start byte"
  | .badContinuation => "invalid continuation byte"
  | .cutShort => "unexpected end of data"

/-- A malformed sequence: its first byte, where it starts, and how many bytes belong to it. -/
structure Fault where
  first : UInt8
  start : Nat
  width : Nat
  defect : Defect
  deriving DecidableEq, Repr

/-- A byte of the form 10xxxxxx. -/
def isContinuation (b : UInt8) : Bool :=
  0x80 ≤ b && b < 0xC0

/-- The six bits that a continuation byte carries. -/
def payload (b : UInt8) : Nat :=
  b.toNat % 0x40

/-- The second byte rules out overlong forms, surrogates and code points that are too large. -/
def secondAllowed (first second : UInt8) : Bool :=
  isContinuation second &&
    !(first == 0xE0 && second < 0xA0) && !(first == 0xED && 0xA0 ≤ second) &&
    !(first == 0xF0 && second < 0x90) && !(first == 0xF4 && 0x90 ≤ second)

/-- What stands at the head of the bytes: a character or a defect, and how many bytes it takes. -/
def scan (first : UInt8) (rest : List UInt8) : (Char ⊕ Defect) × Nat :=
  if first < 0x80 then (.inl (Char.ofNat first.toNat), 1)
  else if first < 0xC2 then (.inr .badStart, 1)
  else if first < 0xE0 then
    match rest with
    | [] => (.inr .cutShort, 1)
    | b :: _ =>
      if isContinuation b then (.inl (Char.ofNat (first.toNat % 0x20 * 0x40 + payload b)), 2)
      else (.inr .badContinuation, 1)
  else if first < 0xF0 then
    match rest with
    | [] => (.inr .cutShort, 1)
    | b :: rest =>
      if !secondAllowed first b then (.inr .badContinuation, 1)
      else
        match rest with
        | [] => (.inr .cutShort, 2)
        | c :: _ =>
          if isContinuation c then
            (.inl (Char.ofNat ((first.toNat % 0x10 * 0x40 + payload b) * 0x40 + payload c)), 3)
          else (.inr .badContinuation, 2)
  else if first < 0xF5 then
    match rest with
    | [] => (.inr .cutShort, 1)
    | b :: rest =>
      if !secondAllowed first b then (.inr .badContinuation, 1)
      else
        match rest with
        | [] => (.inr .cutShort, 2)
        | c :: rest =>
          if !isContinuation c then (.inr .badContinuation, 2)
          else
            match rest with
            | [] => (.inr .cutShort, 3)
            | d :: _ =>
              if isContinuation d then
                (.inl (Char.ofNat
                  (((first.toNat % 8 * 0x40 + payload b) * 0x40 + payload c) * 0x40 + payload d)), 4)
              else (.inr .badContinuation, 3)
  else (.inr .badStart, 1)

/-- The characters of the bytes from position `start` on. -/
def decodeFrom (start : Nat) : List UInt8 → Except Fault (List Char)
  | [] => .ok []
  | b :: bs =>
    match scan b bs with
    | (.inl c, width) => (decodeFrom (start + width) (bs.drop (width - 1))).map (c :: ·)
    | (.inr defect, width) => .error ⟨b, start, width, defect⟩
termination_by bs => bs.length
decreasing_by simp only [List.length_drop, List.length_cons]; omega

/-- The characters of the bytes, or the first malformed sequence. -/
def decode (bs : List UInt8) : Except Fault (List Char) :=
  decodeFrom 0 bs

/-- The characters of the bytes, with U+FFFD for each malformed sequence. -/
def decodeLossy : List UInt8 → List Char
  | [] => []
  | b :: bs =>
    match scan b bs with
    | (.inl c, width) => c :: decodeLossy (bs.drop (width - 1))
    | (.inr _, width) => '\uFFFD' :: decodeLossy (bs.drop (width - 1))
termination_by bs => bs.length
decreasing_by all_goals simp only [List.length_drop, List.length_cons]; omega

/-- Two lower-case hexadecimal digits. -/
def byteText (b : UInt8) : String :=
  let digits := Nat.toDigits 16 b.toNat
  "0x" ++ String.ofList (List.replicate (2 - digits.length) '0' ++ digits)

namespace Fault

/-- The position of the last byte that belongs to the malformed sequence. -/
def last (f : Fault) : Nat :=
  f.start + f.width - 1

/-- One byte is shown by its value, several by where they stand. -/
def message (f : Fault) : String :=
  if f.width = 1 then
    s!"'utf-8' codec can't decode byte {byteText f.first} in position {f.start}: {f.defect.message}"
  else
    s!"'utf-8' codec can't decode bytes in position {f.start}-{f.last}: {f.defect.message}"

end Fault

end ImportBoundary.Text.Utf8
