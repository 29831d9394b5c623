import ImportBoundary.Proofs.Edge.Formats
import ImportBoundary.Proofs.Loading.Outcome

/-!
# The same records in both forms

A file with records on lines of their own should be loaded as the file with the same records in one
array. `load_formats_iff` says when it is: if no string in a record has a separator, or else if the
array is refused as well, for a mistake or for a record before the first separator.
-/

namespace ImportBoundary

/-- What failures are told apart by. -/
inductive FailureGroup
  | mistake
  | file (obstacle : Obstacle)
  | encoding
  | value
  | overflow
  | source
  | exhaustion
  | markup
  | output
  deriving DecidableEq, Repr

def Failure.group : Failure → FailureGroup
  | .configuration _ => .mistake
  | .file fault => .file fault.obstacle
  | .bytes _ => .encoding
  | .longInteger _ | .bothAlphabets | .relativeSource _ | .nulInSource => .value
  | .hugeRepeat | .infiniteLocation => .overflow
  | .source _ _ => .source
  | .exhausted => .exhaustion
  | .markup _ => .markup
  | .untaken => .output

/-- The same result, or failures of one group. -/
inductive SameOutcome {α : Type} : Except Failure α → Except Failure α → Prop
  | result (x : α) : SameOutcome (.ok x) (.ok x)
  | failure {f g : Failure} (h : f.group = g.group) : SameOutcome (.error f) (.error g)

theorem SameOutcome.refl {α : Type} (x : Except Failure α) : SameOutcome x x := by
  cases x with
  | error f => exact .failure rfl
  | ok x => exact .result x

theorem sameOutcome_error_iff {α : Type} {f g : Failure} :
    SameOutcome (.error f : Except Failure α) (.error g) ↔ f.group = g.group := by
  constructor
  · rintro ⟨⟩
    assumption
  · exact .failure

open Text

/-- A file that holds the bytes of a text without carriage returns holds that text. -/
theorem FileSystem.holdsText_of_file {fs : FileSystem} {path : String} {text : List Char}
    (held : fs.seen? path = some (.file (Utf8.encode text))) (plain : '\r' ∉ text) :
    fs.HoldsText path text :=
  ⟨text, held, (unifyNewlines_eq_self plain).symm⟩

namespace Edge

variable {shows : Json.Alphabet} {root : String} {records : List Record}

/-- With an absolute directory only an infinite location is no mistake. -/
theorem group_ofRecordFault (absolute : Path.isAbsolute root = true) {fault : RecordFault}
    (h : ofRecords root records = .error fault) :
    (Failure.ofRecordFault fault).group = .mistake ↔ fault ≠ .infiniteLocation := by
  induction records with
  | nil => cases h
  | cons record records ih =>
    rw [ofRecords_cons, ofRecord_eq absolute] at h
    cases located : completeLocation record with
    | error cause =>
      rw [located] at h
      obtain rfl : cause = fault := Except.error.inj h
      rcases completeLocation_eq_error located with ⟨names, rfl⟩ | ⟨line, column, rfl⟩ | rfl <;>
        simp [Failure.ofRecordFault, Failure.group]
    | ok location =>
      rw [located] at h
      refine ih ?_
      cases others : ofRecords root records with
      | error cause =>
        rw [others] at h
        exact congrArg Except.error (Except.error.inj h)
      | ok edges =>
        rw [others] at h
        cases h

/-- A file is loaded as the list that its text is. -/
theorem load_of_listOfText {fs : FileSystem} {path : String} {text : List Char}
    (held : fs.seen? path = some (.file (Utf8.encode text))) (noReturn : '\r' ∉ text) (root : String) :
    load fs path root = (listOfText root text).mapError (.ofListFault path) := by
  rw [load_of_text root (FileSystem.holdsText_of_file held noReturn), listOfText_eq]

theorem mapError_badRecord (path : String) (r : Except RecordFault (List Edge)) :
    (r.mapError ListFault.badRecord).mapError (Failure.ofListFault path) =
      r.mapError Failure.ofRecordFault := by
  cases r <;> rfl

/-- One of the records before the first that is not whole is no edge. -/
def RefusedEarly (root : String) (records : List Record) : Prop :=
  ∃ before after fault, records = before ++ after ∧ (∀ record ∈ before, IsWhole record) ∧
    ofRecords root before = .error fault

theorem refusedEarly_append_cons {before after : List Record} {record : Record}
    (cut : ¬ IsWhole record) {edges : List Edge} (read : ofRecords root before = .ok edges) :
    ¬ RefusedEarly root (before ++ record :: after) := by
  rintro ⟨first, others, fault, same, whole, refused⟩
  rcases List.append_eq_append_iff.mp same with ⟨between, rfl, rest⟩ | ⟨between, rfl, -⟩
  · cases between with
    | nil =>
      rw [List.append_nil, read] at refused
      cases refused
    | cons head between =>
      -- the whole records cannot reach beyond the one that is not
      obtain ⟨rfl, -⟩ := List.cons.inj rest
      exact cut (whole record (by simp))
  · rw [ofRecords_append, refused] at read
    cases read

/-- A malformed line is a mistake, so what the array comes to must be one. -/
theorem sameOutcome_malformed_iff (absolute : Path.isAbsolute root = true)
    (separated : ¬ ∀ record ∈ records, IsWhole record) (late : ¬ RefusedEarly root records)
    (malformed : ConfigurationFault) :
    SameOutcome (.error (.configuration malformed))
        ((ofRecords root records).mapError Failure.ofRecordFault) ↔
      (∀ record ∈ records, IsWhole record) ∨ ∃ fault, ofRecords root records = .error fault ∧
        (fault ≠ .infiniteLocation ∨ RefusedEarly root records) := by
  cases loaded : ofRecords root records with
  | ok edges =>
    refine iff_of_false nofun ?_
    rintro (whole | ⟨fault, refused, -⟩)
    · exact separated whole
    · cases refused
  | error fault =>
    refine sameOutcome_error_iff.trans (eq_comm.trans ?_)
    refine (group_ofRecordFault absolute loaded).trans ⟨fun mistake => ?_, ?_⟩
    · exact .inr ⟨fault, rfl, .inl mistake⟩
    · rintro (whole | ⟨_, ⟨⟩, mistake | early⟩)
      · exact absurd whole separated
      · exact mistake
      · exact absurd early late

/-- The same records on lines, with any number of empty lines among them, and in one array. The array
gives one edge for each record, in order. The lines give the same, or fail as the array does, exactly
if no string in a record has a separator, or else if the array is refused, for a mistake or for a
record before the first that is not whole. -/
theorem load_formats_iff (absolute : Path.isAbsolute root = true) (lines : List (Option Record))
    (writable : ∀ record ∈ recordsOf lines, Json.Writable (.obj record))
    (plain : ∀ c, shows c = true → 0x20 ≤ c.toNat) {fs fs' : FileSystem} {path path' : String}
    (onLines : fs.seen? path = some (.file (Utf8.encode (linesText lines))))
    (inArray : fs'.seen? path' = some (.file (Utf8.encode (arrayText shows (recordsOf lines))))) :
    load fs' path' root =
        (ofRecords root (recordsOf lines)).mapError Failure.ofRecordFault ∧
      (SameOutcome (load fs path root) (load fs' path' root) ↔
        (∀ record ∈ recordsOf lines, IsWhole record) ∨
          ∃ fault, ofRecords root (recordsOf lines) = .error fault ∧
            (fault ≠ .infiniteLocation ∨ RefusedEarly root (recordsOf lines))) := by
  have array : load fs' path' root =
      (ofRecords root (recordsOf lines)).mapError Failure.ofRecordFault := by
    rw [load_of_listOfText inArray (noReturn_arrayText plain writable),
      listOfText_arrayText plain writable, mapError_badRecord]
  have byLine := load_of_listOfText onLines (noReturn_linesText writable) root
  refine ⟨array, ?_⟩
  rw [array, byLine]
  rcases lines_cases lines with whole | ⟨before, record, after, rfl, whole, cut⟩
  · rw [listOfText_linesText writable whole, mapError_badRecord]
    exact iff_of_true (SameOutcome.refl _) (.inl whole)
  · have split : recordsOf (before ++ some record :: after) =
        recordsOf before ++ record :: recordsOf after := recordsOf_append ..
    rw [split] at writable ⊢
    have separated : ¬ ∀ r ∈ recordsOf before ++ record :: recordsOf after, IsWhole r :=
      fun all => cut (all record (by simp))
    obtain ⟨part, malformed, same⟩ : ∃ part malformed,
        listOfText root (linesText (before ++ some record :: after)) = _ :=
      listOfText_cut (fun r hr => writable r (List.mem_append_left _ hr)) whole
        (writable record (by simp)) cut
    rw [same]
    cases read : ofRecords root (recordsOf before) with
    | error fault =>
      -- both forms fail for the same record, before the cut
      have refused : ofRecords root (recordsOf before ++ record :: recordsOf after) =
          .error fault := by rw [ofRecords_append, read]
      rw [refused]
      exact iff_of_true (SameOutcome.refl _)
        (.inr ⟨fault, rfl, .inr ⟨_, _, fault, rfl, whole, read⟩⟩)
    | ok edges =>
      exact sameOutcome_malformed_iff absolute separated (refusedEarly_append_cons cut read) _

/-- The same records in a file `l` on lines and in a file `a` in one array. -/
def bothFormats (lines : List (Option Record)) : FileSystem where
  entries := [(["l"], .file (Utf8.encode (linesText lines))),
    (["a"], .file (Utf8.encode (arrayText Json.allButControls (recordsOf lines))))]
  current := []

/-- A record of an edge, with the source that it is given. -/
def recordFrom (source : String) : Record :=
  [("source_file", .str source), ("import_specifier", .str "./x")]

theorem writable_recordFrom (source : String) : Json.Writable (.obj (recordFrom source)) := by
  refine .obj (by simp [recordFrom]) fun f hf => ?_
  simp only [recordFrom, List.mem_cons, List.not_mem_nil, or_false] at hf
  rcases hf with rfl | rfl <;> exact .str _

theorem isWhole_recordFrom {source : String} (h : source.toList.any Json.isSeparator = false) :
    IsWhole (recordFrom source) := by
  have plain {s : String} (none : s.toList.any Json.isSeparator = false) :
      ¬ ∃ c ∈ s.toList, Json.isSeparator c = true := by
    rw [← List.any_eq_true, none]
    exact Bool.false_ne_true
  rintro ⟨s, has, separator⟩
  cases has with
  | name hf =>
    simp only [recordFrom, List.mem_cons, List.not_mem_nil, or_false] at hf
    rcases hf with rfl | rfl
    · exact plain (show "source_file".toList.any Json.isSeparator = false from rfl) separator
    · exact plain (show "import_specifier".toList.any Json.isSeparator = false from rfl) separator
  | value hf inner =>
    simp only [recordFrom, List.mem_cons, List.not_mem_nil, or_false] at hf
    rcases hf with rfl | rfl <;> cases inner
    · exact plain h separator
    · exact plain rfl separator

theorem ofRecords_recordFrom {source : String} (h : source.isEmpty = false) :
    ofRecords "/r" [recordFrom source] = .ok [edgeAt "/r" (recordFrom source) none] := by
  have located : completeLocation (recordFrom source) = .ok none := by
    simp [completeLocation, requiredFields, fieldOf, recordFrom, Json.isEmptyValue, locationOf,
      List.lookup_cons, List.lookup_nil, h]
  rw [ofRecords_cons, ofRecord_eq (by decide), located]
  rfl

/-- A record on the line after an empty one. -/
def lineAfterEmpty : List (Option Record) :=
  [none, some (recordFrom "a.py")]

/-- The record is loaded from its line as from the array. -/
theorem load_formats_iff_emptyLine :
    Path.isAbsolute "/r" = true ∧
      (∀ record ∈ recordsOf lineAfterEmpty, Json.Writable (.obj record)) ∧
      load (bothFormats lineAfterEmpty) "l" "/r" = .ok [edgeAt "/r" (recordFrom "a.py") none] := by
  have absolute : Path.isAbsolute "/r" = true := by decide
  have writable : ∀ record ∈ recordsOf lineAfterEmpty, Json.Writable (.obj record) := by
    intro record hr
    obtain rfl := List.mem_singleton.mp hr
    exact writable_recordFrom "a.py"
  have whole : ∀ record ∈ recordsOf lineAfterEmpty, IsWhole record := by
    intro record hr
    obtain rfl := List.mem_singleton.mp hr
    exact isWhole_recordFrom rfl
  have onLines : (bothFormats lineAfterEmpty).seen? "l" =
      some (.file (Utf8.encode (linesText lineAfterEmpty))) := rfl
  have inArray : (bothFormats lineAfterEmpty).seen? "a" =
      some (.file (Utf8.encode (arrayText Json.allButControls (recordsOf lineAfterEmpty)))) := rfl
  obtain ⟨array, agree⟩ :=
    load_formats_iff absolute lineAfterEmpty writable visible_of_shown onLines inArray
  have made : ofRecords "/r" (recordsOf lineAfterEmpty) = _ := ofRecords_recordFrom rfl
  have same := agree.mpr (.inl whole)
  rw [array, made] at same
  refine ⟨absolute, writable, ?_⟩
  generalize load (bothFormats lineAfterEmpty) "l" "/r" = loaded at same
  cases same
  rfl

/-- A source with a line separator in its name is loaded from an array, but not from lines. -/
theorem load_formats_separator :
    Path.isAbsolute "/r" = true ∧
      (∃ edge, load (bothFormats [some (recordFrom "a\u2028b.py")]) "a" "/r" = .ok [edge]) ∧
      ∃ fault, load (bothFormats [some (recordFrom "a\u2028b.py")]) "l" "/r" =
        .error (.configuration fault) := by
  have writable : ∀ record ∈ recordsOf [some (recordFrom "a\u2028b.py")],
      Json.Writable (.obj record) := by
    intro record hr
    obtain rfl := List.mem_singleton.mp hr
    exact writable_recordFrom _
  have cut : ¬ IsWhole (recordFrom "a\u2028b.py") := fun whole =>
    whole ⟨"a\u2028b.py", .value (List.mem_cons_self ..) (.str _), List.any_eq_true.mp rfl⟩
  refine ⟨by decide, ?_, ?_⟩
  · refine ⟨edgeAt "/r" (recordFrom "a\u2028b.py") none, ?_⟩
    rw [load_of_listOfText rfl (noReturn_arrayText visible_of_shown writable),
      listOfText_arrayText visible_of_shown writable, mapError_badRecord]
    exact congrArg (Except.mapError _) (ofRecords_recordFrom rfl)
  · obtain ⟨part, malformed, same⟩ : ∃ part malformed,
        listOfText "/r" (linesText ([] ++ some (recordFrom "a\u2028b.py") :: [])) = _ :=
      listOfText_cut nofun nofun (writable_recordFrom _) cut
    refine ⟨.edgesUnreadable "l" part malformed, ?_⟩
    rw [load_of_listOfText rfl (noReturn_linesText writable)]
    exact congrArg (Except.mapError _) same

end Edge

end ImportBoundary
