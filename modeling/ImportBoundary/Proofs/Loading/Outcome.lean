import ImportBoundary.Loading
import ImportBoundary.Proofs.Edge.Readings
import ImportBoundary.Proofs.Files.Length
import ImportBoundary.Proofs.Policy.Grammar
import ImportBoundary.Proofs.Text.Utf8

/-!
# What becomes of a file that is loaded

A loader should give a result or tell a mistake in the file (`IsResultOrMistake`). `load_promise_iff` says
for every host which paths and files make the two loaders fail in another way: a path that is too long,
what cannot be read as text, and a text that breaks the loader (`Policy.Breaks`, `Edge.Breaks`), because its
JSON stops at an integer of too many digits, a pattern fails without a fault, the location of a record is
infinite, or there is no room for what is nested in it.
-/

namespace ImportBoundary

/-- A result, or a mistake that is told. -/
inductive IsResultOrMistake {α : Type} : Except Failure α → Prop
  | result (x : α) : IsResultOrMistake (.ok x)
  | mistake (fault : ConfigurationFault) : IsResultOrMistake (.error (.configuration fault))

theorem isResultOrMistake_error {α : Type} {failure : Failure} :
    IsResultOrMistake (.error failure : Except Failure α) ↔
      ∃ fault, failure = .configuration fault := by
  constructor
  · rintro ⟨⟩
    exact ⟨_, rfl⟩
  · rintro ⟨fault, rfl⟩
    exact .mistake fault

/-! ## Files -/

namespace FileSystem

open Text

/-- There is something at the path, but no text: a directory, or bytes that are not those of any
text. -/
inductive HoldsNoText (fs : FileSystem) (path : String) : Prop
  | directory (h : fs.seen? path = some .directory) : HoldsNoText fs path
  | bytes (bytes : List UInt8) (h : fs.seen? path = some (.file bytes))
    (none : ∀ text, bytes ≠ Utf8.encode text) : HoldsNoText fs path

/-- The text in the file at a path, its line ends aside. -/
def HoldsText (fs : FileSystem) (path : String) (text : List Char) : Prop :=
  ∃ raw, fs.seen? path = some (.file (Utf8.encode raw)) ∧ text = unifyNewlines raw

/-- What is found at a path is at the end of the route that the path leads along. -/
theorem exists_route_of_at? {fs : FileSystem} {path : String} {entry : Entry}
    (h : fs.at? path = some entry) :
    ∃ route, fs.follow path = .ok route ∧ fs.entry? route = some entry := by
  unfold at? at h
  split at h
  · next route followed => exact ⟨route, followed, h⟩
  · cases h

theorem readText_of_directory {fs : FileSystem} {path : String}
    (h : fs.at? path = some .directory) :
    fs.readText path = .error (.file ⟨.isDirectory, path⟩) := by
  obtain ⟨route, followed, found⟩ := exists_route_of_at? h
  simp only [readText, read, followed, found]

theorem readText_of_file {fs : FileSystem} {path : String} {bytes : List UInt8}
    (h : fs.at? path = some (.file bytes)) :
    fs.readText path = ((Utf8.decode bytes).map unifyNewlines).mapError .bytes := by
  obtain ⟨route, followed, found⟩ := exists_route_of_at? h
  simp only [readText, read, followed, found]
  cases Utf8.decode bytes <;> rfl

theorem holdsText_iff {fs : FileSystem} {path : String} {text : List Char} :
    fs.HoldsText path text ↔ fs.contains path = true ∧ fs.readText path = .ok text := by
  rw [contains, HoldsText]
  constructor
  · rintro ⟨raw, held, rfl⟩
    rw [readText_of_file (seen_eq_some_iff.mp held).2, Utf8.decode_eq_ok_iff.mpr rfl, held]
    exact ⟨rfl, rfl⟩
  · rintro ⟨there, read⟩
    obtain ⟨entry, held⟩ := Option.isSome_iff_exists.mp there
    have found := (seen_eq_some_iff.mp held).2
    cases entry with
    | directory => rw [readText_of_directory found] at read; cases read
    | file bytes =>
      rw [readText_of_file found] at read
      cases decoded : Utf8.decode bytes with
      | error fault => rw [decoded] at read; cases read
      | ok raw =>
        rw [decoded] at read
        exact ⟨raw, by rw [held, Utf8.decode_eq_ok_iff.mp decoded], (Except.ok.inj read).symm⟩

theorem holdsNoText_iff {fs : FileSystem} {path : String} :
    fs.HoldsNoText path ↔ fs.contains path = true ∧ ∃ fault, fs.readText path = .error fault := by
  rw [contains]
  constructor
  · rintro (held | ⟨bytes, held, none⟩)
    · exact ⟨by rw [held]; rfl, _, readText_of_directory (seen_eq_some_iff.mp held).2⟩
    · obtain ⟨fault, failed⟩ := Utf8.exists_decode_eq_error_iff.mpr none
      refine ⟨by rw [held]; rfl, .bytes fault, ?_⟩
      rw [readText_of_file (seen_eq_some_iff.mp held).2, failed]
      rfl
  · rintro ⟨there, fault, failed⟩
    obtain ⟨entry, held⟩ := Option.isSome_iff_exists.mp there
    cases entry with
    | directory => exact .directory held
    | file bytes =>
      refine .bytes bytes held (Utf8.exists_decode_eq_error_iff.mp ?_)
      rw [readText_of_file (seen_eq_some_iff.mp held).2] at failed
      cases decoded : Utf8.decode bytes with
      | error fault => exact ⟨fault, rfl⟩
      | ok raw => rw [decoded] at failed; cases failed

/-- A path is too long, or leads nowhere, to a text or to no text. -/
theorem holds_cases (fs : FileSystem) (path : String) :
    fs.tooLong path = true ∧ (∀ text, ¬ fs.HoldsText path text) ∧ ¬ fs.HoldsNoText path ∨
      fs.tooLong path = false ∧
        (fs.probe path = .ok none ∧ (∀ text, ¬ fs.HoldsText path text) ∧ ¬ fs.HoldsNoText path ∨
          (∃ text, fs.HoldsText path text ∧ ¬ fs.HoldsNoText path) ∨ fs.HoldsNoText path) := by
  simp only [holdsText_iff, holdsNoText_iff, contains, seen?, probe]
  cases fs.tooLong path with
  | true => simp
  | false => cases fs.at? path <;> cases fs.readText path <;> simp

theorem probe_of_contains {fs : FileSystem} {path : String} (there : fs.contains path = true) :
    ∃ entry, fs.probe path = .ok (some entry) := by
  obtain ⟨fits, entry, found⟩ := contains_iff_exists.mp there
  exact ⟨entry, probe_eq_ok_iff.mpr ⟨fits, found⟩⟩

theorem HoldsText.unique {fs : FileSystem} {path : String} {text other : List Char}
    (h : fs.HoldsText path text) (h' : fs.HoldsText path other) : text = other := by
  have read := (holdsText_iff.mp h).2
  rw [(holdsText_iff.mp h').2] at read
  exact (Except.ok.inj read).symm

end FileSystem

section

variable [Host] {fs : FileSystem} {path root : String} {text : List Char}

/-! ## Policies -/

/-- Reading the text stops, although nothing in it is wrong. -/
def Stops (text : List Char) : Prop :=
  ∃ cause, Host.document text = .error cause ∧ ∀ fault, cause ≠ .malformed fault

namespace Policy

/-- The policy that a document should describe is refused without a mistake: there is no room to tell what
is wrong with its shape, or the first of its patterns that cannot be read has no fault. -/
def IsRefusedUntold (v : Json) : Prop :=
  ¬ IsDocument v ∧ Host.shows v = false ∨
    IsDocument v ∧ ∃ place cause, FirstRefused v place cause ∧ ∀ fault, cause ≠ .faulty fault

/-- The text of a policy is not refused for a mistake. -/
def Breaks (text : List Char) : Prop :=
  Stops text ∨ ∃ fields, Host.document text = .ok (.obj fields) ∧ IsRefusedUntold (.obj fields)

theorem build_isResultOrMistake (absolute : Path.isAbsolute root = true) (v : Json) :
    IsResultOrMistake (build root v) ↔ ¬ IsRefusedUntold v := by
  have unexpected := (build_outcome root v).2.2.2.2
  simp only [absolute, true_and] at unexpected
  rw [IsRefusedUntold, ← unexpected]
  cases built : build root v with
  | ok policy => simp [IsResultOrMistake.result]
  | error failure => simp [isResultOrMistake_error]

theorem load_of_tooLong (root : String) (h : fs.tooLong path = true) :
    load fs path root = .error (.file ⟨.tooLong, path⟩) := by
  simp only [load, loadDocument, FileSystem.probe, h]
  rfl

theorem load_of_missing (root : String) (h : fs.probe path = .ok none) :
    load fs path root = .error (.configuration (.policyMissing path)) := by
  simp only [load, loadDocument, h]
  rfl

theorem load_of_noText (root : String) (h : fs.HoldsNoText path) :
    ∃ fault, load fs path root = .error (.ofReadFault fault) := by
  obtain ⟨there, fault, failed⟩ := FileSystem.holdsNoText_iff.mp h
  obtain ⟨entry, probed⟩ := FileSystem.probe_of_contains there
  refine ⟨fault, ?_⟩
  simp only [load, loadDocument, probed, failed]
  rfl

theorem load_of_text (root : String) (h : fs.HoldsText path text) : load fs path root =
      match Host.document text with
      | .error (.malformed cause) => .error (.configuration (.policyUnreadable path cause))
      | .error (.longInteger digits) => .error (.longInteger digits)
      | .error .exhausted => .error .exhausted
      | .ok (.obj fields) => build root (.obj fields)
      | .ok value => .error (.configuration (.policyNoObject path value)) := by
  obtain ⟨there, read⟩ := FileSystem.holdsText_iff.mp h
  obtain ⟨entry, probed⟩ := FileSystem.probe_of_contains there
  simp only [load, loadDocument, probed, read]
  cases parsed : Host.document text with
  | error cause => cases cause <;> simp only [Except.mapError, bind, Except.bind, parsed] <;> rfl
  | ok v => cases v <;> simp only [Except.mapError, bind, Except.bind, parsed] <;> rfl

/-- Which texts become a policy or a mistake. -/
theorem load_isResultOrMistake (absolute : Path.isAbsolute root = true)
    (h : fs.HoldsText path text) : IsResultOrMistake (load fs path root) ↔ ¬ Breaks text := by
  rw [load_of_text root h, Breaks, Stops]
  cases Host.document text with
  | error cause => cases cause <;> simp [isResultOrMistake_error]
  | ok v =>
    cases v with
    | obj fields => simpa using build_isResultOrMistake absolute (.obj fields)
    | _ => simpa using .mistake _

end Policy

/-! ## Lists of edges -/

namespace Edge

/-- The reading is no edge, and what is wrong with it cannot be told: its JSON stops, its location is
infinite, or there is no room to write its values out. -/
def Reading.Breaks (root : String) (r : Reading) : Prop :=
  (∃ cause, r.value = .error cause ∧ ∀ fault, cause ≠ .malformed fault) ∨
    ∃ fields, r.value = .ok (.obj fields) ∧
      (HasInfiniteLocation fields ∨ writesOut fields (ofRecord root fields) = false)

/-- The text of a list is not refused for a mistake in the first of its readings that is no edge. -/
def Breaks (root : String) (text : List Char) : Prop :=
  ∃ before r after, readings text = before ++ r :: after ∧
    (∀ b ∈ before, ∃ e, b.IsEdge root e) ∧ r.Breaks root

theorem ofListFault_ofReading (absolute : Path.isAbsolute root = true) {index : Nat} {r : Reading}
    {fault : ListFault} (h : ofReading root index r = .error fault) (path : String) :
    (∃ told, Failure.ofListFault path fault = .configuration told) ↔ ¬ r.Breaks root := by
  obtain ⟨part, value⟩ := r
  simp only [ofReading] at h
  rw [Reading.Breaks]
  rcases value with cause | value
  · cases h
    cases cause <;> simp [Failure.ofListFault]
  · cases value with
    | obj fields =>
      simp only [reduceCtorEq, false_and, exists_false, false_or, Except.ok.injEq, Json.obj.injEq,
        exists_eq_left', ← completeLocation_eq_infinite_iff]
      simp only [ofValue, ofRecord_eq absolute] at h ⊢
      cases room : writesOut fields ((completeLocation fields).map (edgeAt root fields)) with
      | false =>
        rw [room, if_neg Bool.false_ne_true] at h
        cases h
        simp [Failure.ofListFault]
      | true =>
        rw [room, if_pos rfl] at h
        cases located : completeLocation fields with
        | ok location => simp [located, Except.map, Except.mapError] at h
        | error cause =>
          simp only [located, Except.map, Except.mapError, Except.error.injEq] at h
          subst h
          rcases completeLocation_eq_error located with ⟨names, rfl⟩ | ⟨line, column, rfl⟩ | rfl <;>
            simp [Failure.ofListFault, Failure.ofRecordFault]
    | _ =>
      cases h
      simp [Failure.ofListFault]

theorem not_breaks_of_isEdge {r : Reading} {e : Edge} (absolute : Path.isAbsolute root = true)
    (h : r.IsEdge root e) : ¬ r.Breaks root := by
  obtain ⟨fields, value, made, room⟩ := h
  rintro (⟨cause, stops, -⟩ | ⟨fields', same, wrong⟩)
  · rw [value] at stops
    cases stops
  · rw [value] at same
    cases same
    rcases wrong with infinite | full
    · rw [ofRecord_eq absolute, completeLocation_eq_infinite_iff.mpr infinite] at made
      cases made
    · rw [made, room] at full
      cases full

theorem load_of_tooLong (root : String) (h : fs.tooLong path = true) :
    load fs path root = .error (.file ⟨.tooLong, path⟩) := by
  simp only [load, FileSystem.probe, h]
  rfl

theorem load_of_missing (root : String) (h : fs.probe path = .ok none) :
    load fs path root = .error (.configuration (.edgesMissing path)) := by
  simp only [load, h]
  rfl

theorem load_of_noText (root : String) (h : fs.HoldsNoText path) :
    ∃ fault, load fs path root = .error (.ofReadFault fault) := by
  obtain ⟨there, fault, failed⟩ := FileSystem.holdsNoText_iff.mp h
  obtain ⟨entry, probed⟩ := FileSystem.probe_of_contains there
  refine ⟨fault, ?_⟩
  simp only [load, probed, failed]
  rfl

theorem load_of_text (root : String) (h : fs.HoldsText path text) : load fs path root =
      (ofReadings root 0 (readings text)).mapError (.ofListFault path) := by
  obtain ⟨there, read⟩ := FileSystem.holdsText_iff.mp h
  obtain ⟨entry, probed⟩ := FileSystem.probe_of_contains there
  simp only [load, probed, read, ← listOfText_eq]
  rfl

/-- Which texts become a list of edges or a mistake. -/
theorem load_isResultOrMistake (absolute : Path.isAbsolute root = true)
    (h : fs.HoldsText path text) : IsResultOrMistake (load fs path root) ↔ ¬ Breaks root text := by
  rw [load_of_text root h]
  constructor
  · rintro kept ⟨before, r, after, whole, good, wrong⟩
    obtain ⟨edges, good⟩ := exists_edges_of_forall good
    cases stop : ofReading root (0 + before.length) r with
    | error fault =>
      rw [whole, ofReadings_of_stop after good stop] at kept
      exact (ofListFault_ofReading absolute stop path).mp (isResultOrMistake_error.mp kept) wrong
    | ok e => exact not_breaks_of_isEdge absolute (ofReading_eq_ok_iff.mp stop) wrong
  · intro sound
    rcases readings_cases root 0 (readings text) with
      ⟨edges, all⟩ | ⟨before, edges, r, after, fault, whole, good, stop⟩
    · rw [ofReadings_of_forall₂ all]
      exact .result edges
    · rw [whole, ofReadings_of_stop after good stop]
      refine isResultOrMistake_error.mpr ((ofListFault_ofReading absolute stop path).mpr ?_)
      exact fun wrong => sound ⟨before, r, after, whole, forall_exists_edge good, wrong⟩

end Edge

end

/-! ## Both loaders -/

theorem not_isResultOrMistake_file {α : Type} (fault : FileFault) :
    ¬ IsResultOrMistake (.error (.file fault) : Except Failure α) := by
  rw [isResultOrMistake_error]
  simp

theorem not_isResultOrMistake_ofReadFault {α : Type} (fault : FileSystem.ReadFault) :
    ¬ IsResultOrMistake (.error (.ofReadFault fault) : Except Failure α) := by
  rw [isResultOrMistake_error]
  cases fault <;> simp [Failure.ofReadFault]

/-- What a loader does with a path comes down to what it does with the text there. -/
theorem isResultOrMistake_iff {α : Type} {fs : FileSystem} {path : String}
    {loaded : Except Failure α} {Breaks : List Char → Prop}
    (tooLong : fs.tooLong path = true → loaded = .error (.file ⟨.tooLong, path⟩))
    (missing : fs.probe path = .ok none → IsResultOrMistake loaded)
    (noText : fs.HoldsNoText path → ∃ fault, loaded = .error (.ofReadFault fault))
    (text : ∀ {text}, fs.HoldsText path text → (IsResultOrMistake loaded ↔ ¬ Breaks text)) :
    IsResultOrMistake loaded ↔ ¬ (fs.tooLong path = true ∨ fs.HoldsNoText path ∨
      ∃ text, fs.HoldsText path text ∧ Breaks text) := by
  rcases fs.holds_cases path with ⟨long, none, known⟩ | ⟨fits, rest⟩
  · obtain rfl := tooLong long
    simp [not_isResultOrMistake_file, long]
  · rcases rest with ⟨absent, none, known⟩ | ⟨held, here, known⟩ | unknown
    · simp [missing absent, fits, none, known]
    · rw [text here]
      refine not_congr ⟨fun breaks => .inr (.inr ⟨held, here, breaks⟩), ?_⟩
      rintro (long | unknown | ⟨other, there, breaks⟩)
      · exact absurd (fits.symm.trans long) Bool.false_ne_true
      · exact absurd unknown known
      · exact here.unique there ▸ breaks
    · obtain ⟨fault, rfl⟩ := noText unknown
      simp [not_isResultOrMistake_ofReadFault, unknown]

/-- The two loaders, for every host, file system and path and every absolute directory: there is a result or
a mistake is told, unless the path is too long, what it leads to cannot be read as text, or its text breaks
the loader. -/
theorem load_promise_iff [Host] (fs : FileSystem) (path root : String)
    (absolute : Path.isAbsolute root = true) :
    (IsResultOrMistake (Policy.load fs path root) ↔ ¬ (fs.tooLong path = true ∨
        fs.HoldsNoText path ∨ ∃ text, fs.HoldsText path text ∧ Policy.Breaks text)) ∧
      (IsResultOrMistake (Edge.load fs path root) ↔ ¬ (fs.tooLong path = true ∨
        fs.HoldsNoText path ∨ ∃ text, fs.HoldsText path text ∧ Edge.Breaks root text)) := by
  constructor
  · exact isResultOrMistake_iff (Policy.load_of_tooLong root)
      (fun absent => Policy.load_of_missing root absent ▸ .mistake _) (Policy.load_of_noText root)
      (Policy.load_isResultOrMistake absolute)
  · exact isResultOrMistake_iff (Edge.load_of_tooLong root)
      (fun absent => Edge.load_of_missing root absent ▸ .mistake _) (Edge.load_of_noText root)
      (Edge.load_isResultOrMistake absolute)

/-- A directory and a file of one byte that begins no character. -/
def unreadableFiles : FileSystem :=
  { entries := [(["d"], .directory), (["b.json"], .file [0xFF])], current := [] }

/-- A directory in the place of a file is no mistake that is told, a path that leads nowhere is. -/
theorem load_promise_iff_directory :
    Path.isAbsolute "/r" = true ∧
      (¬ IsResultOrMistake (Policy.load unreadableFiles "d" "/r") ∧
        ¬ IsResultOrMistake (Edge.load unreadableFiles "d" "/r")) ∧
      IsResultOrMistake (Policy.load unreadableFiles "e" "/r") ∧
        IsResultOrMistake (Edge.load unreadableFiles "e" "/r") := by
  have absolute : Path.isAbsolute "/r" = true := by decide
  obtain ⟨policy, edges⟩ := load_promise_iff unreadableFiles "d" "/r" absolute
  obtain ⟨policy', edges'⟩ := load_promise_iff unreadableFiles "e" "/r" absolute
  have unknown : unreadableFiles.HoldsNoText "d" := .directory (by decide)
  have nothing : ¬ (unreadableFiles.contains "e" = true) := by decide
  have fits : ¬ (unreadableFiles.tooLong "e" = true) := by decide
  have known : ¬ unreadableFiles.HoldsNoText "e" :=
    fun held => nothing (FileSystem.holdsNoText_iff.mp held).1
  have textless (text : List Char) : ¬ unreadableFiles.HoldsText "e" text :=
    fun held => nothing (FileSystem.holdsText_iff.mp held).1
  refine ⟨absolute, ⟨fun kept => policy.mp kept (.inr (.inl unknown)),
    fun kept => edges.mp kept (.inr (.inl unknown))⟩, policy'.mpr ?_, edges'.mpr ?_⟩
  · rintro (long | held | ⟨text, held, -⟩)
    · exact fits long
    · exact known held
    · exact textless text held
  · rintro (long | held | ⟨text, held, -⟩)
    · exact fits long
    · exact known held
    · exact textless text held

/-- Bytes that are no text make both loaders fail, and no mistake is told. -/
theorem load_undecodable :
    Path.isAbsolute "/r" = true ∧
      ¬ IsResultOrMistake (Policy.load unreadableFiles "b.json" "/r") ∧
      ¬ IsResultOrMistake (Edge.load unreadableFiles "b.json" "/r") := by
  have undecoded : Text.Utf8.decode [0xFF] = .error ⟨0xFF, 0, 1, .badStart⟩ := by
    rw [Text.Utf8.decode, Text.Utf8.decodeFrom]
    rfl
  have unknown : unreadableFiles.HoldsNoText "b.json" :=
    .bytes [0xFF] (by decide) (Text.Utf8.exists_decode_eq_error_iff.mp ⟨_, undecoded⟩)
  obtain ⟨fault, policy⟩ := Policy.load_of_noText "/r" unknown
  obtain ⟨fault', edges⟩ := Edge.load_of_noText "/r" unknown
  refine ⟨by decide, ?_, ?_⟩
  · rw [policy]
    exact not_isResultOrMistake_ofReadFault fault
  · rw [edges]
    exact not_isResultOrMistake_ofReadFault fault'

end ImportBoundary
