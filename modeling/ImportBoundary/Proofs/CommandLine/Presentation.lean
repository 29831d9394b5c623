import ImportBoundary.Proofs.Check.Batch
import ImportBoundary.Proofs.CommandLine.Validation
import ImportBoundary.Proofs.Text.Utf8

/-!
# Options of presentation

The format and the number of workers say how a check is carried out and how its report is written, not
what it finds. Two command lines that differ in nothing else (`unpresented`) read to words that differ
in nothing else (`readWords_unpresented`), are refused or told about together, and collect and find the
same. Their checks end alike unless only one of them can write what it finds (`run_presented_iff`): a
table has to be markup that can be shown, and the output has to take lines.
-/

namespace ImportBoundary.CommandLine

open Log Display

/-! ## Definition -/

/-- The parameter is an option of presentation. -/
def Parameter.isPresentation : Parameter → Bool
  | .format | .workers => true
  | _ => false

/-- A command line of a check without its options of presentation. -/
def unpresented : List String → List String
  | [] => []
  | word :: rest =>
    if word = "--" then word :: rest
    else if isOptionWord word then
      match Command.check.option? (splitOption word).1, (splitOption word).2 with
      | some p, some _ => if p.isPresentation then unpresented rest else word :: unpresented rest
      | some p, none =>
        if p.takesValue then
          match rest with
          | value :: rest =>
            if p.isPresentation then unpresented rest else word :: value :: unpresented rest
          | [] => [word]
        else word :: unpresented rest
      | none, _ => word :: unpresented rest
    else word :: unpresented rest

/-- The words without the options of presentation. -/
def Words.unpresented (w : Words) : Words :=
  { w with options := w.options.filter fun o => !o.1.isPresentation }

/-- The format is one of the formats, and the number of workers is at least one. -/
def IsPresented (words : List String) : Prop :=
  ∀ w, readWords .check {} words = .ok w →
    (∀ text, w.value? .format = some text → ∃ f, formatOf text = .ok f) ∧
    ∀ text, w.value? .workers = some text → ∃ n, workersOf text = .ok n

/-- The check can use all its inputs and finds something that cannot be written in its format. -/
def CheckSettings.Hides [Host] (s : CheckSettings) (t : Terminal) : Prop :=
  AllUsable s t ∧ ¬ ReportShows s t

/-- The command line asks for such a check. -/
def HidesReport [Host] (words : List String) (t : Terminal) : Prop :=
  ∃ w, IsAccepted ("check" :: words) t.files w ∧ (checkSettings w).Hides t

/-! ## Reading -/

theorem unpresented_withOption (w : Words) (p : Parameter) (value : String) :
    (w.withOption p value).unpresented =
      if p.isPresentation then w.unpresented else w.unpresented.withOption p value := by
  unfold Words.unpresented Words.withOption
  cases h : p.isPresentation <;> simp [h]

theorem mem_names_of_option {c : Command} {name : String} {p : Parameter}
    (h : c.option? name = some p) : name ∈ p.names := by
  simpa using List.find?_some h

/-- An option of presentation has only a long name. -/
theorem name_of_isPresentation {c : Command} {name : String} {p : Parameter}
    (h : c.option? name = some p) (presentation : p.isPresentation = true) :
    name = "--format" ∨ name = "--workers" := by
  have mem := mem_names_of_option h
  cases p <;> simp [Parameter.isPresentation, Parameter.names] at presentation mem
  · exact .inl mem
  · exact .inr mem

theorem readLetters_unpresented (w : Words) (letters : List Char) :
    readLetters .check w.unpresented letters =
      (readLetters .check w letters).map Words.unpresented := by
  induction letters generalizing w with
  | nil => rfl
  | cons letter letters ih =>
    rw [readLetters, readLetters]
    cases h : Command.check.option? (String.ofList ['-', letter]) with
    | none => rfl
    | some p =>
      have plain : p.isPresentation = false := by
        by_contra presentation
        rcases name_of_isPresentation h (by simpa using presentation) with name | name
        · simpa using congrArg String.toList name
        · simpa using congrArg String.toList name
      dsimp only
      rw [← ih, unpresented_withOption, plain]
      rfl

/-- Lines that read to the same words but for the presentation. -/
def ReadAlike (words words' : List String) : Prop :=
  ∀ w : Words, readWords .check w.unpresented words' =
    (readWords .check w words).map Words.unpresented

theorem ReadAlike.nil : ReadAlike [] [] := fun _ => rfl

theorem ReadAlike.argument {word : String} {words words' : List String}
    (h : ReadAlike words words') (goesOn : word ≠ "--") (noOption : ¬ isOptionWord word = true) :
    ReadAlike (word :: words) (word :: words') := by
  intro w
  rw [readWords, readWords, if_neg goesOn, if_neg goesOn, if_neg noOption, if_neg noOption,
    if_neg (by decide), if_neg (by decide)]
  exact h (w.withArguments [word])

/-- A word that is not the name of a long option is a mistake or stands for options of single
letters. -/
theorem ReadAlike.short {word : String} {words words' : List String} (h : ReadAlike words words')
    (goesOn : word ≠ "--") (dashed : isOptionWord word = true)
    (short : ¬ Command.check.longNames.contains (splitOption word).1 = true) :
    ReadAlike (word :: words) (word :: words') := by
  intro w
  rw [readWords, readWords, if_neg goesOn, if_neg goesOn, if_pos dashed, if_pos dashed]
  dsimp only
  rw [if_neg short, if_neg short]
  split
  · rfl
  · rw [readLetters_unpresented]
    cases readLetters .check w (word.toList.drop 1) with
    | error fault => rfl
    | ok w' => exact h w'

/-- An option that is no option of presentation and brings its value along, or has none. -/
theorem ReadAlike.option {word : String} {words words' : List String} {p : Parameter}
    (h : ReadAlike words words') (goesOn : word ≠ "--") (dashed : isOptionWord word = true)
    (named : Command.check.option? (splitOption word).1 = some p)
    (plain : p.isPresentation = false)
    (complete : (splitOption word).2 = none → p.takesValue = false) :
    ReadAlike (word :: words) (word :: words') := by
  by_cases long : Command.check.longNames.contains (splitOption word).1 = true
  · intro w
    have added (value : String) := h (w.withOption p value)
    simp only [unpresented_withOption, plain, Bool.false_eq_true, if_false] at added
    rw [readWords, readWords, if_neg goesOn, if_neg goesOn, if_pos dashed, if_pos dashed]
    dsimp only
    rw [if_pos long, if_pos long, named]
    cases attached : (splitOption word).2 with
    | some value =>
      dsimp only
      split
      · exact added value
      · rfl
    | none =>
      simp only [complete attached, Bool.false_eq_true, if_false]
      exact added ""
  · exact h.short goesOn dashed long

/-- A word that looks like an option, but is none that has a long name. -/
theorem ReadAlike.unknown {word : String} {words words' : List String} (h : ReadAlike words words')
    (goesOn : word ≠ "--") (dashed : isOptionWord word = true)
    (unknown : Command.check.option? (splitOption word).1 = none) :
    ReadAlike (word :: words) (word :: words') := by
  by_cases long : Command.check.longNames.contains (splitOption word).1 = true
  · intro w
    rw [readWords, readWords, if_neg goesOn, if_neg goesOn, if_pos dashed, if_pos dashed]
    dsimp only
    rw [if_pos long, if_pos long, unknown]
    rfl
  · exact h.short goesOn dashed long

/-- The name of an option that takes a value is a long one. -/
theorem long_of_takesValue {name : String} {p : Parameter}
    (named : Command.check.option? name = some p) (takes : p.takesValue = true) :
    Command.check.longNames.contains name = true := by
  have mem := mem_names_of_option named
  have listed : p ∈ Command.check.parameters := List.mem_of_find?_eq_some named
  cases p <;> simp [Parameter.names, Parameter.takesValue] at mem takes
  all_goals
    subst mem
    revert listed
    decide

/-- Reading a command line and dropping its options of presentation go together. -/
theorem readWords_unpresented (words : List String) : ReadAlike words (unpresented words) := by
  fun_induction unpresented words
  case case1 => exact ReadAlike.nil
  case case2 rest => exact fun w => rfl
  case case3 word rest goesOn dashed p value attached named presentation ih =>
    intro w
    have takes : p.takesValue = true := by
      cases p <;> first | rfl | cases presentation
    have long := long_of_takesValue named takes
    have dropped := ih (w.withOption p value)
    rw [unpresented_withOption, if_pos presentation] at dropped
    rw [dropped, readWords, if_neg goesOn, if_pos dashed]
    simp only [long, named, attached, takes, if_true]
  case case4 word rest goesOn dashed p value attached named plain ih =>
    exact ih.option goesOn dashed named (by simpa using plain) (by simp [attached])
  case case5 word goesOn dashed p bare named takes value rest presentation ih =>
    intro w
    have dropped := ih (w.withOption p value)
    rw [unpresented_withOption, if_pos presentation] at dropped
    rw [dropped, readWords_option dashed goesOn (long_of_takesValue named takes) named bare takes]
  case case6 word goesOn dashed p bare named takes value rest plain ih =>
    intro w
    have long := long_of_takesValue named takes
    have kept := ih (w.withOption p value)
    rw [unpresented_withOption, if_neg plain] at kept
    rw [readWords_option dashed goesOn long named bare takes,
      readWords_option dashed goesOn long named bare takes, kept]
  case case7 word goesOn dashed p bare named takes =>
    intro w
    have long := long_of_takesValue named takes
    simp only [readWords, if_neg goesOn, if_pos dashed, long, named, bare, takes, if_true]
    rfl
  case case8 word rest goesOn dashed p bare named flag ih =>
    have plain : p.isPresentation = false := by
      cases p <;> first | rfl | exact absurd rfl flag
    exact ih.option goesOn dashed named plain fun _ => by simpa using flag
  case case9 word rest goesOn dashed unknown ih => exact ih.unknown goesOn dashed unknown
  case case10 word rest goesOn noOption ih => exact ih.argument goesOn noOption

/-! ## Words that differ in the presentation -/

variable {w w' : Words} {t : Terminal}

theorem lookup_unpresented {p : Parameter} (plain : p.isPresentation = false)
    (options : List (Parameter × String)) :
    (options.filter fun o => !o.1.isPresentation).lookup p = options.lookup p := by
  induction options with
  | nil => rfl
  | cons o rest ih =>
    obtain ⟨q, value⟩ := o
    cases presentation : q.isPresentation with
    | true =>
      have other : (p == q) = false := by
        rw [beq_eq_false_iff_ne]
        rintro rfl
        rw [plain] at presentation
        cases presentation
      simp [presentation, ih, List.lookup_cons, other]
    | false => simp [presentation, ih, List.lookup_cons]

theorem value_unpresented {p : Parameter} (plain : p.isPresentation = false) (w : Words) :
    w.unpresented.value? p = w.value? p := by
  rw [Words.value?, Words.value?, Words.unpresented, ← List.filter_reverse, lookup_unpresented plain]

theorem tell_unpresented (c : Command) (w : Words) : tell? c w.unpresented = tell? c w := by
  have asked : ∀ o : Parameter × String,
      decide ((!o.1.isPresentation) = true ∧
          (decide (o.1 = .help) || decide (o.1 = .version)) = true) =
        (decide (o.1 = .help) || decide (o.1 = .version)) := by
    rintro ⟨p, value⟩
    cases p <;> rfl
  simp only [tell?, Words.unpresented, List.find?_filter, asked]

/-- The settings of a check in a format. -/
def CheckSettings.inFormat (s : CheckSettings) (format : Format) : CheckSettings :=
  { s with format }

theorem checkSettings_unpresented (same : w.unpresented = w'.unpresented) :
    checkSettings w' = (checkSettings w).inFormat (checkSettings w').format := by
  have value {p : Parameter} (plain : p.isPresentation = false) : w'.value? p = w.value? p := by
    rw [← value_unpresented plain w, same, value_unpresented plain]
  have arguments : w'.arguments = w.arguments := (congrArg Words.arguments same).symm
  simp only [checkSettings, CheckSettings.inFormat, arguments, value (p := .policy) rfl,
    value (p := .root) rfl, value (p := .edges) rfl, value (p := .packageRoot) rfl,
    value (p := .logFile) rfl, value (p := .verbose) rfl]

/-! ## Checking words -/

theorem forM_isOk {α ε : Type} {f : α → Except ε Unit} {items : List α} :
    items.forM f = .ok () ↔ ∀ a ∈ items, f a = .ok () := by
  refine ⟨fun ok => ?_, forM_ok⟩
  induction items with
  | nil => simp
  | cons a rest ih =>
    rw [List.forM] at ok
    cases h : f a with
    | error fault =>
      rw [h] at ok
      cases ok
    | ok u =>
      rw [h] at ok
      exact List.forall_mem_cons.mpr ⟨h, ih ok⟩

/-- Words are all right if each parameter is, those of presentation apart, whose values are. -/
theorem checkWords_unpresented {files : FileSystem} (same : w.unpresented = w'.unpresented)
    (presented : ∀ p : Parameter, p.isPresentation = true → ∀ value, w'.value? p = some value →
      p.check files value = .ok ())
    (checked : checkWords files .check w = .ok ()) : checkWords files .check w' = .ok () := by
  have each : ∀ p ∈ checkOrder .check w, checkParameter files .check w p = .ok () := by
    rw [← forM_isOk]
    unfold checkWords at checked
    cases order : (checkOrder .check w).forM (checkParameter files .check w) with
    | error fault =>
      rw [order] at checked
      cases checked
    | ok u => rfl
  have each' : ∀ p ∈ checkOrder .check w', checkParameter files .check w' p = .ok () := by
    intro p hp
    cases presentation : p.isPresentation with
    | true =>
      have values : valuesOf .check w' p = (w'.value? p).toList := by
        cases p <;> first | rfl | cases presentation
      refine checkParameter_ok (fun value hv => ?_) fun _ => ?_
      · rw [values, Option.mem_toList] at hv
        exact presented p presentation value hv
      · cases p <;> first | rfl | cases presentation
    | false =>
      have values : valuesOf .check w' p = valuesOf .check w p := by
        have arguments : w'.arguments = w.arguments := (congrArg Words.arguments same).symm
        have value := value_unpresented presentation w
        rw [same, value_unpresented presentation] at value
        simp only [valuesOf, arguments, value]
      have mem : p ∈ checkOrder .check w := by
        simp only [checkOrder, List.mem_eraseDups, List.mem_append, List.mem_map] at hp ⊢
        rcases hp with (⟨o, ho, rfl⟩ | argument) | listed
        · have kept : o ∈ w'.unpresented.options := List.mem_filter.mpr ⟨ho, by simp [presentation]⟩
          rw [← same] at kept
          exact .inl (.inl ⟨o, (List.mem_filter.mp kept).1, rfl⟩)
        · exact .inl (.inr argument)
        · exact .inr listed
      have checked := each p mem
      rwa [checkParameter, ← values] at checked
  rw [checkWords, forM_ok each']
  rfl

/-! ## Checking in a format -/

section

variable [Host]

/-- A check has the same result in every format, apart from a report that cannot be written. -/
theorem check_inFormat (s : CheckSettings) (t : Terminal) :
    (¬ AllUsable s t ∧ ∀ format, (check (s.inFormat format)).result t = (check s).result t) ∨
      AllUsable s t ∧ ∃ p code, ∀ format, loadedPolicy (s.inFormat format) t = .ok p ∧
        (check (s.inFormat format)).result t =
          (written p (violationsOf s t) format).map fun _ => code := by
  cases set : t.setUp programLogger s.verbose s.logFile with
  | error fault =>
    refine .inl ⟨fun usable => usable (.file fault) (by simp [uses, set]), fun format => ?_⟩
    rw [check_result, check_result]
    simp only [CheckSettings.inFormat, set]
  | ok ready =>
    cases gathered : (gather s).result ready with
    | error failure =>
      refine .inl ⟨fun usable => ?_, fun format => ?_⟩
      · have collected := gather_gathered s ready
        rw [gathered] at collected
        cases collected with
        | stopped _ only =>
          refine usable failure ?_
          simp only [uses, set]
          exact (only failure).mpr rfl
      · have set' : t.setUp programLogger (s.inFormat format).verbose (s.inFormat format).logFile =
            .ok ready := set
        have gathered' : (gather (s.inFormat format)).result ready = .error failure := gathered
        rw [check_result, check_result, set, set']
        simp only [gathered, gathered']
        cases failure <;> rfl
    | ok pc =>
      refine .inr ⟨(check_of_gathered (p := pc.1) (c := pc.2) set gathered).1, pc.1,
        codeOf pc.2 (violationsOf s t), fun format => ?_⟩
      have ended := check_of_gathered (s := s.inFormat format) (p := pc.1) (c := pc.2) set gathered
      exact ⟨ended.2.1, ended.2.2.2⟩

/-- The exit code and the failure of a command that has a result. -/
def outcomeOf : Except Failure Nat → Nat × Option Failure
  | .ok code => (code, none)
  | .error failure => (1, some failure)

/-- A report that cannot be written is hidden by its markup, or by an output that does not take it. -/
theorem written_cases {s : CheckSettings} {t : Terminal} {p : Policy}
    (loaded : loadedPolicy s t = .ok p) :
    (ReportShows s t ∧ written p (violationsOf s t) s.format = .ok ()) ∨
      ¬ ReportShows s t ∧ ∃ failure, written p (violationsOf s t) s.format = .error failure := by
  have shows := written_isOk loaded
  cases wrote : written p (violationsOf s t) s.format with
  | ok u => exact .inl ⟨shows.mp ⟨u, wrote⟩, rfl⟩
  | error failure =>
    refine .inr ⟨fun h => ?_, failure, rfl⟩
    obtain ⟨u, other⟩ := shows.mpr h
    cases wrote.symm.trans other

/-- A check that can use its inputs ends with its code, or with a report that it hides. -/
theorem outcome_cases {s : CheckSettings} {t : Terminal} {p : Policy} {code : Nat}
    (usable : AllUsable s t) (loaded : loadedPolicy s t = .ok p)
    (ended : (check s).result t = (written p (violationsOf s t) s.format).map fun _ => code) :
    (¬ s.Hides t ∧ outcomeOf ((check s).result t) = (code, none)) ∨
      s.Hides t ∧ ∃ failure, outcomeOf ((check s).result t) = (1, some failure) := by
  rw [ended]
  rcases written_cases loaded with ⟨shows, wrote⟩ | ⟨hidden, failure, wrote⟩
  · exact .inl ⟨fun h => h.2 shows, by rw [wrote]; rfl⟩
  · exact .inr ⟨⟨usable, hidden⟩, failure, by rw [wrote]; rfl⟩

/-- The exit code is the same, and a failure leaves either both or none. -/
def EndAlike (o o' : Nat × Option Failure) : Prop :=
  o.1 = o'.1 ∧ (o.2 = none ↔ o'.2 = none)

/-- Checks in two formats end alike exactly if both hide their reports or neither does. -/
theorem outcomes_inFormat_iff (s : CheckSettings) (format : Format) (t : Terminal) :
    let o := outcomeOf ((check s).result t)
    let o' := outcomeOf ((check (s.inFormat format)).result t)
    (EndAlike o o' ↔ (s.Hides t ↔ (s.inFormat format).Hides t)) ∧
      (¬ s.Hides t → ¬ (s.inFormat format).Hides t → o = o') ∧
      (s.Hides t → ¬ (s.inFormat format).Hides t → o.1 = 1 ∧ o.2 ≠ none ∧ o'.2 = none) := by
  intro o o'
  rcases check_inFormat s t with ⟨unusable, same⟩ | ⟨usable, p, code, ended⟩
  · have hidden (f) : ¬ (s.inFormat f).Hides t := fun h => unusable h.1
    have eq : o = o' := by simp only [o, o', same]
    refine ⟨iff_of_true ?_ (iff_of_false (hidden s.format) (hidden _)), fun _ _ => eq,
      fun h => absurd h (hidden s.format)⟩
    rw [eq]
    exact ⟨rfl, Iff.rfl⟩
  · have ends (f) := outcome_cases (s := s.inFormat f) usable (ended f).1 (ended f).2
    rcases ends s.format with ⟨shown, eq⟩ | ⟨hidden, failure, eq⟩
    all_goals
      change o = _ at eq
      rw [eq]
      rcases ends format with ⟨shown', eq'⟩ | ⟨hidden', failure', eq'⟩
      all_goals
        change o' = _ at eq'
        rw [eq']
    · exact ⟨iff_of_true ⟨rfl, Iff.rfl⟩ (iff_of_false shown shown'), fun _ _ => rfl,
        fun h => absurd h shown⟩
    · refine ⟨iff_of_false (fun alike => ?_) (fun h => shown (h.mpr hidden')),
        fun _ h => absurd hidden' h, fun h => absurd h shown⟩
      cases alike.2.mp rfl
    · refine ⟨iff_of_false (fun alike => ?_) (fun h => shown' (h.mp hidden)),
        fun h => absurd hidden h, fun _ _ => ⟨rfl, Option.some_ne_none _, rfl⟩⟩
      cases alike.2.mpr rfl
    · exact ⟨iff_of_true ⟨rfl, by simp⟩ (iff_of_true hidden hidden'), fun h => absurd hidden h,
        fun _ h => absurd hidden' h⟩

/-! ## Running -/

variable {words words' : List String}

/-- The words of a check that is to be carried out, or the exit code with which the command line is
refused or told about. -/
def requested (files : FileSystem) (words : List String) : Except Nat Words :=
  match readWords .check {} words with
  | .error _ => .error 2
  | .ok w =>
    if (tell? .check w).isSome then .error 0
    else
      match checkWords files .check w with
      | .error _ => .error 2
      | .ok () => .ok w

omit [Host] in
theorem requested_eq_ok {files : FileSystem} :
    requested files words = .ok w ↔ IsAccepted ("check" :: words) files w := by
  have main : readWords .main {} ("check" :: words) = .ok { arguments := "check" :: words } := rfl
  constructor
  · intro h
    unfold requested at h
    split at h
    · cases h
    · next v read =>
      split_ifs at h with told
      split at h
      · cases h
      · next checked =>
        cases h
        exact ⟨⟨_, words, main, rfl, rfl, read⟩, by simpa using told, checked⟩
  · rintro ⟨⟨m, rest, read, -, arguments, given⟩, untold, checked⟩
    rw [main] at read
    cases read
    cases arguments
    simp [requested, given, untold, checked]

omit [Host] in
theorem tell_result {c : Command} {told : Work Nat} (h : tell? c w = some told) (t : Terminal) :
    told.result t = .ok 0 := by
  obtain ⟨o, -, rfl⟩ := Option.map_eq_some_iff.mp h
  rfl

/-- A command line that asks for a check is refused, told about or carried out. -/
theorem runMain_check_result (words : List String) (t : Terminal) :
    (runMain ("check" :: words)).result t =
      match requested t.files words with
      | .error code => .ok code
      | .ok w => (check (checkSettings w)).result t := by
  have command : runMain ("check" :: words) = runCommand .check words :=
    runMain_command (c := .check) (by decide) words
  rw [command, runCommand, requested]
  cases readWords .check {} words with
  | error fault => rfl
  | ok w =>
    dsimp only
    cases asked : tell? .check w with
    | some told =>
      rw [if_pos Option.isSome_some]
      exact tell_result asked t
    | none =>
      simp only [Work.result_bind, Work.result_files, Work.leaves_files, Except.bind]
      cases checkWords t.files .check w <;> rfl

omit [Host] in
theorem check_of_isPresented {files : FileSystem} (presented : IsPresented words)
    (given : readWords .check {} words = .ok w) (p : Parameter) (presentation : p.isPresentation = true)
    (value : String) (h : w.value? p = some value) : p.check files value = .ok () := by
  obtain ⟨format, workers⟩ := presented w given
  cases p <;> try cases presentation
  · obtain ⟨f, hf⟩ := format value h
    simp [Parameter.check, hf, Except.map]
  · obtain ⟨n, hn⟩ := workers value h
    simp [Parameter.check, hn, Except.map]

omit [Host] in
/-- Command lines that differ in the presentation ask for the same check but for the presentation, or
end with the same exit code. -/
theorem requested_unpresented {files : FileSystem} (same : unpresented words = unpresented words')
    (presented : IsPresented words) (presented' : IsPresented words') :
    (requested files words).map Words.unpresented =
      (requested files words').map Words.unpresented := by
  have read := readWords_unpresented words {}
  rw [same, readWords_unpresented words' {}] at read
  unfold requested
  cases given : readWords .check {} words with
  | error fault =>
    rw [given] at read
    cases given' : readWords .check {} words' with
    | error fault' => rfl
    | ok w' =>
      rw [given'] at read
      cases read
  | ok w =>
    rw [given] at read
    cases given' : readWords .check {} words' with
    | error fault' =>
      rw [given'] at read
      cases read
    | ok w' =>
      rw [given'] at read
      have alike : w.unpresented = w'.unpresented := (Except.ok.inj read).symm
      have asked : tell? .check w' = tell? .check w := by
        rw [← tell_unpresented, ← alike, tell_unpresented]
      have there : checkWords files .check w = .ok () → _ := checkWords_unpresented alike
        (check_of_isPresented presented' given')
      have back : checkWords files .check w' = .ok () → _ := checkWords_unpresented alike.symm
        (check_of_isPresented presented given)
      dsimp only
      rw [asked]
      split
      · rfl
      · cases checked : checkWords files .check w with
        | ok u =>
          rw [there checked]
          exact congrArg Except.ok alike
        | error fault =>
          cases checked' : checkWords files .check w' with
          | error fault' => rfl
          | ok u =>
            rw [back checked'] at checked
            cases checked

/-- Only a check that is carried out hides a report. -/
theorem hidesReport_iff : HidesReport words t ↔
    ∃ w, requested t.files words = .ok w ∧ (checkSettings w).Hides t := by
  simp only [HidesReport, requested_eq_ok]

/-- A check that is carried out hides a report if its own settings do. -/
theorem hidesReport_of_requested (given : requested t.files words = .ok w) :
    HidesReport words t ↔ (checkSettings w).Hides t := by
  simp [hidesReport_iff, given]

theorem run_check_outcome (words : List String) (t : Terminal) :
    ((run ("check" :: words) t).exitCode, (run ("check" :: words) t).failure) =
      outcomeOf (match requested t.files words with
        | .error code => .ok code
        | .ok w => (check (checkSettings w)).result t) := by
  rw [run_outcome, runMain_check_result]
  cases requested t.files words with
  | error code => rfl
  | ok w =>
    dsimp only
    cases (check (checkSettings w)).result t <;> rfl

theorem run_check_failure (given : requested t.files words = .ok w) :
    (run ("check" :: words) t).failure = (outcomeOf ((check (checkSettings w)).result t)).2 := by
  have outcome := congrArg Prod.snd (run_check_outcome words t)
  simpa only [given] using outcome

omit [Host] in
theorem evaluateAll_eq (p : Policy) (workers : Int) (schedule : Pool.Schedule) (edges : List Edge) :
    Engine.evaluateAll ⟨p, Rule.all⟩ (some workers) schedule edges {} =
      ⟨edges.flatMap p.evaluate⟩ :=
  congrArg Report.mk (Engine.evaluateAll_violations ⟨p, Rule.all⟩ (some workers) schedule edges {})

/-- On any host, two command lines of a check that differ only in the format and the number of workers
end alike exactly if both can write what they find or neither can. If only one of them can, a failure
leaves the other with the exit code of violations. The report is the same for any number of workers,
in whatever order they finish. -/
theorem run_presented_iff (same : unpresented words = unpresented words')
    (presented : IsPresented words) (presented' : IsPresented words') (t : Terminal) :
    let o := run ("check" :: words) t
    let o' := run ("check" :: words') t
    (o.exitCode = o'.exitCode ∧ (o.failure = none ↔ o'.failure = none) ↔
        (HidesReport words t ↔ HidesReport words' t)) ∧
      (¬ HidesReport words t → ¬ HidesReport words' t →
        o.exitCode = o'.exitCode ∧ o.failure = o'.failure) ∧
      (HidesReport words t → ¬ HidesReport words' t →
        o.exitCode = 1 ∧ o.failure ≠ none ∧ o'.failure = none) ∧
      ∀ p edges workers schedule, (evaluateEdges p edges).result t =
        .ok (Engine.evaluateAll ⟨p, Rule.all⟩ (some workers) schedule edges {}) := by
  intro o o'
  have outcome := run_check_outcome words t
  have outcome' := run_check_outcome words' t
  change (o.exitCode, o.failure) = _ at outcome
  change (o'.exitCode, o'.failure) = _ at outcome'
  have alike : (requested t.files words).map Words.unpresented = _ :=
    requested_unpresented same presented presented'
  have workers : ∀ p edges workers schedule, (evaluateEdges p edges).result t =
      .ok (Engine.evaluateAll ⟨p, Rule.all⟩ (some workers) schedule edges {}) := by
    intro p edges workers schedule
    rw [evaluateEdges_result, evaluateAll_eq]
  suffices ends : (EndAlike (o.exitCode, o.failure) (o'.exitCode, o'.failure) ↔
        (HidesReport words t ↔ HidesReport words' t)) ∧
      (¬ HidesReport words t → ¬ HidesReport words' t →
        (o.exitCode, o.failure) = (o'.exitCode, o'.failure)) ∧
      (HidesReport words t → ¬ HidesReport words' t →
        (o.exitCode, o.failure).1 = 1 ∧ (o.exitCode, o.failure).2 ≠ none ∧
          (o'.exitCode, o'.failure).2 = none) from
    ⟨ends.1, fun h h' => Prod.mk.inj (ends.2.1 h h'), ends.2.2, workers⟩
  rw [outcome, outcome']
  cases given : requested t.files words with
  | error code =>
    cases given' : requested t.files words' with
    | ok w' =>
      rw [given, given'] at alike
      cases alike
    | error code' =>
      rw [given, given'] at alike
      cases alike
      have shown : ¬ HidesReport words t := by simp [hidesReport_iff, given]
      have shown' : ¬ HidesReport words' t := by simp [hidesReport_iff, given']
      exact ⟨iff_of_true ⟨rfl, Iff.rfl⟩ (iff_of_false shown shown'), fun _ _ => rfl,
        fun h => absurd h shown⟩
  | ok w =>
    cases given' : requested t.files words' with
    | error code' =>
      rw [given, given'] at alike
      cases alike
    | ok w' =>
      rw [given, given'] at alike
      have settings := checkSettings_unpresented (Except.ok.inj alike)
      have formats := outcomes_inFormat_iff (checkSettings w) (checkSettings w').format t
      simp only [← settings] at formats
      rw [hidesReport_of_requested given, hidesReport_of_requested given']
      exact formats

theorem not_hides_of_clean {s : CheckSettings} (clean : violationsOf s t = []) : ¬ s.Hides t := by
  rintro ⟨-, hidden⟩
  exact hidden fun found => absurd clean found

end

theorem isPresented_of_read (read : readWords .check {} words = .ok w)
    (format : ∀ text ∈ w.value? .format, (formatOf text).isOk = true)
    (workers : ∀ text ∈ w.value? .workers, (workersOf text).isOk = true) : IsPresented words := by
  intro v other
  cases read.symm.trans other
  exact ⟨fun text h => exists_of_isOk (format text h), fun text h =>
    exists_of_isOk (workers text h)⟩

/-- The words of a check of nothing with both options of presentation. -/
def presentedCheck : List String :=
  ["--format", "jsonl", "--policy", "p.json", "--workers=4"]

/-- With an empty policy and nothing to check, the presentation changes nothing. -/
theorem run_presented_bare :
    let t := withPolicy [0x7b, 0x7d]
    let o := run ("check" :: ["--policy", "p.json"]) t
    let o' := run ("check" :: presentedCheck) t
    unpresented ["--policy", "p.json"] = unpresented presentedCheck ∧
      IsPresented ["--policy", "p.json"] ∧ IsPresented presentedCheck ∧
      o.exitCode = o'.exitCode ∧ o.failure = o'.failure := by
  intro t o o'
  let w : Words :=
    { options := [(.format, "jsonl"), (.policy, "p.json"), (.workers, "4")] }
  have read : readWords .check {} presentedCheck = .ok w := rfl
  have same : unpresented ["--policy", "p.json"] = unpresented presentedCheck := rfl
  have presented : IsPresented ["--policy", "p.json"] :=
    isPresented_of_read (w := bareWords) rfl (by decide) (by decide)
  have presented' : IsPresented presentedCheck :=
    isPresented_of_read read (by decide) (by decide)
  have clean : violationsOf (checkSettings bareWords) t = [] := by
    rw [← List.isEmpty_iff]
    decide +kernel
  have clean' : violationsOf (checkSettings w) t = [] := by
    rw [← List.isEmpty_iff]
    decide +kernel
  have shown : ¬ HidesReport ["--policy", "p.json"] t := by
    rw [hidesReport_of_requested (w := bareWords) rfl]
    exact not_hides_of_clean clean
  have given' : requested t.files presentedCheck = .ok w := rfl
  have shown' : ¬ HidesReport presentedCheck t := by
    rw [hidesReport_of_requested given']
    exact not_hides_of_clean clean'
  exact ⟨same, presented, presented',
    (run_presented_iff same presented presented' t).2.1 shown shown'⟩

/-- A policy with a zone whose name closes nothing, and an edge that leaves the zone. -/
def bracketZone : FileSystem where
  entries := [
    (["p.json"], .file (Text.Utf8.encode
      "\x7b\"zones\":[\x7b\"name\":\"[/x]\",\"paths\":[\"a\"]\x7d]\x7d".toList)),
    (["e.json"], .file (Text.Utf8.encode
      "[\x7b\"source_file\":\"a/m\",\"import_specifier\":\"../b\"\x7d]".toList))]
  current := []

/-- The command line that checks the edge. -/
def bracketCheck : List String :=
  ["--policy", "p.json", "--edges", "e.json"]

/-- The violation is written as a line, and not as a table: then a failure leaves the check. -/
theorem run_presented_bracket :
    let t : Terminal := { files := bracketZone, now := "" }
    unpresented bracketCheck = unpresented ("--format" :: "jsonl" :: bracketCheck) ∧
      IsPresented bracketCheck ∧ IsPresented ("--format" :: "jsonl" :: bracketCheck) ∧
      (run ("check" :: bracketCheck) t).failure.isSome = true ∧
      (run ("check" :: "--format" :: "jsonl" :: bracketCheck) t).failure = none := by
  intro t
  let w : Words := { options := [(.policy, "p.json"), (.edges, "e.json")] }
  let w' : Words := { options := [(.format, "jsonl"), (.policy, "p.json"), (.edges, "e.json")] }
  have read : readWords .check {} bracketCheck = .ok w := rfl
  have read' : readWords .check {} ("--format" :: "jsonl" :: bracketCheck) = .ok w' := by
    rfl
  have given : requested t.files bracketCheck = .ok w := rfl
  have given' : requested t.files ("--format" :: "jsonl" :: bracketCheck) = .ok w' := by
    rfl
  have subjects : (violationsOf (checkSettings w) t).map (·.subject) = ["[/x]"] := by
    decide +kernel
  have usable : (uses (checkSettings w) t).any Use.isUnusable = false := by decide +kernel
  refine ⟨rfl, isPresented_of_read read (by decide) (by decide),
    isPresented_of_read read' (by decide) (by decide), ?_⟩
  have allUsable : AllUsable (checkSettings w) t := by
    intro failure hf
    rw [any_isUnusable.mpr ⟨failure, hf⟩] at usable
    cases usable
  have hidden : ¬ ReportShows (checkSettings w) t := by
    intro shows
    obtain ⟨v, hv, subject⟩ := List.mem_map.mp (subjects ▸ List.mem_singleton_self "[/x]" :
      "[/x]" ∈ (violationsOf (checkSettings w) t).map (·.subject))
    have policy : (loadedPolicy (checkSettings w) t).isOk = true := by decide +kernel
    obtain ⟨p, loaded⟩ := exists_of_isOk policy
    have table := shows.table rfl (List.ne_nil_of_mem hv) loaded
    have shown := (violationDrawing_isOk p.root _).mp table v hv v.subject (by simp)
    rw [subject] at shown
    exact Markup.not_shows_of_closing [] ['x'] [] (by decide) (by decide) (by decide) (by decide)
      (by decide) shown
  have settings : checkSettings w' = (checkSettings w).inFormat .jsonLines := rfl
  have shown' : ¬ ((checkSettings w).inFormat .jsonLines).Hides t := fun h => h.2 fun _ _ _ => rfl
  obtain ⟨-, left, none⟩ :=
    (outcomes_inFormat_iff (checkSettings w) .jsonLines t).2.2 ⟨allUsable, hidden⟩ shown'
  have outcome := run_check_failure given
  have outcome' := run_check_failure given'
  rw [settings] at outcome'
  exact ⟨Option.isSome_iff_ne_none.mpr fun escaped => left (outcome.symm.trans escaped),
    outcome'.trans none⟩

end ImportBoundary.CommandLine
