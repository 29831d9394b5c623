import ImportBoundary.Proofs.CommandLine.ExitCode
import ImportBoundary.Proofs.Display.Markup

/-!
# Validating a policy

A policy is valid exactly if a check of nothing goes through with it. Both commands load it in the
same way, and a mistake in it ends both with the same exit code. But a valid policy is announced
with its file and its root, which are taken for markup: where a host cannot show that, validation ends
with a failure, and only the check goes through (`validation_agrees_iff`). The standard host shows what
closes no tag that is not open (`announces_iff`).
-/

namespace ImportBoundary.CommandLine

open Log Display

/-! ## Definition -/

/-- The root, if it is given. -/
def rootOption : Option String → List String
  | some root => ["--root", root]
  | none => []

/-- The command line that validates a policy. -/
def validation (path : String) (root : Option String) : List String :=
  "validate-policy" :: path :: rootOption root

/-- The command line that checks nothing against a policy. -/
def checkOfNothing (path : String) (root : Option String) : List String :=
  "check" :: "--policy" :: path :: rootOption root

/-- The command line has a policy file that is there, whose path is not taken for an option, and a root
that is no file. -/
structure IsPolicyRequest (files : FileSystem) (path : String) (root : Option String) : Prop where
  undashed : path.toList.head? ≠ some '-'
  there : checkFile files path = .ok ()
  placed : ∀ r, root = some r → checkDirectory files r = .ok ()

/-- The policy in the file, for the root. -/
def requestedPolicy [Host] (files : FileSystem) (path : String) (root : Option String) :
    Except Failure Policy :=
  Policy.load files (Path.tidy path) (rootOf files root)

/-- The host shows the line that says that the policy in a file is valid, and the outline of the
policy. -/
def Announces [Host] (path : String) (p : Policy) : Prop :=
  (∃ line, Host.display (validDrawing path) = .ok line) ∧
    ∃ table, Host.display (policyDrawing p) = .ok table

/-! ## Announcing a policy -/

/-- The name of the announcement's tag is that of a style, or at least of none that cannot be read. -/
theorem normalize_green : ∃ normal, Style.normalize "green".toList = .ok normal := by
  have code : isColorCode "green".toList = .ok false := rfl
  obtain ⟨found, color⟩ := Markup.isColor_of_code code
  have words : Text.words "green".toList = ["green".toList] := by decide
  have lowered : Style.lowered "green".toList = "green".toList := by decide
  have plain : Attribute.ofName? (String.ofList "green".toList) = none := by decide
  have style : Style.ofText? "green".toList =
      .ok (if found then some { color := "green".toList } else none) := by
    rw [Style.ofText?, if_neg (by decide), words, Style.withWords, lowered, if_neg (by decide),
      if_neg (by decide), if_neg (by decide), plain]
    simp only [color]
    cases found <;> rfl
  rw [Style.normalize, style]
  cases found <;> exact ⟨_, rfl⟩

/-- The tags of the announcement close what they open, so that only what follows counts. -/
theorem announcement_closes (cs : List Char) :
    Markup.closes [] ("[green]Policy is valid:[/green] ".toList ++ cs) = Markup.closes [] cs := by
  obtain ⟨normal, green⟩ := normalize_green
  let after := "[/green] ".toList ++ cs
  have whole : 'g' :: "reen".toList = "green".toList := rfl
  have opening : (Markup.openTags [] 0 (Markup.tagOf "green".toList)).toOption = some [normal] := by
    have name : Markup.tagOf "green".toList = ⟨'g' :: "reen".toList, none⟩ := by decide
    have same : Style.normalize ('g' :: "reen".toList) = .ok normal :=
      (congrArg Style.normalize whole).trans green
    rw [name, Markup.openTags_opening [] 0 none (by decide) same]
    rfl
  have closing : (Markup.openTags [normal] 0 (Markup.tagOf "/green".toList)).toOption =
      some [] := by
    have name : Markup.tagOf "/green".toList = ⟨'/' :: "green".toList, none⟩ := by decide
    have bare : Text.dropBlank "green".toList = "green".toList := by decide
    have same : Style.normalize (Text.dropBlank "green".toList) = .ok normal :=
      (congrArg Style.normalize bare).trans green
    rw [name, Markup.openTags_closing [] 0 none (by rw [bare]; decide) same]
    rfl
  have opened := Markup.closes_tag []
    (Markup.tagBody_append 'g' "reen".toList (by decide) (by decide) (by decide)
      ("Policy is valid:".toList ++ after))
  have closed := Markup.closes_tag [normal]
    (Markup.tagBody_append '/' "green".toList (by decide) (by decide) (by decide) (' ' :: cs))
  rw [whole, opening] at opened
  rw [show '/' :: "green".toList = "/green".toList from rfl, closing] at closed
  calc Markup.closes [] ("[green]Policy is valid:[/green] ".toList ++ cs)
      = Markup.closes [normal] ("Policy is valid:".toList ++ after) := opened
    _ = Markup.closes [normal] after := Markup.closes_append _ (by decide) (by decide) after
    _ = Markup.closes [] (' ' :: cs) := closed
    _ = Markup.closes [] cs := Markup.closes_text [] (by decide) (by decide) cs

theorem validDrawing_isOk (path : String) :
    (∃ text, (validDrawing path).shown = .ok text) ↔ Markup.Shows path := by
  have whole : (∃ text, (validDrawing path).shown = .ok text) ↔
      Markup.Shows s!"[green]Policy is valid:[/green] {path}" := by
    rw [validDrawing, Drawing.shown, Markup.Shows]
    cases Markup.plain (s!"[green]Policy is valid:[/green] {path}").toList <;>
      simp [bind, Except.bind, pure, Except.pure]
  have chars : (s!"[green]Policy is valid:[/green] {path}").toList =
      "[green]Policy is valid:[/green] ".toList ++ path.toList := String.toList_append
  rw [whole, Markup.shows_iff, Markup.shows_iff, chars, announcement_closes]

theorem number_shows (n : Nat) : Markup.Shows (toString n) := by
  refine Markup.shows_of_noBracket fun bracket => ?_
  have digit := Text.isAsciiDigit_of_mem_toDigits (n := n) (c := '[') (by simpa using bracket)
  exact absurd digit (by decide)

theorem policyDrawing_isOk (p : Policy) :
    (∃ text, (policyDrawing p).shown = .ok text) ↔ Markup.Shows p.root := by
  have names : ∀ name ∈ ["Root", "Zones", "Restricted paths", "Private file regexes",
      "Zone-private rules"], Markup.Shows name := fun name hn =>
    Markup.shows_of_noBracket (by revert name; decide)
  rw [policyDrawing, Drawing.shown, markedTable_isOk]
  constructor
  · intro shown
    exact shown _ (List.mem_cons_of_mem _ List.mem_cons_self) _ List.mem_cons_self
  · intro root
    refine List.forall_mem_cons.mpr ⟨names, ?_⟩
    simp only [List.forall_mem_cons]
    exact ⟨⟨root, number_shows _, number_shows _, number_shows _, number_shows _, by simp⟩,
      by simp⟩

/-- The standard host announces a policy if its file and its root are markup that can be shown. -/
theorem announces_iff (path : String) (p : Policy) :
    Announces path p ↔ Markup.Shows path ∧ Markup.Shows p.root :=
  and_congr (validDrawing_isOk path) (policyDrawing_isOk p)

/-! ## Words -/

variable {files : FileSystem} {path : String} {root : Option String} {t : Terminal}

/-- A word that does not start with a dash is an argument. -/
theorem readWords_argument {word : String} (undashed : word.toList.head? ≠ some '-') {c : Command}
    (command : c ≠ .main) (w : Words) (rest : List String) :
    readWords c w (word :: rest) = readWords c (w.withArguments [word]) rest := by
  have noOption : isOptionWord word = false := by
    unfold isOptionWord
    split
    · next eq => simp [eq] at undashed
    · rfl
  have noDashes : word ≠ "--" := by
    rintro rfl
    exact undashed rfl
  rw [readWords, if_neg noDashes, if_neg (by simp [noOption]), if_neg command]

/-- An option that takes a value is followed by it. -/
theorem readWords_option {word value : String} {c : Command} {p : Parameter}
    (dashed : isOptionWord word = true) (goesOn : word ≠ "--")
    (long : c.longNames.contains (splitOption word).1 = true)
    (named : c.option? (splitOption word).1 = some p) (bare : (splitOption word).2 = none)
    (takes : p.takesValue = true) (w : Words) (rest : List String) :
    readWords c w (word :: value :: rest) = readWords c (w.withOption p value) rest := by
  rw [readWords, if_neg goesOn, if_pos dashed]
  simp only [long, named, bare, takes, if_true]

theorem readWords_root {c : Command} (known : c = .check ∨ c = .validatePolicy) (w : Words) :
    readWords c w (rootOption root) =
      .ok { w with options := w.options ++ (root.map fun r => (Parameter.root, r)).toList } := by
  cases root with
  | none => simp [rootOption, readWords]
  | some r =>
    have long : c.longNames.contains "--root" = true := by
      rcases known with rfl | rfl <;> decide
    have option : c.option? "--root" = some .root := by
      rcases known with rfl | rfl <;> decide
    rw [rootOption, readWords_option (by decide) (by decide) long option (by decide) rfl, readWords]
    rfl

/-- The words of the root, if it is given. -/
def rootOptions (root : Option String) : List (Parameter × String) :=
  (root.map fun r => (Parameter.root, r)).toList

/-- The words of a validation. -/
def validationWords (path : String) (root : Option String) : Words :=
  { options := rootOptions root, arguments := [path] }

/-- The words of a check of nothing. -/
def nothingWords (path : String) (root : Option String) : Words :=
  { options := (.policy, path) :: rootOptions root }

theorem forM_ok {α ε : Type} {f : α → Except ε Unit} {items : List α}
    (ok : ∀ a ∈ items, f a = .ok ()) : items.forM f = .ok () := by
  induction items with
  | nil => rfl
  | cons a rest ih =>
    rw [List.forM, ok a List.mem_cons_self]
    exact ih fun b hb => ok b (List.mem_cons_of_mem _ hb)

/-- A parameter is all right if its values are, and if it is there or not required. -/
theorem checkParameter_ok {c : Command} {w : Words} {p : Parameter}
    (usable : ∀ value ∈ valuesOf c w p, p.check files value = .ok ())
    (spare : valuesOf c w p = [] → p.isRequired = false) :
    checkParameter files c w p = .ok () := by
  unfold checkParameter
  split
  · next none => rw [if_neg (by simp [spare none])]
  · rw [forM_ok usable]
    rfl

/-- Words are all right if nothing but the policy file and a root is given, and both are. -/
theorem checkWords_ok (request : IsPolicyRequest files path root) {c : Command} {w : Words}
    (listed : ∀ p ∈ checkOrder c w, p ∈ c.parameters)
    (values : ∀ p ∈ c.parameters, valuesOf c w p =
      if p = .policy ∨ p = .policyFile then [path] else if p = .root then root.toList else [])
    (extra : extraArguments c w = []) : checkWords files c w = .ok () := by
  have each : ∀ p ∈ checkOrder c w, checkParameter files c w p = .ok () := by
    intro p hp
    have given := values p (listed p hp)
    refine checkParameter_ok (fun value hv => ?_) (fun none => ?_)
    · rw [given] at hv
      split_ifs at hv with policy root
      · cases List.mem_singleton.mp hv
        rcases policy with rfl | rfl <;> exact request.there
      · rw [root]
        exact request.placed value (Option.mem_toList.mp hv)
      · cases hv
    · rw [given] at none
      split_ifs at none with policy root
      · rw [root]
        rfl
      · rw [not_or] at policy
        cases p <;> simp_all [Parameter.isRequired]
  rw [checkWords, forM_ok each]
  simp only [bind, Except.bind, extra]
  rfl

/-- What is checked is among the parameters if the given options are. -/
theorem mem_parameters_of_mem_checkOrder {c : Command} {w : Words} (known : c ≠ .main)
    (options : ∀ p ∈ w.options.map (·.1), p ∈ c.parameters) {p : Parameter}
    (h : p ∈ checkOrder c w) : p ∈ c.parameters := by
  rw [checkOrder, List.mem_eraseDups, List.mem_append, List.mem_append] at h
  rcases h with (given | argument) | listed
  · exact options p given
  · revert argument
    cases c <;> cases p <;> simp [Command.argument?, Command.parameters]
  · exact listed

theorem mem_rootOptions {p : Parameter} (h : p ∈ (rootOptions root).map (·.1)) : p = .root := by
  cases root with
  | none => cases h
  | some r => exact List.mem_singleton.mp h

theorem validationWords_checked (request : IsPolicyRequest files path root) :
    checkWords files .validatePolicy (validationWords path root) = .ok () := by
  refine checkWords_ok request (fun p hp => ?_) (fun p hp => ?_) rfl
  · refine mem_parameters_of_mem_checkOrder (by decide) (fun p hp => ?_) hp
    rw [mem_rootOptions hp]
    decide
  · cases root <;> cases p <;> first | rfl | exact absurd hp (by decide)

theorem nothingWords_checked (request : IsPolicyRequest files path root) :
    checkWords files .check (nothingWords path root) = .ok () := by
  refine checkWords_ok request (fun p hp => ?_) (fun p hp => ?_) rfl
  · refine mem_parameters_of_mem_checkOrder (by decide) (fun p hp => ?_) hp
    rcases List.mem_cons.mp hp with rfl | hp
    · exact List.mem_of_elem_eq_true rfl
    · rw [mem_rootOptions hp]
      decide
  · cases root <;> cases p <;> first | rfl | exact absurd hp (by decide)

/-! ## Runs -/

section

variable [Host]

/-- A command is run with everything that follows its name. -/
theorem runMain_command {c : Command} (subcommand : c ∈ Command.subcommands)
    (rest : List String) : runMain (c.name :: rest) = runCommand c rest := by
  have named : Command.ofName? c.name = some c := by
    revert subcommand
    cases c <;> decide
  have main : readWords .main {} (c.name :: rest) = .ok { arguments := c.name :: rest } := by
    cases c <;> rfl
  have untold : tell? .main { arguments := c.name :: rest } = none := rfl
  rw [runMain, if_neg (by simp)]
  simp only [main, untold, named]

/-- A validation runs as such. -/
theorem runMain_validation (request : IsPolicyRequest t.files path root) :
    runMain (validation path root) t = validatePolicy path root t := by
  have words : readWords .validatePolicy {} (path :: rootOption root) =
      .ok (validationWords path root) := by
    rw [readWords_argument request.undashed (by decide), readWords_root (.inr rfl)]
    rfl
  have asked : tell? .validatePolicy (validationWords path root) = none := by
    cases root <;> rfl
  have value : (validationWords path root).value? .root = root := by
    cases root <;> rfl
  have files : Work.files t = .ok t.files t := rfl
  change runMain (Command.validatePolicy.name :: path :: rootOption root) t = _
  rw [runMain_command (by decide)]
  simp only [runCommand, words, asked, bind, EStateM.bind, files, validationWords_checked request,
    value]
  rfl

omit [Host] in
/-- A check of nothing runs as such. -/
theorem checkOfNothing_isAccepted (request : IsPolicyRequest files path root) :
    IsAccepted (checkOfNothing path root) files (nothingWords path root) := by
  have words : readWords .check {} ("--policy" :: path :: rootOption root) =
      .ok (nothingWords path root) := by
    rw [readWords_option (p := .policy) (by decide) (by decide) (by decide) (by decide) (by decide)
      rfl, readWords_root (.inl rfl)]
    rfl
  refine ⟨⟨{ arguments := checkOfNothing path root }, _, rfl, rfl, rfl, words⟩, ?_,
    nothingWords_checked request⟩
  cases root <;> rfl

/-- Whether the policy of a file can be announced. -/
def announced (path : String) (p : Policy) : Except Markup.Fault Unit := do
  let _ ← Host.display (validDrawing path)
  let _ ← Host.display (policyDrawing p)
  return ()

theorem announced_isOk {p : Policy} : (∃ u, announced path p = .ok u) ↔ Announces path p := by
  unfold announced Announces
  cases Host.display (validDrawing path) with
  | error fault => simp [bind, Except.bind]
  | ok line =>
    cases Host.display (policyDrawing p) with
    | error fault => simp [bind, Except.bind]
    | ok table => simp [bind, Except.bind, pure, Except.pure]

/-- The exit code and the failure of a command that cannot load its policy. -/
def outcomeOfFailure : Failure → Nat × Option Failure
  | .configuration _ => (2, none)
  | failure => (1, some failure)

theorem validation_outcome (request : IsPolicyRequest t.files path root) :
    ((run (validation path root) t).exitCode, (run (validation path root) t).failure) =
      match requestedPolicy t.files path root with
      | .error failure => outcomeOfFailure failure
      | .ok p =>
        match announced path p with
        | .ok _ => (0, none)
        | .error fault => (1, some (.markup fault)) := by
  have loaded : (do loadPolicy path (rootOf (← Work.files) root) : Work Policy).result t =
      requestedPolicy t.files path root := by
    simp only [Work.result_bind, Work.result_files, Work.leaves_files, Except.bind,
      loadPolicy_result, requestedPolicy]
  rw [run_outcome, Work.result, runMain_validation request, ← Work.result, validatePolicy,
    Work.result_tellingMistakes, loaded]
  cases requestedPolicy t.files path root with
  | error failure => cases failure <;> rfl
  | ok p =>
    simp only [Work.result_bind, Work.result_draw, announced]
    cases Host.display (validDrawing path) with
    | error fault => rfl
    | ok line => cases Host.display (policyDrawing p) <;> rfl

theorem checkOfNothing_outcome (request : IsPolicyRequest t.files path root) :
    ((run (checkOfNothing path root) t).exitCode, (run (checkOfNothing path root) t).failure) =
      match requestedPolicy t.files path root with
      | .error failure => outcomeOfFailure failure
      | .ok _ => (0, none) := by
  let s : CheckSettings := ⟨[], path, root, none, none, .text, none, false⟩
  have settings : checkSettings (nothingWords path root) = s := by
    cases root <;> rfl
  let ready := t.withHandlers (loggerName programLogger) [Terminal.screenHandler false]
  have set : t.setUp programLogger s.verbose s.logFile = .ok ready := rfl
  have gathered : (gather s).result ready =
      (requestedPolicy t.files path root).map fun p => (p, {}) := by
    rw [gather_result]
    change (requestedPolicy t.files path root).bind _ = _
    cases requestedPolicy t.files path root <;> rfl
  rw [run_outcome, runMain_result (checkOfNothing_isAccepted request), settings, check_result, set]
  simp only [gathered]
  cases requestedPolicy t.files path root with
  | error failure => cases failure <;> rfl
  | ok p => rfl

/-- A policy that is loaded but cannot be announced. -/
theorem validation_fails {p : Policy} (request : IsPolicyRequest t.files path root)
    (loaded : requestedPolicy t.files path root = .ok p)
    (hidden : ¬ Announces path p) :
    (run (checkOfNothing path root) t).exitCode = 0 ∧
      (run (validation path root) t).exitCode = 1 ∧
      ∃ fault, (run (validation path root) t).failure = some (.markup fault) := by
  have checked := checkOfNothing_outcome request
  have validated := validation_outcome request
  simp only [loaded] at checked validated
  cases said : announced path p with
  | ok u => exact absurd (announced_isOk.mp ⟨u, said⟩) hidden
  | error fault =>
    simp only [said] at validated
    obtain ⟨code, left⟩ := Prod.mk.inj validated
    exact ⟨(Prod.mk.inj checked).1, code, fault, left⟩

/-- On any host, a validation and a check of nothing agree about every mistake in a policy and every
failure to load it. They differ where a policy that is loaded cannot be announced: the check goes
through, and the validation fails with the exit code of violations. -/
theorem validation_agrees_iff (request : IsPolicyRequest t.files path root) :
    let validated := run (validation path root) t
    let checked := run (checkOfNothing path root) t
    (validated.exitCode = 2 ↔ checked.exitCode = 2) ∧
      (validated.exitCode = 0 →
        checked.exitCode = 0 ∧ validated.failure = none ∧ checked.failure = none) ∧
      ((validated.exitCode = 0 ↔ checked.exitCode = 0) ↔
        ∀ p, requestedPolicy t.files path root = .ok p → Announces path p) ∧
      (checked.exitCode = 0 → validated.exitCode ≠ 0 →
        validated.exitCode = 1 ∧ ∃ fault, validated.failure = some (.markup fault)) := by
  intro validated checked
  have ofValidation := validation_outcome request
  have ofCheck := checkOfNothing_outcome request
  change (validated.exitCode, validated.failure) = _ at ofValidation
  change (checked.exitCode, checked.failure) = _ at ofCheck
  generalize validated.exitCode = code, validated.failure = left at ofValidation ⊢
  generalize checked.exitCode = code', checked.failure = left' at ofCheck ⊢
  cases loaded : requestedPolicy t.files path root with
  | error failure =>
    rw [loaded] at ofValidation ofCheck
    obtain ⟨rfl, rfl⟩ := Prod.mk.inj (ofValidation.trans ofCheck.symm)
    have nonzero : code ≠ 0 := by
      rintro rfl
      cases failure <;> cases ofCheck
    simp [nonzero]
  | ok p =>
    have shows : (∃ u, announced path p = .ok u) ↔ _ := announced_isOk
    simp only [loaded] at ofValidation ofCheck
    obtain ⟨rfl, rfl⟩ := Prod.mk.inj ofCheck
    cases said : announced path p with
    | ok u =>
      rw [said] at ofValidation shows
      obtain ⟨rfl, rfl⟩ := Prod.mk.inj ofValidation
      simpa using shows
    | error fault =>
      rw [said] at ofValidation shows
      obtain ⟨rfl, rfl⟩ := Prod.mk.inj ofValidation
      simpa using shows

end

/-- An empty policy in the current directory is valid, and a check of nothing goes through with it. -/
theorem validation_agrees_bare :
    IsPolicyRequest (withPolicy [0x7b, 0x7d]).files "p.json" none ∧
      ((run (validation "p.json" none) (withPolicy [0x7b, 0x7d])).exitCode = 0 ↔
        (run (checkOfNothing "p.json" none) (withPolicy [0x7b, 0x7d])).exitCode = 0) := by
  have request : IsPolicyRequest (withPolicy [0x7b, 0x7d]).files "p.json" none :=
    ⟨by decide, rfl, fun r given => by cases given⟩
  refine ⟨request, (validation_agrees_iff request).2.2.1.mpr fun p loaded =>
    (announces_iff _ p).mpr ⟨?_, ?_⟩⟩
  · exact Markup.shows_of_noBracket (by decide)
  · have root : (requestedPolicy (withPolicy [0x7b, 0x7d]).files "p.json" none).toOption.map
        Policy.root = some "/vroot/workspace" := by
      decide +kernel
    rw [loaded] at root
    rw [Option.some.inj root]
    exact Markup.shows_of_noBracket (by decide)

/-- A root that is the closing tag of nothing. The check goes through, and the validation fails. -/
theorem validation_refuses_root :
    IsPolicyRequest (withPolicy [0x7b, 0x7d]).files "p.json" (some "[/x]") ∧
      (run (checkOfNothing "p.json" (some "[/x]")) (withPolicy [0x7b, 0x7d])).exitCode = 0 ∧
      (run (validation "p.json" (some "[/x]")) (withPolicy [0x7b, 0x7d])).exitCode = 1 ∧
      (run (validation "p.json" (some "[/x]")) (withPolicy [0x7b, 0x7d])).failure.isSome = true := by
  have request : IsPolicyRequest (withPolicy [0x7b, 0x7d]).files "p.json" (some "[/x]") := by
    refine ⟨by decide, rfl, fun r given => ?_⟩
    cases given
    rfl
  have root : (requestedPolicy (withPolicy [0x7b, 0x7d]).files "p.json" (some "[/x]")).toOption.map
      Policy.root = some "/vroot/workspace/[/x]" := by
    decide +kernel
  have hidden : ¬ Markup.Shows "/vroot/workspace/[/x]" :=
    Markup.not_shows_of_closing "/vroot/workspace/".toList ['x'] [] (by decide) (by decide)
      (by decide) (by decide) (by decide)
  cases loaded : requestedPolicy (withPolicy [0x7b, 0x7d]).files "p.json" (some "[/x]") with
  | error failure =>
    rw [loaded] at root
    cases root
  | ok p =>
    rw [loaded] at root
    obtain ⟨checked, validated, fault, left⟩ := validation_fails request loaded fun announces =>
      hidden (Option.some.inj root ▸ ((announces_iff _ p).mp announces).2)
    exact ⟨request, checked, validated, by rw [left, Option.isSome_some]⟩

end ImportBoundary.CommandLine
