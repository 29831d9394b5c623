import ImportBoundary.Proofs.Policy.Grammar
import ImportBoundary.Proofs.Policy.Keyword
import ImportBoundary.Proofs.Text.Digit
import ImportBoundary.Proofs.Text.Pieces
import Mathlib.Data.List.Induction

/-!
# Where a policy document is at fault

The place that a mistake names can be read back (`readPlace`): names lie between dots, with positions
in brackets behind them, and no name of the schema holds either. The fault that is reported is one at
the shortest path (`worst?_spec`). Main statement: for a document that does not conform to the schema,
building stops with a mistake whose place, read back, leads to a value of the document that the schema
refuses, and it refuses nothing that lies higher (`build_points_at_fault`).
-/

namespace ImportBoundary

open Text

namespace Schema

variable {v : Json} {path : List Step} {keyword : Keyword}

/-! ## The fault that is reported -/

theorem yieldsTo_length {f g : Fault} :
    (f.yieldsTo g = true → g.path.length ≤ f.path.length) ∧
      (f.yieldsTo g = false → f.path.length ≤ g.path.length) := by
  simp only [Fault.yieldsTo, Bool.or_eq_true, Bool.or_eq_false_iff, decide_eq_true_eq,
    decide_eq_false_iff_not, Bool.and_eq_true, beq_iff_eq]
  omega

/-- Of two faults one is kept, and the other has no shorter path. -/
theorem kept_spec (f g : Fault) :
    ((if f.yieldsTo g then g else f) = f ∨ (if f.yieldsTo g then g else f) = g) ∧
      (if f.yieldsTo g then g else f).path.length ≤ f.path.length ∧
      (if f.yieldsTo g then g else f).path.length ≤ g.path.length := by
  obtain ⟨yields, stays⟩ := yieldsTo_length (f := f) (g := g)
  by_cases better : f.yieldsTo g = true
  · rw [if_pos better]
    exact ⟨.inr rfl, yields better, Nat.le_refl _⟩
  · rw [if_neg better]
    exact ⟨.inl rfl, Nat.le_refl _, stays (Bool.eq_false_iff.mpr better)⟩

/-- The fault to report is one of the faults, and none has a shorter path. -/
theorem worst?_spec {faults : List Fault} {f : Fault} (h : worst? faults = some f) :
    f ∈ faults ∧ ∀ g ∈ faults, f.path.length ≤ g.path.length := by
  cases faults with
  | nil => cases h
  | cons first rest =>
    obtain rfl := Option.some.inj h
    clear h
    induction rest generalizing first with
    | nil => simp
    | cons g rest ih =>
      rw [List.foldl_cons]
      obtain ⟨kept, shorter, shorter'⟩ := kept_spec first g
      obtain ⟨mem, least⟩ := ih (if first.yieldsTo g then g else first)
      have leastKept := least _ (List.mem_cons_self ..)
      constructor
      · rcases List.mem_cons.mp mem with same | inside
        · rw [same]
          rcases kept with eq | eq <;> simp [eq]
        · exact List.mem_cons_of_mem _ (List.mem_cons_of_mem _ inside)
      · intro other inside
        rcases List.mem_cons.mp inside with rfl | inside
        · exact Nat.le_trans leastKept shorter
        rcases List.mem_cons.mp inside with rfl | inside
        · exact Nat.le_trans leastKept shorter'
        · exact least other (List.mem_cons_of_mem _ inside)

/-- The schema of policies refuses nothing in the documents of the right shape, and in no others. -/
theorem conforms_iff : Conforms v ↔ fault? v = none := by
  rw [fault?, worst?_eq_none]
  constructor
  · intro conforms
    apply List.eq_nil_iff_forall_not_mem.mpr
    intro f mem
    exact conforms _ _ (tells_policyFaults_iff.mp ⟨f, mem, rfl, rfl⟩)
  · intro none path keyword refused
    have told := tells_policyFaults_iff.mpr refused
    rw [none] at told
    exact tells_nil told

/-! ## Paths of plain names -/

/-- The path of a fault holds names of the shape only. -/
theorem isPlain_of_refusesAt {shape : Shape} (written : IsWritten shape)
    (refused : RefusesAt shape.toJson v path keyword) :
    ∀ name, Step.field name ∈ path → IsPlain name := by
  induction written generalizing v path with
  | text =>
    obtain ⟨rfl, -⟩ := refusesAt_text.mp refused
    simp
  | list _ ih =>
    rcases refusesAt_list.mp refused with ⟨rfl, -⟩ | ⟨items, n, x, rest, rfl, has, rfl, inner⟩
    · simp
    · intro name mem
      simp only [List.mem_cons, reduceCtorEq, false_or] at mem
      exact ih inner name mem
  | record distinct plain _ ih =>
    rcases refusesAt_record.mp refused with
      ⟨rfl, -⟩ | ⟨known, shape, x, rest, found, has, rfl, inner⟩
    · simp
    · have inside := (lookup_eq_some_iff_mem distinct).mp found
      intro name mem
      simp only [List.mem_cons, Step.field.injEq] at mem
      rcases mem with rfl | mem
      · exact plain _ inside
      · exact ih _ inside inner name mem
  | named defined _ ih => exact ih ((refusesAt_named defined).mp refused)

/-- A path is empty or starts with a name. -/
def StartsWithName : List Step → Prop
  | .index _ :: _ => False
  | _ => True

theorem startsWithName_of_refusesAt {required : List String} {known : List (String × Shape)}
    (refused : RefusesAt (Shape.record required known).toJson v path keyword) :
    StartsWithName path := by
  rcases refusesAt_record.mp refused with ⟨rfl, -⟩ | ⟨known, shape, x, rest, -, -, rfl, -⟩
  · trivial
  · trivial

/-- A name of a path and the positions behind it. -/
structure Stretch where
  name : String
  positions : List Nat

namespace Stretch

/-- The steps that a name and its positions stand for. -/
def steps (s : Stretch) : List Step :=
  .field s.name :: s.positions.map .index

/-- A name and its positions as they are written. -/
def text (s : Stretch) : List Char :=
  joinWith ['['] (s.name.toList :: s.positions.map fun n => Nat.toDigits 10 n ++ [']'])

end Stretch

/-- Every path is made of positions, and of names with positions behind them. -/
theorem exists_stretches (path : List Step) :
    ∃ (positions : List Nat) (stretches : List Stretch),
      path = positions.map Step.index ++ stretches.flatMap Stretch.steps := by
  induction path with
  | nil => exact ⟨[], [], rfl⟩
  | cons step path ih =>
    obtain ⟨positions, stretches, rfl⟩ := ih
    cases step with
    | index n => exact ⟨n :: positions, stretches, rfl⟩
    | field name => exact ⟨[], ⟨name, positions⟩ :: stretches, by simp [Stretch.steps]⟩

theorem exists_stretches_of_startsWithName (h : StartsWithName path) :
    ∃ stretches : List Stretch, path = stretches.flatMap Stretch.steps := by
  obtain ⟨positions, stretches, rfl⟩ := exists_stretches path
  cases positions with
  | nil => exact ⟨stretches, rfl⟩
  | cons n positions => exact h.elim

/-! ## Texts of paths -/

open ConfigurationFault (pathText)

/-- A step as it is written behind others. -/
def Step.written : Step → List Char
  | .index n => '[' :: (Nat.toDigits 10 n ++ [']'])
  | .field name => '.' :: name.toList

theorem pathText_concat (path : List Step) (step : Step) :
    pathText (path ++ [step]) =
      match step with
      | .index n => s!"{pathText path}[{n}]"
      | .field name =>
        if (pathText path).isEmpty then name else s!"{pathText path}.{name}" := by
  rw [pathText, List.foldl_append]
  rfl

theorem toList_pathText_cons {name : String} (some_name : name ≠ "") (path : List Step) :
    (pathText (.field name :: path)).toList = name.toList ++ path.flatMap Step.written := by
  induction path using List.reverseRecOn with
  | nil => simp [pathText]
  | append_singleton path step ih =>
    have some_text : pathText (.field name :: path) ≠ "" := by
      intro none
      rw [none] at ih
      have none := (List.append_eq_nil_iff.mp ih.symm).1
      exact some_name (String.toList_eq_nil_iff.mp none)
    rw [List.flatMap_append, ← List.append_assoc, ← ih, ← List.cons_append, pathText_concat]
    cases step with
    | index n => simp [Step.written, toString, Nat.repr]
    | field next => simp [Step.written, toString, some_text]

theorem flatMap_written_steps (s : Stretch) : s.steps.flatMap Step.written = '.' :: s.text := by
  rw [Stretch.steps, Stretch.text, joinWith_cons_flatMap, List.flatMap_cons, List.flatMap_map,
    List.flatMap_map]
  rfl

/-- The text of a path holds its names and their positions between dots. -/
theorem toList_pathText {stretches : List Stretch}
    (some_name : ∀ s ∈ stretches, s.name ≠ "") :
    (pathText (stretches.flatMap Stretch.steps)).toList =
      joinWith ['.'] (stretches.map Stretch.text) := by
  cases stretches with
  | nil => rfl
  | cons s stretches =>
    have first := flatMap_written_steps s
    have others : stretches.flatMap (fun t => t.steps.flatMap Step.written) =
        stretches.flatMap fun t => '.' :: t.text := by
      simp only [flatMap_written_steps]
    rw [Stretch.steps, List.flatMap_cons, Step.written, List.cons_append, List.cons.injEq] at first
    calc (pathText ((s :: stretches).flatMap Stretch.steps)).toList
        = s.name.toList ++ ((s.positions.map Step.index).flatMap Step.written ++
            stretches.flatMap fun t => t.steps.flatMap Step.written) := by
          rw [List.flatMap_cons, Stretch.steps, List.cons_append,
            toList_pathText_cons (some_name s (List.mem_cons_self ..)), List.flatMap_append,
            List.flatMap_assoc]
      _ = s.text ++ stretches.flatMap fun t => '.' :: t.text := by
          rw [others, ← List.append_assoc, first.2]
      _ = joinWith ['.'] ((s :: stretches).map Stretch.text) := by
          rw [List.map_cons, joinWith_cons_flatMap, List.flatMap_map]
          rfl

/-! ## Reading the text of a path -/

/-- A position, behind the bracket that opens it. -/
def readPosition (cs : List Char) : Option Nat :=
  if cs.getLast? = some ']' ∧ cs.dropLast ≠ [] ∧ cs.dropLast.all isAsciiDigit then
    some (valueInBase 10 cs.dropLast)
  else
    none

/-- A name and the positions behind it. -/
def readStretch (cs : List Char) : Option Stretch :=
  match splitAtChar '[' cs with
  | [] => none
  | name :: positions => (positions.mapM readPosition).map (Stretch.mk (String.ofList name))

/-- The steps that a text names. -/
def readPlace (text : String) : Option (List Step) :=
  ((splitAtChar '.' text.toList).mapM readStretch).map (List.flatMap Stretch.steps)

theorem mapM_map_eq_some {α β : Type} (write : α → β) (read : β → Option α) {xs : List α}
    (h : ∀ x ∈ xs, read (write x) = some x) : (xs.map write).mapM read = some xs := by
  induction xs with
  | nil => rfl
  | cons x xs ih =>
    obtain ⟨first, others⟩ := List.forall_mem_cons.mp h
    simp [first, ih others]

theorem readPosition_toDigits (n : Nat) : readPosition (Nat.toDigits 10 n ++ [']']) = some n := by
  have digits : (Nat.toDigits 10 n).all isAsciiDigit = true :=
    List.all_eq_true.mpr fun _ => isAsciiDigit_of_mem_toDigits
  have value : valueInBase 10 (Nat.toDigits 10 n) = n :=
    valueInBase_toDigits (by decide) (by decide) n
  simp [readPosition, digits, value, Nat.toDigits_ne_nil]

theorem readStretch_text {s : Stretch} (plain : IsPlain s.name) : readStretch s.text = some s := by
  have pieces : ∀ piece ∈ s.name.toList :: s.positions.map fun n => Nat.toDigits 10 n ++ [']'],
      '[' ∉ piece := by
    intro piece mem bracket
    rcases List.mem_cons.mp mem with rfl | mem
    · exact plain.2.2 bracket
    · obtain ⟨n, -, rfl⟩ := List.mem_map.mp mem
      rcases List.mem_append.mp bracket with digit | last
      · exact absurd (isAsciiDigit_of_mem_toDigits digit) (by decide)
      · simp at last
  have positions : (s.positions.map fun n => Nat.toDigits 10 n ++ [']']).mapM readPosition =
      some s.positions :=
    mapM_map_eq_some _ readPosition fun n _ => readPosition_toDigits n
  rw [readStretch, Stretch.text, splitAtChar_joinWith (List.cons_ne_nil _ _) pieces]
  simp only [positions, Option.map_some, String.ofList_toList]

theorem dot_not_mem_text {s : Stretch} (plain : IsPlain s.name) : '.' ∉ s.text := by
  rw [Stretch.text, joinWith_cons_flatMap, List.mem_append, List.mem_flatMap]
  rintro (inside | ⟨piece, mem, inside⟩)
  · exact plain.2.1 inside
  · obtain ⟨n, -, rfl⟩ := List.mem_map.mp mem
    have digit : '.' ∈ Nat.toDigits 10 n := by simpa using inside
    exact absurd (isAsciiDigit_of_mem_toDigits digit) (by decide)

/-- A path of plain names that starts with one is found again in its text. -/
theorem readPlace_pathText (some_step : path ≠ []) (named : StartsWithName path)
    (plain : ∀ name, Step.field name ∈ path → IsPlain name) :
    readPlace (pathText path) = some path := by
  obtain ⟨stretches, rfl⟩ := exists_stretches_of_startsWithName named
  have plains : ∀ s ∈ stretches, IsPlain s.name := fun s mem =>
    plain s.name (List.mem_flatMap.mpr ⟨s, mem, List.mem_cons_self ..⟩)
  have some_text : stretches.map Stretch.text ≠ [] := by
    intro none
    rw [List.map_eq_nil_iff.mp none] at some_step
    exact some_step rfl
  have dotless : ∀ text ∈ stretches.map Stretch.text, '.' ∉ text := by
    intro text mem
    obtain ⟨s, inside, rfl⟩ := List.mem_map.mp mem
    exact dot_not_mem_text (plains s inside)
  have read : (stretches.map Stretch.text).mapM readStretch = some stretches :=
    mapM_map_eq_some Stretch.text readStretch fun s mem => readStretch_text (plains s mem)
  rw [readPlace, toList_pathText fun s mem => (plains s mem).1,
    splitAtChar_joinWith some_text dotless, read, Option.map_some]

/-! ## Faults of documents -/

theorem refusesAt_of_mem {f : Fault} (mem : f ∈ policyShape.faults v) :
    RefusesAt document v f.path f.complaint.keyword :=
  tells_policyFaults_iff.mp ⟨f, mem, rfl, rfl⟩

/-- The steps that a place names. No place is the document itself. -/
def stepsOf : Option String → Option (List Step)
  | none => some []
  | some text => readPlace text

theorem stepsOf_place? {f : Fault} (mem : f ∈ policyShape.faults v) :
    stepsOf (ConfigurationFault.misshapen f).place? = some f.path := by
  have refused : RefusesAt policyShape.toJson v f.path f.complaint.keyword :=
    (tells_faults_iff isWritten_policyShape).mp ⟨f, mem, rfl, rfl⟩
  have named : StartsWithName f.path := startsWithName_of_refusesAt refused
  have plain := isPlain_of_refusesAt isWritten_policyShape refused
  rw [ConfigurationFault.place?]
  by_cases top : f.path = []
  · rw [top]
    rfl
  · rw [if_neg (by simpa using top)]
    exact readPlace_pathText top named plain

end Schema

namespace Policy

open Schema
open ConfigurationFault (pathText)

/-- For an absolute directory and a document that does not conform to the schema, building stops with a
mistake whose place, read back, leads to a value of the document that a keyword of the schema refuses.
No keyword refuses a value that lies higher, and no place is given exactly if it is the document itself
that is refused. -/
theorem build_points_at_fault {root : String} {v : Json} (absolute : Path.isAbsolute root = true)
    (misfit : ¬ Conforms v) :
    ∃ fault steps part x, build root v = .error (.configuration (.misshapen fault)) ∧
      stepsOf (ConfigurationFault.misshapen fault).place? = some steps ∧
      valueAt? v steps = some x ∧
      Governs document v steps part x ∧ (∃ keyword, Refuses part keyword x) ∧
      (∀ path keyword, RefusesAt document v path keyword → steps.length ≤ path.length) ∧
      ((ConfigurationFault.misshapen fault).place? = none ↔ steps = []) := by
  cases found : fault? v with
  | none => exact absurd (conforms_iff.mpr found) misfit
  | some fault =>
    obtain ⟨mem, least⟩ := worst?_spec found
    obtain ⟨part, x, governs, refuses⟩ := refusesAt_of_mem mem
    have told : (ConfigurationFault.misshapen fault).place? =
        if fault.path.isEmpty then none else some (pathText fault.path) := rfl
    refine ⟨fault, fault.path, part, x, build_of_fault absolute found, ?_, governs.valueAt?_eq,
      governs, ⟨_, refuses⟩, ?_, ?_⟩
    · exact stepsOf_place? mem
    · intro path keyword refused
      obtain ⟨other, inside, rfl, -⟩ := tells_policyFaults_iff.mpr refused
      exact least other inside
    · rw [told]
      cases fault.path <;> simp

/-- A document with faults at three depths, of which that of the second zone lies highest. -/
theorem build_points_at_unnamed_zone :
    let v : Json := .obj
      [("zones", .arr [.obj [("name", .str ""), ("paths", .str "com")], .obj [("paths", .arr [])]]),
        ("private_files", .obj [("regexes", .arr [.str ""])])]
    Path.isAbsolute "/r" = true ∧ ¬ Conforms v ∧
      ∃ fault steps part x, build "/r" v = .error (.configuration (.misshapen fault)) ∧
        stepsOf (ConfigurationFault.misshapen fault).place? = some steps ∧
        valueAt? v steps = some x ∧
        Governs document v steps part x ∧ (∃ keyword, Refuses part keyword x) ∧
        (∀ path keyword, RefusesAt document v path keyword → steps.length ≤ path.length) ∧
        ((ConfigurationFault.misshapen fault).place? = none ↔ steps = []) := by
  intro v
  have misfit : ¬ Conforms v := by
    have found : (fault? v).isSome = true := rfl
    rw [conforms_iff]
    intro none
    rw [none] at found
    cases found
  exact ⟨by decide, misfit, build_points_at_fault (by decide) misfit⟩

example : (fault? (.obj [("zones", .arr [.obj [("name", .str ""), ("paths", .str "com")],
      .obj [("paths", .arr [])]])])).bind (ConfigurationFault.misshapen · |>.place?) =
    some "zones[1]" := by
  rfl

example : stepsOf (some "zones[1].paths[12]") =
    some [.field "zones", .index 1, .field "paths", .index 12] := by
  rfl

end Policy

end ImportBoundary
