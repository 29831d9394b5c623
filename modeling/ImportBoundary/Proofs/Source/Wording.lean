import ImportBoundary.Proofs.Source.Parts
import ImportBoundary.Proofs.Source.Words
import Mathlib.Algebra.Ring.Nat

/-!
# What an import statement tells

The words of an import statement, one for each of its tokens, and what they import (`Tells`): modules
with or without another name for each, or some dots, a module or none, and the names after the word
`import`, which may stand in parentheses. All names are meant in their normal form. Whatever is read
as an import statement tells what it is taken to import (`tells_of_shaped`).
-/

namespace ImportBoundary.Source

open Text

/-! ## Definition -/

/-- The words by which something is given another name. -/
def aliasWords : Option String → List String
  | none => []
  | some n => ["as", n]

/-- Some things that are imported, each with its other name. -/
def listWords (items : List (List String × Option String)) : List String :=
  separatedBy "," (items.map fun item => item.1 ++ aliasWords item.2)

/-- A module by its names. -/
def moduleWords (names : List String) : List String :=
  separatedBy "." (names.map ([·]))

/-- The words name a module. -/
def IsNamed (names : List String) : Prop :=
  names ≠ [] ∧ ∀ n ∈ names, IsIdentifier n

/-- The words after the word `import`, and the names that they import. -/
inductive TellsNames : List String → List String → Prop
  | all : TellsNames ["*"] []
  | listed (items : List (String × Option String)) (some_item : items ≠ [])
      (named : ∀ item ∈ items, IsIdentifier item.1 ∧ ∀ n ∈ item.2, IsIdentifier n)
      {opening closing : List String}
      (brackets : opening = [] ∧ closing = [] ∨
        opening = ["("] ∧ (closing = [")"] ∨ closing = [",", ")"])) :
      TellsNames (opening ++ listWords (items.map fun item => ([item.1], item.2)) ++ closing)
        (items.map fun item => normalForm item.1)

/-- The words of an import statement, and what it imports. -/
inductive Tells : List String → Imported → Prop
  | modules (items : List (List String × Option String)) (some_item : items ≠ [])
      (named : ∀ item ∈ items, IsNamed item.1 ∧ ∀ n ∈ item.2, IsIdentifier n) :
      Tells ("import" :: listWords (items.map fun item => (moduleWords item.1, item.2)))
        (.modules (items.map fun item => String.ofList (dotted (item.1.map normalForm))))
  | names (dots : List String) (areDots : ∀ d ∈ dots, d = "." ∨ d = "...")
      (module : Option (List String)) (named : ∀ m ∈ module, IsNamed m)
      (something : module = none → dots ≠ []) {words names : List String}
      (lists : TellsNames words names) :
      Tells ("from" :: dots ++ module.elim [] moduleWords ++ "import" :: words)
        (.names (dots.map String.length).sum (module.map fun m =>
        String.ofList (dotted (m.map normalForm))) names)

/-! ## Words between words -/

section

variable {ts : Tokens} {i j : Nat} {parts : List Tree}

section

variable {α : Type} {w : String} {form : Form} {groups : List (List Tree)} {IsItem : α → Prop}
variable {words : α → List String} {phrases : List Phrase} {spell : Tree → String}
variable {text : α → String}

/-- If each group is an item, there are as many items as groups. -/
theorem exists_items_of_groups
    (shaped : ∀ group ∈ groups, ∃ i j, Shaped ts (.form form) i group j)
    (each : ∀ group i j, Shaped ts (.form form) i group j → ∃ item, IsItem item ∧
      wordsOf group = words item ∧ (Tree.nodesOfAll phrases group).map spell = [text item]) :
    ∃ items : List α, items.length = groups.length ∧ (∀ item ∈ items, IsItem item) ∧
      groups.map wordsOf = items.map words ∧
      (groups.flatMap fun group => (Tree.nodesOfAll phrases group).map spell) = items.map text := by
  induction groups with
  | nil => exact ⟨[], rfl, by simp, rfl, rfl⟩
  | cons group groups ih =>
    obtain ⟨⟨i, j, first⟩, others⟩ := List.forall_mem_cons.mp shaped
    obtain ⟨item, isItem, firstWords, firstText⟩ := each group i j first
    obtain ⟨items, same, areItems, otherWords, otherTexts⟩ := ih others
    refine ⟨item :: items, congrArg (· + 1) same, List.forall_mem_cons.mpr ⟨isItem, areItems⟩,
      ?_, ?_⟩
    · rw [List.map_cons, List.map_cons, firstWords, otherWords]
    · rw [List.flatMap_cons, List.map_cons, firstText, otherTexts, List.singleton_append]

/-- If each group is an item, the parts are the items. -/
theorem GroupedBy.exists_items (grouped : GroupedBy ts w form parts groups)
    (each : ∀ group i j, Shaped ts (.form form) i group j → ∃ item, IsItem item ∧
      wordsOf group = words item ∧ (Tree.nodesOfAll phrases group).map spell = [text item]) :
    ∃ items, items ≠ [] ∧ (∀ item ∈ items, IsItem item) ∧
      wordsOf parts = separatedBy w (items.map words) ∧
      (Tree.nodesOfAll phrases parts).map spell = items.map text := by
  obtain ⟨some_group, shaped, wordsOf_eq, nodes⟩ := grouped
  obtain ⟨items, same, areItems, eachWords, texts⟩ := exists_items_of_groups shaped each
  refine ⟨items, ?_, areItems, by rw [wordsOf_eq, eachWords], by rw [nodes, List.map_flatMap, texts]⟩
  rintro rfl
  exact some_group (List.eq_nil_of_length_eq_zero same.symm)

end

/-- What may come behind anything that is imported: the word `as` and a name. -/
theorem exists_alias_of_shaped (worded : ts.AreWorded)
    (shaped : Shaped ts (.form (.opt (.all [.word "as", .name]))) i parts j) :
    ∃ other : Option String, (∀ n ∈ other, IsIdentifier n) ∧ wordsOf parts = aliasWords other ∧
      ∀ phrases, Tree.nodesOfAll phrases parts = [] := by
  simp only [shaped_opt_iff, shaped_all_iff, shaped_cons_iff, shaped_nil_iff] at shaped
  rcases shaped with ⟨rfl, -⟩ | ⟨_, _, _, word, ⟨_, _, _, name, ⟨rfl, -⟩, rfl⟩, rfl⟩
  · exact ⟨none, nofun, rfl, fun _ => rfl⟩
  · obtain ⟨first, nodes⟩ := leaf_of_shaped_word word
    obtain ⟨_, n, rfl, is, identifier⟩ := exists_identifier_of_shaped worded name
    refine ⟨some n, ?_, ?_, ?_⟩
    · rintro m ⟨⟩
      exact identifier
    · rw [List.append_nil, wordsOf_append, first, wordsOf_name is]
      rfl
    · intro phrases
      rw [List.append_nil, Tree.nodesOfAll_append, nodes]
      rfl

/-- Something that is imported, and its other name. -/
theorem exists_item_of_shaped {form : Form} (worded : ts.AreWorded)
    (shaped : Shaped ts (.form (.all [form, .opt (.all [.word "as", .name])])) i parts j) :
    ∃ (thing : List Tree) (k : Nat) (other : Option String), Shaped ts (.form form) i thing k ∧
      (∀ n ∈ other, IsIdentifier n) ∧ wordsOf parts = wordsOf thing ++ aliasWords other ∧
      ∀ phrases, Tree.nodesOfAll phrases parts = Tree.nodesOfAll phrases thing := by
  rw [shaped_all_iff, shaped_cons_iff] at shaped
  obtain ⟨thing, k, _, first, rest, rfl⟩ := shaped
  rw [shaped_cons_iff] at rest
  obtain ⟨more, _, _, rest, nothing, rfl⟩ := rest
  obtain ⟨rfl, -⟩ := shaped_nil_iff.mp nothing
  obtain ⟨other, identifier, words, nodes⟩ := exists_alias_of_shaped worded rest
  refine ⟨thing, k, other, first, identifier, ?_, ?_⟩
  · rw [List.append_nil, wordsOf_append, words]
  · intro phrases
    rw [List.append_nil, Tree.nodesOfAll_append, nodes, List.append_nil]

theorem wordsOf_node (s : Phrase) (parts : List Tree) : wordsOf [.node s parts] = wordsOf parts := by
  rw [wordsOf, Tree.tokensOfAll, Tree.tokensOfAll, Tree.tokens, List.append_nil]
  rfl

theorem firstSpelling_node (s : Phrase) (parts : List Tree) :
    (Tree.node s parts).firstSpelling = (wordsOf parts).head?.getD "" := by
  rw [wordsOf, List.head?_map]
  rfl

theorem nodesOfAll_node {s : Phrase} {phrases : List Phrase} (other : phrases.contains s = false)
    (parts : List Tree) : Tree.nodesOfAll phrases [.node s parts] = Tree.nodesOfAll phrases parts := by
  rw [Tree.nodesOfAll, Tree.nodes, if_neg (Bool.eq_false_iff.mp other)]
  exact List.append_nil _

/-! ## Modules -/

/-- A dotted name is a module. -/
theorem exists_module_of_shaped (worded : ts.AreWorded)
    (shaped : Shaped ts (.form (.phrase .dottedName)) i parts j) :
    ∃ names, IsNamed names ∧ wordsOf parts = moduleWords names ∧
      (Tree.nodesOfAll [.dottedName] parts).map Tree.meaning =
        [String.ofList (dotted (names.map normalForm))] := by
  obtain ⟨inner, shapedInner, rfl⟩ := shaped_phrase_iff.mp shaped
  obtain ⟨names, some_name, identifiers, words⟩ := exists_names_of_shaped worded shapedInner
  have whole : wordsOf [.node .dottedName inner] = wordsOf inner := wordsOf_node _ inner
  refine ⟨names, ⟨some_name, identifiers⟩, whole.trans words, ?_⟩
  rw [← meaning_of_wordsOf words]
  rfl

/-- A module and its other name. -/
theorem exists_module_item (worded : ts.AreWorded)
    (shaped : Shaped ts (.form (.phrase .moduleName)) i parts j) :
    ∃ item : List String × Option String, (IsNamed item.1 ∧ ∀ n ∈ item.2, IsIdentifier n) ∧
      wordsOf parts = moduleWords item.1 ++ aliasWords item.2 ∧
      (Tree.nodesOfAll [.dottedName] parts).map Tree.meaning =
        [String.ofList (dotted (item.1.map normalForm))] := by
  obtain ⟨inner, shapedInner, rfl⟩ := shaped_phrase_iff.mp shaped
  obtain ⟨thing, k, other, first, identifier, words, nodes⟩ :=
    exists_item_of_shaped worded shapedInner
  obtain ⟨names, named, moduleIs, spelled⟩ := exists_module_of_shaped worded first
  refine ⟨(names, other), ⟨named, identifier⟩, ?_, ?_⟩
  · rw [wordsOf_node, words, moduleIs]
  · rw [nodesOfAll_node rfl, nodes, spelled]

/-- The modules of an import statement. -/
theorem tells_of_importName (worded : ts.AreWorded)
    (shaped : Shaped ts (.form (Phrase.form .importName)) i parts j) :
    Tells (wordsOf parts) (.modules ((Tree.nodesOfAll [.dottedName] parts).map Tree.meaning)) := by
  simp only [Phrase.form, shaped_all_iff, shaped_cons_iff, shaped_nil_iff, shaped_phrase_iff]
    at shaped
  obtain ⟨_, _, _, word, ⟨_, _, _, ⟨inner, modules, rfl⟩, ⟨rfl, -⟩, rfl⟩, rfl⟩ := shaped
  obtain ⟨first, none⟩ := leaf_of_shaped_word word
  obtain ⟨groups, grouped⟩ := exists_groups_of_separated modules
  obtain ⟨items, some_item, named, words, texts⟩ :=
    grouped.exists_items fun _ _ _ shaped => exists_module_item worded shaped
  have tells := Tells.modules items some_item named
  rw [listWords, List.map_map] at tells
  rw [List.append_nil, wordsOf_append, first, wordsOf_node, words, Tree.nodesOfAll_append, none,
    List.nil_append, nodesOfAll_node rfl, texts]
  exact tells

/-! ## Names -/

/-- A name and its other name. -/
theorem exists_name_item (worded : ts.AreWorded)
    (shaped : Shaped ts (.form (.phrase .importedName)) i parts j) :
    ∃ item : String × Option String, (IsIdentifier item.1 ∧ ∀ n ∈ item.2, IsIdentifier n) ∧
      wordsOf parts = item.1 :: aliasWords item.2 ∧
      (Tree.nodesOfAll [.importedName] parts).map Tree.firstMeaning = [normalForm item.1] := by
  obtain ⟨inner, shapedInner, rfl⟩ := shaped_phrase_iff.mp shaped
  obtain ⟨thing, k, other, first, identifier, words, nodes⟩ :=
    exists_item_of_shaped worded shapedInner
  obtain ⟨token, n, rfl, is, identifierToo⟩ := exists_identifier_of_shaped worded first
  refine ⟨(n, other), ⟨identifierToo, identifier⟩, ?_, ?_⟩
  · rw [wordsOf_node, words, wordsOf_name is]
    rfl
  · have first : (Tree.node .importedName inner).firstMeaning = normalForm n := by
      rw [Tree.firstMeaning, firstSpelling_node, words, wordsOf_name is]
      rfl
    exact congrArg (fun word => [word]) first

/-- Names with commas in between. -/
theorem exists_name_items (worded : ts.AreWorded)
    (shaped : Shaped ts (.form (.phrase .importedNames)) i parts j) :
    ∃ items : List (String × Option String), items ≠ [] ∧
      (∀ item ∈ items, IsIdentifier item.1 ∧ ∀ n ∈ item.2, IsIdentifier n) ∧
      wordsOf parts = listWords (items.map fun item => ([item.1], item.2)) ∧
      (Tree.nodesOfAll [.importedName] parts).map Tree.firstMeaning =
        items.map fun item => normalForm item.1 := by
  obtain ⟨inner, shapedInner, rfl⟩ := shaped_phrase_iff.mp shaped
  obtain ⟨groups, grouped⟩ := exists_groups_of_separated shapedInner
  obtain ⟨items, some_item, named, words, texts⟩ :=
    grouped.exists_items fun _ _ _ shaped => exists_name_item worded shaped
  refine ⟨items, some_item, named, ?_, ?_⟩
  · rw [wordsOf_node, words, listWords, List.map_map]
    rfl
  · rw [nodesOfAll_node rfl, texts]

/-- The word `import` is followed by names. -/
theorem tellsNames_of_importTargets (worded : ts.AreWorded)
    (shaped : Shaped ts (.form (.phrase .importTargets)) i parts j) :
    TellsNames (wordsOf parts)
      ((Tree.nodesOfAll [.importedName] parts).map Tree.firstMeaning) := by
  obtain ⟨inner, shapedInner, rfl⟩ := shaped_phrase_iff.mp shaped
  rw [wordsOf_node, nodesOfAll_node rfl]
  simp only [Phrase.form, shaped_any_iff, List.mem_cons, List.not_mem_nil, or_false,
    exists_eq_or_imp, exists_eq_left, shaped_all_iff, shaped_cons_iff, shaped_nil_iff,
    shaped_opt_iff, shaped_never_iff, shaped_explain_iff, not_shaped_refuse] at shapedInner
  rcases shapedInner with
    ⟨_, _, _, opens, ⟨names, _, _, list, ⟨comma, _, _, more, ⟨_, _, _, closes, ⟨rfl, -⟩, rfl⟩, rfl⟩,
      rfl⟩, rfl⟩ |
    ⟨names, _, _, list, ⟨_, _, _, ⟨rfl, -⟩, ⟨rfl, -⟩, rfl⟩, rfl⟩ | star |
    ⟨_, _, _, -, ⟨_, _, _, -, ⟨_, _, _, -, ⟨_, _, _, refused, -⟩, -⟩, -⟩, -⟩
  · obtain ⟨items, some_item, named, words, texts⟩ := exists_name_items worded list
    obtain ⟨openWords, openNodes⟩ := leaf_of_shaped_word opens
    obtain ⟨closeWords, closeNodes⟩ := leaf_of_shaped_word closes
    obtain ⟨commaWords, commaNodes⟩ : (wordsOf comma = [] ∨ wordsOf comma = [","]) ∧
        Tree.nodesOfAll [.importedName] comma = [] := by
      rcases more with ⟨rfl, -⟩ | more
      · exact ⟨.inl rfl, rfl⟩
      · obtain ⟨commaWords, commaNodes⟩ := leaf_of_shaped_word more
        exact ⟨.inr commaWords, commaNodes _⟩
    have closing : wordsOf comma ++ [")"] = [")"] ∨ wordsOf comma ++ [")"] = [",", ")"] := by
      rcases commaWords with none | one
      · exact .inl (by rw [none]; rfl)
      · exact .inr (by rw [one]; rfl)
    have tells := TellsNames.listed items some_item named (.inr ⟨rfl, closing⟩)
    simp only [List.append_nil, wordsOf_append, Tree.nodesOfAll_append, openWords, openNodes, words,
      commaNodes, closeWords, closeNodes, List.nil_append, texts]
    rwa [List.append_assoc] at tells
  · obtain ⟨items, some_item, named, words, texts⟩ := exists_name_items worded list
    have tells := TellsNames.listed items some_item named (.inl ⟨rfl, rfl⟩)
    rw [List.append_nil, List.append_nil, words, texts]
    rwa [List.nil_append, List.append_nil] at tells
  · obtain ⟨words, nodes⟩ := leaf_of_shaped_word star
    rw [words, nodes]
    exact .all
  · exact refused.elim

/-! ## Dots -/

theorem level_append (trees more : List Tree) :
    Tree.level (trees ++ more) = Tree.level trees + Tree.level more := by
  simp [Tree.level]

theorem level_of_shaped_word {w : String} (shaped : Shaped ts (.form (.word w)) i parts j) :
    Tree.level parts = (w.toList.filter (· = '.')).length := by
  obtain ⟨words, -⟩ := leaf_of_shaped_word shaped
  cases shaped with
  | token =>
    have spelled := (List.cons.inj words).1
    rw [← spelled]
    simp [Tree.level]

theorem level_of_shaped_phrase {s : Phrase} (shaped : Shaped ts (.form (.phrase s)) i parts j) :
    Tree.level parts = 0 := by
  obtain ⟨inner, -, rfl⟩ := shaped_phrase_iff.mp shaped
  rfl

/-- One or three dots at a time, as often as possible. -/
theorem exists_dots_of_repetition {shape : Shape} (shaped : Shaped ts shape i parts j)
    (again : shape = .repetition (.words [".", "..."])) :
    ∃ dots : List String, (∀ d ∈ dots, d = "." ∨ d = "...") ∧ wordsOf parts = dots ∧
      Tree.level parts = (dots.map String.length).sum ∧
      ∀ phrases, Tree.nodesOfAll phrases parts = [] := by
  induction shaped with
  | ended => exact ⟨[], by simp, rfl, rfl, fun _ => rfl⟩
  | again first _ _ ih =>
    cases again
    obtain ⟨dots, areDots, words, level, nodes⟩ := ih rfl
    obtain ⟨form, mem, first⟩ := shaped_any_iff.mp first
    obtain ⟨d, isDot, rfl⟩ := List.mem_map.mp mem
    obtain ⟨firstWords, firstNodes⟩ := leaf_of_shaped_word first
    have firstLevel := level_of_shaped_word first
    have dot : d = "." ∨ d = "..." := by simpa using isDot
    refine ⟨d :: dots, List.forall_mem_cons.mpr ⟨dot, areDots⟩, ?_, ?_, ?_⟩
    · rw [wordsOf_append, firstWords, words]
      rfl
    · have all : (d.toList.filter (· = '.')).length = d.length := by
        rcases dot with rfl | rfl <;> rfl
      rw [level_append, firstLevel, level, all, List.map_cons, List.sum_cons]
    · intro phrases
      rw [Tree.nodesOfAll_append, firstNodes, nodes]
      rfl
  | _ => cases again

/-- The module after the dots: one by its names, or none. -/
def ReadsModule (parts : List Tree) (module : Option (List String)) : Prop :=
  (∀ m ∈ module, IsNamed m) ∧ wordsOf parts = module.elim [] moduleWords ∧
    (Tree.nodesOfAll [.dottedName] parts).head?.map Tree.meaning =
      module.map (fun m => String.ofList (dotted (m.map normalForm))) ∧
    Tree.nodesOfAll [.importedName] parts = [] ∧ Tree.level parts = 0

theorem exists_readsModule (worded : ts.AreWorded)
    (shaped : Shaped ts (.form (.phrase .dottedName)) i parts j) :
    ∃ names, ReadsModule parts (some names) := by
  obtain ⟨names, named, words, spelled⟩ := exists_module_of_shaped worded shaped
  have noNames : Tree.nodesOfAll [.importedName] parts = [] :=
    nodesOfAll_eq_nil [.dottedName] (by decide) shaped (by decide) (by decide)
  refine ⟨names, ?_, words, ?_, noNames, level_of_shaped_phrase shaped⟩
  · rintro m ⟨⟩
    exact named
  · rw [← List.head?_map, spelled]
    rfl

/-- The word `from`, some dots, a module or none, the word `import` and names. -/
theorem tells_of_parts {a dots module b targets : List Tree} {given : Option (List String)}
    {i₁ j₁ i₂ j₂ i₃ j₃ i₄ j₄ : Nat} (worded : ts.AreWorded)
    (fromWord : Shaped ts (.form (.word "from")) i₁ a j₁)
    (areDots : Shaped ts (.repetition (.words [".", "..."])) i₂ dots j₂)
    (reads : ReadsModule module given) (something : given = none → wordsOf dots ≠ [])
    (importWord : Shaped ts (.form (.word "import")) i₃ b j₃)
    (lists : Shaped ts (.form (.phrase .importTargets)) i₄ targets j₄)
    (whole : parts = a ++ (dots ++ (module ++ (b ++ targets)))) :
    Tells (wordsOf parts) (.names (Tree.level parts)
      ((Tree.nodesOfAll [.dottedName] parts).head?.map Tree.meaning)
      ((Tree.nodesOfAll [.importedName] parts).map Tree.firstMeaning)) := by
  obtain ⟨marks, areMarks, marksEq, marksLevel, dotNodes⟩ := exists_dots_of_repetition areDots rfl
  obtain ⟨named, moduleEq, spelled, noNames, moduleLevel⟩ := reads
  obtain ⟨fromWords, fromNodes⟩ := leaf_of_shaped_word fromWord
  obtain ⟨importWords, importNodes⟩ := leaf_of_shaped_word importWord
  have noModule : Tree.nodesOfAll [.dottedName] targets = [] :=
    nodesOfAll_eq_nil [.importTargets, .importedNames, .importedName]
      (by decide) lists (by decide) (by decide)
  have tells := Tells.names marks areMarks given named (marksEq ▸ something)
    (tellsNames_of_importTargets worded lists)
  have words : wordsOf parts =
      "from" :: marks ++ given.elim [] moduleWords ++ "import" :: wordsOf targets := by
    simp only [whole, wordsOf_append, fromWords, marksEq, moduleEq, importWords]
    simp
  have level : Tree.level parts = (marks.map String.length).sum := by
    simp only [whole, level_append, level_of_shaped_word fromWord, marksLevel, moduleLevel,
      level_of_shaped_word importWord, level_of_shaped_phrase lists]
    have noDots : ("from".toList.filter (· = '.')).length = 0 ∧
        ("import".toList.filter (· = '.')).length = 0 := by decide
    omega
  rw [words, level, whole]
  simp only [Tree.nodesOfAll_append, fromNodes, dotNodes, importNodes, noNames, noModule,
    List.nil_append, List.append_nil, spelled]
  exact tells

/-- What a statement tells that imports names from somewhere. -/
theorem tells_of_importFrom (worded : ts.AreWorded)
    (shaped : Shaped ts (.form (Phrase.form .importFrom)) i parts j) :
    Tells (wordsOf parts) (.names (Tree.level parts)
      ((Tree.nodesOfAll [.dottedName] parts).head?.map Tree.meaning)
      ((Tree.nodesOfAll [.importedName] parts).map Tree.firstMeaning)) := by
  simp only [Phrase.form, Form.some_, shaped_any_iff, List.mem_cons, List.not_mem_nil, or_false,
    exists_eq_or_imp, exists_eq_left, shaped_all_iff, shaped_cons_iff, shaped_nil_iff,
    shaped_many_iff] at shaped
  rcases shaped with
    ⟨_, _, _, fromWord, ⟨_, _, _, dots, ⟨module, _, _, named, ⟨_, _, _, importWord,
      ⟨targets, _, _, lists, ⟨rfl, -⟩, rfl⟩, rfl⟩, rfl⟩, rfl⟩, rfl⟩ |
    ⟨_, _, _, fromWord, ⟨_, _, _, ⟨_, _, _, dot, ⟨_, _, _, dots, ⟨rfl, rfl⟩, rfl⟩, rfl⟩,
      ⟨_, _, _, importWord, ⟨targets, _, _, lists, ⟨rfl, -⟩, rfl⟩, rfl⟩, rfl⟩, rfl⟩
  · obtain ⟨names, reads⟩ := exists_readsModule worded named
    exact tells_of_parts worded fromWord dots reads nofun importWord lists (by simp)
  · have none : ReadsModule [] none := ⟨nofun, rfl, rfl, rfl, rfl⟩
    refine tells_of_parts worded fromWord (.again dot dots) none ?_ importWord lists (by simp)
    intro _ nothing
    obtain ⟨form, mem, first⟩ := shaped_any_iff.mp dot
    obtain ⟨d, -, rfl⟩ := List.mem_map.mp mem
    rw [wordsOf_append, (leaf_of_shaped_word first).1] at nothing
    cases nothing

/-! ## Statements -/

/-- Whatever is read as an import statement tells what it is taken to import. -/
theorem tells_of_shaped (worded : ts.AreWorded) {s : Phrase}
    (imports : s = .importName ∨ s = .importFrom) (shaped : Shaped ts (.form s.form) i parts j) :
    ∃ imported, (Tree.node s parts).imported? = some imported ∧ Tells (wordsOf parts) imported := by
  rcases imports with rfl | rfl
  · exact ⟨_, rfl, tells_of_importName worded shaped⟩
  · exact ⟨_, rfl, tells_of_importFrom worded shaped⟩

end

end ImportBoundary.Source
