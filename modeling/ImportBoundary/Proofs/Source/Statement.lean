import ImportBoundary.Proofs.Source.Line
import ImportBoundary.Proofs.Source.Row

/-!
# Import statements in a file

How a file of one import statement is read, in the two forms that name one module: a name from a
module that is given with dots (`reads_file_from`), and a module in full (`reads_file_import`).
Whatever the grammar tries before the statement's own form fails at the statement's first word.
-/

namespace ImportBoundary.Source

/-- A name of ASCII characters that is no keyword. -/
structure IsPlainName (s : String) : Prop where
  ascii : IsAsciiName s.toList
  free : s ∉ keywords

instance (s : String) : Decidable (IsPlainName s) :=
  decidable_of_iff (IsAsciiName s.toList ∧ s ∉ keywords)
    ⟨fun ⟨ascii, free⟩ => ⟨ascii, free⟩, fun h => ⟨h.ascii, h.free⟩⟩

/-! ## Dotted names -/

/-- The tokens of a dotted name. -/
def dottedLexemes : List String → List Lexeme
  | [] => []
  | name :: names => .name name :: names.flatMap fun n => [.op ".", .name n]

theorem admits_name {s : String} (plain : IsPlainName s) : Form.name.admits (.name s) = true := by
  simp [Form.admits, plain.free]

/-- A word that is no name is none of the names. -/
theorem admits_word_name {s word : String} (plain : IsPlainName s)
    (other : ∃ c ∈ word.toList, isPlain c = false) :
    (Form.word word).admits (.name s) = false := by
  obtain ⟨c, inWord, no⟩ := other
  refine beq_eq_false_iff_ne.mpr ?_
  rintro rfl
  exact Bool.false_ne_true (no.symm.trans (plain.ascii.2 c inWord))

/-- The names after the first, each with the dot before it. -/
theorem exists_groups {names : List String} {tokens : List Token}
    (lexemes : tokens.map (·.lexeme) = names.flatMap fun n => [.op ".", .name n]) :
    ∃ groups : List (List Token), groups.flatten = tokens ∧ ∀ group ∈ groups,
      ∃ dot name, group = [dot, name] ∧ dot.lexeme = .op "." ∧
        ∃ n ∈ names, name.lexeme = .name n := by
  induction names generalizing tokens with
  | nil =>
    refine ⟨[], ?_, by simp⟩
    simpa using lexemes
  | cons n names ih =>
    obtain ⟨dot, tokens, rfl, isDot, lexemes⟩ := List.map_eq_cons_iff.mp lexemes
    obtain ⟨name, tokens, rfl, isName, lexemes⟩ := List.map_eq_cons_iff.mp lexemes
    obtain ⟨groups, rfl, each⟩ := ih lexemes
    refine ⟨[dot, name] :: groups, rfl, ?_⟩
    rintro group (_ | ⟨_, later⟩)
    · exact ⟨dot, name, rfl, isDot, n, List.mem_cons_self .., isName⟩
    · obtain ⟨dot, name, rfl, isDot, n, inNames, isName⟩ := each group later
      exact ⟨dot, name, rfl, isDot, n, List.mem_cons_of_mem _ inNames, isName⟩

theorem reads_dottedName {ts : Tokens} {i : Nat} {names : List String} {tokens : List Token}
    {after : Token} (some_name : names ≠ []) (plain : ∀ n ∈ names, IsPlainName n)
    (lexemes : tokens.map (·.lexeme) = dottedLexemes names) (stand : Stand ts i tokens)
    (next : ts.tokens[i + tokens.length]? = some after)
    (stop : (Form.word ".").admits after.lexeme = false) :
    Reads ts 5 (.form (.phrase .dottedName)) i
      (some ([.node .dottedName (tokens.map .leaf)], i + tokens.length)) := by
  cases names with
  | nil => exact absurd rfl some_name
  | cons n names =>
    obtain ⟨name, tokens, rfl, isName, lexemes⟩ := List.map_eq_cons_iff.mp lexemes
    obtain ⟨groups, rfl, each⟩ := exists_groups lexemes
    have first : Form.name.admits name.lexeme = true :=
      isName ▸ admits_name (plain n (List.mem_cons_self ..))
    have again : ∀ group ∈ groups, group ≠ [] ∧ ∀ i, Stand ts i group →
        Reads ts 2 (.form (.all [.word ".", .name])) i
          (some ((group.map Tree.leaf).reverse, i + group.length)) := by
      intro group inGroups
      obtain ⟨dot, name, rfl, isDot, n, inNames, isName⟩ := each group inGroups
      refine ⟨List.cons_ne_nil _ _, fun i stand => ?_⟩
      have nameAdmits : Form.name.admits name.lexeme = true :=
        isName ▸ admits_name (plain n (List.mem_cons_of_mem _ inNames))
      have dotAdmits : (Form.word ".").admits dot.lexeme = true := isDot ▸ rfl
      exact .all (.next (.taken stand.1 rfl dotAdmits)
        (.next (.taken stand.2.1 rfl nameAdmits) .done))
    rw [List.length_cons, Nat.add_comm _ 1, ← Nat.add_assoc] at next
    have others := Reads.many_groups again stand.2
      (Array.getElem?_eq_some_iff.mp stand.1).1 (.all (.stuck (.missed next rfl stop)))
    have whole := Reads.phrase (s := .dottedName)
      (.all (.next (.taken stand.1 rfl first) (.next others .done)))
    simpa [Phrase.wrap, Nat.add_assoc, Nat.add_comm 1] using whole

/-! ## Statements -/

/-- The tree of one imported name. -/
def targetsTree (x : Token) : Tree :=
  .node .importTargets [.node .importedNames [.node .importedName [.leaf x]]]

theorem reads_importTargets {ts : Tokens} {i : Nat} {x newline : Token} {s : String}
    (plain : IsPlainName s) (isName : x.lexeme = .name s) (ends : newline.lexeme = .newline)
    (stand : Stand ts i [x, newline]) :
    Reads ts 10 (.form (.phrase .importTargets)) i (some ([targetsTree x], i + 1)) := by
  obtain ⟨here, next, -⟩ := stand
  have nameAdmits : Form.name.admits x.lexeme = true := isName ▸ admits_name plain
  have noBracket : (Form.word "(").admits x.lexeme = false :=
    isName ▸ admits_word_name plain ⟨'(', by decide, by decide⟩
  have noWord (w : String) : (Form.word w).admits newline.lexeme = false := ends ▸ rfl
  have name : Reads ts 5 (.form (.phrase .importedName)) i
      (some ([.node .importedName [.leaf x]], i + 1)) :=
    .node (.all (.next (.taken here rfl nameAdmits)
      (.next (.skipped (.all (.stuck (.missed next rfl (noWord "as"))))) .done))) rfl
  have names : Reads ts 7 (.form (.phrase .importedNames)) i
      (some ([.node .importedNames [.node .importedName [.leaf x]]], i + 1)) :=
    .node (.all (.next name
      (.next (.many (.ended (.all (.stuck (.missed next rfl (noWord ",")))))) .done))) rfl
  exact .node (.any (.other (.all (.stuck (.missed here rfl noBracket)))
    (.chosen (.all (.next names
      (.next (.absent (.missed next rfl (noWord ","))) .done)))))) rfl

/-- The tree of the statement that imports a name from a module. -/
def fromTree (start : Token) (dots module : List Token) (word x : Token) : Tree :=
  .node .importFrom (.leaf start :: dots.map .leaf ++
    [.node .dottedName (module.map .leaf), .leaf word, targetsTree x])

/-- Dots, as many as there are before a name. -/
theorem reads_dots {ts : Tokens} {i : Nat} {dots : List Token} {after : Token} {s : String}
    (areDots : ∀ dot ∈ dots, dot.lexeme = .op "." ∨ dot.lexeme = .op "...")
    (stand : Stand ts i dots) (next : ts.tokens[i + dots.length]? = some after)
    (plain : IsPlainName s) (isName : after.lexeme = .name s) (inside : i ≤ ts.tokens.size) :
    Reads ts 3 (.form (.many (Form.words [".", "..."]))) i
      (some ((dots.map Tree.leaf).reverse, i + dots.length)) := by
  have noDot : (Form.word ".").admits after.lexeme = false :=
    isName ▸ admits_word_name plain ⟨'.', by decide, by decide⟩
  have noDots : (Form.word "...").admits after.lexeme = false :=
    isName ▸ admits_word_name plain ⟨'.', by decide, by decide⟩
  have each : ∀ group ∈ dots.map fun dot => [dot], group ≠ [] ∧ ∀ i, Stand ts i group →
      Reads ts 2 (.form (Form.words [".", "..."])) i
        (some ((group.map Tree.leaf).reverse, i + group.length)) := by
    intro group inGroups
    obtain ⟨dot, inDots, rfl⟩ := List.mem_map.mp inGroups
    refine ⟨List.cons_ne_nil _ _, fun i stand => ?_⟩
    rcases areDots dot inDots with one | three
    · exact .any (.chosen (.taken stand.1 rfl (one ▸ rfl)))
    · exact .any (.other (.missed stand.1 rfl (three ▸ rfl))
        (.chosen (.taken stand.1 rfl (three ▸ rfl))))
  have joined : (dots.map fun dot => [dot]).flatten = dots := by
    rw [← List.flatMap_def, List.flatMap_singleton']
  have reads := Reads.many_groups each (joined.symm ▸ stand) inside (joined.symm ▸
    .any (.other (.missed next rfl noDot) (.other (.missed next rfl noDots) .exhausted)))
  rwa [joined] at reads

theorem reads_importFrom {ts : Tokens} {i : Nat} {start word x newline : Token}
    {dots module : List Token} {names : List String} {s : String}
    (some_name : names ≠ []) (plain : ∀ n ∈ names, IsPlainName n) (plainName : IsPlainName s)
    (isFrom : start.lexeme = .name "from")
    (areDots : ∀ dot ∈ dots, dot.lexeme = .op "." ∨ dot.lexeme = .op "...")
    (isModule : module.map (·.lexeme) = dottedLexemes names)
    (isImport : word.lexeme = .name "import") (isName : x.lexeme = .name s)
    (ends : newline.lexeme = .newline)
    (stand : Stand ts i (start :: (dots ++ (module ++ [word, x, newline])))) :
    Reads ts 13 (.form (.phrase .importFrom)) i
      (some ([fromTree start dots module word x], i + 1 + dots.length + module.length + 2)) := by
  obtain ⟨here, stand⟩ := stand
  obtain ⟨standDots, stand⟩ := stand_append.mp stand
  obtain ⟨standModule, standWord, standTargets⟩ := stand_append.mp stand
  have inside : i + 1 ≤ ts.tokens.size := (Array.getElem?_eq_some_iff.mp here).1
  have fromAdmits : (Form.word "from").admits start.lexeme = true := isFrom ▸ rfl
  have importAdmits : (Form.word "import").admits word.lexeme = true := isImport ▸ rfl
  have noDot : (Form.word ".").admits word.lexeme = false := isImport ▸ rfl
  have dotsRead : Reads ts 3 (.form (.many (Form.words [".", "..."]))) (i + 1)
      (some ((dots.map Tree.leaf).reverse, i + 1 + dots.length)) := by
    cases names with
    | nil => exact absurd rfl some_name
    | cons n names =>
      obtain ⟨name, module, rfl, isName, -⟩ := List.map_eq_cons_iff.mp isModule
      exact reads_dots areDots standDots standModule.1 (plain n (List.mem_cons_self ..)) isName inside
  have moduleRead := reads_dottedName some_name plain isModule standModule standWord noDot
  have targetsRead := reads_importTargets plainName isName ends standTargets
  refine .node (.any (.chosen (.all (.next (.taken here rfl fromAdmits)
    (.next (dotsRead.mono (by decide)) (.next (moduleRead.mono (by decide))
      (.next (.taken standWord rfl importAdmits) (.next targetsRead .done)))))))) ?_
  simp

/-- The tree of the statement that imports a module. -/
def importTree (word : Token) (module : List Token) : Tree :=
  .node .importName [.leaf word,
    .node .moduleNames [.node .moduleName [.node .dottedName (module.map .leaf)]]]

theorem reads_importName {ts : Tokens} {i : Nat} {word newline : Token}
    {module : List Token} {names : List String}
    (some_name : names ≠ []) (plain : ∀ n ∈ names, IsPlainName n)
    (isImport : word.lexeme = .name "import")
    (isModule : module.map (·.lexeme) = dottedLexemes names) (ends : newline.lexeme = .newline)
    (stand : Stand ts i (word :: (module ++ [newline]))) :
    Reads ts 11 (.form (.phrase .importName)) i
      (some ([importTree word module], i + 1 + module.length)) := by
  obtain ⟨here, stand⟩ := stand
  obtain ⟨standModule, next, -⟩ := stand_append.mp stand
  have importAdmits : (Form.word "import").admits word.lexeme = true := isImport ▸ rfl
  have noWord (w : String) : (Form.word w).admits newline.lexeme = false := ends ▸ rfl
  have dotted := reads_dottedName some_name plain isModule standModule next (noWord ".")
  have name : Reads ts 7 (.form (.phrase .moduleName)) (i + 1)
      (some ([.node .moduleName [.node .dottedName (module.map .leaf)]],
        i + 1 + module.length)) :=
    .node (.all (.next dotted
      (.next (.skipped (.all (.stuck (.missed next rfl (noWord "as"))))) .done))) rfl
  have names : Reads ts 9 (.form (.phrase .moduleNames)) (i + 1)
      (some ([.node .moduleNames [.node .moduleName [.node .dottedName (module.map .leaf)]]],
        i + 1 + module.length)) :=
    .node (.all (.next name
      (.next (.many (.ended (.all (.stuck (.missed next rfl (noWord ",")))))) .done))) rfl
  exact .node (.all (.next (.taken here rfl importAdmits) (.next names .done))) rfl

/-- The tree of a file of one statement. -/
def fileTree (statement : Tree) (newline endMarker : Token) : Tree :=
  .node .file [.node .statements [.node .statement
    [.node .simpleLine [.node .simple [statement], .leaf newline]]], .leaf endMarker]

theorem reads_file {ts : Tokens} {i : Nat} {start newline endMarker : Token} {statement : Tree}
    (here : ts.tokens[0]? = some start) (ends : newline.lexeme = .newline)
    (isEnd : endMarker.lexeme = .endMarker) (stand : Stand ts i [newline, endMarker])
    (glanced : glance start.lexeme 90 (.phrase .compound) = some false)
    (reads : Reads ts 90 (.form (.phrase .simple)) 0 (some ([.node .simple [statement]], i))) :
    Reads ts 100 (.form (.phrase .file)) 0
      (some ([fileTree statement newline endMarker], i + 2)) := by
  obtain ⟨standNewline, standEnd, -⟩ := stand
  have isNewline : Form.newline.admits newline.lexeme = true := ends ▸ rfl
  have noSemicolon : (Form.word ";").admits newline.lexeme = false := ends ▸ rfl
  have endAdmits : Form.endMarker.admits endMarker.lexeme = true := isEnd ▸ rfl
  have noCompound : Reads ts 90 (.form (.phrase .compound)) 0 none := .fails here rfl glanced
  have noStatement : Reads ts 90 (.form (.phrase .statement)) (i + 1) none :=
    .fails standEnd isEnd rfl
  have line : Reads ts 93 (.form (.phrase .simpleLine)) 0
      (some ([.node .simpleLine [.node .simple [statement], .leaf newline]], i + 1)) :=
    .node (.any (.chosen (.all (.next reads (.next (.absent (.missed standNewline rfl noSemicolon))
      (.next (.taken standNewline rfl isNewline) .done)))))) rfl
  have one : Reads ts 95 (.form (.phrase .statement)) 0 (some ([.node .statement
      [.node .simpleLine [.node .simple [statement], .leaf newline]]], i + 1)) :=
    .node (.any (.other (noCompound.mono (by decide)) (.chosen line))) rfl
  have all : Reads ts 97 (.form (.phrase .statements)) 0 (some ([.node .statements [.node .statement
      [.node .simpleLine [.node .simple [statement], .leaf newline]]]], i + 1)) :=
    .node (.all (.next one (.next (.many (.ended (noStatement.mono (by decide)))) .done))) rfl
  exact .node (.all (.next (.found all) (.next (.taken standEnd rfl endAdmits) .done))) rfl

/-- A file without statements. -/
theorem reads_file_empty {ts : Tokens} {endMarker : Token} (here : ts.tokens[0]? = some endMarker)
    (isEnd : endMarker.lexeme = .endMarker) :
    Reads ts 100 (.form (.phrase .file)) 0 (some ([.node .file [.leaf endMarker]], 1)) := by
  have endAdmits : Form.endMarker.admits endMarker.lexeme = true := isEnd ▸ rfl
  have noStatements : Reads ts 97 (.form (.phrase .statements)) 0 none :=
    .fails here isEnd rfl
  exact .node (.all (.next (.skipped noStatements) (.next (.taken here rfl endAdmits) .done))) rfl

theorem reads_simple_from {ts : Tokens} {i j : Nat} {start : Token} {tree : Tree}
    (here : ts.tokens[i]? = some start) (isFrom : start.lexeme = .name "from")
    (reads : Reads ts 13 (.form (.phrase .importFrom)) i (some ([tree], j))) :
    Reads ts 90 (.form (.phrase .simple)) i (some ([.node .simple [tree]], j)) := by
  have fromAdmits : (Form.word "from").admits start.lexeme = true := isFrom ▸ rfl
  exact .node (.any
    (.other (.fails here isFrom rfl)
    (.other (.fails here isFrom rfl)
    (.other (.fails here isFrom rfl)
    (.other (.fails here isFrom rfl)
    (.chosen (.all (.next (.present (.taken here rfl fromAdmits))
      (.next (reads.mono (by decide)) .done))))))))) rfl

theorem reads_simple_import {ts : Tokens} {i j : Nat} {start : Token} {tree : Tree}
    (here : ts.tokens[i]? = some start) (isImport : start.lexeme = .name "import")
    (reads : Reads ts 11 (.form (.phrase .importName)) i (some ([tree], j))) :
    Reads ts 90 (.form (.phrase .simple)) i (some ([.node .simple [tree]], j)) := by
  have importAdmits : (Form.word "import").admits start.lexeme = true := isImport ▸ rfl
  exact .node (.any
    (.other (.fails here isImport rfl)
    (.other (.fails here isImport rfl)
    (.other (.fails here isImport rfl)
    (.chosen (.all (.next (.present (.taken here rfl importAdmits))
      (.next (reads.mono (by decide)) .done)))))))) rfl

theorem reads_file_import {ts : Tokens} {word newline endMarker : Token} {module : List Token}
    {names : List String} (some_name : names ≠ []) (plain : ∀ n ∈ names, IsPlainName n)
    (isImport : word.lexeme = .name "import")
    (isModule : module.map (·.lexeme) = dottedLexemes names)
    (isNewline : newline.lexeme = .newline) (isEnd : endMarker.lexeme = .endMarker)
    (stand : Stand ts 0 (word :: (module ++ [newline, endMarker]))) :
    ∃ j, Reads ts 100 (.form (.phrase .file)) 0
      (some ([fileTree (importTree word module) newline endMarker], j)) := by
  obtain ⟨here, standModule, standEnd⟩ := And.imp_right stand_append.mp stand
  have statement := reads_importName some_name plain isImport isModule isNewline
    ⟨here, stand_append.mpr ⟨standModule, standEnd.1, trivial⟩⟩
  exact ⟨_, reads_file here isNewline isEnd standEnd (isImport ▸ rfl)
    (reads_simple_import here isImport statement)⟩

theorem reads_file_from {ts : Tokens} {start word x newline endMarker : Token}
    {dots module : List Token} {names : List String} {s : String} (some_name : names ≠ [])
    (plain : ∀ n ∈ names, IsPlainName n) (plainName : IsPlainName s)
    (isFrom : start.lexeme = .name "from")
    (areDots : ∀ dot ∈ dots, dot.lexeme = .op "." ∨ dot.lexeme = .op "...")
    (isModule : module.map (·.lexeme) = dottedLexemes names)
    (isImport : word.lexeme = .name "import") (isName : x.lexeme = .name s)
    (isNewline : newline.lexeme = .newline) (isEnd : endMarker.lexeme = .endMarker)
    (stand : Stand ts 0 (start :: (dots ++ (module ++ [word, x, newline, endMarker])))) :
    ∃ j, Reads ts 100 (.form (.phrase .file)) 0
      (some ([fileTree (fromTree start dots module word x) newline endMarker], j)) := by
  obtain ⟨here, rest⟩ := stand
  obtain ⟨standDots, rest⟩ := stand_append.mp rest
  obtain ⟨standModule, standWord, standName, standEnd⟩ := stand_append.mp rest
  have statement := reads_importFrom some_name plain plainName isFrom areDots isModule isImport
    isName isNewline ⟨here, stand_append.mpr ⟨standDots, stand_append.mpr
      ⟨standModule, standWord, standName, standEnd.1, trivial⟩⟩⟩
  exact ⟨_, reads_file here isNewline isEnd standEnd (isFrom ▸ rfl)
    (reads_simple_from here isFrom statement)⟩

end ImportBoundary.Source
