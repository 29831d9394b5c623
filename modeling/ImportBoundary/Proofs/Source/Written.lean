import ImportBoundary.Host
import ImportBoundary.Proofs.Source.Statement
import ImportBoundary.Proofs.Text.Lines
import ImportBoundary.Proofs.Text.NormalForm
import ImportBoundary.Proofs.Text.Pieces

/-!
# Written statements

What a source of one written import statement imports: `importsOf_fromStatement` for a name from a
module some levels up, `importsOf_importStatement` for a module in full. The dots of a level are
read three at a time.
-/

namespace ImportBoundary.Source

open Text

/-! ## What is imported -/

/-- A dotted name as it is written. -/
def dotted (names : List String) : List Char :=
  joinWith ['.'] (names.map String.toList)

theorem normalForm_dot : normalForm "." = "." :=
  normalForm_eq_self (List.forall_mem_singleton.mpr (by decide : '.'.toNat < 128))

theorem flatMap_dottedLexemes (names : List String) :
    (dottedLexemes names).flatMap (fun l => (normalForm l.spelling).toList) =
      dotted (names.map normalForm) := by
  cases names with
  | nil => rfl
  | cons n names =>
    simp [dottedLexemes, dotted, joinWith_cons_flatMap, Lexeme.spelling, normalForm_dot,
      List.flatMap_assoc, List.flatMap_map]

theorem normalForm_of_isPlainName {n : String} (plain : IsPlainName n) : normalForm n = n :=
  normalForm_eq_self fun c hc => toNat_lt_of_isPlain (plain.ascii.2 c hc)

theorem map_normalForm {names : List String} (plain : ∀ n ∈ names, IsPlainName n) :
    names.map normalForm = names := by
  rw [List.map_congr_left fun n hn => normalForm_of_isPlainName (plain n hn), List.map_id']

theorem tokensOfAll_leaves (tokens : List Token) :
    Tree.tokensOfAll (tokens.map .leaf) = tokens := by
  induction tokens with
  | nil => rfl
  | cons token tokens ih => rw [List.map_cons, Tree.tokensOfAll, ih, Tree.tokens]; rfl

/-- The tokens of a dotted name stand for it. -/
theorem meaning_dottedName {names : List String} {module : List Token}
    (isModule : module.map (·.lexeme) = dottedLexemes names) :
    (Tree.node .dottedName (module.map .leaf)).meaning =
      String.ofList (dotted (names.map normalForm)) := by
  rw [Tree.meaning, Tree.tokens, tokensOfAll_leaves, ← String.toList_inj, String.toList_join,
    String.toList_ofList, ← flatMap_dottedLexemes, ← isModule, List.flatMap_map, List.flatMap_map]

/-- What a file of one import statement imports is what the statement does. -/
theorem imports_fileTree {statement : Tree} {newline endMarker : Token} {found : Import}
    (isImport : statement.nodes [.importName, .importFrom] = [statement])
    (gives : statement.import? = some found) :
    (fileTree statement newline endMarker).imports = [found] := by
  simp [fileTree, Tree.imports, Tree.nodes, Tree.nodesOfAll, isImport, gives]

theorem import_importTree {word : Token} {module : List Token} {names : List String}
    (isModule : module.map (·.lexeme) = dottedLexemes names) :
    (importTree word module).import? =
      some ⟨word.line, word.column, .modules [String.ofList (dotted (names.map normalForm))]⟩ := by
  have imported : (importTree word module).imported? =
      some (.modules [String.ofList (dotted (names.map normalForm))]) := by
    rw [← meaning_dottedName isModule]
    rfl
  simp only [Tree.import?, imported]
  rfl

/-- Leaves hold no phrases. -/
theorem nodesOfAll_leaves (phrases : List Phrase) (tokens : List Token) (trees : List Tree) :
    Tree.nodesOfAll phrases (tokens.map .leaf ++ trees) = Tree.nodesOfAll phrases trees := by
  induction tokens with
  | nil => rfl
  | cons token tokens ih => exact ih

theorem level_cons (tree : Tree) (trees : List Tree) :
    Tree.level (tree :: trees) = Tree.level [tree] + Tree.level trees := by
  simp only [Tree.level, ← List.length_append, ← List.filter_append, ← List.flatten_append,
    ← List.filterMap_append, List.singleton_append]

/-- Only the dots before the module count. -/
theorem level_dots {dots : List Token} (trees : List Tree)
    (areDots : ∀ dot ∈ dots, dot.lexeme = .op "." ∨ dot.lexeme = .op "...") :
    Tree.level (dots.map .leaf ++ trees) =
      (dots.flatMap (·.lexeme.spelling.toList)).length + Tree.level trees := by
  induction dots with
  | nil => simp
  | cons dot dots ih =>
    have one : Tree.level [.leaf dot] = dot.lexeme.spelling.toList.length := by
      rcases areDots dot (List.mem_cons_self ..) with is | is <;>
        simp [Tree.level, is, Lexeme.spelling]
    rw [List.map_cons, List.cons_append, level_cons, one,
      ih fun d hd => areDots d (List.mem_cons_of_mem _ hd), List.flatMap_cons, List.length_append,
      Nat.add_assoc]

theorem level_word {token : Token} {word : String} (is : token.lexeme = .name word)
    (noDot : word.toList.filter (· = '.') = []) : Tree.level [.leaf token] = 0 := by
  simp only [Tree.level, is, Lexeme.spelling, List.filterMap_cons, List.filterMap_nil,
    List.flatten_cons, List.flatten_nil, List.append_nil, noDot, List.length_nil]

theorem level_fromTree {start word : Token} {dots : List Token} {module targets : List Tree}
    (isFrom : start.lexeme = .name "from")
    (areDots : ∀ dot ∈ dots, dot.lexeme = .op "." ∨ dot.lexeme = .op "...")
    (isImport : word.lexeme = .name "import") :
    Tree.level (.leaf start :: (dots.map .leaf ++
      [.node .dottedName module, .leaf word, .node .importTargets targets])) =
        (dots.flatMap (·.lexeme.spelling.toList)).length := by
  rw [level_cons, level_word isFrom (by decide), level_dots _ areDots, level_cons,
    level_cons (.leaf word), level_word isImport (by decide)]
  simp [Tree.level]

theorem import_fromTree {start word x : Token} {dots module : List Token}
    {names : List String} {s : String} (isFrom : start.lexeme = .name "from")
    (areDots : ∀ dot ∈ dots, dot.lexeme = .op "." ∨ dot.lexeme = .op "...")
    (isModule : module.map (·.lexeme) = dottedLexemes names)
    (isImport : word.lexeme = .name "import") (isName : x.lexeme = .name s) :
    (fromTree start dots module word x).import? =
      some ⟨start.line, start.column, .names (dots.flatMap (·.lexeme.spelling.toList)).length
        (some (String.ofList (dotted (names.map normalForm)))) [normalForm s]⟩ := by
  have firstName : Tree.firstMeaning (.node .importedName [.leaf x]) = normalForm s := by
    simp [Tree.firstMeaning, Tree.firstSpelling, Tree.tokens, Tree.tokensOfAll, isName,
      Lexeme.spelling]
  have imported : (fromTree start dots module word x).imported? =
      some (.names (dots.flatMap (·.lexeme.spelling.toList)).length
        (some (String.ofList (dotted (names.map normalForm)))) [normalForm s]) := by
    rw [← meaning_dottedName isModule, ← firstName]
    simp only [fromTree, targetsTree, Tree.imported?, List.cons_append,
      level_fromTree isFrom areDots isImport]
    have noName : Tree.nodesOfAll [.importedName] (module.map .leaf) = [] := by
      simpa [Tree.nodesOfAll] using nodesOfAll_leaves [.importedName] module []
    simp [Tree.nodes, Tree.nodesOfAll, nodesOfAll_leaves, noName]
  simp only [Tree.import?, imported]
  rfl

/-! ## The sources -/

/-- A text without carriage returns is read as it is given. -/
theorem unifyLines_eq_self {text : List Char} (noReturn : '\r' ∉ text) : unifyLines text = text := by
  have noEnd : ['\r', '\n'].isSuffixOf text = false := by
    refine Bool.eq_false_iff.mpr fun ends => noReturn ?_
    exact (List.isSuffixOf_iff_suffix.mp ends).subset List.mem_cons_self
  rw [unifyLines, unifyNewlines_eq_self noReturn, noEnd, if_neg Bool.false_ne_true, List.append_nil]

/-- The statements of a source are those of its tree. -/
theorem importsOf_eq_ok_iff {text : List Char} {imports : List Import} :
    importsOf text = .ok imports ↔ ∃ tree, derivation text = .ok tree ∧ tree.imports = imports := by
  rw [importsOf]
  cases derivation text <;> simp [Except.map]

/-- The statements of a source as it is given are those of its lines. -/
theorem readImports_eq_ok_iff {text : List Char} {imports : List Import} :
    readImports text = .ok imports ↔ '\x00' ∉ text ∧ importsOf (unifyLines text) = .ok imports := by
  rw [readImports]
  split
  · next nul => simp [List.contains_iff_mem.mp nul]
  · next without =>
    have absent : '\x00' ∉ text := fun mem => without (List.contains_iff_mem.mpr mem)
    cases importsOf (unifyLines text) <;> simp [absent, Except.mapError]

theorem readImports_of_importsOf {text : List Char} {imports : List Import} (noNul : '\x00' ∉ text)
    (noReturn : '\r' ∉ text) (read : importsOf text = .ok imports) :
    readImports text = .ok imports :=
  readImports_eq_ok_iff.mpr ⟨noNul, (unifyLines_eq_self noReturn).symm ▸ read⟩

/-- The statement that imports a name from a module, some levels up. -/
def fromStatement (level : Nat) (names : List String) (x : String) : List Char :=
  "from ".toList ++ (List.replicate level '.' ++ (dotted names ++ (" import ".toList ++ x.toList)))

/-- The statement that imports a module. -/
def importStatement (names : List String) : List Char :=
  "import ".toList ++ dotted names

/-- The tokens of some dots. -/
def dotLexemes : Nat → List Lexeme
  | 0 => []
  | 1 => [.op "."]
  | 2 => [.op ".", .op "."]
  | level + 3 => .op "..." :: dotLexemes level

theorem head_of_isAsciiName {name : List Char} (ascii : IsAsciiName name) :
    ∃ c rest, name = c :: rest ∧ isPlain c = true ∧ isAsciiDigit c = false := by
  obtain ⟨noDigit, plain⟩ := ascii
  cases name with
  | nil => cases noDigit
  | cons c rest => exact ⟨c, rest, rfl, plain c (List.mem_cons_self ..), Option.some.inj noDigit⟩

theorem isLine_dot {c : Char} {cs : List Char} {ls : List Lexeme} (plain : isPlain c = true)
    (noDigit : isAsciiDigit c = false) (rest : IsLine (c :: cs) ls) :
    IsLine ('.' :: c :: cs) (.op "." :: ls) := by
  have noDot : ('.' == c) = false := beq_false_of_ne (ne_of_isPlain plain (by decide)).symm
  exact .dot (by simp [List.isPrefixOf, noDot]) (by simp [startsWithDigit, noDigit]) rest

theorem isLine_dots (level : Nat) {c : Char} {cs : List Char} {ls : List Lexeme}
    (plain : isPlain c = true) (noDigit : isAsciiDigit c = false) (rest : IsLine (c :: cs) ls) :
    IsLine (List.replicate level '.' ++ c :: cs) (dotLexemes level ++ ls) := by
  have noDot : ('.' == c) = false := beq_false_of_ne (ne_of_isPlain plain (by decide)).symm
  induction level using dotLexemes.induct with
  | case1 => exact rest
  | case2 => exact isLine_dot plain noDigit rest
  | case3 =>
    exact .dot (by simp [List.replicate, List.isPrefixOf, noDot]) rfl (isLine_dot plain noDigit rest)
  | case4 level ih => exact .ellipsis ih

theorem isLine_dotted {names : List String} (some_name : names ≠ [])
    (plain : ∀ n ∈ names, IsPlainName n) {cs : List Char} {ls : List Lexeme} (ends : EndsName cs)
    (rest : IsLine cs ls) : IsLine (dotted names ++ cs) (dottedLexemes names ++ ls) := by
  cases names with
  | nil => exact absurd rfl some_name
  | cons n names =>
    have others : ∀ names : List String, (∀ n ∈ names, IsPlainName n) →
        EndsName ((names.flatMap fun n => '.' :: n.toList) ++ cs) ∧
        IsLine ((names.flatMap fun n => '.' :: n.toList) ++ cs)
          ((names.flatMap fun n => [.op ".", .name n]) ++ ls) := by
      intro names plain
      induction names with
      | nil => exact ⟨ends, rest⟩
      | cons n names ih =>
        obtain ⟨ends, rest⟩ := ih fun m hm => plain m (List.mem_cons_of_mem _ hm)
        have ascii := (plain n (List.mem_cons_self ..)).ascii
        have word := IsLine.word ascii ends rest
        obtain ⟨c, tail, text, start, noDigit⟩ := head_of_isAsciiName ascii
        rw [String.ofList_toList, text] at word
        refine ⟨⟨'.', _, rfl, .inr (.inl rfl)⟩, ?_⟩
        have line := isLine_dot start noDigit word
        simpa [text] using line
    obtain ⟨ends, rest⟩ := others names fun m hm => plain m (List.mem_cons_of_mem _ hm)
    have line := IsLine.word (plain n (List.mem_cons_self ..)).ascii ends rest
    simpa [dotted, joinWith_cons_flatMap, dottedLexemes, List.flatMap_map] using line

theorem not_mem_dotted {names : List String} (plain : ∀ n ∈ names, IsPlainName n) {c : Char}
    (other : isPlain c = false) (noDot : c ≠ '.') : c ∉ dotted names := by
  have inNone : ∀ n ∈ names, c ∉ n.toList := fun n hn inside =>
    ne_of_isPlain ((plain n hn).ascii.2 _ inside) other rfl
  cases names with
  | nil => simp [dotted, joinWith]
  | cons n names =>
    rw [dotted, List.map_cons, joinWith_cons_flatMap]
    have others := fun m hm => inNone m (List.mem_cons_of_mem n hm)
    simpa [inNone n (List.mem_cons_self ..), noDot] using others

theorem not_mem_words {words : List Char} (plain : (words.all fun d => isPlain d || d == ' ') = true)
    {c : Char} (other : isPlain c = false) (noBlank : c ≠ ' ') : c ∉ words := by
  intro inside
  have kinds := List.all_eq_true.mp plain c inside
  rw [other, Bool.false_or, beq_iff_eq] at kinds
  exact noBlank kinds

/-- A statement holds names, dots and blanks only. -/
theorem not_mem_importStatement {names : List String} (plain : ∀ n ∈ names, IsPlainName n)
    {c : Char} (other : isPlain c = false) (special : c ≠ '.' ∧ c ≠ ' ') :
    c ∉ importStatement names := by
  unfold importStatement
  rw [List.mem_append]
  rintro (start | module)
  · exact not_mem_words (by decide) other special.2 start
  · exact not_mem_dotted plain other special.1 module

theorem not_mem_fromStatement {names : List String} (plain : ∀ n ∈ names, IsPlainName n)
    {x : String} (plainName : IsPlainName x) (level : Nat) {c : Char}
    (other : isPlain c = false) (special : c ≠ '.' ∧ c ≠ ' ') : c ∉ fromStatement level names x := by
  unfold fromStatement
  simp only [List.mem_append]
  rintro (start | dots | module | middle | name)
  · exact not_mem_words (by decide) other special.2 start
  · exact special.1 (List.eq_of_mem_replicate dots)
  · exact not_mem_dotted plain other special.1 module
  · exact not_mem_words (by decide) other special.2 middle
  · exact ne_of_isPlain (plainName.ascii.2 _ name) other rfl

/-- A line may be ended or not. -/
theorem endLine_ending {text ending : List Char} (inside : '\n' ∉ text)
    (ends : ending = [] ∨ ending = ['\n']) : endLine (text ++ ending) = text ++ ['\n'] := by
  rcases ends with rfl | rfl
  · rw [List.append_nil, endLine, if_neg]
    exact fun last => inside (List.mem_of_getLast? last)
  · simp [endLine]

theorem importsOf_of_reads {text : List Char} {tokens : List Token} {tree : Tree} {j : Nat}
    (read : tokensOf text = (tokens, none))
    (reads : Reads ⟨tokens.toArray, none⟩ 100 (.form (.phrase .file)) 0 (some ([tree], j))) :
    importsOf text = .ok tree.imports := by
  have deep : 100 ≤ formsPerToken * (tokens.toArray.size + 2) := by
    rw [formsPerToken]
    omega
  rw [importsOf, derivation, read]
  simp only [derivationOf_of_reads deep reads]
  rfl

/-- An empty source imports nothing. -/
theorem importsOf_nil : importsOf [] = .ok [] := by
  obtain ⟨endMarker, read, isEnd⟩ : ∃ endMarker : Token,
      tokensOf [] = ([endMarker], none) ∧ endMarker.lexeme = .endMarker := ⟨_, rfl, rfl⟩
  rw [importsOf_of_reads read (reads_file_empty rfl isEnd)]
  rfl

theorem imports_nil : Host.imports [] = .ok [] := by
  change readImports [] = .ok []
  exact readImports_of_importsOf (by simp) (by simp) importsOf_nil

theorem isLine_importStatement {names : List String} (some_name : names ≠ [])
    (plain : ∀ n ∈ names, IsPlainName n) : IsLine (importStatement names ++ ['\n'])
      (.name "import" :: (dottedLexemes names ++ [.newline, .endMarker])) := by
  have module := isLine_dotted some_name plain ⟨'\n', [], rfl, .inr (.inr rfl)⟩ .stop
  have ascii : IsAsciiName "import".toList := by decide
  have line := IsLine.word ascii ⟨' ', _, rfl, .inl rfl⟩ (.blank module)
  unfold importStatement
  simpa using line

theorem importsOf_importStatement {names : List String} (some_name : names ≠ [])
    (plain : ∀ n ∈ names, IsPlainName n) {ending : List Char} (ends : ending = [] ∨ ending = ['\n']) :
    ∃ line column, importsOf (importStatement names ++ ending) =
      .ok [⟨line, column, .modules [String.ofList (dotted names)]⟩] := by
  have oneLine : '\n' ∉ importStatement names :=
    not_mem_importStatement plain (by decide) (by decide)
  have start : importStatement names ++ ending = 'i' :: ("mport ".toList ++ dotted names ++ ending) :=
    rfl
  have line := isLine_importStatement some_name plain
  rw [← endLine_ending oneLine ends] at line
  obtain ⟨tokens, read, lexemes⟩ :=
    exists_tokensOf_of_isLine ⟨_, _, start, by decide⟩ line
  obtain ⟨word, tokens, rfl, isImport, lexemes⟩ := List.map_eq_cons_iff.mp lexemes
  obtain ⟨module, tail, rfl, isModule, lexemes⟩ := List.map_eq_append_iff.mp lexemes
  obtain ⟨newline, tail, rfl, isNewline, lexemes⟩ := List.map_eq_cons_iff.mp lexemes
  obtain ⟨endMarker, tail, rfl, isEnd, lexemes⟩ := List.map_eq_cons_iff.mp lexemes
  obtain rfl := List.map_eq_nil_iff.mp lexemes
  obtain ⟨j, reads⟩ := reads_file_import some_name plain isImport isModule isNewline isEnd
    (stand_self _ none)
  refine ⟨word.line, word.column, ?_⟩
  rw [importsOf_of_reads read reads, imports_fileTree rfl (import_importTree isModule),
    map_normalForm plain]

theorem isLine_fromStatement {names : List String} (some_name : names ≠ [])
    (plain : ∀ n ∈ names, IsPlainName n) {x : String} (plainName : IsPlainName x) (level : Nat) :
    IsLine (fromStatement level names x ++ ['\n'])
      (.name "from" :: (dotLexemes level ++ (dottedLexemes names ++
        [.name "import", .name x, .newline, .endMarker]))) := by
  have ends : EndsName ['\n'] := ⟨'\n', [], rfl, .inr (.inr rfl)⟩
  have asciiFrom : IsAsciiName "from".toList := by decide
  have asciiImport : IsAsciiName "import".toList := by decide
  have target := IsLine.word plainName.ascii ends .stop
  have word := IsLine.word asciiImport ⟨' ', _, rfl, .inl rfl⟩ (.blank target)
  have module := isLine_dotted some_name plain ⟨' ', _, rfl, .inl rfl⟩ (.blank word)
  obtain ⟨c, rest, text, start, noDigit⟩ : ∃ c rest, dotted names = c :: rest ∧
      isPlain c = true ∧ isAsciiDigit c = false := by
    cases names with
    | nil => exact absurd rfl some_name
    | cons n names =>
      obtain ⟨c, rest, text, start⟩ := head_of_isAsciiName (plain n (List.mem_cons_self ..)).ascii
      rw [dotted, List.map_cons, joinWith_cons_flatMap, text]
      exact ⟨c, _, rfl, start⟩
  rw [text] at module
  have dots := isLine_dots level start noDigit module
  have line := IsLine.word asciiFrom ⟨' ', _, rfl, .inl rfl⟩ (.blank dots)
  unfold fromStatement
  simpa [text] using line

theorem mem_dotLexemes {level : Nat} {l : Lexeme} (h : l ∈ dotLexemes level) :
    l = .op "." ∨ l = .op "..." := by
  induction level using dotLexemes.induct with
  | case1 => cases h
  | case2 | case3 => simp_all [dotLexemes]
  | case4 level ih =>
    rcases List.mem_cons.mp h with rfl | h
    · exact .inr rfl
    · exact ih h

/-- The tokens of some dots hold as many. -/
theorem length_dotLexemes (level : Nat) :
    ((dotLexemes level).flatMap (·.spelling.toList)).length = level := by
  induction level using dotLexemes.induct with
  | case1 | case2 | case3 => rfl
  | case4 level ih =>
    rw [dotLexemes, List.flatMap_cons, List.length_append, ih, Nat.add_comm]
    rfl

theorem importsOf_fromStatement {names : List String} (some_name : names ≠ [])
    (plain : ∀ n ∈ names, IsPlainName n) {x : String} (plainName : IsPlainName x) (level : Nat)
    {ending : List Char} (ends : ending = [] ∨ ending = ['\n']) :
    ∃ line column, importsOf (fromStatement level names x ++ ending) =
      .ok [⟨line, column, .names level (some (String.ofList (dotted names))) [x]⟩] := by
  have oneLine : '\n' ∉ fromStatement level names x :=
    not_mem_fromStatement plain plainName level (by decide) (by decide)
  have start : ∃ rest, fromStatement level names x ++ ending = 'f' :: rest := ⟨_, rfl⟩
  have line := isLine_fromStatement some_name plain plainName level
  rw [← endLine_ending oneLine ends] at line
  obtain ⟨rest, start⟩ := start
  obtain ⟨tokens, read, lexemes⟩ :=
    exists_tokensOf_of_isLine ⟨_, _, start, by decide⟩ line
  obtain ⟨start, tokens, rfl, isFrom, lexemes⟩ := List.map_eq_cons_iff.mp lexemes
  obtain ⟨dots, tokens, rfl, areDots, lexemes⟩ := List.map_eq_append_iff.mp lexemes
  obtain ⟨module, tail, rfl, isModule, lexemes⟩ := List.map_eq_append_iff.mp lexemes
  obtain ⟨word, tail, rfl, isImport, lexemes⟩ := List.map_eq_cons_iff.mp lexemes
  obtain ⟨name, tail, rfl, isName, lexemes⟩ := List.map_eq_cons_iff.mp lexemes
  obtain ⟨newline, tail, rfl, isNewline, lexemes⟩ := List.map_eq_cons_iff.mp lexemes
  obtain ⟨endMarker, tail, rfl, isEnd, lexemes⟩ := List.map_eq_cons_iff.mp lexemes
  obtain rfl := List.map_eq_nil_iff.mp lexemes
  have eachDot : ∀ dot ∈ dots, dot.lexeme = .op "." ∨ dot.lexeme = .op "..." := fun dot hd =>
    mem_dotLexemes (areDots ▸ List.mem_map_of_mem hd)
  have levels : (dots.flatMap (·.lexeme.spelling.toList)).length = level := by
    rw [← length_dotLexemes level, ← areDots, List.flatMap_map]
  obtain ⟨j, reads⟩ := reads_file_from some_name plain plainName isFrom eachDot isModule isImport
    isName isNewline isEnd (stand_self _ none)
  refine ⟨start.line, start.column, ?_⟩
  rw [importsOf_of_reads read reads,
    imports_fileTree rfl (import_fromTree isFrom eachDot isModule isImport isName), levels,
    map_normalForm plain, normalForm_of_isPlainName plainName]

end ImportBoundary.Source
