import ImportBoundary.Proofs.Source.Packages
import ImportBoundary.Proofs.Source.Position
import ImportBoundary.Proofs.Source.Wording

/-!
# All imports of a source

The import statements of a source are those of its derivation, however deep they lie, each of them once
and in the order of the text (`imports_of_derivation`). The derivation holds all tokens of the text
(`tokens_of_derivation`), and the word `import` stands in nothing but import statements, in each of them
once, so there are as many statements as the text has such words (`count_import`). The edges of a source
are the edges of its statements, one statement behind the other, unless a statement names a package that
cannot be looked for (`Extraction.ofText_complete`).
-/

namespace ImportBoundary.Source

/-! ## Definition -/

/-- The statement `i` is what the words of `node` tell, and stands where the first of them does. -/
structure IsStatement (text : List Char) (node : Tree) (i : Import) : Prop where
  tells : Tells (wordsOf [node]) i.imported
  stands : ∃ before, StandsBehind text before node.firstSpelling i.line i.column

/-! ## Tokens of a text -/

theorem eq_of_endMarker_admits {l : Lexeme} (admitted : Form.endMarker.admits l = true) :
    l = .endMarker := by
  cases l with
  | endMarker => rfl
  | _ => cases admitted

/-- Behind the mark of the end there are no tokens. -/
theorem take_of_endMarker {text : List Char} {k : Nat} {token : Token}
    (present : (tokensOf text).1[k]? = some token) (ends : token.lexeme = .endMarker) :
    (tokensOf text).1.take (k + 1) = (tokensOf text).1 := by
  obtain ⟨ts, others, all | ⟨last, -, all⟩⟩ := exists_tokensOf text
  · rw [all] at present
    exact absurd ends (others token (List.mem_of_getElem? present)).1
  · have late : ts.length ≤ k := by
      by_contra early
      rw [all, List.getElem?_append_left (by omega)] at present
      exact (others token (List.mem_of_getElem? present)).1 ends
    rw [all]
    apply List.take_of_length_le
    rw [List.length_append, List.length_singleton]
    omega

/-- The tokens of a text. -/
def tokensIn (text : List Char) : Tokens :=
  ⟨(tokensOf text).1.toArray, (tokensOf text).2⟩

theorem areWorded_tokensIn (text : List Char) : (tokensIn text).AreWorded :=
  fun _ present _ is => isWord_of_mem_tokensOf (List.mem_toArray.mp present) is

/-- The derivation of a text holds all its tokens. -/
theorem tokens_of_derivation {text : List Char} {derived : Tree}
    (parses : derivation text = .ok derived) : derived.tokens = (tokensOf text).1 := by
  obtain ⟨stop, whole⟩ := @shaped_of_derivationOf (tokensIn text) derived parses
  have read := tokens_of_shaped whole
  rw [List.take_zero, List.nil_append, Tree.tokensOfAll, Tree.tokensOfAll, List.append_nil] at read
  obtain ⟨inner, file, -⟩ := shaped_phrase_iff.mp whole
  simp only [Phrase.form, shaped_all_iff, shaped_cons_iff, shaped_nil_iff] at file
  obtain ⟨_, k, _, -, ⟨_, _, _, ends, ⟨-, rfl⟩, -⟩, -⟩ := file
  cases ends with
  | token present admitted =>
    have there := present
    rw [tokensIn, List.getElem?_toArray] at there
    exact read.trans (take_of_endMarker there (eq_of_endMarker_admits admitted))

/-! ## The word `import` -/

theorem mem_separatedBy {w x : String} {items : List (List String)} (mem : x ∈ separatedBy w items) :
    x = w ∨ ∃ item ∈ items, x ∈ item := by
  cases items with
  | nil => cases mem
  | cons first rest =>
    rcases List.mem_append.mp mem with here | later
    · exact .inr ⟨first, List.mem_cons_self, here⟩
    · obtain ⟨item, among, inside⟩ := List.mem_flatMap.mp later
      rcases List.mem_cons.mp inside with rfl | inItem
      · exact .inl rfl
      · exact .inr ⟨item, List.mem_cons_of_mem _ among, inItem⟩

theorem IsIdentifier.ne_import {n : String} (identifier : IsIdentifier n) : n ≠ "import" := by
  rintro rfl
  exact identifier.2 (by decide)

theorem import_not_mem_moduleWords {names : List String} (named : IsNamed names) :
    "import" ∉ moduleWords names := by
  intro mem
  rcases mem_separatedBy mem with dot | ⟨item, among, inside⟩
  · exact absurd dot (by decide)
  · obtain ⟨n, isName, rfl⟩ := List.mem_map.mp among
    rw [List.mem_singleton] at inside
    exact (named.2 n isName).ne_import inside.symm

/-- What is imported may have names of every kind, but no keywords. -/
theorem import_not_mem_listWords {items : List (List String × Option String)}
    (named : ∀ item ∈ items, "import" ∉ item.1 ∧ ∀ n ∈ item.2, IsIdentifier n) :
    "import" ∉ listWords items := by
  intro mem
  rcases mem_separatedBy mem with comma | ⟨words, among, inside⟩
  · exact absurd comma (by decide)
  · obtain ⟨⟨thing, other⟩, isItem, rfl⟩ := List.mem_map.mp among
    obtain ⟨notThing, identifier⟩ := named _ isItem
    rcases List.mem_append.mp inside with inThing | inOther
    · exact notThing inThing
    · cases other with
      | none => cases inOther
      | some n =>
        have one : "import" = "as" ∨ "import" = n := by simpa [aliasWords] using inOther
        rcases one with as | same
        · exact absurd as (by decide)
        · exact (identifier n rfl).ne_import same.symm

theorem TellsNames.import_not_mem {words names : List String} (tells : TellsNames words names) :
    "import" ∉ words := by
  cases tells with
  | all => decide
  | listed items some_item named brackets =>
    have inList : "import" ∉ listWords (items.map fun item => ([item.1], item.2)) := by
      refine import_not_mem_listWords fun item mem => ?_
      obtain ⟨own, isOwn, rfl⟩ := List.mem_map.mp mem
      obtain ⟨identifier, others⟩ := named own isOwn
      exact ⟨by simpa using identifier.ne_import.symm, others⟩
    rw [List.mem_append, List.mem_append]
    rcases brackets with ⟨rfl, rfl⟩ | ⟨rfl, rfl | rfl⟩ <;> simp [inList]

/-- Every import statement has one word `import`. -/
theorem Tells.count_import {words : List String} {imported : Imported}
    (tells : Tells words imported) : words.count "import" = 1 := by
  cases tells with
  | modules items some_item named =>
    rw [List.count_cons_self, List.count_eq_zero.mpr]
    refine import_not_mem_listWords fun item mem => ?_
    obtain ⟨own, isOwn, rfl⟩ := List.mem_map.mp mem
    obtain ⟨isNamed, others⟩ := named own isOwn
    exact ⟨import_not_mem_moduleWords isNamed, others⟩
  | names dots areDots module named something lists =>
    have noDots : "import" ∉ dots := by
      intro mem
      rcases areDots _ mem with dot | dots <;> simp at *
    have noModule : "import" ∉ module.elim [] moduleWords := by
      cases module with
      | none => exact List.not_mem_nil
      | some m => exact import_not_mem_moduleWords (named m rfl)
    rw [List.count_append, List.count_cons_self, List.count_eq_zero.mpr lists.import_not_mem,
      List.count_append, List.count_cons_of_ne (by decide), List.count_eq_zero.mpr noDots,
      List.count_eq_zero.mpr noModule]

theorem Tells.exists_cons {words : List String} {imported : Imported}
    (tells : Tells words imported) : ∃ word rest, words = word :: rest ∧ word ≠ "" := by
  cases tells with
  | modules => exact ⟨_, _, rfl, by decide⟩
  | names => exact ⟨_, _, rfl, by decide⟩

/-- No form but those of the import statements takes the word. -/
theorem import_not_mem_texts {s : Phrase} (other : ¬ (s = .importName ∨ s = .importFrom)) :
    "import" ∉ s.form.texts := by
  cases s with
  | importName => exact absurd (.inl rfl) other
  | importFrom => exact absurd (.inr rfl) other
  | _ => decide

/-- A form takes the word by its text or not at all, since it is a keyword. -/
theorem spelling_ne_import {form : Form} {l : Lexeme} (admitted : form.admits l = true)
    (others : "import" ∉ form.texts) : l.spelling ≠ "import" := by
  have byText {w s : String} (same : (s == w) = true) (others : "import" ∉ (Form.word w).texts) :
      s ≠ "import" := by
    rintro rfl
    exact others (List.mem_singleton.mpr (eq_of_beq same))
  cases l with
  | name n =>
    cases form with
    | word w => exact byText admitted others
    | name =>
      rintro rfl
      exact absurd admitted (by decide)
    | _ => cases admitted
  | op o =>
    cases form with
    | word w => exact byText admitted others
    | _ => cases admitted
  | _ => exact (by decide : "" ≠ "import")

section

variable {ts : Tokens} {shape : Shape} {i j : Nat} {parts : List Tree}

/-- There are as many words as statements. -/
theorem count_import (worded : ts.AreWorded) (shaped : Shaped ts shape i parts j)
    (others : "import" ∉ shape.texts) : (wordsOf parts).count "import" =
      (Tree.nodesOfAll [.importName, .importFrom] parts).length := by
  induction shaped with
  | left | ahead | never | done | ended => rfl
  | token present admitted | forced present admitted =>
    exact List.count_cons_of_ne (spelling_ne_import admitted others)
  | @phrase s _ inner _ shaped ih =>
    rw [wordsOf_node]
    by_cases imports : s = .importName ∨ s = .importFrom
    · obtain ⟨imported, -, tells⟩ := tells_of_shaped worded imports shaped
      rw [tells.count_import]
      rcases imports with rfl | rfl <;> rfl
    · have outer : [Phrase.importName, .importFrom].contains s = false := by simpa using imports
      rw [nodesOfAll_node outer]
      exact ih (import_not_mem_texts imports)
  | all _ ih | opt _ ih | many _ ih | explain _ ih => exact ih others
  | any among _ ih => exact ih fun inside => others (Form.gather_subset _ among inside)
  | next _ _ first rest =>
    obtain ⟨notFirst, notRest⟩ := not_or.mp (mt List.mem_append.mpr others)
    rw [wordsOf_append, List.count_append, Tree.nodesOfAll_append, List.length_append,
      first notFirst, rest notRest]
  | again _ _ first rest =>
    rw [wordsOf_append, List.count_append, Tree.nodesOfAll_append, List.length_append,
      first others, rest others]

end

/-! ## Statements -/

section

variable {text : List Char} {derived : Tree}

theorem nodes_of_derivation (parses : derivation text = .ok derived) :
    derived.nodes [.importName, .importFrom] = derived.within.filter Tree.isImport := by
  obtain ⟨stop, whole⟩ := @shaped_of_derivationOf (tokensIn text) derived parses
  have same := nodes_eq_filter whole
  rwa [Tree.nodesOfAll, Tree.nodesOfAll, List.append_nil, Tree.withinAll, Tree.withinAll,
    List.append_nil] at same

/-- The first tokens of the import statements come in the order of the text. -/
theorem heads_of_derivation (parses : derivation text = .ok derived) :
    ((derived.nodes [.importName, .importFrom]).filterMap fun node => node.tokens.head?).Sublist
      (tokensOf text).1 := by
  obtain ⟨stop, whole⟩ := @shaped_of_derivationOf (tokensIn text) derived parses
  have sub := heads_sublist whole [.importName, .importFrom]
  rwa [Tree.nodesOfAll, Tree.nodesOfAll, List.append_nil, Tree.tokensOfAll, Tree.tokensOfAll,
    List.append_nil, tokens_of_derivation parses] at sub

/-- An import statement starts with a word of the text. -/
theorem exists_head (parses : derivation text = .ok derived) {node : Tree}
    (mem : node ∈ derived.nodes [.importName, .importFrom]) :
    ∃ token ∈ (tokensOf text).1, token.isWritten = true ∧ node.tokens.head? = some token ∧
      ∃ imported, node.imported? = some imported ∧ Tells (wordsOf [node]) imported := by
  obtain ⟨stop, whole⟩ := @shaped_of_derivationOf (tokensIn text) derived parses
  have inside : node ∈ Tree.nodesOfAll [.importName, .importFrom] [derived] :=
    List.mem_append_left _ mem
  obtain ⟨s, one, _, inner, _, rfl, shaped⟩ := shaped_of_mem_nodesOfAll whole inside
  have imports : s = .importName ∨ s = .importFrom := by simpa using one
  obtain ⟨imported, is, tells⟩ := tells_of_shaped (areWorded_tokensIn text) imports shaped
  rw [← wordsOf_node s] at tells
  obtain ⟨word, rest, words, some_char⟩ := tells.exists_cons
  have spelled : (Tree.node s inner).tokens.map (·.lexeme.spelling) = word :: rest := by
    rw [← words, wordsOf, Tree.tokensOfAll, Tree.tokensOfAll, List.append_nil]
  obtain ⟨token, more, tokens, rfl, -⟩ := List.map_eq_cons_iff.mp spelled
  have head : (Tree.node s inner).tokens.head? = some token := by rw [tokens, List.head?_cons]
  have isToken : token ∈ (tokensOf text).1 :=
    (heads_of_derivation parses).subset (List.mem_filterMap.mpr ⟨_, mem, head⟩)
  exact ⟨token, isToken, decide_eq_true some_char, head, imported, is, tells⟩

/-- What a statement is and where it stands is read off the text. -/
theorem exists_isStatement (parses : derivation text = .ok derived) {node : Tree}
    (mem : node ∈ derived.nodes [.importName, .importFrom]) :
    ∃ i, node.import? = some i ∧ IsStatement text node i := by
  obtain ⟨token, isToken, written, head, imported, is, tells⟩ := exists_head parses mem
  obtain ⟨before, stands⟩ := (standing_tokensOf text).1 token isToken written
  refine ⟨⟨token.line, token.column, imported⟩, by rw [Tree.import?, is, head], tells, before, ?_⟩
  rw [Tree.firstSpelling, head]
  exact stands

theorem pairwise_imports (parses : derivation text = .ok derived) :
    derived.imports.Pairwise fun i j => IsBefore i.line i.column j.line j.column := by
  have ordered := (standing_tokensOf text).2
  rw [List.pairwise_filter] at ordered
  have heads := ordered.sublist (heads_of_derivation parses)
  rw [List.pairwise_filterMap] at heads
  rw [Tree.imports, List.pairwise_filterMap]
  refine heads.imp_of_mem fun {a b} aMem bMem before i iIs j jIs => ?_
  obtain ⟨first, -, firstWritten, aHead, imported, aIs, -⟩ := exists_head parses aMem
  obtain ⟨second, -, secondWritten, bHead, imported', bIs, -⟩ := exists_head parses bMem
  rw [Tree.import?, aIs, aHead] at iIs
  rw [Tree.import?, bIs, bHead] at jIs
  cases iIs
  cases jIs
  exact before first aHead second bHead firstWritten secondWritten

/-- Where each item gives another one, the given ones are related to them one by one. -/
theorem forall₂_filterMap {α β : Type} {R : α → β → Prop} {f : α → Option β} {xs : List α}
    (each : ∀ x ∈ xs, ∃ y, f x = some y ∧ R x y) : List.Forall₂ R xs (xs.filterMap f) := by
  induction xs with
  | nil => exact .nil
  | cons x xs ih =>
    obtain ⟨⟨y, gives, related⟩, others⟩ := List.forall_mem_cons.mp each
    rw [List.filterMap_cons_some gives]
    exact .cons related (ih others)

/-- The statements of a source are those of its derivation, each once and in order. -/
theorem imports_of_derivation (parses : derivation text = .ok derived) :
    List.Forall₂ (IsStatement text) (derived.within.filter Tree.isImport) derived.imports ∧
      derived.imports.Pairwise (fun i j => IsBefore i.line i.column j.line j.column) ∧
      ((tokensOf text).1.map (·.lexeme.spelling)).count "import" = derived.imports.length := by
  have statements : List.Forall₂ (IsStatement text) (derived.within.filter Tree.isImport)
      derived.imports := by
    rw [← nodes_of_derivation parses, Tree.imports]
    exact forall₂_filterMap fun node => exists_isStatement parses
  refine ⟨statements, pairwise_imports parses, ?_⟩
  obtain ⟨stop, whole⟩ := @shaped_of_derivationOf (tokensIn text) derived parses
  have count := count_import (areWorded_tokensIn text) whole (by decide)
  rwa [wordsOf, Tree.tokensOfAll, Tree.tokensOfAll, List.append_nil, tokens_of_derivation parses,
    Tree.nodesOfAll, Tree.nodesOfAll, List.append_nil, nodes_of_derivation parses,
    statements.length_eq] at count

end

end ImportBoundary.Source

namespace ImportBoundary.Extraction

open Text PathChars Source

/-- The edges of a source are those of its import statements, one statement behind the other, if all their
packages can be looked for. If not, there are no edges at all, only the system's refusal of a path. -/
theorem ofText_complete {fs : FileSystem} (named : fs.IsNamed) {path root : String}
    (absolute : Path.isAbsolute path = true) (rooted : isRooted root.toList = true)
    (forward : '\\' ∉ root.toList) {text : List Char} (noNul : '\x00' ∉ text)
    {derived : Tree} (parses : derivation (unifyLines text) = .ok derived) :
    (List.Forall₂ (IsStatement (unifyLines text)) (derived.within.filter Tree.isImport)
        derived.imports ∧
      derived.imports.Pairwise (fun i j => IsBefore i.line i.column j.line j.column) ∧
      ((tokensOf (unifyLines text)).1.map (·.lexeme.spelling)).count "import" =
        derived.imports.length) ∧
    ((∀ i ∈ derived.imports, ∀ m ∈ namedInFull i.imported, IsInReach fs root m) →
      ∃ x groups, ofText fs path text (some root) = .ok x ∧ x.edges = groups.flatten ∧
        List.Forall₂ (GivesEdges fs path root) derived.imports groups) ∧
    ((∃ i ∈ derived.imports, ∃ m ∈ namedInFull i.imported, ¬ IsInReach fs root m) →
      ∃ refused, ofText fs path text (some root) = .error (.file ⟨.tooLong, refused⟩)) := by
  have imports : importsOf (unifyLines text) = .ok derived.imports :=
    importsOf_eq_ok_iff.mpr ⟨derived, parses, rfl⟩
  have worded := fun i => isWorded_of_mem_importsOf imports (i := i)
  have read : Host.imports text = .ok derived.imports :=
    readImports_eq_ok_iff.mpr ⟨noNul, imports⟩
  have whole : ofText fs path text (some root) = ofImports fs path derived.imports (some root) := by
    rw [ofText, read]
    rfl
  rw [whole, ofImports]
  refine ⟨imports_of_derivation parses, fun reach => ?_, fun beyond => ?_⟩
  · have made (i : Import) (mem : i ∈ derived.imports) :=
      ofImport_of_isInReach named absolute rooted forward (worded i mem) (reach i mem)
    rcases mapM_cases (Edge.ofImport fs (packagesOf (Path.unifySlashes path) (some root))
      (Path.unifySlashes path)) derived.imports with ⟨found, all⟩ | ⟨i, mem, failure, -, fails⟩
    · refine ⟨_, found.map (·.1), by rw [all]; rfl, rfl, ?_⟩
      rw [List.forall₂_map_right_iff]
      refine forall₂_of_mapM all fun i mem group gives => ?_
      obtain ⟨_, _, is, isGroup⟩ := made i mem
      rw [is] at gives
      cases gives
      exact isGroup
    · obtain ⟨_, _, is, -⟩ := made i mem
      rw [is] at fails
      cases fails
  · obtain ⟨i, among, m, mem, far⟩ := beyond
    obtain ⟨_, refused⟩ := ofImport_of_not_isInReach absolute rooted forward
      (worded i among) mem far
    -- the statement that fails first need not be this one
    obtain ⟨j, first, failure, stopped, fails⟩ := mapM_of_mem among refused
    rw [stopped]
    by_cases reach : ∀ m ∈ namedInFull j.imported, IsInReach fs root m
    · obtain ⟨_, _, is, -⟩ :=
        ofImport_of_isInReach named absolute rooted forward (worded j first) reach
      rw [is] at fails
      cases fails
    · simp only [not_forall] at reach
      obtain ⟨n, isNamed, far⟩ := reach
      obtain ⟨path', is⟩ := ofImport_of_not_isInReach absolute rooted forward
        (worded j first) isNamed far
      rw [is] at fails
      cases fails
      exact ⟨path', rfl⟩

/-- A source of one written import. -/
theorem exists_derivation_importStatement {names : List String} (some_name : names ≠ [])
    (plain : ∀ n ∈ names, IsPlainName n) :
    ∃ derived line column, derivation (unifyLines (importStatement names ++ ['\n'])) = .ok derived ∧
      derived.imports = [⟨line, column, .modules [String.ofList (dotted names)]⟩] := by
  obtain ⟨line, column, read⟩ := importsOf_importStatement some_name plain (.inr rfl)
  have noReturn : '\r' ∉ importStatement names ++ ['\n'] :=
    not_mem_ending (not_mem_importStatement plain (by decide) (by decide)) (by decide) (.inr rfl)
  rw [unifyLines_eq_self noReturn]
  obtain ⟨derived, parses, is⟩ := importsOf_eq_ok_iff.mp read
  exact ⟨derived, line, column, parses, is⟩

/-- One statement, and a directory of packages with more slashes than it needs. -/
theorem ofText_complete_module :
    let text := importStatement ["p", "m", "n"] ++ ['\n']
    nested.IsNamed ∧ Path.isAbsolute "/r/p/q/f.py" = true ∧ isRooted "//r//./".toList = true ∧
      '\\' ∉ "//r//./".toList ∧ '\x00' ∉ text ∧
      ∃ derived, derivation (unifyLines text) = .ok derived ∧
        (∀ i ∈ derived.imports, ∀ m ∈ namedInFull i.imported, IsInReach nested "//r//./" m) ∧
        ∃ x e, ofText nested "/r/p/q/f.py" text (some "//r//./") = .ok x ∧ x.edges = [e] ∧
          e.sourceFile = "/r/p/q/f.py" ∧
          Path.segmentsOf e.target = ["r", "p", "m", "n"].map String.toList := by
  intro text
  have named : nested.IsNamed := ⟨by decide, by decide⟩
  have absolute : Path.isAbsolute "/r/p/q/f.py" = true := by decide
  have rooted : isRooted "//r//./".toList = true := by decide
  have forward : '\\' ∉ "//r//./".toList := by decide
  have noNul : '\x00' ∉ text := by decide
  have names : ∀ n ∈ ["p", "m", "n"], IsPlainName n := by decide
  obtain ⟨derived, line, column, parses, imports⟩ :=
    exists_derivation_importStatement (by decide) names
  obtain ⟨-, complete, -⟩ := ofText_complete named absolute rooted forward noNul parses
  have same : String.ofList (dotted ["p", "m", "n"]) = "p.m.n" := by decide
  have stands : ["p.m.n"].filter (fun m => StandsIn nested "//r//./" m) = ["p.m.n"] := by
    rfl
  have reach : IsInReach nested "//r//./" "p.m.n" := by decide
  rw [same] at imports
  rw [imports] at complete
  obtain ⟨x, groups, extracted, whole, each⟩ := complete (by simpa [namedInFull] using reach)
  refine ⟨named, absolute, rooted, forward, noNul, derived, parses, ?_, x, ?_⟩
  · rw [imports]
    simpa [namedInFull] using reach
  cases each with
  | cons gives none =>
    cases none
    have lead := gives.lead
    simp only [stands] at lead
    cases lead with
    | cons into none =>
      cases none
      refine ⟨_, extracted, whole, ?_, ?_⟩
      · exact (gives.placed _ List.mem_cons_self).1.trans (by decide)
      · rw [into.segments]
        decide

/-- A source of one import is refused if the package is out of reach. -/
theorem ofText_importStatement {fs : FileSystem} {path root name : String}
    (absolute : Path.isAbsolute path = true) (rooted : isRooted root.toList = true)
    (forward : '\\' ∉ root.toList) (plain : IsPlainName name) (far : ¬ IsInReach fs root name) :
    ∃ refused, ofText fs path (importStatement [name]) (some root) =
      .error (.file ⟨.tooLong, refused⟩) := by
  have names : ∀ n ∈ [name], IsPlainName n := by simpa using plain
  obtain ⟨line, column, all⟩ := importsOf_importStatement (by simp) names (.inl rfl)
  have same : String.ofList (dotted [name]) = name := by simp [dotted, joinWith]
  rw [List.append_nil, same] at all
  have read : Host.imports (importStatement [name]) = .ok [⟨line, column, .modules [name]⟩] :=
    readImports_of_importsOf (not_mem_importStatement names (by decide) (by decide))
      (not_mem_importStatement names (by decide) (by decide)) all
  have worded := isWorded_of_mem_importsOf all (List.mem_singleton_self _)
  obtain ⟨refused, failed⟩ := ofImport_of_not_isInReach absolute rooted forward worded
    (List.mem_singleton_self name) far
  refine ⟨refused, ?_⟩
  rw [ofText, read, Except.mapError]
  simp only [bind, Except.bind, ofImports, List.mapM_cons, failed]

/-- A name of more letters than a system looks up. -/
def longName : String :=
  String.ofList (List.replicate 300 'a')

/-- A file system with nothing in it. -/
def nothing : FileSystem :=
  ⟨[], []⟩

theorem isPlainName_longName : IsPlainName longName := by
  have letters : longName.toList = List.replicate 300 'a' := String.toList_ofList
  refine ⟨⟨by rw [letters]; rfl, fun c hc => ?_⟩, fun keyword => ?_⟩
  · rw [letters] at hc
    rw [List.eq_of_mem_replicate hc]
    decide
  · have short : ∀ w ∈ keywords, w.toList.length < 300 := by decide
    have length := short _ keyword
    rw [letters, List.length_replicate] at length
    exact absurd length (by decide)

theorem at_nothing {name : String} (segment : IsSegment name.toList) (e : Entry) :
    nothing.at? (pathIn "/" name) ≠ some e := by
  obtain ⟨some_char, noDot, noDots, noSlash, -⟩ := segment
  intro there
  obtain ⟨route, follows, stands⟩ := FileSystem.at_eq_some_iff.mp there
  have walked := FileSystem.walk_of_follow (by rw [pathIn, String.toList_ofList]; rfl) follows
  have top : nothing.step [] [] = .ok [] := FileSystem.step_of_not_leads rfl rfl
  have into : nothing.step [] name.toList = .ok [String.ofList name.toList] := by
    have directory : nothing.entry? [] = some .directory := rfl
    simp only [FileSystem.step, directory, some_char, noDot, noDots, or_self, if_false, List.nil_append]
  rw [pieces_pathIn_top noSlash, List.foldlM_cons, top] at walked
  simp only [bind, Except.bind, List.foldlM_cons, into, List.foldlM_nil, pure, Except.pure] at walked
  cases walked
  cases stands

theorem not_standsIn_nothing {name : String} (plain : IsPlainName name) :
    ¬ StandsIn nothing "/" name := by
  have rooted : isRooted "/".toList = true := rfl
  have word := plain.isWord
  have source : IsSegment (name ++ ".py").toList := by
    obtain ⟨-, -, -, noSlash, noBackslash, noNul⟩ := word.isSegment
    rw [String.toList_append]
    exact IsStem.isSegment ⟨noSlash, noBackslash, noNul⟩
  rintro ⟨-, directory | file⟩ <;> rw [packageOf_of_isPlainName plain] at *
  · rw [← at_pathIn_word rooted word] at directory
    exact at_nothing word.isSegment _ directory
  · rw [← isFileAt_pathIn rooted word, isFileAt] at file
    split at file
    · next there => exact at_nothing source _ there
    · cases file

theorem byteLength_replicate (n : Nat) : FileSystem.byteLength (List.replicate n 'a') = n := by
  induction n with
  | zero => rfl
  | succ n ih =>
    have one : Char.utf8Size 'a' = 1 := by decide
    rw [List.replicate_succ, FileSystem.byteLength, ih, one, Nat.add_comm]

/-- No package has a name that is too long, but a source that imports it has no edges at all. -/
theorem ofText_longName :
    (∃ imports, importsOf (importStatement [longName]) = .ok imports) ∧
      ¬ StandsIn nothing "/" longName ∧
      ∃ refused, ofText nothing "/f.py" (importStatement [longName]) (some "/") =
        .error (.file ⟨.tooLong, refused⟩) := by
  have plain := isPlainName_longName
  have long : FileSystem.longestName < FileSystem.byteLength longName.toList := by
    have letters : longName.toList = List.replicate 300 'a' := String.toList_ofList
    rw [letters, byteLength_replicate]
    decide
  refine ⟨?_, not_standsIn_nothing plain, ?_⟩
  · obtain ⟨line, column, all⟩ := importsOf_importStatement (List.cons_ne_nil longName [])
      (List.forall_mem_singleton.mpr plain) (.inl rfl)
    rw [List.append_nil] at all
    exact ⟨_, all⟩
  · exact ofText_importStatement (by decide) (by decide) (by decide) plain
      (not_isInReach_of_long rfl plain long)

end ImportBoundary.Extraction
