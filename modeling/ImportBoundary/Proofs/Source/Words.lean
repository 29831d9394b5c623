import ImportBoundary.Proofs.Source.Derived
import ImportBoundary.Proofs.Source.Module
import ImportBoundary.Proofs.Source.Steps

/-!
# Names in a source

Every name among the tokens of a text is a word (`isWord_of_mem_tokensOf`), whatever the text is, and so is
its normal form. So what its import statements name is made of words: modules are words with dots in
between, and a name that is imported from somewhere is one word (`isWorded_of_mem_readImports`).
-/

namespace ImportBoundary.Source

open Text

/-! ## Tokens -/

/-- If the token is a name, it is a word. -/
def Lexeme.IsWorded (l : Lexeme) : Prop :=
  ∀ n, l = .name n → IsWord n

theorem eq_of_wordAt {c : Char} {cs word : List Char} (read : wordAt c cs = .ok word) :
    word = c :: cs.takeWhile isNameChar := by
  simp only [wordAt] at read
  split at read <;> cases read
  rfl

theorem isWord_of_wordAt {c : Char} {cs word : List Char} (start : isNameChar c = true)
    (read : wordAt c cs = .ok word) : IsWord (String.ofList word) := by
  obtain rfl := eq_of_wordAt read
  constructor
  · intro empty
    have nil := congrArg String.toList empty
    rw [String.toList_ofList] at nil
    cases nil
  · intro d hd
    rw [String.toList_ofList] at hd
    rcases List.mem_cons.mp hd with rfl | later
    · exact start
    · exact List.mem_takeWhile_imp later

/-- Where blocks start and end there are no names. -/
theorem eq_of_mem_changeBlocks {r : Reader} {i : Indentation} {changes : List Lexeme}
    {blocks : List Indentation} (changed : changeBlocks r i = .ok (changes, blocks)) :
    ∀ l ∈ changes, l = .indent ∨ l = .dedent := by
  intro l hl
  simp only [changeBlocks] at changed
  split at changed
  · split at changed <;> cases changed
    cases hl
  · split at changed
    · split at changed
      · cases changed
      · split at changed <;> cases changed
        exact .inl (List.mem_singleton.mp hl)
    · split at changed
      · cases changed
      · split at changed <;> cases changed
        exact .inr (List.eq_of_mem_replicate hl)

theorem isWorded_of_scans {r next : Reader} {c : Char} {cs : List Char} {l : Lexeme}
    (scans : Scans r c cs l next) : l ≠ .endMarker ∧ l.IsWorded := by
  cases scans with
  | text | number | op => exact ⟨nofun, nofun⟩
  | name starts isWord =>
    refine ⟨nofun, ?_⟩
    rintro _ ⟨⟩
    exact isWord_of_wordAt starts isWord

theorem isWorded_of_step {r next : Reader} {stage stage' : Stage} {more : List Token}
    (step : Step r stage more next stage') :
    ∀ t ∈ more, t.lexeme ≠ .endMarker ∧ t.lexeme.IsWorded := by
  cases step with
  | indentation | lineBreak | continuation => exact List.forall_mem_nil _
  | block _ _ changed =>
    intro t ht
    obtain ⟨l, hl, rfl⟩ := List.mem_map.mp ht
    rcases eq_of_mem_changeBlocks changed l hl with rfl | rfl <;> exact ⟨nofun, nofun⟩
  | newline => exact List.forall_mem_singleton.mpr ⟨nofun, nofun⟩
  | token _ _ _ scans => exact List.forall_mem_singleton.mpr (isWorded_of_scans scans)

/-- The mark of the end comes last if it comes at all, and all names are words. -/
theorem exists_tokensOf (text : List Char) :
    ∃ ts, (∀ t ∈ ts, t.lexeme ≠ .endMarker ∧ t.lexeme.IsWorded) ∧ ((tokensOf text).1 = ts ∨
      ∃ last, last.lexeme = .endMarker ∧ (tokensOf text).1 = ts ++ [last]) := by
  obtain ⟨last, -, read, worded, ends⟩ := exists_of_tokensOf
    (P := fun _ _ tokens => ∀ t ∈ tokens, t.lexeme ≠ .endMarker ∧ t.lexeme.IsWorded)
    (fun worded step => List.forall_mem_append.mpr ⟨isWorded_of_step step, worded⟩)
    (List.forall_mem_nil _)
  refine ⟨read.reverse, fun t ht => worded t (List.mem_reverse.mp ht), ?_⟩
  obtain all | all := ends
  · exact .inl all
  · exact .inr ⟨_, rfl, all.trans List.reverse_cons⟩

theorem isWord_of_mem_tokensOf {text : List Char} {token : Token} {n : String}
    (present : token ∈ (tokensOf text).1) (is : token.lexeme = .name n) : IsWord n := by
  obtain ⟨ts, worded, all | ⟨last, ends, all⟩⟩ := exists_tokensOf text
  · exact (worded token (all ▸ present)).2 n is
  · rw [all] at present
    rcases List.mem_append.mp present with inner | isLast
    · exact (worded token inner).2 n is
    · rw [List.mem_singleton.mp isLast, ends] at is
      cases is

/-! ## Phrases -/

/-- All names among the tokens are words. -/
def Tokens.AreWorded (ts : Tokens) : Prop :=
  ∀ token ∈ ts.tokens, token.lexeme.IsWorded

/-- A word that a name can be, and that is no keyword. -/
def IsIdentifier (n : String) : Prop :=
  IsWord n ∧ n ∉ keywords

/-- The words of some trees, one for each token. -/
def wordsOf (trees : List Tree) : List String :=
  (Tree.tokensOfAll trees).map (·.lexeme.spelling)

/-- Some items of words, with a word between any two of them. -/
def separatedBy (word : String) : List (List String) → List String
  | [] => []
  | first :: rest => first ++ rest.flatMap (word :: ·)

section

variable {ts : Tokens} {i j : Nat} {parts : List Tree}

theorem wordsOf_append (trees more : List Tree) :
    wordsOf (trees ++ more) = wordsOf trees ++ wordsOf more := by
  rw [wordsOf, Tree.tokensOfAll_append, List.map_append]
  rfl

theorem wordsOf_name {token : Token} {n : String} (is : token.lexeme = .name n) :
    wordsOf [.leaf token] = [n] := by
  simp [wordsOf, Tree.tokensOfAll, Tree.tokens, is, Lexeme.spelling]

theorem exists_identifier_of_shaped (worded : ts.AreWorded)
    (shaped : Shaped ts (.form .name) i parts j) :
    ∃ token n, parts = [.leaf token] ∧ token.lexeme = .name n ∧ IsIdentifier n := by
  cases shaped with
  | @token _ token _ present admitted =>
    cases kind : token.lexeme with
    | name n =>
      rw [kind] at admitted
      have word := worded token (Array.mem_of_getElem? present) n kind
      exact ⟨token, n, rfl, kind, word, by simpa [Form.admits] using admitted⟩
    | _ =>
      rw [kind] at admitted
      cases admitted

/-- A word is a token of its own. -/
theorem leaf_of_shaped_word {w : String} (shaped : Shaped ts (.form (.word w)) i parts j) :
    wordsOf parts = [w] ∧ ∀ phrases, Tree.nodesOfAll phrases parts = [] := by
  cases shaped with
  | @token _ token _ present admitted =>
    have spelled : token.lexeme.spelling = w := by
      cases kind : token.lexeme with
      | name s | op s =>
        rw [kind] at admitted
        exact eq_of_beq admitted
      | _ =>
        rw [kind] at admitted
        cases admitted
    rw [← spelled]
    exact ⟨rfl, fun _ => rfl⟩

/-- A form once or more often, with a word in between: the groups of parts that the form has read. -/
structure GroupedBy (ts : Tokens) (w : String) (form : Form) (parts : List Tree)
    (groups : List (List Tree)) : Prop where
  some_group : groups ≠ []
  shaped : ∀ group ∈ groups, ∃ i j, Shaped ts (.form form) i group j
  words : wordsOf parts = separatedBy w (groups.map wordsOf)
  nodes : ∀ phrases, Tree.nodesOfAll phrases parts = groups.flatMap (Tree.nodesOfAll phrases)

/-- A word and what follows it, once for each group. -/
theorem exists_groups_of_repetition {w : String} {form : Form} {shape : Shape}
    (shaped : Shaped ts shape i parts j) (again : shape = .repetition (.all [.word w, form])) :
    ∃ groups : List (List Tree), (∀ group ∈ groups, ∃ i j, Shaped ts (.form form) i group j) ∧
      wordsOf parts = (groups.map wordsOf).flatMap (w :: ·) ∧
      ∀ phrases, Tree.nodesOfAll phrases parts = groups.flatMap (Tree.nodesOfAll phrases) := by
  induction shaped with
  | ended => exact ⟨[], by simp, rfl, fun _ => rfl⟩
  | again first _ _ ih =>
    cases again
    obtain ⟨groups, shaped, words, nodes⟩ := ih rfl
    simp only [shaped_all_iff, shaped_cons_iff, shaped_nil_iff] at first
    obtain ⟨_, _, _, word, ⟨group, _, _, first, ⟨rfl, rfl⟩, rfl⟩, rfl⟩ := first
    obtain ⟨wordsFirst, nodesFirst⟩ := leaf_of_shaped_word word
    refine ⟨group :: groups, List.forall_mem_cons.mpr ⟨⟨_, _, first⟩, shaped⟩, ?_, ?_⟩
    · rw [List.append_nil, wordsOf_append, wordsOf_append, wordsFirst, words]
      rfl
    · intro phrases
      rw [List.append_nil, Tree.nodesOfAll_append, Tree.nodesOfAll_append, nodesFirst, nodes]
      rfl
  | _ => cases again

theorem exists_groups_of_separated {w : String} {form : Form}
    (shaped : Shaped ts (.form (.separated w form)) i parts j) :
    ∃ groups, GroupedBy ts w form parts groups := by
  simp only [Form.separated, shaped_all_iff, shaped_cons_iff, shaped_nil_iff, shaped_many_iff]
    at shaped
  obtain ⟨group, _, _, first, ⟨more, _, _, rest, ⟨rfl, rfl⟩, rfl⟩, rfl⟩ := shaped
  obtain ⟨groups, shaped, words, nodes⟩ := exists_groups_of_repetition rest rfl
  refine ⟨group :: groups, List.cons_ne_nil _ _,
    List.forall_mem_cons.mpr ⟨⟨_, _, first⟩, shaped⟩, ?_, ?_⟩
  · rw [List.append_nil, wordsOf_append, words]
    rfl
  · intro phrases
    rw [List.append_nil, Tree.nodesOfAll_append, nodes]
    rfl

/-- If each group is a name, the groups are names. -/
theorem exists_names_of_groups (worded : ts.AreWorded) {groups : List (List Tree)}
    (each : ∀ group ∈ groups, ∃ i j, Shaped ts (.form .name) i group j) :
    ∃ names : List String, (∀ n ∈ names, IsIdentifier n) ∧
      groups.map wordsOf = names.map ([·]) := by
  induction groups with
  | nil => exact ⟨[], by simp, rfl⟩
  | cons group groups ih =>
    obtain ⟨⟨i, j, first⟩, others⟩ := List.forall_mem_cons.mp each
    obtain ⟨token, n, rfl, is, identifier⟩ := exists_identifier_of_shaped worded first
    obtain ⟨names, identifiers, same⟩ := ih others
    refine ⟨n :: names, List.forall_mem_cons.mpr ⟨identifier, identifiers⟩, ?_⟩
    rw [List.map_cons, List.map_cons, same, wordsOf_name is]

/-- The words of a dotted name. -/
theorem exists_names_of_shaped (worded : ts.AreWorded)
    (shaped : Shaped ts (.form (Phrase.form .dottedName)) i parts j) :
    ∃ names : List String, names ≠ [] ∧ (∀ n ∈ names, IsIdentifier n) ∧
      wordsOf parts = separatedBy "." (names.map ([·])) := by
  obtain ⟨groups, grouped⟩ := exists_groups_of_separated shaped
  obtain ⟨names, identifiers, same⟩ := exists_names_of_groups worded grouped.shaped
  refine ⟨names, ?_, identifiers, by rw [grouped.words, same]⟩
  rintro rfl
  exact grouped.some_group (List.map_eq_nil_iff.mp same)

/-- The module is words with dots in between. -/
def IsModule (module : String) : Prop :=
  ∃ names : List String, names ≠ [] ∧ (∀ n ∈ names, IsWord n) ∧
    module = String.ofList (dotted names)

theorem map_separatedBy {f : String → String} {word : String} (kept : f word = word)
    (items : List (List String)) :
    (separatedBy word items).map f = separatedBy word (items.map (·.map f)) := by
  cases items with
  | nil => rfl
  | cons first rest => simp [separatedBy, kept, List.map_flatMap, List.flatMap_map]

theorem join_separatedBy (names : List String) :
    String.join (separatedBy "." (names.map ([·]))) = String.ofList (dotted names) := by
  rw [← String.toList_inj, String.toList_join, String.toList_ofList]
  cases names with
  | nil => rfl
  | cons n names =>
    rw [List.map_cons, separatedBy, dotted, List.map_cons, joinWith_cons_flatMap, List.flatMap_map,
      List.flatMap_map]
    simp [List.flatMap_assoc]

/-- A dotted name stands for the normal forms of its names. -/
theorem meaning_of_wordsOf {s : Phrase} {names : List String}
    (words : wordsOf parts = separatedBy "." (names.map ([·]))) :
    (Tree.node s parts).meaning = String.ofList (dotted (names.map normalForm)) := by
  have joined : (Tree.node s parts).meaning = String.join ((wordsOf parts).map normalForm) := by
    rw [Tree.meaning, wordsOf, List.map_map]
    rfl
  rw [joined, words, map_separatedBy normalForm_dot, List.map_map, ← join_separatedBy, List.map_map]
  rfl

theorem IsIdentifier.isWord_normalForm {n : String} (h : IsIdentifier n) : IsWord (normalForm n) :=
  ⟨normalForm_ne_empty h.1.1, isNameChar_of_mem_normalForm h.1.2⟩

theorem isModule_of_identifiers {names : List String} (some_name : names ≠ [])
    (identifiers : ∀ n ∈ names, IsIdentifier n) :
    IsModule (String.ofList (dotted (names.map normalForm))) := by
  refine ⟨names.map normalForm, by simpa using some_name, fun n mem => ?_, rfl⟩
  obtain ⟨m, hm, rfl⟩ := List.mem_map.mp mem
  exact (identifiers m hm).isWord_normalForm

theorem isModule_of_shaped (worded : ts.AreWorded)
    (shaped : Shaped ts (.form (Phrase.form .dottedName)) i parts j) :
    IsModule (Tree.node .dottedName parts).meaning := by
  obtain ⟨names, some_name, identifiers, words⟩ := exists_names_of_shaped worded shaped
  rw [meaning_of_wordsOf words]
  exact isModule_of_identifiers some_name identifiers

theorem isWord_of_shaped (worded : ts.AreWorded)
    (shaped : Shaped ts (.form (Phrase.form .importedName)) i parts j) :
    IsWord (Tree.node .importedName parts).firstMeaning := by
  cases shaped with
  | token _ admitted => cases admitted
  | all inner =>
    cases inner with
    | @next _ _ _ _ _ more _ name rest =>
      obtain ⟨token, n, rfl, is, identifier⟩ := exists_identifier_of_shaped worded name
      have first : (Tree.node .importedName ([.leaf token] ++ more)).firstSpelling = n := by
        simp [Tree.firstSpelling, Tree.tokens, Tree.tokensOfAll, is, Lexeme.spelling]
      rw [Tree.firstMeaning, first]
      exact identifier.isWord_normalForm

/-! ## Statements -/

/-- What is imported is named by words. -/
def Imported.IsWorded : Imported → Prop
  | .modules all => ∀ m ∈ all, IsModule m
  | .names _ module all => (∀ m, module = some m → IsModule m) ∧ ∀ n ∈ all, IsWord n

theorem isModule_of_mem {shape : Shape} (worded : ts.AreWorded) (shaped : Shaped ts shape i parts j)
    {tree : Tree} (mem : tree ∈ Tree.nodesOfAll [.dottedName] parts) : IsModule tree.meaning := by
  obtain ⟨s, one, _, inner, _, rfl, shaped⟩ := shaped_of_mem_nodesOfAll shaped mem
  obtain rfl := List.mem_singleton.mp one
  exact isModule_of_shaped worded shaped

theorem isWord_of_mem {shape : Shape} (worded : ts.AreWorded) (shaped : Shaped ts shape i parts j)
    {tree : Tree} (mem : tree ∈ Tree.nodesOfAll [.importedName] parts) :
    IsWord tree.firstMeaning := by
  obtain ⟨s, one, _, inner, _, rfl, shaped⟩ := shaped_of_mem_nodesOfAll shaped mem
  obtain rfl := List.mem_singleton.mp one
  exact isWord_of_shaped worded shaped

theorem isWorded_of_imported {s : Phrase} {imported : Imported} (worded : ts.AreWorded)
    (shaped : Shaped ts (.form s.form) i parts j)
    (imports : (Tree.node s parts).imported? = some imported) : imported.IsWorded := by
  unfold Tree.imported? at imports
  split at imports
  · next parts' same =>
    cases same
    cases imports
    intro m hm
    obtain ⟨tree, mem, rfl⟩ := List.mem_map.mp hm
    exact isModule_of_mem worded shaped mem
  · next parts' same =>
    cases same
    cases imports
    constructor
    · intro m first
      obtain ⟨tree, head, rfl⟩ := Option.map_eq_some_iff.mp first
      exact isModule_of_mem worded shaped (List.mem_of_mem_head? head)
    · intro n hn
      obtain ⟨tree, mem, rfl⟩ := List.mem_map.mp hn
      exact isWord_of_mem worded shaped mem
  · cases imports

end

/-- Whatever the text is, its statements name what they import by words. -/
theorem isWorded_of_mem_importsOf {text : List Char} {imports : List Import}
    (read : importsOf text = .ok imports) {i : Import} (mem : i ∈ imports) :
    i.imported.IsWorded := by
  obtain ⟨tree, derived, rfl⟩ := importsOf_eq_ok_iff.mp read
  have worded : Tokens.AreWorded ⟨(tokensOf text).1.toArray, (tokensOf text).2⟩ :=
    fun token present n is => isWord_of_mem_tokensOf (List.mem_toArray.mp present) is
  obtain ⟨node, among, gives⟩ := List.mem_filterMap.mp mem
  have inside : node ∈ Tree.nodesOfAll [.importName, .importFrom] [tree] :=
    List.mem_append_left _ among
  obtain ⟨stop, whole⟩ := shaped_of_derivationOf derived
  obtain ⟨s, -, _, parts, _, rfl, shaped⟩ := shaped_of_mem_nodesOfAll whole inside
  unfold Tree.import? at gives
  split at gives
  · next imported token is _ =>
    cases gives
    exact isWorded_of_imported worded shaped is
  · cases gives

theorem isWorded_of_mem_readImports {text : List Char} {imports : List Import}
    (read : readImports text = .ok imports) {i : Import} (mem : i ∈ imports) :
    i.imported.IsWorded :=
  isWorded_of_mem_importsOf (readImports_eq_ok_iff.mp read).2 mem

end ImportBoundary.Source
