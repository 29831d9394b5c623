import ImportBoundary.Proofs.Source.Derived

/-!
# The parts of a derivation

A derivation holds every token that was read once, in the order of the tokens (`tokens_of_shaped`), and
so the phrases in it come one behind the other. An import statement has no statement in it
(`filter_isImport_within`), so the outermost import statements of a derivation are all that there are,
however deep they lie (`nodes_eq_filter`).
-/

namespace ImportBoundary.Source

/-! ## Definition -/

namespace Tree

mutual

/-- A tree and all that is in it, in the order of the text. -/
def within : Tree → List Tree
  | .leaf token => [.leaf token]
  | .node phrase parts => .node phrase parts :: withinAll parts

/-- Some trees and all that is in them. -/
def withinAll : List Tree → List Tree
  | [] => []
  | tree :: trees => within tree ++ withinAll trees

end

/-- The tree is an import statement. -/
def isImport : Tree → Bool
  | .node .importName _ => true
  | .node .importFrom _ => true
  | _ => false

/-- The tree is the phrase. -/
def IsPhrase (s : Phrase) (tree : Tree) : Prop :=
  ∃ parts, tree = .node s parts

theorem withinAll_append (trees more : List Tree) :
    withinAll (trees ++ more) = withinAll trees ++ withinAll more := by
  induction trees with
  | nil => rfl
  | cons tree trees ih => simp only [List.cons_append, withinAll, ih, List.append_assoc]

end Tree

namespace Form

section

variable {α : Type} (pick : Form → List α)

mutual

/-- What is picked from the forms that read something of their own, within a form. -/
def gather : Form → List α
  | .all forms => gatherAll forms
  | .any forms => gatherAll forms
  | .opt form => gather form
  | .many form => gather form
  | .explain form => gather form
  | .ahead _ => []
  | .never _ => []
  | form => pick form

/-- What is picked from some forms. -/
def gatherAll : List Form → List α
  | [] => []
  | form :: forms => gather form ++ gatherAll forms

end

theorem gather_subset {form : Form} {forms : List Form} (mem : form ∈ forms) :
    gather pick form ⊆ gatherAll pick forms := by
  induction forms with
  | nil => cases mem
  | cons first forms ih =>
    rw [gatherAll]
    rcases List.mem_cons.mp mem with rfl | later
    · exact List.subset_append_left _ _
    · exact List.Subset.trans (ih later) (List.subset_append_right _ _)

end

/-- The form as a phrase. -/
def asPhrase : Form → List Phrase
  | .phrase s => [s]
  | _ => []

/-- The form as a word. -/
def asWord : Form → List String
  | .word w => [w]
  | .force w => [w]
  | _ => []

/-- The phrases that a form asks for. -/
def phrases (form : Form) : List Phrase :=
  form.gather asPhrase

/-- The words that a form takes by their text. -/
def texts (form : Form) : List String :=
  form.gather asWord

end Form

namespace Shape

/-- What is picked within a shape. -/
def gather {α : Type} (pick : Form → List α) : Shape → List α
  | .form f => f.gather pick
  | .sequence fs => Form.gatherAll pick fs
  | .repetition f => f.gather pick

/-- The phrases that a shape asks for. -/
def phrases (shape : Shape) : List Phrase :=
  shape.gather Form.asPhrase

/-- The words that a shape takes by their text. -/
def texts (shape : Shape) : List String :=
  shape.gather Form.asWord

end Shape

section

variable {ts : Tokens} {shape : Shape} {i j : Nat} {parts : List Tree}

/-! ## Tokens -/

/-- What has been read are the tokens between the first and the last. -/
theorem tokens_of_shaped (shaped : Shaped ts shape i parts j) :
    ts.tokens.toList.take i ++ Tree.tokensOfAll parts = ts.tokens.toList.take j := by
  induction shaped with
  | @token form token i present admitted | @forced what token i present admitted =>
    rw [← Array.getElem?_toList] at present
    rw [List.take_add_one, present]
    rfl
  | phrase _ ih => simpa [Tree.tokensOfAll, Tree.tokens] using ih
  | left | ahead | never | done | ended => exact List.append_nil _
  | all _ ih | any _ _ ih | opt _ ih | many _ ih | explain _ ih => exact ih
  | next _ _ first rest | again _ _ first rest =>
    rw [Tree.tokensOfAll_append, ← List.append_assoc, first, rest]

/-- The first tokens of some phrases come in the order of the text. -/
theorem heads_sublist (shaped : Shaped ts shape i parts j) (phrases : List Phrase) :
    ((Tree.nodesOfAll phrases parts).filterMap fun tree => tree.tokens.head?).Sublist
      (Tree.tokensOfAll parts) := by
  induction shaped with
  | token | forced | left | ahead | never | done | ended => exact List.nil_sublist _
  | @phrase s _ inner _ _ ih =>
    simp only [Tree.nodesOfAll, Tree.nodes, List.append_nil, Tree.tokensOfAll, Tree.tokens]
    split
    · have whole : (Tree.node s inner).tokens = Tree.tokensOfAll inner := rfl
      cases tokens : Tree.tokensOfAll inner with
      | nil => simp [whole, tokens]
      | cons token rest => simp [whole, tokens]
    · exact ih
  | all _ ih | any _ _ ih | opt _ ih | many _ ih | explain _ ih => exact ih
  | next _ _ first rest | again _ _ first rest =>
    rw [Tree.nodesOfAll_append, Tree.tokensOfAll_append, List.filterMap_append]
    exact first.append rest

/-! ## Statements -/

/-- Where no phrase asks for any but these, there are no others. -/
theorem isPhrase_of_mem_withinAll {among : List Phrase}
    (closed : ∀ s ∈ among, (Phrase.form s).phrases ⊆ among)
    (shaped : Shaped ts shape i parts j) (asks : shape.phrases ⊆ among)
    {s : Phrase} {tree : Tree} (mem : tree ∈ Tree.withinAll parts) (is : tree.IsPhrase s) :
    s ∈ among := by
  induction shaped with
  | token | forced =>
    obtain ⟨inner, rfl⟩ := is
    simp [Tree.withinAll, Tree.within] at mem
  | left | ahead | never | done | ended => cases mem
  | @phrase s' _ inner _ _ ih =>
    have here : s' ∈ among := asks (List.mem_singleton_self s')
    simp only [Tree.withinAll, Tree.within, List.append_nil, List.mem_cons] at mem
    rcases mem with rfl | inside
    · obtain ⟨_, same⟩ := is
      cases same
      exact here
    · exact ih (closed s' here) inside
  | all _ ih | opt _ ih | many _ ih | explain _ ih => exact ih asks mem
  | any among' _ ih => exact ih (List.Subset.trans (Form.gather_subset _ among') asks) mem
  | next _ _ first rest =>
    obtain ⟨asksFirst, asksRest⟩ := List.append_subset.mp asks
    rw [Tree.withinAll_append] at mem
    exact (List.mem_append.mp mem).elim (first asksFirst) (rest asksRest)
  | again _ _ first rest =>
    rw [Tree.withinAll_append] at mem
    exact (List.mem_append.mp mem).elim (first asks) (rest asks)

theorem mem_withinAll (shaped : Shaped ts shape i parts j) {phrases : List Phrase} {tree : Tree}
    (mem : tree ∈ Tree.nodesOfAll phrases parts) : tree ∈ Tree.withinAll parts := by
  induction shaped with
  | token | forced | left | ahead | never | done | ended => cases mem
  | @phrase s _ inner _ _ ih =>
    simp only [Tree.nodesOfAll, Tree.nodes, List.append_nil] at mem
    simp only [Tree.withinAll, Tree.within, List.append_nil]
    split at mem
    · exact List.mem_cons.mpr (.inl (List.mem_singleton.mp mem))
    · exact List.mem_cons_of_mem _ (ih mem)
  | all _ ih | any _ _ ih | opt _ ih | many _ ih | explain _ ih => exact ih mem
  | next _ _ first rest | again _ _ first rest =>
    rw [Tree.nodesOfAll_append] at mem
    rw [Tree.withinAll_append]
    exact List.mem_append.mpr ((List.mem_append.mp mem).imp first rest)

/-- Where no phrase asks for any but these, none of the others is found. -/
theorem nodesOfAll_eq_nil (among : List Phrase) {phrases : List Phrase}
    (closed : ∀ s ∈ among, (Phrase.form s).phrases ⊆ among)
    (shaped : Shaped ts shape i parts j) (asks : shape.phrases ⊆ among)
    (others : ∀ s ∈ phrases, s ∉ among) : Tree.nodesOfAll phrases parts = [] := by
  rw [List.eq_nil_iff_forall_not_mem]
  intro tree mem
  obtain ⟨s, one, _, inner, _, rfl, -⟩ := shaped_of_mem_nodesOfAll shaped mem
  exact others s one (isPhrase_of_mem_withinAll closed shaped asks (mem_withinAll shaped mem) ⟨_, rfl⟩)

/-- There is no import statement within another one. -/
theorem filter_isImport_within {s : Phrase} (imports : s = .importName ∨ s = .importFrom)
    (shaped : Shaped ts (.form s.form) i parts j) :
    (Tree.withinAll parts).filter Tree.isImport = [] := by
  let among : List Phrase :=
    [.moduleNames, .moduleName, .dottedName, .importTargets, .importedNames, .importedName]
  have closed : ∀ s ∈ among, (Phrase.form s).phrases ⊆ among := by decide
  have asks : (Shape.form s.form).phrases ⊆ among := by
    rcases imports with rfl | rfl <;> decide
  rw [List.filter_eq_nil_iff]
  intro tree mem is
  have none : Phrase.importName ∉ among ∧ Phrase.importFrom ∉ among := by decide
  unfold Tree.isImport at is
  split at is
  · exact none.1 (isPhrase_of_mem_withinAll closed shaped asks mem ⟨_, rfl⟩)
  · exact none.2 (isPhrase_of_mem_withinAll closed shaped asks mem ⟨_, rfl⟩)
  · cases is

/-- The outermost import statements are all that there are. -/
theorem nodes_eq_filter (shaped : Shaped ts shape i parts j) :
    Tree.nodesOfAll [.importName, .importFrom] parts =
      (Tree.withinAll parts).filter Tree.isImport := by
  induction shaped with
  | token | forced | left | ahead | never | done | ended => rfl
  | @phrase s _ inner _ shaped ih =>
    simp only [Tree.nodesOfAll, Tree.nodes, List.append_nil, Tree.withinAll, Tree.within]
    by_cases imports : s = .importName ∨ s = .importFrom
    · have outermost : [Phrase.importName, .importFrom].contains s = true := by
        rcases imports with rfl | rfl <;> rfl
      have is : (Tree.node s inner).isImport = true := by
        rcases imports with rfl | rfl <;> rfl
      rw [if_pos outermost, List.filter_cons_of_pos is, filter_isImport_within imports shaped]
    · have outermost : ¬ [Phrase.importName, .importFrom].contains s = true := by
        simpa using imports
      have is : ¬ (Tree.node s inner).isImport = true := by
        unfold Tree.isImport
        split
        · next same =>
          cases same
          exact absurd (.inl rfl) imports
        · next same =>
          cases same
          exact absurd (.inr rfl) imports
        · decide
      rw [if_neg outermost, List.filter_cons_of_neg is, ih]
  | all _ ih | any _ _ ih | opt _ ih | many _ ih | explain _ ih => exact ih
  | next _ _ first rest | again _ _ first rest =>
    rw [Tree.nodesOfAll_append, Tree.withinAll_append, List.filter_append, first, rest]

end

end ImportBoundary.Source
