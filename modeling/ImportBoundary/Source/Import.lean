import ImportBoundary.Source.Derivation
import ImportBoundary.Text.NormalForm

/-!
# Import statements

The import statements of a source, in the order of the text, wherever they stand in it. However a name is
spelled, it stands for its normal form, even if that is a keyword.
-/

namespace ImportBoundary.Source

open Text

/-- What a statement imports. -/
inductive Imported
  /-- Modules by their dotted names. -/
  | modules (names : List String)
  /-- Names from a module, or from the directory `level` steps up, the source's own being the first
  step. No names stand for all of them. -/
  | names (level : Nat) (module : Option String) (names : List String)
  deriving DecidableEq, Repr

/-- An import statement and where it starts. -/
structure Import where
  line : Nat
  column : Nat
  imported : Imported
  deriving DecidableEq, Repr

/-- The text of a name or an operator; empty for other tokens. -/
def Lexeme.spelling : Lexeme → String
  | .name s => s
  | .op s => s
  | _ => ""

namespace Tree

mutual

/-- The tokens of a tree. -/
def tokens : Tree → List Token
  | .leaf token => [token]
  | .node _ parts => tokensOfAll parts

/-- The tokens of some trees. -/
def tokensOfAll : List Tree → List Token
  | [] => []
  | tree :: trees => tokens tree ++ tokensOfAll trees

end

mutual

/-- The outermost nodes of some phrases. -/
def nodes (phrases : List Phrase) : Tree → List Tree
  | .leaf _ => []
  | .node phrase parts =>
    if phrases.contains phrase then [.node phrase parts] else nodesOfAll phrases parts

/-- The outermost nodes of some phrases in some trees. -/
def nodesOfAll (phrases : List Phrase) : List Tree → List Tree
  | [] => []
  | tree :: trees => nodes phrases tree ++ nodesOfAll phrases trees

end

/-- What the tokens of a tree stand for, without anything between them. -/
def meaning (tree : Tree) : String :=
  String.join (tree.tokens.map fun token => normalForm token.lexeme.spelling)

/-- The first token of a tree. -/
def firstSpelling (tree : Tree) : String :=
  (tree.tokens.head?.map (·.lexeme.spelling)).getD ""

/-- What the first token of a tree stands for. -/
def firstMeaning (tree : Tree) : String :=
  normalForm tree.firstSpelling

/-- How many directories the dots before the word `import` go up. -/
def level (parts : List Tree) : Nat :=
  let dots := parts.filterMap fun part =>
    match part with
    | .leaf token => some token.lexeme.spelling.toList
    | .node _ _ => none
  (dots.flatten.filter (· = '.')).length

/-- What an import statement imports. -/
def imported? : Tree → Option Imported
  | .node .importName parts =>
    some (.modules ((nodesOfAll [.dottedName] parts).map meaning))
  | .node .importFrom parts =>
    some (.names (level parts) ((nodesOfAll [.dottedName] parts).head?.map meaning)
      ((nodesOfAll [.importedName] parts).map firstMeaning))
  | _ => none

/-- The import statement of a node. -/
def import? (tree : Tree) : Option Import :=
  match tree.imported?, tree.tokens.head? with
  | some imported, some token => some ⟨token.line, token.column, imported⟩
  | _, _ => none

/-- The import statements of a tree. -/
def imports (tree : Tree) : List Import :=
  (tree.nodes [.importName, .importFrom]).filterMap import?

end Tree

/-- The import statements of a source, whose lines end with newlines only. -/
def importsOf (text : List Char) : Except Fault (List Import) :=
  (derivation text).map Tree.imports

end ImportBoundary.Source
