import ImportBoundary.Source.Token

/-!
# Forms

A grammar gives each of its phrases a form: which tokens, or other phrases, it is made of. Choices
are ordered, and repetition takes as much as it can; so a form is a program that reads tokens, and
what it reads is determined. Some forms only serve to explain why a text cannot be read.
-/

namespace ImportBoundary.Source

/-- The phrases of the grammar. -/
inductive Phrase
  | file | statements | statement | compound | simpleLine | simple | block
  | assignment | annotatedValue | augmentedSign | returnStatement | raiseStatement | deletion
  | assertion | scopeDeclaration
  | importName | importFrom | importTargets | importedNames | importedName | moduleNames
  | moduleName | dottedName
  | functionDefinition | plainFunction | classDefinition | plainClass | decorators | parameters
  | lambdaParameters | parameter | starParameter
  | ifStatement | elifClause | elseClause | whileStatement | forStatement | withStatement
  | withItem | tryStatement | exceptClause | exceptStarClause | finallyClause
  | matchStatement | matchSubject | caseClause | patterns | pattern | orPattern | closedPattern
  | literalPattern | captureTarget | dottedPattern | sequencePattern | openSequence
  | sequenceItems | sequenceItem | mappingPattern | keyPattern | classPattern | keywordPattern
  | starExpressions | starExpression | starNamedExpressions | starNamedExpression
  | namedExpression | assignedExpression | expressions | expression | yieldExpression
  | lambdaExpression | disjunction | conjunction | inversion | comparison
  | bitOr | bitXor | bitAnd | shift | sum | term | factor | power | awaited | primary | atom
  | group | tupleDisplay | listDisplay | setDisplay | dictDisplay
  | listComprehension | setComprehension | dictComprehension | generator | clauses | clause
  | pair | starredPair | slices | slice | starred | arguments | argument | keywordStar
  | keywordDoubleStar | keywords
  | starTargets | starTarget | starAtom | targetPrimary | targetItem | singleTarget
  | deleteTargets | deleteTarget
  deriving DecidableEq, Hashable, Repr

/-- What a form finds wrong with a text. `block` names what a block is missing after. -/
inductive Refusal
  | colon
  | block (header : String)
  | bareBlock
  | trailingComma
  | noHandler
  deriving DecidableEq, Repr

/-- A program that reads tokens. -/
inductive Form
  | word (text : String)
  | name
  | number
  | text
  | newline
  | indent
  | dedent
  | endMarker
  | phrase (s : Phrase)
  | all (forms : List Form)
  | any (forms : List Form)
  | opt (form : Form)
  | many (form : Form)
  | ahead (form : Form)
  | never (form : Form)
  | force (text : String)
  | explain (form : Form)
  | refuse (reason : Refusal)

namespace Form

instance : Coe String Form := ⟨.word⟩

instance : Coe Phrase Form := ⟨.phrase⟩

/-- The form once or more often. -/
def some_ (form : Form) : Form :=
  .all [form, .many form]

/-- The form once or more often, with a word in between. -/
def separated (word : String) (form : Form) : Form :=
  .all [form, .many (.all [.word word, form])]

/-- One of some words. -/
def words (texts : List String) : Form :=
  .any (texts.map .word)

/-- Operands with operators of one rank between them. -/
def chain (operators : List String) (operand : Form) : Form :=
  .all [operand, .many (.all [words operators, operand])]

/-- A line that lacks its colon. -/
def noColon (header : List Form) : Form :=
  .explain (.all (header ++ [.newline, .refuse .colon]))

/-- A header without the block that belongs to it. -/
def noBlock (header : List Form) (what : String) : Form :=
  .explain (.all (header ++ [.word ":", .newline, .never .indent, .refuse (.block what)]))

end Form

/-- The words that are no names. -/
def keywords : List String :=
  ["False", "None", "True", "and", "as", "assert", "async", "await", "break", "class", "continue",
    "def", "del", "elif", "else", "except", "finally", "for", "from", "global", "if", "import",
    "in", "is", "lambda", "nonlocal", "not", "or", "pass", "raise", "return", "try", "while",
    "with", "yield"]

/-- The token is a single token of the form's class. Compound forms are no classes. -/
def Form.admits (form : Form) (l : Lexeme) : Bool :=
  match form, l with
  | .word w, .name s => s == w
  | .word w, .op s => s == w
  | .name, .name s => !keywords.contains s
  | .number, .number | .text, .text | .newline, .newline | .indent, .indent | .dedent, .dedent
  | .endMarker, .endMarker => true
  | _, _ => false

end ImportBoundary.Source
