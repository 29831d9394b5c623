import ImportBoundary.Source.Form

/-!
# The grammar of Python sources

One form per phrase. Every phrase starts by reading a token or by asking for a phrase of a higher
rank, never for itself, so reading ends.
-/

namespace ImportBoundary.Source

open Form Phrase

/-- A word that may come first. -/
def maybeAsync : Form :=
  opt "async"

/-- The arguments of a class, if it has any. -/
def bases : Form :=
  opt (all ["(", opt arguments, ")"])

/-- The result of a function, if it is given. -/
def result : Form :=
  opt (all ["->", expression])

/-- The rest of a function after the word that introduces it. -/
def functionRest : List Form :=
  [name, force "(", opt parameters, ")", result, force ":", block]

/-- Items of a `with` statement, as far as a header that lacks something has them. -/
def looseItems (item : Form) : Form :=
  separated "," (all [item, opt (all ["as", starTarget])])

/-- The items of a `with` statement between parentheses, in a header that lacks something. -/
def looseGroup : List Form :=
  [maybeAsync, "with", "(", looseItems expressions, opt ",", ")"]

/-- A parameter is followed by a comma or by the end of the list. -/
def parameterEnd (close : String) : Form :=
  any [",", ahead (.word close)]

/-- A parameter's default. -/
def default_ : Form :=
  all ["=", expression]

/-- The parameters after a star, and those after two. -/
def starParameters (param starred : Form) (close : String) : Form :=
  let plain := all [param, parameterEnd close]
  let either := all [param, opt default_, parameterEnd close]
  let rest := all ["**", param, parameterEnd close]
  any [all ["*", plain, many either, opt rest], all ["*", starred, parameterEnd close, many either,
    opt rest], all ["*", ",", some_ either, opt rest], rest]

/-- A list of parameters up to `close`: those given by place only, before a slash; those given by
place or by name; and those after a star. Once one has a default, so has the next. -/
def parameterList (param starred : Form) (close : String) : Form :=
  let plain := all [param, parameterEnd close]
  let withDefault := all [param, default_, parameterEnd close]
  let tail := opt (starParameters param starred close)
  let slash := any [all ["/", ","], all ["/", ahead (.word close)]]
  any [
    all [some_ plain, slash, many plain, many withDefault, tail],
    all [many plain, some_ withDefault, slash, many withDefault, tail],
    all [some_ plain, many withDefault, tail],
    all [some_ withDefault, tail],
    starParameters param starred close]

/-- A target is part of a longer primary when one of these follows. -/
def targetGoesOn : Form :=
  words ["(", "[", "."]

/-- What makes a primary longer. -/
def trailers : List Form :=
  [all [".", name], generator, all ["(", opt arguments, ")"], all ["[", slices, "]"]]

/-- An attribute or an item of a primary, as a target. -/
def attributeOrItem : List Form :=
  [all [targetPrimary, ".", name, never targetGoesOn],
    all [targetPrimary, "[", slices, "]", never targetGoesOn]]

/-- A number, maybe negative. -/
def signedNumber : Form :=
  any [number, all ["-", number]]

/-- The end of a capture or of a dotted name in a pattern. -/
def nameEnds : Form :=
  never (words [".", "(", "="])

/-- An expression that is not the target of a name's assignment. -/
def unassigned : Form :=
  any [assignedExpression, all [expression, never ":="]]

/-- The form of a phrase among the targets of assignments. -/
def targetForm : Phrase → Form
  | starTargets => any [
      all [starTarget, never ","],
      all [starTarget, many (all [",", starTarget]), opt ","]]
  | starTarget => any [all ["*", never "*", starTarget], any (attributeOrItem ++ [phrase starAtom])]
  | starAtom => any [
      name,
      all ["(", any (attributeOrItem ++ [phrase starAtom]), ")"],
      all ["(", opt (any [
        all [starTarget, some_ (all [",", starTarget]), opt ","],
        all [starTarget, ","]]), ")"],
      all ["[", opt (all [separated "," starTarget, opt ","]), "]"]]
  | targetPrimary => all [atom, ahead targetGoesOn,
      many (all [any trailers, ahead targetGoesOn])]
  | targetItem => any attributeOrItem
  | singleTarget => any [targetItem, name, all ["(", singleTarget, ")"]]
  | deleteTargets => all [separated "," deleteTarget, opt ","]
  | deleteTarget => any (attributeOrItem ++ [
      name,
      all ["(", deleteTarget, ")"],
      all ["(", opt deleteTargets, ")"],
      all ["[", opt deleteTargets, "]"]])
  | _ => any []

/-- The form of a phrase among the expressions and the targets. -/
def expressionForm : Phrase → Form
  | starExpressions => any [
      all [starExpression, some_ (all [",", starExpression]), opt ","],
      all [starExpression, ","],
      starExpression]
  | starExpression => any [all ["*", bitOr], expression]
  | starNamedExpressions => all [separated "," starNamedExpression, opt ","]
  | starNamedExpression => any [all ["*", bitOr], namedExpression]
  | namedExpression => unassigned
  | assignedExpression => all [name, ":=", expression]
  | expressions => any [
      all [expression, some_ (all [",", expression]), opt ","],
      all [expression, ","],
      expression]
  | expression => any [
      all [disjunction, "if", disjunction, "else", expression],
      disjunction,
      lambdaExpression]
  | yieldExpression => any [all ["yield", "from", expression], all ["yield", opt starExpressions]]
  | lambdaExpression => all ["lambda", opt lambdaParameters, ":", expression]
  | disjunction => chain ["or"] conjunction
  | conjunction => chain ["and"] inversion
  | inversion => any [all ["not", inversion], comparison]
  | comparison => all [bitOr, many (all [
      any ["==", "!=", "<=", "<", ">=", ">", all ["not", "in"], "in", all ["is", "not"], "is"],
      bitOr])]
  | bitOr => chain ["|"] bitXor
  | bitXor => chain ["^"] bitAnd
  | bitAnd => chain ["&"] shift
  | shift => chain ["<<", ">>"] sum
  | sum => chain ["+", "-"] term
  | term => chain ["*", "/", "//", "%", "@"] factor
  | factor => any [all [words ["+", "-", "~"], factor], power]
  | power => any [all [awaited, "**", factor], awaited]
  | awaited => any [all ["await", primary], primary]
  | primary => all [atom, many (any trailers)]
  | atom => any [name, "True", "False", "None", some_ text, number,
      all [ahead "(", any [tupleDisplay, group, generator]],
      all [ahead "[", any [listDisplay, listComprehension]],
      all [ahead "\x7b", any [dictDisplay, setDisplay, dictComprehension, setComprehension]],
      "..."]
  | group => all ["(", any [yieldExpression, namedExpression], ")"]
  | tupleDisplay =>
      all ["(", opt (all [starNamedExpression, ",", opt starNamedExpressions]), ")"]
  | listDisplay => all ["[", opt starNamedExpressions, "]"]
  | setDisplay => all ["\x7b", starNamedExpressions, "\x7d"]
  | dictDisplay => all ["\x7b", opt (all [separated "," starredPair, opt ","]), "\x7d"]
  | listComprehension => all ["[", namedExpression, clauses, "]"]
  | setComprehension => all ["\x7b", namedExpression, clauses, "\x7d"]
  | dictComprehension => all ["\x7b", pair, clauses, "\x7d"]
  | generator => all ["(", unassigned, clauses, ")"]
  | clauses => some_ clause
  | clause => all [maybeAsync, "for", starTargets, "in", disjunction,
      many (all ["if", disjunction])]
  | pair => all [expression, ":", expression]
  | starredPair => any [all ["**", bitOr], pair]
  | slices => any [
      all [slice, never ","],
      all [separated "," (any [slice, starred]), opt ","]]
  | slice => any [
      all [opt expression, ":", opt expression, opt (all [":", opt expression])],
      namedExpression]
  | starred => all ["*", expression]
  | arguments => all [any [
        all [separated "," argument, opt (all [",", Phrase.keywords])],
        Phrase.keywords],
      opt ",", ahead ")"]
  | argument => any [starred, all [unassigned, never "="]]
  | keywordStar => any [all [name, "=", expression], starred]
  | keywordDoubleStar => any [all [name, "=", expression], all ["**", expression]]
  | Phrase.keywords => any [
      all [separated "," keywordStar, ",", separated "," keywordDoubleStar],
      separated "," keywordStar,
      separated "," keywordDoubleStar]
  | s => targetForm s

/-- The form of a phrase that is no statement; `match` statements have patterns. -/
def patternForm : Phrase → Form
  | patterns => any [openSequence, pattern]
  | pattern => any [all [orPattern, "as", captureTarget], orPattern]
  | orPattern => separated "|" closedPattern
  | closedPattern => any [
      literalPattern,
      captureTarget,
      "_",
      all [name, ".", dottedPattern, nameEnds],
      all ["(", pattern, ")"],
      sequencePattern,
      mappingPattern,
      classPattern]
  | literalPattern => any [
      all [signedNumber, never (words ["+", "-"])],
      all [signedNumber, words ["+", "-"], number],
      some_ text,
      "None", "True", "False"]
  | captureTarget => all [never "_", name, nameEnds]
  | dottedPattern => separated "." name
  | sequencePattern => any [
      all ["[", opt sequenceItems, "]"],
      all ["(", opt openSequence, ")"]]
  | openSequence => all [sequenceItem, ",", opt sequenceItems]
  | sequenceItems => all [separated "," sequenceItem, opt ","]
  | sequenceItem => any [all ["*", any [captureTarget, "_"]], pattern]
  | mappingPattern =>
      let rest := all ["**", captureTarget, opt ",", "\x7d"]
      any [
        all ["\x7b", "\x7d"],
        all ["\x7b", rest],
        all ["\x7b", separated "," keyPattern, ",", rest],
        all ["\x7b", separated "," keyPattern, opt ",", "\x7d"]]
  | keyPattern => all [any [literalPattern, all [name, ".", dottedPattern]], ":", pattern]
  | classPattern => any [
      all [dottedPattern, "(", ")"],
      all [dottedPattern, "(", separated "," pattern, opt ",", ")"],
      all [dottedPattern, "(", separated "," keywordPattern, opt ",", ")"],
      all [dottedPattern, "(", separated "," pattern, ",", separated "," keywordPattern, opt ",",
        ")"]]
  | keywordPattern => all [name, "=", pattern]
  | s => expressionForm s

/-- The form of a phrase. -/
def Phrase.form : Phrase → Form
  | file => all [opt statements, endMarker]
  | statements => some_ statement
  | statement => any [compound, simpleLine]
  | compound => any [
      all [ahead (words ["def", "@", "async"]), functionDefinition],
      all [ahead "if", ifStatement],
      all [ahead (words ["class", "@"]), classDefinition],
      all [ahead (words ["with", "async"]), withStatement],
      all [ahead (words ["for", "async"]), forStatement],
      all [ahead "try", tryStatement],
      all [ahead "while", whileStatement],
      matchStatement]
  | simpleLine => any [
      all [simple, never ";", newline],
      all [separated ";" simple, opt ";", newline]]
  | simple => any [assignment, starExpressions,
      all [ahead "return", returnStatement],
      all [ahead "import", importName],
      all [ahead "from", importFrom],
      all [ahead "raise", raiseStatement],
      "pass",
      all [ahead "del", deletion],
      all [ahead "yield", yieldExpression],
      all [ahead "assert", assertion],
      "break", "continue",
      all [ahead (words ["global", "nonlocal"]), scopeDeclaration]]
  | block => any [all [newline, indent, statements, dedent], simpleLine,
      explain (all [newline, never indent, refuse .bareBlock])]
  | assignment => any [
      all [name, ":", expression, opt (all ["=", annotatedValue])],
      all [any [all ["(", singleTarget, ")"], targetItem], ":", expression,
        opt (all ["=", annotatedValue])],
      all [some_ (all [starTargets, "="]), annotatedValue, never "="],
      all [singleTarget, augmentedSign, annotatedValue]]
  | annotatedValue => any [yieldExpression, starExpressions]
  | augmentedSign => words ["+=", "-=", "*=", "@=", "/=", "%=", "&=", "|=", "^=", "<<=", ">>=",
      "**=", "//="]
  | returnStatement => all ["return", opt starExpressions]
  | raiseStatement => any [all ["raise", expression, opt (all ["from", expression])], "raise"]
  | deletion => all ["del", deleteTargets, ahead (any [";", newline])]
  | assertion => all ["assert", expression, opt (all [",", expression])]
  | scopeDeclaration => all [words ["global", "nonlocal"], separated "," name]
  | importName => all ["import", moduleNames]
  | moduleNames => separated "," moduleName
  | moduleName => all [dottedName, opt (all ["as", name])]
  | dottedName => separated "." name
  | importFrom => any [
      all ["from", many (words [".", "..."]), dottedName, "import", importTargets],
      all ["from", some_ (words [".", "..."]), "import", importTargets]]
  | importTargets => any [
      all ["(", importedNames, opt ",", ")"],
      all [importedNames, never ","],
      "*",
      explain (all [importedNames, ",", newline, refuse .trailingComma])]
  | importedNames => separated "," importedName
  | importedName => all [name, opt (all ["as", name])]
  | functionDefinition => any [all [decorators, plainFunction], plainFunction]
  | plainFunction => any [
      noBlock [maybeAsync, "def", name, "(", opt parameters, ")", result] "function definition",
      all ("def" :: functionRest),
      all ("async" :: "def" :: functionRest)]
  | classDefinition => any [all [decorators, plainClass], plainClass]
  | plainClass => any [
      noColon ["class", name, bases],
      noBlock ["class", name, bases] "class definition",
      all ["class", name, bases, ":", block]]
  | decorators => some_ (all ["@", namedExpression, newline])
  | parameters => parameterList parameter starParameter ")"
  | lambdaParameters => parameterList name name ":"
  | parameter => all [name, opt (all [":", expression])]
  | starParameter => all [name, ":", starExpression]
  | ifStatement => any [
      noColon ["if", namedExpression],
      noBlock ["if", namedExpression] "'if' statement",
      all ["if", namedExpression, ":", block, elifClause],
      all ["if", namedExpression, ":", block, opt elseClause]]
  | elifClause => any [
      noColon ["elif", namedExpression],
      noBlock ["elif", namedExpression] "'elif' statement",
      all ["elif", namedExpression, ":", block, elifClause],
      all ["elif", namedExpression, ":", block, opt elseClause]]
  | elseClause => any [noBlock ["else"] "'else' statement", all ["else", force ":", block]]
  | whileStatement => any [
      noColon ["while", namedExpression],
      noBlock ["while", namedExpression] "'while' statement",
      all ["while", namedExpression, ":", block, opt elseClause]]
  | forStatement => any [
      noColon [maybeAsync, "for", starTargets, "in", starExpressions],
      noBlock [maybeAsync, "for", starTargets, "in", starExpressions] "'for' statement",
      all [maybeAsync, "for", starTargets, "in", starExpressions, ":", block, opt elseClause]]
  | withStatement => any [
      noBlock [maybeAsync, "with", looseItems expression] "'with' statement",
      noBlock looseGroup "'with' statement",
      all [maybeAsync, "with", "(", separated "," withItem, opt ",", ")", ":", block],
      all [maybeAsync, "with", separated "," withItem, ":", block],
      noColon [maybeAsync, "with", looseItems expression],
      noColon looseGroup]
  | withItem => any [
      all [expression, "as", starTarget, ahead (words [",", ")", ":"])],
      expression]
  | tryStatement => any [
      noBlock ["try"] "'try' statement",
      explain (all ["try", ":", block, never (words ["except", "finally"]), refuse .noHandler]),
      all ["try", force ":", block, finallyClause],
      all ["try", force ":", block, some_ exceptClause, opt elseClause, opt finallyClause],
      all ["try", force ":", block, some_ exceptStarClause, opt elseClause, opt finallyClause]]
  | exceptClause => any [
      noBlock ["except", expression, opt (all ["as", name])] "'except' statement",
      noBlock ["except"] "'except' statement",
      all ["except", expression, opt (all ["as", name]), ":", block],
      all ["except", ":", block],
      noColon ["except", opt "*", expression, opt (all ["as", name])],
      noColon ["except"]]
  | exceptStarClause => any [
      noBlock ["except", "*", expression, opt (all ["as", name])] "'except*' statement",
      all ["except", "*", expression, opt (all ["as", name]), ":", block],
      noColon ["except", opt "*", expression, opt (all ["as", name])],
      noColon ["except"]]
  | finallyClause => any [
      noBlock ["finally"] "'finally' statement",
      all ["finally", force ":", block]]
  | matchStatement => any [
      all ["match", matchSubject, ":", newline, indent, some_ caseClause, dedent],
      noColon ["match", matchSubject],
      noBlock ["match", matchSubject] "'match' statement"]
  | matchSubject => any [
      all [starNamedExpression, ",", opt starNamedExpressions],
      namedExpression]
  | caseClause => any [
      noColon ["case", patterns, opt (all ["if", namedExpression])],
      noBlock ["case", patterns, opt (all ["if", namedExpression])] "'case' statement",
      all ["case", patterns, opt (all ["if", namedExpression]), ":", block]]
  | s => patternForm s

end ImportBoundary.Source
