import ImportBoundary.Source.Grammar
import Std.Data.HashMap

/-!
# Derivations

How the tokens of a source follow from the grammar. A form is run at a token and reads as many tokens
as its parts do (`Form.run`); what a phrase has read at a token is remembered. When no derivation of
the file is found, a second run with the explaining forms looks for what is wrong, and
`derivation` answers the fault: the first that the text itself shows, else the one that an
explaining form found, else that the grammar has no use for the furthest token.
-/

namespace ImportBoundary.Source

/-- What has been read: tokens, and phrases with their parts. -/
inductive Tree
  | leaf (token : Token)
  | node (phrase : Phrase) (parts : List Tree)

/-- The parts that a form has read, the last first, and the number of tokens before what follows. -/
abbrev Reading := Option (List Tree × Nat)

/-- What is known while forms are run: what phrases have read, and the furthest token looked at. -/
structure Progress where
  readings : Std.HashMap (Phrase × Nat) Reading := {}
  furthest : Nat := 0

/-- Why a run ends early: the tokens break off, or something is known to be wrong. -/
inductive Stop
  | broken (cause : Break)
  | wrong (fault : Fault)

/-- The tokens of a source and why there are no more. -/
structure Tokens where
  tokens : Array Token
  broken : Option Break

namespace Tokens

/-- The line of a token. -/
def lineAt (ts : Tokens) (i : Nat) : Nat :=
  (ts.tokens[i]?.map (·.line)).getD 1

/-- The token at `i` is the word. -/
def hasWord (ts : Tokens) (i : Nat) (word : String) : Bool :=
  (ts.tokens[i]?.map fun t => (Form.word word).admits t.lexeme).getD false

/-- The last token of a header that starts at `i`, as far as its keyword goes. -/
def headerLine (ts : Tokens) (i : Nat) : Nat :=
  ts.lineAt (if ts.hasWord i "async" then i + 1 else i)

/-- What a refusal says, for the phrase that starts at the token `start`. -/
def complaintOf (ts : Tokens) (start : Nat) : Refusal → Complaint
  | .colon => .expected ":"
  | .block header => .emptyBlock header (ts.headerLine start)
  | .bareBlock => .bareBlock
  | .trailingComma => .trailingComma
  | .noHandler => .tryWithoutHandler

end Tokens

/-- A run of a form. -/
abbrev Run := EStateM Stop Progress

namespace Run

/-- The token at `i`. Looking at it counts, also when it is not taken. -/
def look (ts : Tokens) (i : Nat) : Run (Option Token) := do
  modify fun p => { p with furthest := max p.furthest i }
  match ts.tokens[i]?, ts.broken with
  | none, some cause => throw (.broken cause)
  | token, _ => return token

/-- Takes a token of a form's class. -/
def take (ts : Tokens) (form : Form) (i : Nat) : Run Reading := do
  match ← look ts i with
  | some token => return if form.admits token.lexeme then some ([.leaf token], i + 1) else none
  | none => return none

/-- Reads forms one after the other. -/
def sequence (read : Form → Nat → Run Reading) (taken : List Tree) (i : Nat) :
    List Form → Run Reading
  | [] => return some (taken, i)
  | form :: forms => do
    match ← read form i with
    | none => return none
    | some (parts, j) => sequence read (parts ++ taken) j forms

/-- Reads the first form that can be read. -/
def choice (read : Form → Nat → Run Reading) (i : Nat) : List Form → Run Reading
  | [] => return none
  | form :: forms => do
    match ← read form i with
    | none => choice read i forms
    | some reading => return some reading

/-- Reads a form as often as possible, at most `count` times. -/
def repetition (read : Nat → Run Reading) (taken : List Tree) (i : Nat) : Nat → Run Reading
  | 0 => return some (taken, i)
  | count + 1 => do
    match ← read i with
    | none => return some (taken, i)
    | some (parts, j) =>
      if j ≤ i then return some (taken, i) else repetition read (parts ++ taken) j count

/-- Reads a phrase, or recalls what it has read at the token. -/
def remembered (phrase : Phrase) (i : Nat) (read : Run Reading) : Run Reading := do
  match (← get).readings[(phrase, i)]? with
  | some reading => return reading
  | none =>
    let reading := (← read).map fun (parts, j) => ([Tree.node phrase parts.reverse], j)
    modify fun p => { p with readings := p.readings.insert (phrase, i) reading }
    return reading

end Run

/-- Runs a form at the token `i`, within a phrase that starts at the token `start`. Only an
explaining run uses the explaining forms. `depth` bounds how deep forms lie in each other. -/
def Form.run (ts : Tokens) (explaining : Bool) : Nat → Nat → Form → Nat → Run Reading
  | 0, _, _, _ => return none
  | depth + 1, start, form, i => do
    let read := run ts explaining depth start
    match form with
    | .phrase s => Run.remembered s i (run ts explaining depth i s.form i)
    | .all forms => Run.sequence read [] i forms
    | .any forms => Run.choice read i forms
    | .opt form => return some ((← read form i).getD ([], i))
    | .many form => Run.repetition (read form) [] i (ts.tokens.size + 1)
    | .ahead form => return (← read form i).map fun _ => ([], i)
    | .never form => return if (← read form i).isNone then some ([], i) else none
    | .force what =>
      match ← Run.take ts (.word what) i with
      | some reading => return some reading
      | none => throw (.wrong ⟨.expected what, ts.lineAt i⟩)
    | .explain form => if explaining then read form i else return none
    | .refuse reason =>
      throw (.wrong ⟨ts.complaintOf start reason, ts.lineAt (← get).furthest⟩)
    | leaf => Run.take ts leaf i

/-- More forms than lie in each other between two tokens. -/
def formsPerToken : Nat := 1000

/-- Runs the grammar's file from the first token on. -/
def runFile (ts : Tokens) (explaining : Bool) : Run Reading :=
  Form.run ts explaining (formsPerToken * (ts.tokens.size + 2)) 0 (.phrase .file) 0

/-- A fault that was found, unless the text breaks off for a better reason: it is malformed, or a
bracket has been open since before the furthest line. -/
def preferBreak (ts : Tokens) (furthest : Nat) (fault : Fault) : Fault :=
  match ts.broken with
  | none => fault
  | some cause =>
    if cause.loud then cause.fault
    else
      match cause.bracket with
      | some b =>
        if b.line < ts.lineAt furthest then ⟨.neverClosed b.opening, b.line⟩ else fault
      | none => fault

/-- What is wrong where the grammar has no use for the token `first`. -/
def misplaced (ts : Tokens) (first furthest : Nat) : Fault :=
  match (ts.tokens[first]?.map (·.lexeme) : Option Lexeme) with
  | some .indent => ⟨.unexpectedIndent, ts.lineAt furthest⟩
  | some .dedent => ⟨.unexpectedDedent, ts.lineAt furthest⟩
  | _ => preferBreak ts furthest ⟨.invalidGrammar, ts.lineAt first⟩

/-- The fault of a run that ended early. -/
def stopFault (ts : Tokens) (furthest : Nat) : Stop → Fault
  | .broken cause => cause.fault
  | .wrong fault => preferBreak ts furthest fault

/-- The derivation of a file from its tokens, or what is wrong with it. -/
def derivationOf (ts : Tokens) : Except Fault Tree :=
  match (runFile ts false).run {} with
  | .ok (some (tree :: _, _)) _ => .ok tree
  | .error stop p => .error (stopFault ts p.furthest stop)
  | .ok _ p =>
    match (runFile ts true).run { furthest := p.furthest } with
    | .error stop q => .error (stopFault ts q.furthest stop)
    | .ok _ q => .error (misplaced ts p.furthest q.furthest)

/-- The derivation of a source, whose lines end with newlines only. -/
def derivation (text : List Char) : Except Fault Tree :=
  let (tokens, broken) := tokensOf text
  derivationOf ⟨tokens.toArray, broken⟩

end ImportBoundary.Source
