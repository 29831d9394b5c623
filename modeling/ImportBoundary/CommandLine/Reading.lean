import ImportBoundary.CommandLine.Parameter
import ImportBoundary.CommandLine.Similarity

/-!
# Reading a command line

The words of a command line are options, the values of options and arguments, in any order; after
`--` all words are arguments. What is given is checked in the order in which it was given, and what
is missing is noticed last.
-/

namespace ImportBoundary.CommandLine

/-- Why a command line is refused. -/
inductive UsageFault
  | noOption (name : String) (close : List String)
  | noCommand (name : String) (close : List String)
  | commandMissing
  | valueMissing (name : String)
  | valueUnexpected (name : String)
  | parameterMissing (p : Parameter)
  | badValue (p : Parameter) (fault : ValueFault)
  | tooManyArguments (words : List String)
  deriving DecidableEq, Repr

namespace UsageFault

/-- The words that may have been meant. -/
def suggestion : List String → String
  | [] => ""
  | [word] => s!" Did you mean {Text.quoted word}?"
  | words =>
    let listed := ", ".intercalate ((words.mergeSort (· ≤ ·)).map Text.quoted)
    s!" (Possible options: {listed})"

def message : UsageFault → String
  | .noOption name close => s!"No such option {Text.quoted name}.{suggestion close}"
  | .noCommand name close => s!"No such command {Text.quoted name}.{suggestion close}"
  | .commandMissing => "Missing command."
  | .valueMissing name => s!"Option {Text.quoted name} requires an argument."
  | .valueUnexpected name => s!"Option {Text.quoted name} does not take a value."
  | .parameterMissing p =>
    let kind := if p.names.isEmpty then "argument" else "option"
    s!"Missing {kind} '{p.label}'."
  | .badValue p fault => s!"Invalid value for '{p.label}': {fault.message}"
  | .tooManyArguments words =>
    let plural := if words.length = 1 then "" else "s"
    let listed := " ".intercalate words
    s!"Got unexpected extra argument{plural} ({listed})"

/-- The message stands for itself, without a reminder of the usage. -/
def isBare : UsageFault → Bool
  | .valueMissing _ | .valueUnexpected _ => true
  | _ => false

end UsageFault

/-- The words of a command line: options with their values as they were given, and arguments. -/
structure Words where
  options : List (Parameter × String) := []
  arguments : List String := []
  deriving DecidableEq, Repr

namespace Words

/-- One more option. -/
def withOption (w : Words) (p : Parameter) (value : String) : Words :=
  { w with options := w.options ++ [(p, value)] }

/-- More arguments. -/
def withArguments (w : Words) (arguments : List String) : Words :=
  { w with arguments := w.arguments ++ arguments }

/-- The value of an option: the last one given. -/
def value? (w : Words) (p : Parameter) : Option String :=
  w.options.reverse.lookup p

end Words

/-- A word that starts with a dash and goes on. -/
def isOptionWord (word : String) : Bool :=
  match word.toList with
  | '-' :: _ :: _ => true
  | _ => false

/-- The name of an option and the value after an equals sign, if there is one. -/
def splitOption (word : String) : String × Option String :=
  let name := word.toList.takeWhile (· ≠ '=')
  match word.toList.drop name.length with
  | _ :: value => (String.ofList name, some (String.ofList value))
  | [] => (word, none)

/-- The options of single letters in a word: none of them takes a value. -/
def readLetters (c : Command) (w : Words) : List Char → Except UsageFault Words
  | [] => .ok w
  | letter :: letters =>
    let name := String.ofList ['-', letter]
    match c.option? name with
    | some p => readLetters c (w.withOption p "") letters
    | none => .error (.noOption name [])

/-- The words of a command line of a command. `main` takes its first argument for a command, and
leaves everything after it alone. -/
def readWords (c : Command) (w : Words) : List String → Except UsageFault Words
  | [] => .ok w
  | word :: rest =>
    if word = "--" then .ok (w.withArguments rest)
    else if isOptionWord word then
      let (name, attached) := splitOption word
      if c.longNames.contains name then
        match c.option? name, attached with
        | none, _ => .error (.noOption name [])
        | some p, some value =>
          if p.takesValue then readWords c (w.withOption p value) rest
          else .error (.valueUnexpected name)
        | some p, none =>
          if p.takesValue then
            match rest with
            | value :: rest => readWords c (w.withOption p value) rest
            | [] => .error (.valueMissing name)
          else readWords c (w.withOption p "") rest
      else if "--".toList.isPrefixOf word.toList then
        .error (.noOption name (closeMatches name c.longNames))
      else
        match readLetters c w (word.toList.drop 1) with
        | .ok w => readWords c w rest
        | .error fault => .error fault
    else if c = .main then .ok (w.withArguments (word :: rest))
    else readWords c (w.withArguments [word]) rest

/-- The parameters in the order in which they are checked: as given, then the argument, then the
others. -/
def checkOrder (c : Command) (w : Words) : List Parameter :=
  (w.options.map (·.1) ++ c.argument?.toList ++ c.parameters).eraseDups

/-- What has been given for a parameter. -/
def valuesOf (c : Command) (w : Words) (p : Parameter) : List String :=
  if c.argument? = some p then (if p = .sources then w.arguments else w.arguments.take 1)
  else (w.value? p).toList

/-- What has been given for a parameter is there if it has to be, and can be used. -/
def checkParameter (fs : FileSystem) (c : Command) (w : Words) (p : Parameter) :
    Except UsageFault Unit :=
  match valuesOf c w p with
  | [] => if p.isRequired then .error (.parameterMissing p) else .ok ()
  | values => (values.forM fun value => p.check fs value).mapError (.badValue p)

/-- The arguments that a command has no use for. -/
def extraArguments (c : Command) (w : Words) : List String :=
  match c.argument? with
  | some .policyFile => w.arguments.drop 1
  | _ => []

/-- Everything that has been given can be used, and nothing is missing. -/
def checkWords (fs : FileSystem) (c : Command) (w : Words) : Except UsageFault Unit := do
  (checkOrder c w).forM (checkParameter fs c w)
  match extraArguments c w with
  | [] => return ()
  | words => throw (.tooManyArguments words)

end ImportBoundary.CommandLine
