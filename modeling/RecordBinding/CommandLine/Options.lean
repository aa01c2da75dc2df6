import RecordBinding.Text.Digit

namespace RecordBinding.CommandLine

/-- An option: its names, and whether it takes a value. An option without a value asks for help. -/
structure Flag where
  names : List String
  takesValue : Bool
  deriving DecidableEq, Repr

/-- How parsing may end early: with help, or with a complaint about the usage. -/
inductive EarlyEnd where
  | help
  | usage
  deriving DecidableEq, Repr

/-- What stands behind the name of an option in one word with it: nothing, a value behind an equals sign,
or a value right behind a single letter. -/
inductive Attachment where
  | nothing
  | equals (value : String)
  | behind (value : String)
  deriving DecidableEq, Repr

def Attachment.value? : Attachment → Option String
  | nothing => none
  | equals value => some value
  | behind value => some value

/-- What a word of the command line is: an option with the name that it was recognised by and what is
attached to it, an option that nobody knows, a plain argument, or the two dashes. -/
inductive Word where
  | flag (f : Flag) (name : String) (attached : Attachment)
  | unknown
  | argument
  | dashes

def splitEquals (word : List Char) : List Char × Option (List Char) :=
  match word.dropWhile (· ≠ '=') with
  | _ :: value => (word.takeWhile (· ≠ '='), some value)
  | [] => (word, none)

def flagNamed? (flags : List Flag) (name : String) : Option Flag :=
  flags.find? fun f => f.names.contains name

def allNames (flags : List Flag) : List (String × Flag) :=
  flags.flatMap fun f => f.names.map fun name => (name, f)

/-- The options that a word with two dashes may abbreviate. -/
def longMatches (flags : List Flag) (word : List Char) : List Word :=
  let (start, value) := splitEquals word
  ((allNames flags).filter fun entry => start.isPrefixOf entry.1.toList).map fun entry =>
    .flag entry.2 entry.1 ((value.map fun cs => .equals (String.ofList cs)).getD .nothing)

/-- The options that a word with one dash may be: one of a single letter with its value behind it, or the
beginning of a name. -/
def shortMatches (flags : List Flag) (word : List Char) : List Word :=
  (allNames flags).filterMap fun entry =>
    if entry.1.toList = word.take 2 then
      some (.flag entry.2 entry.1 (.behind (String.ofList (word.drop 2))))
    else if word.isPrefixOf entry.1.toList then some (.flag entry.2 entry.1 .nothing)
    else none

/-- Whether a word is a negative number, in digits of any script, which is no option. A line break behind it
does not count. -/
def isNegativeNumber (word : List Char) : Bool :=
  let isDigit := fun c => (Text.digitValue? c).isSome
  let line := if word.getLast? = some '\n' then word.dropLast else word
  match line with
  | '-' :: rest =>
      match rest.dropWhile isDigit with
      | [] => !rest.isEmpty
      | '.' :: digits => !digits.isEmpty && digits.all isDigit
      | _ => false
  | _ => false

/-- What a word is that starts with a dash and is not the name of an option. -/
def readDashed (flags : List Flag) (word : List Char) : Except EarlyEnd Word :=
  let found :=
    match word with
    | '-' :: '-' :: _ => longMatches flags word
    | _ => shortMatches flags word
  match found with
  | [w] => .ok w
  | _ :: _ :: _ => .error .usage
  | [] =>
      if isNegativeNumber word || word.contains ' ' then .ok .argument else .ok .unknown

def readWord (flags : List Flag) (word : String) : Except EarlyEnd Word :=
  match word.toList with
  | '-' :: c :: rest =>
      match flagNamed? flags word with
      | some f => .ok (.flag f word .nothing)
      | none =>
          let (start, value) := splitEquals ('-' :: c :: rest)
          match value, flagNamed? flags (String.ofList start) with
          | some value, some f => .ok (.flag f (String.ofList start) (.equals (String.ofList value)))
          | _, _ => readDashed flags ('-' :: c :: rest)
  | _ => .ok .argument

/-- The words of a command line, all arguments behind two dashes. -/
def readWords (flags : List Flag) : List String → Except EarlyEnd (List (String × Word))
  | [] => .ok []
  | word :: rest =>
      if word = "--" then .ok ((word, .dashes) :: rest.map fun other => (other, .argument))
      else do
        let first ← readWord flags word
        let others ← readWords flags rest
        return (word, first) :: others

/-- What a parser expects besides options: nothing, one or more arguments in one place, or a command that
takes the rest of the line. -/
inductive Expectation where
  | nothing
  | arguments
  | command
  deriving DecidableEq, Repr

/-- What a parser found: the values of options in order, its arguments, and the words it has no use
for. -/
structure Parsed where
  values : List (Flag × String)
  arguments : Option (List String)
  extras : List String

namespace Parsed

/-- The value of an option, the last one that was given. -/
def value? (p : Parsed) (f : Flag) : Option String :=
  (p.values.reverse.find? fun entry => entry.1 = f).map (·.2)

end Parsed

/-- Whether the letters behind an option of one letter may stand there: each is an option in turn, without
a value, up to one that nobody knows. -/
def isCluster (flags : List Flag) : List Char → Bool
  | [] => true
  | '-' :: _ => false
  | c :: rest =>
      match flagNamed? flags (String.ofList ['-', c]) with
      | none => true
      | some _ => rest.head? ≠ some '=' && isCluster flags rest

/-- How an option without a value ends the parsing: with help, unless what is attached to it makes no
sense. -/
def endOfFlag (flags : List Flag) (name : String) : Attachment → EarlyEnd
  | .nothing => .help
  | .equals _ => .usage
  | .behind letters =>
      if name.length = 2 && isCluster flags letters.toList then .help else .usage

def flagValue (flags : List Flag) (f : Flag) (name : String) (attached : Attachment)
    (rest : List (String × Word)) : Except EarlyEnd (String × List (String × Word)) :=
  if f.takesValue then
    match attached.value?, rest with
    | some given, _ => .ok (given, rest)
    | none, (given, .argument) :: rest => .ok (given, rest)
    | none, _ => .error .usage
  else .error (endOfFlag flags name attached)

def isFlag : Word → Bool
  | .flag _ _ _ => true
  | .unknown => true
  | _ => false

/-- A run of words that are no options, as the arguments expected. The first two dashes are left out. -/
def argumentsOf (run : List (String × Word)) : Option (List String) :=
  let words := run.map (·.1)
  match run with
  | (_, .dashes) :: _ :: _ => some words.tail
  | (_, .argument) :: _ => some (words.erase "--")
  | _ => none

/-- Parses words in at most `fuel` steps. -/
def parseWords (flags : List Flag) (expectation : Expectation) :
    Nat → Parsed → List (String × Word) → Except EarlyEnd Parsed
  | 0, p, _ => .ok p
  | _, p, [] => .ok p
  | fuel + 1, p, (word, .unknown) :: rest =>
      parseWords flags expectation fuel { p with extras := p.extras ++ [word] } rest
  | fuel + 1, p, (_, .flag f name attached) :: rest =>
      match flagValue flags f name attached rest with
      | .ok (given, rest) =>
          parseWords flags expectation fuel { p with values := p.values ++ [(f, given)] } rest
      | .error early => .error early
  | fuel + 1, p, words =>
      let run := words.takeWhile fun entry => !isFlag entry.2
      let rest := words.dropWhile fun entry => !isFlag entry.2
      let unused := { p with extras := p.extras ++ run.map (·.1) }
      match expectation, p.arguments with
      | .command, none => .ok { p with arguments := some (words.map (·.1)) }
      | .arguments, none =>
          match argumentsOf run with
          | some found =>
              parseWords flags expectation fuel { p with arguments := some found } rest
          | none => parseWords flags expectation fuel unused rest
      | _, _ => parseWords flags expectation fuel unused rest

def parse (flags : List Flag) (expectation : Expectation) (words : List String) :
    Except EarlyEnd Parsed := do
  let read ← readWords flags words
  parseWords flags expectation read.length ⟨[], none, []⟩ read

end RecordBinding.CommandLine
