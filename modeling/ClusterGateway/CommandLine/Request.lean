/-! # What arguments ask for

Options may stand before and after the word of a command, and what stands after it counts more. The
path of the configuration may also come from the environment, which counts least. A value that
follows its option as a word of its own is looked at only when the next option comes or the words
end, so a question for help or for the version in time goes before a value that would be refused.
-/

namespace ClusterGateway.CommandLine

/-- What help can be asked about. -/
inductive Topic where
  | program
  | test
  | run
  | help
deriving DecidableEq, Repr, Inhabited

/-- The command that a word stands for. -/
def Topic.ofWord? (word : String) : Option Topic :=
  if word = "test" then some .test
  else if word = "run" then some .run
  else if word = "help" then some .help
  else none

/-- Why arguments are refused. -/
inductive Misuse where
  /-- A word that means nothing where it stands. -/
  | unexpected (word : String)
  /-- An option without its value. -/
  | noValue
  /-- A value for an option that takes none. -/
  | needlessValue (word : String)
  | repeated (option : String)
deriving DecidableEq, Repr

/-- The explanation for an operator. -/
def Misuse.message : Misuse → String
  | unexpected word => "unexpected argument '" ++ word ++ "' found"
  | noValue => "a value is required for '--config <CONFIG>' but none was supplied"
  | needlessValue word => "unexpected value in '" ++ word ++ "', no more were expected"
  | repeated option => "the argument '" ++ option ++ "' cannot be used multiple times"

/-- What is to be done. -/
inductive Request where
  /-- Test a configuration, and perhaps also dial the backends in it. -/
  | test (config : Option String) (network : Bool)
  /-- Run a node; it may be asked to say more. -/
  | run (config : Option String) (verbose : Bool)
  | help (topic : Topic)
  | version (topic : Topic)
  | refuse (misuse : Misuse)
deriving DecidableEq, Repr

/-- The value of an option that may still be on its way. -/
inductive Expected where
  | nothing
  | next
  /-- This is the value, not yet looked at. -/
  | value (word : String)
deriving DecidableEq, Repr, Inhabited

/-- The options that are given before or after the word of a command. -/
structure Options where
  topic : Topic
  config : Option String := none
  expected : Expected := .nothing
  verbose : Bool := false
  /-- Whether to dial the backends. -/
  network : Bool := false
deriving DecidableEq, Repr, Inhabited

namespace Options

/-- Looks at a value that is on its way. -/
def settle (o : Options) : Except Request Options :=
  match o.expected with
  | .nothing => .ok o
  | .next => .error (.refuse .noValue)
  | .value word =>
    if o.config.isSome then .error (.refuse (.repeated "--config <CONFIG>"))
    else if word.isEmpty then .error (.refuse .noValue)
    else .ok { o with config := some word, expected := .nothing }

/-- Takes the path of the configuration in the same word as its option. -/
def setConfig (o : Options) (word : String) : Except Request Options := do
  let o ← o.settle
  { o with expected := .value word }.settle

/-- Waits for the path of the configuration. -/
def awaitConfig (o : Options) : Except Request Options := do
  let o ← o.settle
  return { o with expected := .next }

/-- Sets a mark that may be set once. -/
def mark (o : Options) (name : String) (old : Bool) (set : Options → Options) :
    Except Request Options := do
  let o ← o.settle
  if old then .error (.refuse (.repeated name)) else .ok (set o)

/-- Ends the reading with an answer. -/
def ask (o : Options) (request : Topic → Request) : Except Request Options := do
  let o ← o.settle
  .error (request o.topic)

/-- Reads an option in letters, behind its dash. -/
def readLetters (o : Options) (word : String) : List Char → Except Request Options
  | 'h' :: _ => o.ask .help
  | 'V' :: _ => o.ask .version
  | ['c'] => o.awaitConfig
  | 'c' :: '=' :: rest => o.setConfig (String.ofList rest)
  | 'c' :: rest => o.setConfig (String.ofList rest)
  | _ => .error (.refuse (.unexpected word))

/-- Reads an option that has a name, with the value behind an equals sign. -/
def readName (o : Options) (word name : String) (value : Option String) : Except Request Options :=
  match name, value with
  | "config", none => o.awaitConfig
  | "config", some v => o.setConfig v
  | "verbose", none => o.mark "--verbose" o.verbose fun o => { o with verbose := true }
  | "network", none =>
    if o.topic = .test then o.mark "--network" o.network fun o => { o with network := true }
    else .error (.refuse (.unexpected word))
  | "help", none => o.ask .help
  | "version", none => o.ask .version
  | _, none => .error (.refuse (.unexpected word))
  | _, some _ => .error (.refuse (.needlessValue word))

/-- Reads a word that starts with a dash. -/
def readOption (o : Options) (word : String) : List Char → Except Request Options
  | '-' :: rest =>
    let name := String.ofList (rest.takeWhile (· ≠ '='))
    match rest.dropWhile (· ≠ '=') with
    | [] => o.readName word name none
    | _ :: value => o.readName word name (some (String.ofList value))
  | letters => o.readLetters word letters

/-- Reads a word that is neither a command nor the mark behind which no options come. -/
def readWord (o : Options) (word : String) : Except Request Options :=
  if o.expected = .next then
    if word.startsWith "-" ∧ word ≠ "-" then .error (.refuse .noValue)
    else .ok { o with expected := .value word }
  else
    match word.toList with
    | '-' :: c :: rest => o.readOption word (c :: rest)
    | _ => .error (.refuse (.unexpected word))

/-- Reads words up to the word of a command, if one may come. Answers with the command and what
stands behind it. -/
def readAll (o : Options) : List String → Except Request (Options × Option (Topic × List String))
  | [] => .ok (o, none)
  | word :: rest =>
    match if o.topic = .program ∧ o.expected ≠ .next then Topic.ofWord? word else none with
    | some topic => .ok (o, some (topic, rest))
    | none =>
      if word = "--" then
        match rest with
        | [] => .ok (o, none)
        | extra :: _ => .error (.refuse (.unexpected extra))
      else do
        let o ← o.readWord word
        o.readAll rest

/-- Looks at the last value and at the one from the environment, which stands in for the option when
it is not given. -/
def finish (o : Options) (environment : Option String) : Except Request Options := do
  let o ← o.settle
  if o.config.isNone ∧ environment = some "" then .error (.refuse .noValue) else .ok o

end Options

def Topic.ofWords : Topic → List String → Request
  | topic, [] => .help topic
  | .program, word :: rest =>
    match Topic.ofWord? word with
    | none => .refuse (.unexpected word)
    | some topic => topic.ofWords rest
  | _, word :: _ => .refuse (.unexpected word)

/-- Reads arguments, or ends early with what is to be done. -/
def Request.read (arguments : List String) (environment : Option String) :
    Except Request Request := do
  let (outer, command) ← Options.readAll { topic := .program } arguments
  match command with
  | none =>
    let outer ← outer.finish environment
    return .run (outer.config <|> environment) outer.verbose
  | some (.help, words) => return Topic.program.ofWords words
  | some (topic, words) =>
    let (inner, _) ← Options.readAll { topic } words
    let inner ← inner.finish environment
    let outer ← outer.finish environment
    let config := inner.config <|> outer.config <|> environment
    return if topic = .test then .test config inner.network
      else .run config (inner.verbose || outer.verbose)

/-- What arguments and the variable of the environment ask for. -/
def Request.ofArguments (arguments : List String) (environment : Option String) : Request :=
  match read arguments environment with
  | .ok request => request
  | .error request => request

end ClusterGateway.CommandLine
