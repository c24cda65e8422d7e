import ClusterGateway.CommandLine.Request

/-! # Help

The help about a topic: what it does, how it is written, and its commands, words and options in two
columns.
-/

namespace ClusterGateway.CommandLine

/-- A line of a list in the help. -/
structure HelpRow where
  /-- What is explained. -/
  term : String
  text : String
deriving DecidableEq, Repr

/-- A list with its title; the explanations start in one column. -/
def helpList (title : String) (rows : List HelpRow) : String :=
  let width := rows.foldl (fun w row => max w row.term.length) 0
  title ++ ":\n" ++ String.join (rows.map fun row =>
    "  " ++ row.term ++ "".pushn ' ' (width - row.term.length) ++ "  " ++ row.text ++ "\n")

namespace Topic

def about : Topic → String
  | program =>
    "Replicated control plane for a clustered reverse proxy: " ++
      "routing table, CIDR ACL, balancers and rate limiters"
  | test => "Validate configuration file and exit"
  | run => "Run the node (default)"
  | help => "Print this message or the help of the given subcommand(s)"

/-- How a topic is written. -/
def usage : Topic → String
  | program => "concord [OPTIONS] [COMMAND]"
  | test => "concord test [OPTIONS]"
  | run => "concord run [OPTIONS]"
  | help => "concord help [COMMAND]..."

/-- The options of a topic; the first of them can also be given in the environment. -/
def options (environment : Option String) (topic : Topic) : List HelpRow :=
  [⟨"-c, --config <CONFIG>",
      "Configuration file path [env: CONCORD_CONFIG=" ++ environment.getD "" ++ "]"⟩] ++
  (if topic = .test then [⟨"    --network", "Also dial every backend"⟩] else []) ++
  [⟨"    --verbose", "Enable verbose logging (debug level)"⟩,
    ⟨"-h, --help", "Print help"⟩,
    ⟨"-V, --version", "Print version"⟩]

def lists (environment : Option String) : Topic → List String
  | program =>
    [helpList "Commands" [⟨"test", about test⟩, ⟨"run", about run⟩, ⟨"help", about help⟩],
      helpList "Options" (options environment program)]
  | help => [helpList "Arguments" [⟨"[COMMAND]...", "Print help for the subcommand(s)"⟩]]
  | topic => [helpList "Options" (options environment topic)]

def helpText (environment : Option String) (topic : Topic) : String :=
  topic.about ++ "\n\nUsage: " ++ topic.usage ++ "\n" ++
    String.join ((topic.lists environment).map ("\n" ++ ·))

/-- The version, under the name of a topic. -/
def versionText : Topic → String
  | test => "concord-test 0.1.0\n"
  | run => "concord-run 0.1.0\n"
  | _ => "concord 0.1.0\n"

end Topic

end ClusterGateway.CommandLine
