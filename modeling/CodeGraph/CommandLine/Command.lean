import CodeGraph.Arango
import CodeGraph.CommandLine.Options
import CodeGraph.GraphRun
import CodeGraph.SearchRun
import CodeGraph.Typesense

/-!
# Commands

A command writes the property graph, the search documents or both, or only inspects an input.  An
option that is not given takes the value of its environment variable, if it has one that is set,
and else its default.
-/

set_option autoImplicit false

namespace CodeGraph.CommandLine

structure WriteOptions where
  input : String
  batchSize : Option Nat
  store : Option String
  skipSetup : Bool
  strict : Bool
  json : Bool

structure GraphTarget where
  settings : Arango.Settings
  graph : String

structure SearchTarget where
  settings : Typesense.Settings
  collection : String

inductive Command where
  | write (options : WriteOptions) (graph : Option GraphTarget) (search : Option SearchTarget)
  | inspect (input : String) (json : Bool)

def Command.input : Command → String
  | write options _ _ => options.input
  | inspect input _ => input

def Command.json : Command → Bool
  | write options _ _ => options.json
  | inspect _ json => json

structure Invocation where
  command : Command
  verbose : Bool

abbrev Environment := List (String × String)

def fallbackVariables : List String :=
  ["LATTICE_INPUT", "ARANGO_URL", "ARANGO_DB", "ARANGO_USER", "ARANGO_PASSWORD", "TYPESENSE_URL",
    "TYPESENSE_API_KEY"]

def versionLine : String := "lattice 0.3.0"

def usageLine : String := "Usage: lattice [OPTIONS] <graph|search|all|inspect> [OPTIONS]"

def defaultInput : String := "output/output.json"

def helpOption : OptionSpec := ⟨"help", some 'h', .help⟩

def verboseOption : OptionSpec := ⟨"verbose", some 'v', .flag⟩

def generalOptions : List OptionSpec :=
  [verboseOption, helpOption, ⟨"version", some 'V', .version⟩]

def commonOptions : List OptionSpec :=
  [⟨"input", some 'i', .value .path⟩, ⟨"json", none, .flag⟩, verboseOption, helpOption]

def writeOptions : List OptionSpec :=
  commonOptions ++ [⟨"batch-size", some 'b', .value .count⟩, ⟨"timeout-secs", none, .value .count⟩,
    ⟨"store", none, .value .path⟩, ⟨"skip-setup", none, .flag⟩, ⟨"strict", none, .flag⟩]

def graphOptions : List OptionSpec :=
  [⟨"arango-url", none, .value .text⟩, ⟨"db", none, .value .text⟩, ⟨"user", none, .value .text⟩,
    ⟨"password", none, .value .text⟩, ⟨"graph", none, .value .text⟩]

def searchOptions : List OptionSpec :=
  [⟨"typesense-url", none, .value .text⟩, ⟨"api-key", none, .value .text⟩,
    ⟨"collection", none, .value .text⟩]

inductive CommandName where
  | graph
  | search
  | all
  | inspect
  deriving DecidableEq

namespace CommandName

def ofText? : String → Option CommandName
  | "graph" => some graph
  | "search" => some search
  | "all" => some all
  | "inspect" => some inspect
  | _ => none

def options : CommandName → List OptionSpec
  | graph => writeOptions ++ graphOptions
  | search => writeOptions ++ searchOptions
  | all => writeOptions ++ graphOptions ++ searchOptions
  | inspect => commonOptions

end CommandName

def Given.count? (given : Given) (name : String) : Option Nat :=
  (given.find? name).bind fun value => Text.count? value.toList

/-- The text given for an option, or that of its environment variable, or its default. -/
def Given.text (given : Given) (environment : Environment) (name fromVariable fallback : String) :
    String :=
  (given.find? name).getD ((environment.lookup fromVariable).getD fallback)

/-- The input that is given.  It must not be empty. -/
def Given.input (given : Given) (environment : Environment) : Except Stop String :=
  let input := given.text environment "input" "LATTICE_INPUT" defaultInput
  if input.isEmpty then .error .refused else .ok input

def Given.timeLimit (given : Given) : Nat :=
  (given.count? "timeout-secs").getD Http.defaultTimeLimit

def Given.writeOptions (given : Given) (input : String) : WriteOptions where
  input := input
  batchSize := given.count? "batch-size"
  store := given.find? "store"
  skipSetup := given.has "skip-setup"
  strict := given.has "strict"
  json := given.has "json"

def Given.graphTarget (given : Given) (environment : Environment) : GraphTarget :=
  let standard : Arango.Settings := {}
  { settings := {
      url := given.text environment "arango-url" "ARANGO_URL" standard.url
      database := given.text environment "db" "ARANGO_DB" standard.database
      username := given.text environment "user" "ARANGO_USER" standard.username
      password := given.text environment "password" "ARANGO_PASSWORD" standard.password
      timeLimit := given.timeLimit }
    graph := (given.find? "graph").getD defaultGraphName }

def Given.searchTarget (given : Given) (environment : Environment) : SearchTarget :=
  let standard : Typesense.Settings := {}
  { settings := {
      url := given.text environment "typesense-url" "TYPESENSE_URL" standard.url
      apiKey := given.text environment "api-key" "TYPESENSE_API_KEY" standard.apiKey
      timeLimit := given.timeLimit }
    collection := (given.find? "collection").getD defaultSearchCollection }

def CommandName.command (name : CommandName) (given : Given) (environment : Environment) :
    Except Stop Command := do
  let input ← given.input environment
  let options := given.writeOptions input
  match name with
  | graph => return .write options (some (given.graphTarget environment)) none
  | search => return .write options none (some (given.searchTarget environment))
  | all =>
      return .write options (some (given.graphTarget environment))
        (some (given.searchTarget environment))
  | inspect => return .inspect input (given.has "json")

def readHelp : List String → Stop
  | [] => .help
  | [name] => if (CommandName.ofText? name).isSome ∨ name = "help" then .help else .refused
  | _ => .refused

def parse (environment : Environment) (tokens : List String) : Except Stop Invocation := do
  let (general, rest) ← readOptions generalOptions {} tokens
  match rest with
  | [] => throw .refused
  | name :: rest =>
      if name = "help" then
        throw (readHelp rest)
      match CommandName.ofText? name with
      | none => throw .refused
      | some name =>
          let (given, rest) ← readOptions name.options {} rest
          if rest ≠ [] ∧ rest ≠ [endOfOptions] then
            throw .refused
          let command ← name.command given environment
          return ⟨command, general.has "verbose" || given.has "verbose"⟩

end CodeGraph.CommandLine
