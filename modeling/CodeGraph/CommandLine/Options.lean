import CodeGraph.Text.Count

/-!
# Options of a command line

An option is named by `--long` or `-s`.  Its value stands behind an equals sign, behind the short
name, or in the next token, which then must not begin with a dash.  Short names without values may
share one token.  No option comes twice.
-/

set_option autoImplicit false

namespace CodeGraph.CommandLine

inductive ValueKind where
  | text
  | path
  | count
  deriving DecidableEq

inductive OptionKind where
  | flag
  | value (kind : ValueKind)
  | help
  | version
  deriving DecidableEq

structure OptionSpec where
  long : String
  short : Option Char := none
  kind : OptionKind
  deriving DecidableEq

inductive Stop where
  | refused
  | help
  | version
  deriving DecidableEq

/-- The options given so far, by long name, each with its value.  The value of a flag is empty. -/
structure Given where
  values : List (String × String) := []
  deriving DecidableEq

def Given.find? (given : Given) (name : String) : Option String :=
  given.values.lookup name

def Given.has (given : Given) (name : String) : Bool :=
  (given.find? name).isSome

def ValueKind.accepts (kind : ValueKind) (value : String) : Bool :=
  match kind with
  | text => true
  | path => !value.isEmpty
  | count => (Text.count? value.toList).isSome

def Given.add (given : Given) (name value : String) : Except Stop Given :=
  if given.has name then .error .refused else .ok ⟨(name, value) :: given.values⟩

def OptionSpec.giveValue (spec : OptionSpec) (kind : ValueKind) (given : Given) (value : String) :
    Except Stop Given :=
  if kind.accepts value then given.add spec.long value else .error .refused

structure Pending where
  spec : OptionSpec
  kind : ValueKind

def readLong (specs : List OptionSpec) (given : Given) (token : List Char) :
    Except Stop (Given × Option Pending) :=
  let name := String.ofList (token.takeWhile (· ≠ '='))
  let value? := match token.dropWhile (· ≠ '=') with
    | _ :: value => some (String.ofList value)
    | [] => none
  match specs.find? fun spec => spec.long = name with
  | none => .error .refused
  | some spec =>
      match spec.kind, value? with
      | .value kind, some value => do
          let given ← spec.giveValue kind given value
          return (given, none)
      | .value kind, none =>
          if given.has spec.long then .error .refused
          else .ok (given, some ⟨spec, kind⟩)
      | _, some _ => .error .refused
      | .flag, none => do
          let given ← given.add spec.long ""
          return (given, none)
      | .help, none => .error .help
      | .version, none => .error .version

def attachedValue? : List Char → Option String
  | [] => none
  | '=' :: value => some (.ofList value)
  | value => some (.ofList value)

def readShort (specs : List OptionSpec) (given : Given) :
    List Char → Except Stop (Given × Option Pending)
  | [] => .ok (given, none)
  | name :: later =>
      match specs.find? fun spec => spec.short = some name with
      | none => .error .refused
      | some spec =>
          match spec.kind, attachedValue? later with
          | .flag, _ => do
              let given ← given.add spec.long ""
              readShort specs given later
          | .help, _ => .error .help
          | .version, _ => .error .version
          | .value kind, some value => do
              let given ← spec.giveValue kind given value
              return (given, none)
          | .value kind, none =>
              if given.has spec.long then .error .refused
              else .ok (given, some ⟨spec, kind⟩)

def isDashed (token : String) : Bool :=
  match token.toList with
  | '-' :: _ :: _ => true
  | _ => false

def readToken (specs : List OptionSpec) (given : Given) (token : String) :
    Except Stop (Given × Option Pending) :=
  match token.toList with
  | '-' :: '-' :: name => readLong specs given name
  | _ :: names => readShort specs given names
  | [] => .error .refused

def endOfOptions : String := "--"

/-- Reads options up to the first token that is none, and gives the tokens from there on. -/
def readOptions (specs : List OptionSpec) : Given → List String →
    Except Stop (Given × List String)
  | given, [] => .ok (given, [])
  | given, token :: rest =>
      if token = endOfOptions ∨ !isDashed token then
        .ok (given, token :: rest)
      else do
        let (given, pending?) ← readToken specs given token
        match pending?, rest with
        | none, rest => readOptions specs given rest
        | some _, [] => throw .refused
        | some pending, value :: rest =>
            if isDashed value then throw .refused
            let given ← pending.spec.giveValue pending.kind given value
            readOptions specs given rest
termination_by _ tokens => tokens.length

end CodeGraph.CommandLine
