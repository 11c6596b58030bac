import CodeGraph.Text.Lowercase

/-!
# Name variants

A search for `http_client` is to find `HTTPClient`, and one for `getuser` is to find `get_user`.
So a name is indexed under a few of its lexical spellings.
-/

set_option autoImplicit false

namespace CodeGraph

def separateCapitals (name : List Char) : List Char :=
  name.flatMap fun c => if c.isUpper then ['_', c] else [c]

/-- The name with an underscore before every ASCII capital but a first one, in lower case. -/
def snakeCase : List Char → List Char
  | [] => []
  | first :: rest => Text.lowercase (first :: separateCapitals rest)

def joined (name : List Char) : List Char :=
  name.filter (· ≠ '_')

/-- The spellings a name is indexed under: itself, lower case, snake case, joined. -/
def spellings (name : String) : List String :=
  [name, .ofList (Text.lowercase name.toList), .ofList (snakeCase name.toList),
    .ofList (joined name.toList)]

def distinct {α : Type} [DecidableEq α] : List α → List α
  | [] => []
  | first :: rest => first :: (distinct rest).filter (· ≠ first)

def nameVariants (name : String) : List String :=
  if name.isEmpty then [] else distinct (spellings name)

end CodeGraph
