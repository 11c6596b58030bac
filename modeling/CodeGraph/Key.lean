import CodeGraph.Digest
import CodeGraph.Text.Hex

/-!
# Storage keys

A key depends on the content it names and on nothing else, so that writing an unchanged graph
again replaces records instead of duplicating them.
-/

set_option autoImplicit false

namespace CodeGraph

def keyLength : Nat := 16

/-- The key of a text: the leading hexadecimal digits of the digest of its UTF-8 bytes. -/
def storageKey (text : String) : String :=
  .ofList ((Text.hexBytes (Digest.md5 text.toUTF8.toList)).take keyLength)

/-- The key of an edge.  The call site has no part in it, so that one call at two places is one
edge. -/
def edgeKey (source target relationType : String) : String :=
  storageKey (source ++ ":" ++ target ++ ":" ++ relationType)

end CodeGraph
