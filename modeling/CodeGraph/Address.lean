import CodeGraph.Text.Blank
import CodeGraph.Text.Split

/-!
# Addresses of servers

An address is brought to the form `scheme://authority/path` without a slash at its end, and gets
the port of the service where it names none.
-/

set_option autoImplicit false

namespace CodeGraph.Address

def schemes : List (List Char) :=
  ["http://".toList, "https://".toList]

/-- An address without surrounding white space and closing slashes, with `http://` in front of it
where it has no scheme. -/
def baseUrl (url : String) : String :=
  let address := Text.dropEnd (· = '/') (Text.trimBlank url.toList)
  if schemes.any fun scheme => scheme.isPrefixOf address then
    .ofList address
  else
    .ofList ("http://".toList ++ address)

/-- Scheme, authority and path of an address.  The path begins with the slash that ends the
authority. -/
structure Parts where
  scheme : List Char
  authority : List Char
  path : List Char

/-- Takes an address apart.  One without `://` has the scheme `http`. -/
def Parts.ofUrl (url : List Char) : Parts :=
  let (scheme, rest) := (Text.cutAtFirst "://".toList url).getD ("http".toList, url)
  ⟨scheme, rest.takeWhile (· ≠ '/'), rest.dropWhile (· ≠ '/')⟩

/-- Whether an authority ends in a colon and digits behind a host that is not empty.  The colons
inside the brackets of an IPv6 address are followed by a bracket, which is no digit. -/
def hasPort (authority : List Char) : Bool :=
  let digits := authority.reverse.takeWhile (· ≠ ':')
  match authority.reverse.dropWhile (· ≠ ':') with
  | _ :: host => !host.isEmpty && !digits.isEmpty && digits.all Char.isDigit
  | [] => false

/-- The address with a port behind an authority that has none. -/
def withDefaultPort (base : String) (port : UInt16) : String :=
  let parts := Parts.ofUrl base.toList
  if hasPort parts.authority then
    base
  else
    .ofList (parts.scheme ++ "://".toList ++ parts.authority ++ ':' :: Nat.toDigits 10 port.toNat
      ++ parts.path)

end CodeGraph.Address
