import CodeGraph.Address
import CodeGraph.Http.Fault

/-!
# Targets of requests

An address names a server and what is asked of it.  Only certain characters may stand in each part.
-/

set_option autoImplicit false

namespace CodeGraph.Http

/-- Where a request goes: a host with its port, and a path with its query. -/
structure Target where
  authority : String
  path : String
  deriving DecidableEq

/-- The characters of an authority besides ASCII letters and digits that only stand for
themselves. -/
def authorityMarks : List Char :=
  ['!', '$', '&', '\x27', '(', ')', '*', '+', ',', '-', '.', ';', '=', '_', '~']

/-- What was seen of an authority: the colons and percent signs that may belong to the host, and
the brackets around the host. -/
structure AuthorityScan where
  colons : Nat := 0
  hasPercent : Bool := false
  isOpened : Bool := false
  isClosed : Bool := false

namespace AuthorityScan

/-- The most colons before a bracket or an at sign: those of an IPv6 address and one of a port. -/
def maxColons : Nat := 8

/-- Passes one character.  Colons and percent signs before a closing bracket or an at sign belong to
an IPv6 address or to a user, so that they no longer matter behind it. -/
def step (scan : AuthorityScan) (c : Char) : Except AddressFault AuthorityScan :=
  if c = ':' then
    if maxColons ≤ scan.colons then .error .invalidAuthority
    else .ok { scan with colons := scan.colons + 1 }
  else if c = '[' then
    if scan.hasPercent || scan.isOpened then .error .invalidAuthority
    else .ok { scan with isOpened := true }
  else if c = ']' then
    if !scan.isOpened || scan.isClosed then .error .invalidAuthority
    else .ok { scan with isClosed := true, colons := 0, hasPercent := false }
  else if c = '@' then .ok { scan with colons := 0, hasPercent := false }
  else if c = '%' then .ok { scan with hasPercent := true }
  else if c.isAlphanum || authorityMarks.contains c then .ok scan
  else .error .invalidCharacter

def isComplete (scan : AuthorityScan) : Bool :=
  scan.isOpened == scan.isClosed && scan.colons ≤ 1 && !scan.hasPercent

end AuthorityScan

/-- Whether a text is an authority.  Of several faults the first one counts, and one that shows only
at the end counts last. -/
def checkAuthority (authority : List Char) : Except AddressFault Unit := do
  let scan ← authority.foldlM AuthorityScan.step {}
  if scan.isComplete && authority.getLast? != some '@' then .ok ()
  else .error .invalidAuthority

def queryBars : List Char := ['"', '#', '<', '>']

/-- The visible ASCII characters that may not stand in a path.  Quotes and braces may, though they
should not. -/
def pathBars : List Char := ['#', '<', '>', '?', '\x60']

/-- Whether a character may stand in a part of an address.  All beyond ASCII may. -/
def isVisibleBut (bars : List Char) (c : Char) : Bool :=
  c.toNat > 0x20 && c ≠ '\x7f' && !bars.contains c

def hostAndPort (authority : List Char) : List Char :=
  (authority.reverse.takeWhile (· ≠ '@')).reverse

def schemePort (scheme : List Char) : List Char :=
  if scheme = "https".toList then "443".toList else "80".toList

def maxAddressLength : Nat := 65534

def Target.ofUrl (url : String) : Except AddressFault Target := do
  let (scheme, rest) := (Text.cutAtFirst "://".toList url.toList).getD ([], url.toList)
  let isOpen := fun c => c ≠ '/' && c ≠ '?' && c ≠ '#'
  let authority := rest.takeWhile isOpen
  let wanted := (rest.dropWhile isOpen).takeWhile (· ≠ '#')
  let path := wanted.takeWhile (· ≠ '?')
  let query := (wanted.dropWhile (· ≠ '?')).drop 1
  if maxAddressLength < url.utf8ByteSize then
    throw .tooLong
  checkAuthority authority
  if authority.isEmpty then
    throw .invalidFormat
  if !(path.all (isVisibleBut pathBars) && query.all (isVisibleBut queryBars)) then
    throw .invalidCharacter
  let host := hostAndPort authority
  let port := if Address.hasPort host then [] else ':' :: schemePort scheme
  let slash := if path.isEmpty then ['/'] else []
  return ⟨.ofList (host ++ port), .ofList (slash ++ wanted)⟩

end CodeGraph.Http
