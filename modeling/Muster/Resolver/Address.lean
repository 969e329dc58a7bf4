/-
  Addresses: which texts can be dialled.

  An address goes into a URL, behind `http://`, and the whole must be a URL with an authority:

      authority [path] [?query] [#fragment]

  (1) The authority is checked by its characters and brackets, not by what a host may be called: at most
      one pair of brackets, at most one colon behind them, a percent sign only in brackets or in front
      of an at sign, and something behind the last at sign.
  (2) Path and query are checked character by character; a fragment may be anything, and is dropped.

  An address as the registry keeps it, `address:port`, is an authority alone; one whose address is IPv6
  without brackets has too many colons and is refused.
-/
import Muster.Text.Cut

namespace Muster.Address

/-! ## The authority -/

/-- The characters that may stand in an authority. -/
def isAuthorityChar (c : Char) : Bool :=
  c.isAlphanum || "!$&\x27()*+,-.:;=@_~[]".toList.contains c

/-- What has been read of an authority. -/
structure Scan where
  /-- Colons so far; an at sign or a closing bracket starts afresh. -/
  colons : Nat := 0
  /-- Whether a bracket has been opened. -/
  opened : Bool := false
  /-- Whether a bracket has been closed. -/
  closed : Bool := false
  /-- Whether a percent sign has not been excused yet. -/
  percent : Bool := false
  /-- Whether the last character is an at sign. -/
  dangling : Bool := false
deriving DecidableEq, Repr

/-- One character of an authority; `none` if it cannot stand there. -/
def Scan.step (s : Scan) (c : Char) : Option Scan :=
  let s := { s with dangling := c == '@' }
  if c = ':' then if s.colons < 8 then some { s with colons := s.colons + 1 } else none
  else if c = '[' then if s.percent || s.opened then none else some { s with opened := true }
  else if c = ']' then
    if s.opened && !s.closed then some { s with closed := true, colons := 0, percent := false }
    else none
  else if c = '@' then some { s with colons := 0, percent := false }
  else if c = '%' then some { s with percent := true }
  else if isAuthorityChar c then some s
  else none

/-- All characters of an authority. -/
def Scan.run (s : Scan) : List Char → Option Scan
  | [] => some s
  | c :: cs => (s.step c).bind fun s => s.run cs

/-- Whether an authority may end here. -/
def Scan.accepts (s : Scan) : Bool :=
  s.opened == s.closed && s.colons ≤ 1 && !s.dangling && !s.percent

/-- **Whether characters are an authority**; no characters are none. -/
def isAuthority (s : List Char) : Bool :=
  s != [] && (Scan.run {} s).any Scan.accepts

/-! ## Path and query -/

/-- The characters that may stand in a path. -/
def isPathChar (c : Char) : Bool :=
  let n := c.toNat
  n == 0x21 || n == 0x22 || (0x24 ≤ n && n ≤ 0x3B) || n == 0x3D || (0x40 ≤ n && n ≤ 0x5F) ||
    (0x61 ≤ n && n ≤ 0x7E) || 0x7F ≤ n

/-- The characters that may stand in a query. -/
def isQueryChar (c : Char) : Bool :=
  let n := c.toNat
  n == 0x21 || (0x24 ≤ n && n ≤ 0x3B) || n == 0x3D || 0x3F ≤ n

/-- The characters that end an authority. -/
def endsAuthority (c : Char) : Bool := c == '/' || c == '?' || c == '#'

/-- The pieces of an address: authority, path, and query with its question mark. -/
def pieces (s : List Char) : List Char × List Char × List Char :=
  let rest := (s.dropWhile fun c => !endsAuthority c).takeWhile (· != '#')
  (s.takeWhile fun c => !endsAuthority c, rest.takeWhile (· != '?'), rest.dropWhile (· != '?'))

/-- The largest size of a URL, in bytes. -/
def maxUrlBytes : Nat := 65534

/-- **The URL under which an address is dialled**, or `none` if it cannot be. -/
def url? (address : String) : Option String :=
  let p := pieces address.toList
  if isAuthority p.1 && p.2.1.all isPathChar && (p.2.2.drop 1).all isQueryChar &&
      ("http://" ++ address).utf8ByteSize ≤ maxUrlBytes then
    some ("http://" ++ String.ofList (p.1 ++ (if p.2.1 = [] then ['/'] else p.2.1) ++ p.2.2))
  else none

end Muster.Address
