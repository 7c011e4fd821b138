import IdentityConsole.Text.Blank
import IdentityConsole.Text.Hex
import IdentityConsole.Text.Segments
import IdentityConsole.Text.Utf8

/-!
# Addresses

An address of a request names an origin, which is what is connected to, and a target, which is what
is asked for there. In the target the segments `.` and `..` have been resolved, and characters that
may not stand in it are percent-encoded. A fragment is not sent.

Addresses are read in their usual form: `http` or `https`, two slashes, a host and perhaps a port.
Not read are user information before a host, hosts in brackets, hosts that are percent-encoded, and
addresses with backslashes, or with fewer than two slashes, after the scheme. A lenient reader takes
these too; here they are no addresses, and nothing is ever sent to one.
-/

namespace IdentityConsole.Http

structure Address where
  origin : String
  target : String
deriving DecidableEq, Repr

namespace Address

/-- Where the authority ends. -/
def endsAuthority (c : Char) : Bool :=
  c == '/' || c == '\\' || c == '?' || c == '#'

/-- Characters that no host name contains. -/
def isForbiddenInHost (c : Char) : Bool :=
  c.toNat ≤ 0x20 || c.toNat == 0x7F || c ∈ ['#', '%', '/', '<', '>', '?', '@', '\\', '^', '|']

/-- A host with an optional port. Neither user information nor a host in brackets passes. -/
def isHost (authority : List Char) : Bool :=
  let host := authority.takeWhile (· != ':')
  let port := (authority.dropWhile (· != ':')).drop 1
  !host.isEmpty && !host.any isForbiddenInHost && port.all Char.isDigit &&
    port.foldl (fun n c => 10 * n + (c.toNat - 0x30)) 0 < 65536

def isSeparator (c : Char) : Bool :=
  c == '/' || c == '\\'

/-- Characters that are percent-encoded in a path, or in a query. -/
def isEncoded (inPath : Bool) (c : Char) : Bool :=
  c.toNat ≤ 0x20 || 0x7F ≤ c.toNat || c ∈ ['"', '#', '<', '>'] ||
    (if inPath then c ∈ ['?', '^', '{', '}'] || c.toNat == 0x60 else c.toNat == 0x27)

def encodeChar (inPath : Bool) (c : Char) : List Char :=
  if isEncoded inPath c then
    (String.utf8EncodeChar c).flatMap fun octet =>
      ['%', Text.upperHexDigit (octet.toNat / 16), Text.upperHexDigit (octet.toNat % 16)]
  else [c]

/-- Reads `%2e` as the dot it stands for. -/
def dots : List Char → List Char
  | '%' :: '2' :: 'e' :: rest | '%' :: '2' :: 'E' :: rest => '.' :: dots rest
  | c :: rest => c :: dots rest
  | [] => []

/-- Appends segments to those of a path, the last of which comes first. A segment that goes up or
stays leaves an empty one behind when it is the last. -/
def resolve (path : List (List Char)) : List (List Char) → List (List Char)
  | [] => path
  | segment :: rest =>
    if dots segment = ['.', '.'] then
      resolve (if rest.isEmpty then [] :: path.drop 1 else path.drop 1) rest
    else if dots segment = ['.'] then
      resolve (if rest.isEmpty then [] :: path else path) rest
    else resolve (segment :: path) rest

/-- The path that segments make up, the last segment given first. -/
def joined (segments : List (List Char)) : List Char :=
  match segments with
  | [] => ['/']
  | segments => segments.reverse.flatMap fun segment => '/' :: segment

def pathOf (text : List Char) : List Char :=
  let unified := text.map fun c => if isSeparator c then '/' else c
  match Text.splitAt '/' unified with
  | [] :: segments => (joined (resolve [] segments)).flatMap (encodeChar true)
  | segments => (joined (resolve [] segments)).flatMap (encodeChar true)

def queryOf (text : List Char) : List Char :=
  match text with
  | '?' :: query => '?' :: (query.flatMap (encodeChar false))
  | _ => []

/-- The text after the scheme of a web address and its two slashes, which must be there. -/
def afterScheme? (text : List Char) : Option (String × List Char) :=
  let scheme := String.ofList ((text.takeWhile (· != ':')).map Char.toLower)
  match text.dropWhile (· != ':') with
  | ':' :: '/' :: '/' :: rest =>
    if scheme = "http" ∨ scheme = "https" then some (scheme, rest) else none
  | _ => none

/-- Reads an address; other texts than web addresses are refused. -/
def parse? (text : String) : Option Address := do
  let cleaned := text.toList.filter fun c => c.toNat != 0x09 && c.toNat != 0x0A && c.toNat != 0x0D
  let trimmed := Text.dropEndWhile (·.toNat ≤ 0x20) (cleaned.dropWhile (·.toNat ≤ 0x20))
  let (scheme, rest) ← afterScheme? trimmed
  let authority := rest.takeWhile (!endsAuthority ·)
  if isHost authority then
    let rest := (rest.drop authority.length).takeWhile (· != '#')
    let path := rest.takeWhile (· != '?')
    some {
      origin := scheme ++ "://" ++ String.ofList (authority.map Char.toLower)
      target := String.ofList (pathOf path ++ queryOf (rest.drop path.length)) }
  else none

end Address

/-- The origins that accept connections. -/
abbrev Network := List String

end IdentityConsole.Http
