import IdentityConsole.Api.Request
import IdentityConsole.Http.Reply
import IdentityConsole.Text.Blank
import IdentityConsole.Text.Hex
import IdentityConsole.Text.Segments
import IdentityConsole.Text.Utf8

/-!
# HTTP on the wire

A request closes its connection, so that a response is all that arrives on it.
-/

namespace IdentityConsole.Http.Wire

/-- The host and the port of a plain address, and nothing for other schemes. -/
def plainHost? (address : String) : Option (String × String) :=
  let scheme := "http://".toList
  if scheme.isPrefixOf address.toList then
    let authority := (address.toList.drop scheme.length).takeWhile (· != '/')
    let port := (authority.dropWhile (· != ':')).drop 1
    some (String.ofList (authority.takeWhile (· != ':')),
      if port.isEmpty then "80" else String.ofList port)
  else none

def headerLine (header : String × String) : String :=
  header.1 ++ ": " ++ header.2 ++ "\r\n"

def headers (sent : Sent) (host : String) (body : List UInt8) : List (String × String) :=
  [("Host", host), ("Accept", "application/json"), ("Content-Type", "application/json")] ++
  (sent.authorization.toList.map fun value => ("Authorization", value)) ++
  [("Content-Length", toString body.length), ("Connection", "close")]

def request (sent : Sent) (host : String) : List UInt8 :=
  let body := Text.Utf8.encode ((sent.body.map Json.text).getD "")
  let first := sent.method.text ++ " " ++ sent.target ++ " HTTP/1.1\r\n"
  Text.Utf8.encode (first ++ String.join ((headers sent host body).map headerLine) ++ "\r\n") ++
    body

/-- The lines before the empty one, and what comes after it. -/
def head (read line : List Char) : List UInt8 → Option (List String × List UInt8)
  | 0x0D :: 0x0A :: 0x0D :: 0x0A :: rest =>
    some ((Text.splitAt '\n' (read ++ line)).map String.ofList, rest)
  | 0x0D :: 0x0A :: rest => head (read ++ line ++ ['\n']) [] rest
  | octet :: rest => head read (line ++ [Char.ofNat octet.toNat]) rest
  | [] => none

def number (base : Nat) (digits : List Char) : Nat :=
  digits.foldl (fun n c => base * n + (Text.hexValue? c).getD 0) 0

/-- The status of a first line. -/
def status? (line : String) : Option Nat :=
  match (Text.splitAt ' ' line.toList).drop 1 with
  | code :: _ => if code.length = 3 ∧ code.all Char.isDigit then some (number 10 code) else none
  | [] => none

def header? (name : String) (lines : List String) : Option String :=
  lines.findSome? fun line =>
    let key := line.toList.takeWhile (· != ':')
    if (String.ofList key).toLower = name then
      some (Text.trim (String.ofList (line.toList.drop (key.length + 1))))
    else none

/-- The line at the front, and what comes after it. -/
def line (octets : List UInt8) : List Char × List UInt8 :=
  let read := octets.takeWhile (· != 0x0D)
  (read.map fun octet => Char.ofNat octet.toNat, octets.drop (read.length + 2))

/-- A body in chunks, and whether all of it is there. Each chunk uses one unit of fuel. -/
def chunks (read : List UInt8) : Nat → List UInt8 → List UInt8 × Bool
  | 0, _ => (read, false)
  | fuel + 1, octets =>
    let (size, rest) := line octets
    let length := number 16 (size.takeWhile fun c => (Text.hexValue? c).isSome)
    if size.isEmpty then (read, false)
    else if length = 0 then (read, true)
    else if rest.length < length then (read ++ rest, false)
    else chunks (read ++ rest.take length) fuel (rest.drop (length + 2))

/-- Reads all that arrived on a connection. -/
def reply (octets : List UInt8) : Reply :=
  match head [] [] octets with
  | none | some ([], _) => .dropped
  | some (first :: lines, body) =>
    match status? first with
    | none => .dropped
    | some status =>
      if (header? "transfer-encoding" lines).map String.toLower = some "chunked" then
        let (body, complete) := chunks [] body.length body
        .answering status body complete
      else
        match header? "content-length" lines with
        | some length =>
          let expected := number 10 (length.toList.filter Char.isDigit)
          .answering status (body.take expected) (expected ≤ body.length)
        | none => .answering status body true

end IdentityConsole.Http.Wire
