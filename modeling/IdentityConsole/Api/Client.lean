import IdentityConsole.Http.Reply
import IdentityConsole.Json.Decode
import IdentityConsole.Outside
import IdentityConsole.Records.Page
import IdentityConsole.Records.Record
import IdentityConsole.Records.TokenGrant

/-!
# Requests to the server

A request leaves with the token that is stored at that moment, and at most once. What it results in
follows from the reply alone.
-/

namespace IdentityConsole

/-- A client knows the base address, which has no slash at its end. -/
structure Client where
  address : String
deriving DecidableEq, Repr

namespace Client

def ofAddress (address : String) : Client :=
  ⟨Text.trimEndSlashes address⟩

/-- Characters that may stand in the value of a header. -/
def isHeaderChar (c : Char) : Bool :=
  c == '\t' || 0x20 ≤ c.toNat && c.toNat != 0x7F

def authorization (token : Option String) : Except ApiError (Option String) :=
  match token.filter (· ≠ "") with
  | none => .ok none
  | some token =>
    if token.toList.all isHeaderChar then .ok (some ("Bearer " ++ token))
    else .error (.invalidRequest "Stored token is not a valid header value")

/-- The stored token. When it cannot be read the request goes out without one. -/
def storedToken (outside : Outside) : Option String × Outside :=
  match outside.storage.get Storage.tokenKey with
  | .ok token => (token, outside)
  | .error error => (none, outside.note (.tokenUnreadable error))

/-- The request in the form in which it leaves, if it can leave. -/
def prepare (client : Client) (request : Request) (token : Option String) (network : Http.Network) :
    Except ApiError Sent := do
  let authorization ← authorization token
  let address := client.address ++ request.path
  match Http.Address.parse? address with
  | none => throw (.network .noAddress)
  | some parsed =>
    if parsed.origin ∈ network then
      return ⟨request.method, parsed.origin ++ parsed.target, parsed.target, authorization,
        request.body⟩
    else throw (.network .noConnection)

def send (client : Client) (request : Request) (outside : Outside) :
    Except ApiError Sent × Outside :=
  let (token, outside) := storedToken outside
  match client.prepare request token outside.network with
  | .ok sent => (.ok sent, outside.send sent)
  | .error error => (.error error, outside)

end Client

/-- A successful response. Whether all of its body arrived matters only to those who read it. -/
structure Response where
  status : Nat
  body : List UInt8
  complete : Bool
deriving DecidableEq, Repr

namespace Response

/-- What is not UTF-8 in a body is replaced. -/
def text (response : Response) : Except ApiError String :=
  if response.complete then .ok (Text.Utf8.decodeLossy response.body)
  else .error (.network .cutShort)

def value {α : Type} (decoder : Json.Decoder α) (path : String) (response : Response) :
    Except ApiError α := do
  let text ← response.text
  (Json.decode decoder text).mapError fun fault =>
    .invalidResponse ("Failed to parse JSON response from " ++ path ++ ": " ++ fault.message)

/-- The response, when it is a success. The body of any other is quoted; when it ends early it
counts as empty. -/
def ofReply : Http.Reply → Except ApiError Response
  | .dropped => .error (.network .dropped)
  | .response status body complete =>
    if Http.Status.isSuccess status then .ok ⟨status, body, complete⟩
    else .error (.ofResponse status (if complete then Text.Utf8.decodeLossy body else ""))

end Response

namespace Client

/-- Takes the reply to a request that has left. -/
def receive (sent : Sent) (reply : Http.Reply) (outside : Outside) :
    Except ApiError Response × Outside :=
  match Response.ofReply reply with
  | .error .unauthorized =>
    (.error .unauthorized, outside.note (.unauthorizedResponse sent.address))
  | result => (result, outside)

/-- Sends a request and awaits its reply. -/
def execute (client : Client) (request : Request) (reply : Http.Reply) (outside : Outside) :
    Except ApiError Response × Outside :=
  match client.send request outside with
  | (.error error, outside) => (.error error, outside)
  | (.ok sent, outside) => receive sent reply outside

/-- Executes a request whose answer is a value. -/
def call {α : Type} (client : Client) (decoder : Json.Decoder α) (request : Request)
    (reply : Http.Reply) (outside : Outside) : Except ApiError α × Outside :=
  let (result, outside) := client.execute request reply outside
  (result.bind (Response.value decoder request.path), outside)

/-- Executes a request of which only the success counts. -/
def perform (client : Client) (request : Request) (reply : Http.Reply) (outside : Outside) :
    Except ApiError Unit × Outside :=
  let (result, outside) := client.execute request reply outside
  (result.map fun _ => (), outside)

def tokenRequest (username password : String) : Request :=
  .post "/token" <| .ofMembers [("grant_type", .string "password"), ("username", .string username),
    ("password", .string password)]

def requestToken (client : Client) (username password : String) (reply : Http.Reply)
    (outside : Outside) : Except ApiError TokenGrant × Outside :=
  client.call TokenGrant.decoder (tokenRequest username password) reply outside

def list (client : Client) (kind : Kind) (reply : Http.Reply) (outside : Outside) :
    Except ApiError (List kind.Record) × Outside :=
  let (page, outside) :=
    client.call (Page.decoder (Record.decoder kind)) (.get kind.collectionPath) reply outside
  (page.map (·.data), outside)

def fetch (client : Client) (kind : Kind) (id : String) (reply : Http.Reply) (outside : Outside) :
    Except ApiError kind.Record × Outside :=
  client.call (Record.decoder kind) (.get (kind.itemPath id)) reply outside

def create (client : Client) {kind : Kind} (record : kind.Record) (reply : Http.Reply)
    (outside : Outside) : Except ApiError CreatedId × Outside :=
  client.call CreatedId.decoder (.post kind.collectionPath (Record.toJson record)) reply outside

def update (client : Client) {kind : Kind} (id : String) (record : kind.Record)
    (reply : Http.Reply) (outside : Outside) : Except ApiError Unit × Outside :=
  client.perform (.put (kind.itemPath id) (Record.toJson record)) reply outside

def delete (client : Client) (kind : Kind) (id : String) (reply : Http.Reply) (outside : Outside) :
    Except ApiError Unit × Outside :=
  client.perform (.delete (kind.itemPath id)) reply outside

end Client

end IdentityConsole
