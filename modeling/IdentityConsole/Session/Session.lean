import IdentityConsole.Api.Client

/-!
# The session

Who is signed in, kept in the storage so that it survives a restart. A session has a token and an
identity, or neither. Tokens are never renewed.
-/

namespace IdentityConsole

inductive SessionState
  | signedOut
  | signedIn (user : Identity) (token : String)
deriving DecidableEq, Repr

namespace SessionState

def isSignedIn : SessionState → Bool
  | .signedOut => false
  | .signedIn .. => true

def user? : SessionState → Option Identity
  | .signedOut => none
  | .signedIn user _ => some user

def token? : SessionState → Option String
  | .signedOut => none
  | .signedIn _ token => some token

end SessionState

/-- `announcements` counts how often a state was announced, be it a new one or the same again. -/
structure Session where
  state : SessionState
  announcements : Nat
deriving DecidableEq, Repr

/-- Somebody who looks at the session from time to time, and saw so many announcements. -/
structure Watcher where
  seen : Nat
deriving DecidableEq, Repr

namespace Session

def initial : Session := ⟨.signedOut, 0⟩

def isSignedIn (session : Session) : Bool :=
  session.state.isSignedIn

def announce (state : SessionState) (session : Session) : Session :=
  ⟨state, session.announcements + 1⟩

def subscribe (session : Session) : Watcher :=
  ⟨session.announcements⟩

def hasChanged (session : Session) (watcher : Watcher) : Bool :=
  watcher.seen ≠ session.announcements

/-- The stored session; without a token, or without an identity, there is none. -/
def stored (storage : Storage) : Except RestoreError SessionState := do
  let token ← (storage.get Storage.tokenKey).mapError .storage
  let user ← (storage.get Storage.userKey).mapError .storage
  match token.filter (· ≠ ""), user with
  | some token, some user =>
    let identity ← (Json.decode Identity.decoder user).mapError .identity
    return .signedIn identity token
  | _, _ => return .signedOut

/-- Takes over the stored session; one that cannot be read is none. -/
def restore (session : Session) (outside : Outside) : Session × Outside :=
  match stored outside.storage with
  | .ok state => (session.announce state, outside)
  | .error error => (session.announce .signedOut, outside.note (.sessionUnreadable error))

/-- Stores a session. If its identity cannot be stored its token is taken back. -/
def persist (user : Identity) (token : String) (outside : Outside) :
    Except LoginError Unit × Outside :=
  match outside.storage.set Storage.tokenKey token with
  | .error error => (.error (.tokenNotStored error), outside)
  | .ok storage =>
    let outside := { outside with storage }
    match storage.set Storage.userKey user.stored with
    | .ok storage => (.ok (), { outside with storage })
    | .error error =>
      match storage.remove Storage.tokenKey with
      | .ok storage => (.error (.userNotStored error), { outside with storage })
      | .error rollback => (.error (.userNotStored error), outside.note (.rollbackFailed rollback))

/-- Signs in. When that fails the session is what it was. -/
def login (client : Client) (username password : String) (reply : Http.Reply) (session : Session)
    (outside : Outside) : Except LoginError Identity × Session × Outside :=
  if username = "" ∨ password = "" then (.error .credentialsRequired, session, outside)
  else
    match client.requestToken username password reply outside with
    | (.error error, outside) => (.error (.api error), session, outside)
    | (.ok grant, outside) =>
      let user := grant.user.getD (.named username)
      match persist user grant.accessToken outside with
      | (.error error, outside) => (.error error, session, outside)
      | (.ok (), outside) =>
        (.ok user, session.announce (.signedIn user grant.accessToken),
          outside.note (.loggedIn user.displayName))

/-- Signs out, also when nobody is signed in. -/
def logout (session : Session) (outside : Outside) : Session × Outside :=
  let outside := (outside.clear Storage.tokenKey).clear Storage.userKey
  let outside := if session.isSignedIn then outside.note .loggedOut else outside
  (session.announce .signedOut, outside)

end Session

end IdentityConsole
