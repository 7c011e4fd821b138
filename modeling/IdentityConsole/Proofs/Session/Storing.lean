import IdentityConsole.Proofs.Records.Identity
import IdentityConsole.Proofs.Session.Change
import IdentityConsole.Proofs.Storage.Entries

/-!
# How a session is stored

A login stores its token first and then its identity. What is found in the storage afterwards
depends on which of the two was refused, and on whether the token could be taken back.
-/

namespace IdentityConsole

namespace Session

/-- What comes of storing a session, and what is stored then. -/
inductive Persisted (user : Identity) (token : String) (storage : Storage) :
    Except LoginError Unit → Storage → Prop
  | tokenRefused {error : StorageError}
      (htoken : storage.set Storage.tokenKey token = .error error) :
      Persisted user token storage (.error (.tokenNotStored error)) storage
  | userRefused {error : StorageError} {between later : Storage}
      (htoken : storage.set Storage.tokenKey token = .ok between)
      (huser : between.set Storage.userKey user.stored = .error error)
      (hrollback : between.remove Storage.tokenKey = .ok later) :
      Persisted user token storage (.error (.userNotStored error)) later
  | rollbackRefused {error rollback : StorageError} {between : Storage}
      (htoken : storage.set Storage.tokenKey token = .ok between)
      (huser : between.set Storage.userKey user.stored = .error error)
      (hrollback : between.remove Storage.tokenKey = .error rollback) :
      Persisted user token storage (.error (.userNotStored error)) between
  | stored {between later : Storage}
      (htoken : storage.set Storage.tokenKey token = .ok between)
      (huser : between.set Storage.userKey user.stored = .ok later) :
      Persisted user token storage (.ok ()) later

theorem persisted (user : Identity) (token : String) (outside : Outside) :
    Persisted user token outside.storage (persist user token outside).1
      (persist user token outside).2.storage := by
  unfold persist
  split
  · next htoken => exact .tokenRefused htoken
  · next between htoken =>
    dsimp only
    split
    · next huser => exact .stored htoken huser
    · next huser =>
      split
      · next hrollback => exact .userRefused htoken huser hrollback
      · next hrollback => exact .rollbackRefused htoken huser hrollback

/-- What comes of a login that was issued a token or none, with the session and the storage it
leaves. -/
inductive LoggedIn (session : Session) (storage : Storage) (issued : Option String) :
    Except LoginError Identity → Session → Storage → Prop
  | refused (error : LoginError) : LoggedIn session storage issued (.error error) session storage
  | notStored {user : Identity} {token : String} {error : LoginError} {later : Storage}
      (hissued : issued = some token)
      (hstored : Persisted user token storage (.error error) later) :
      LoggedIn session storage issued (.error error) session later
  | signedIn {user : Identity} {token : String} {later : Storage} (hissued : issued = some token)
      (huser : user.Fits (Json.nestingLimit - 1))
      (hstored : Persisted user token storage (.ok ()) later) :
      LoggedIn session storage issued (.ok user) (session.announce (.signedIn user token)) later

end Session

/-- A value that a request results in was decoded from the body of the response. -/
theorem Client.decoded_of_call {α : Type} {client : Client} {decoder : Json.Decoder α}
    {request : Request} {reply : Http.Reply} {outside : Outside} {value : α}
    (h : (client.call decoder request reply outside).1 = .ok value) :
    ∃ draft, decoder Json.nestingLimit draft = .ok value := by
  simp only [call, Except.bind] at h
  split at h
  · cases h
  · next response _ =>
    simp only [Response.value] at h
    obtain ⟨text, -, h⟩ := bind_eq_ok.mp h
    exact ⟨_, Json.decoder_of_decode (of_mapError_eq_ok h)⟩

theorem TokenGrant.fits_user {client : Client} {username password : String} {reply : Http.Reply}
    {outside : Outside} {grant : TokenGrant}
    (h : (client.requestToken username password reply outside).1 = .ok grant) :
    (grant.user.getD (.named username)).Fits (Json.nestingLimit - 1) := by
  obtain ⟨draft, hdraft⟩ := Client.decoded_of_call h
  cases huser : grant.user with
  | none => exact Identity.fits_named _ username
  | some user => exact (fits_of_decoder hdraft huser).mono (by decide)

/-- The token that a login is issued. -/
def Client.issued? (client : Client) (username password : String) (reply : Http.Reply)
    (outside : Outside) : Option String :=
  (client.requestToken username password reply outside).1.toOption.map (·.accessToken)

namespace Session

theorem loggedIn (client : Client) (username password : String) (reply : Http.Reply)
    (session : Session) (outside : Outside) :
    let result := session.login client username password reply outside
    LoggedIn session outside.storage (client.issued? username password reply outside)
      result.1 result.2.1 result.2.2.storage := by
  obtain ⟨log, hrequest⟩ := client.requestToken_snd username password reply outside
  dsimp only [login, Client.issued?]
  split
  · exact .refused _
  · split
    · next hresult =>
      rw [hresult] at hrequest
      dsimp only at hrequest ⊢
      rw [hrequest]
      exact .refused _
    · next grant outside' hresult =>
      have hfits := TokenGrant.fits_user (congrArg Prod.fst hresult)
      rw [hresult] at hrequest
      dsimp only at hrequest ⊢
      have hstored := persisted (grant.user.getD (.named username)) grant.accessToken outside'
      have hstorage : outside'.storage = outside.storage := by rw [hrequest]
      rw [hstorage] at hstored
      split
      · next hpersist =>
        rw [hpersist] at hstored
        exact .notStored (by rw [hresult]; rfl) hstored
      · next hpersist =>
        rw [hpersist] at hstored
        exact .signedIn (by rw [hresult]; rfl) hfits hstored

end Session

/-- Alice is signed in, with a storage in memory that fails in some way. -/
def Outside.aliceStored (failing : Failing) : Outside :=
  let entries := (Dict.empty.insert Storage.tokenKey "abc123").insert Storage.userKey
    "\x7b\"name\":\"alice\"\x7d"
  .initial ⟨.memory entries, failing⟩ ["http://identity"]

/-- The reply to a login that is granted. -/
def Http.Reply.granting : Http.Reply :=
  .response 200 (Text.Utf8.encode "\x7b\"access_token\":\"def456\"\x7d") true

end IdentityConsole
