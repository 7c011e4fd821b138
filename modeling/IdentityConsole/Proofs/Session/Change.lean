import IdentityConsole.Proofs.Api.Send
import IdentityConsole.Session.Session

/-!
# How a session changes

It changes by a successful login and by a logout. Neither asks anything of the server but a token.
-/

namespace IdentityConsole

namespace Storage

/-- What is left when an entry is removed, if it can be. -/
def without (key : String) (storage : Storage) : Storage :=
  match storage.remove key with
  | .ok storage => storage
  | .error _ => storage

/-- What a logout leaves. -/
def cleared (storage : Storage) : Storage :=
  (storage.without tokenKey).without userKey

end Storage

theorem Outside.clear_eq (key : String) (outside : Outside) :
    ∃ log, outside.clear key = { outside with storage := outside.storage.without key, log } := by
  unfold clear Storage.without
  cases outside.storage.remove key with
  | ok storage => exact ⟨outside.log, rfl⟩
  | error error => exact ⟨_, rfl⟩

namespace Client

/-- What a login sends: the request for a token, if it is complete and can leave. -/
def tokenRequests (client : Client) (username password : String) (outside : Outside) : List Sent :=
  if username = "" ∨ password = "" then []
  else (client.send (tokenRequest username password) outside).1.toOption.toList

theorem send_of_mem_tokenRequests {client : Client} {username password : String}
    {outside : Outside} {sent : Sent}
    (h : sent ∈ client.tokenRequests username password outside) :
    (client.send (tokenRequest username password) outside).1 = .ok sent := by
  unfold tokenRequests at h
  split at h
  · cases h
  · exact mem_toList_toOption.mp h

end Client

namespace Session

theorem logout_eq (session : Session) (outside : Outside) :
    ∃ log, session.logout outside =
      (session.announce .signedOut, { outside with storage := outside.storage.cleared, log }) := by
  obtain ⟨log, htoken⟩ := outside.clear_eq Storage.tokenKey
  obtain ⟨log', huser⟩ := (outside.clear Storage.tokenKey).clear_eq Storage.userKey
  unfold logout
  rw [huser, htoken]
  dsimp only
  split
  · exact ⟨_, rfl⟩
  · exact ⟨log', rfl⟩

theorem persist_snd (user : Identity) (token : String) (outside : Outside) :
    ∃ storage log, (persist user token outside).2 = { outside with storage, log } := by
  unfold persist
  split
  · exact ⟨outside.storage, outside.log, rfl⟩
  · dsimp only
    split
    · exact ⟨_, outside.log, rfl⟩
    · split
      · exact ⟨_, outside.log, rfl⟩
      · exact ⟨_, _, rfl⟩

section Login

variable (client : Client) (username password : String) (reply : Http.Reply) (session : Session)
  (outside : Outside)

/-- A failed login keeps the session, a successful one signs in. -/
theorem login_cases :
    (∃ error, (session.login client username password reply outside).1 = .error error ∧
      (session.login client username password reply outside).2.1 = session) ∨
    ∃ user token, (session.login client username password reply outside).1 = .ok user ∧
      (session.login client username password reply outside).2.1 =
        session.announce (.signedIn user token) := by
  unfold login
  split
  · exact .inl ⟨_, rfl, rfl⟩
  · split
    · exact .inl ⟨_, rfl, rfl⟩
    · dsimp only
      split
      · exact .inl ⟨_, rfl, rfl⟩
      · exact .inr ⟨_, _, rfl, rfl⟩

/-- A login sends the request for a token and nothing else. -/
theorem login_snd :
    ∃ storage log, (session.login client username password reply outside).2.2 =
      { outside with
        storage, log, sent := outside.sent ++ client.tokenRequests username password outside } := by
  obtain ⟨log, hrequest⟩ := client.requestToken_snd username password reply outside
  unfold login Client.tokenRequests
  split
  · exact ⟨outside.storage, outside.log, by rw [List.append_nil]⟩
  · split
    · next hresult =>
      rw [hresult] at hrequest
      exact ⟨outside.storage, log, hrequest⟩
    · next grant outside' hresult =>
      rw [hresult] at hrequest
      dsimp only at hrequest ⊢
      obtain ⟨storage, log', hpersist⟩ :=
        persist_snd (grant.user.getD (.named username)) grant.accessToken outside'
      split
      · next hkept =>
        rw [hkept] at hpersist
        exact ⟨storage, log', by rw [hpersist, hrequest]⟩
      · next hkept =>
        rw [hkept] at hpersist
        dsimp only at hpersist
        exact ⟨storage, _, by rw [hpersist, hrequest]; rfl⟩

theorem login_outside :
    ∃ storage log posts,
      (session.login client username password reply outside).2.2 =
        { outside with storage, log, sent := outside.sent ++ posts } ∧
      ∀ sent ∈ posts,
        (client.send (Client.tokenRequest username password) outside).1 = .ok sent := by
  obtain ⟨storage, log, h⟩ := login_snd client username password reply session outside
  exact ⟨storage, log, _, h, fun sent => Client.send_of_mem_tokenRequests⟩

end Login

end Session

end IdentityConsole
