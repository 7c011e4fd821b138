import IdentityConsole.Proofs.Session.Storing

/-!
# Failed logins

A login that fails leaves the session and what is stored as they were, with one exception: where the
identity is refused after the token was stored, the token is removed and not put back. So a session
that was stored before loses its token there, although it is still the session in memory.
-/

namespace IdentityConsole

open Storage (tokenKey userKey)

namespace Session

/-- Where removals work, what was set is removed again. -/
theorem rollback_of_set {storage between : Storage} {key value : String}
    (h : storage.set key value = .ok between) (hremove : storage.failing.remove = false) :
    ∃ later, between.remove key = .ok later := by
  obtain ⟨-, hset, hfailing⟩ := Storage.set_eq_ok_iff.mp h
  obtain ⟨entries, -, -, hentries, -⟩ := Store.entries_of_set hset
  obtain ⟨store, hstore, -⟩ := Store.remove_eq_ok hentries key
  exact ⟨{ between with store }, Storage.remove_eq_ok_iff.mpr ⟨hfailing ▸ hremove, hstore, rfl⟩⟩

theorem Persisted.of_error {user : Identity} {token : String} {storage later : Storage}
    {error : LoginError} (h : Persisted user token storage (.error error) later)
    (hget : storage.failing.get = false) (hremove : storage.failing.remove = false) :
    (∃ cause, error = .tokenNotStored cause ∧ later = storage) ∨
    ∃ cause, error = .userNotStored cause ∧ later.get tokenKey = .ok none ∧
      later.get userKey = storage.get userKey := by
  have hne : userKey ≠ tokenKey := Storage.tokenKey_ne_userKey.symm
  cases h with
  | tokenRefused htoken => exact .inl ⟨_, rfl, rfl⟩
  | @userRefused _ between _ htoken huser hrollback =>
    have hfailing := (Storage.set_eq_ok_iff.mp htoken).2.2
    refine .inr ⟨_, rfl, Storage.get_of_remove hrollback (hfailing ▸ hget), ?_⟩
    calc later.get userKey
        = between.get userKey := Storage.get_of_remove_of_ne hrollback hne
      _ = storage.get userKey := Storage.get_of_set_of_ne htoken hne
  | rollbackRefused htoken huser hrollback =>
    obtain ⟨rolledBack, hremoved⟩ := rollback_of_set htoken hremove
    rw [hrollback] at hremoved
    cases hremoved

/-- **A failed login leaves the session and the stored identity as they were**, and the stored token
too, unless it was the identity that could not be stored. Then no token is stored any more. -/
theorem login_failed (client : Client) (username password : String) (reply : Http.Reply)
    (session : Session) (outside : Outside) (hget : outside.storage.failing.get = false)
    (hremove : outside.storage.failing.remove = false) {error : LoginError}
    (h : (session.login client username password reply outside).1 = .error error) :
    let result := session.login client username password reply outside
    result.2.1 = session ∧
    result.2.2.storage.get userKey = outside.storage.get userKey ∧
    (result.2.2.storage = outside.storage ∨
      ∃ cause, error = .userNotStored cause ∧ result.2.2.storage.get tokenKey = .ok none) := by
  intro result
  have hresult := session.loggedIn client username password reply outside
  dsimp only at hresult
  rw [h] at hresult
  change LoggedIn session outside.storage _ (.error error) result.2.1 result.2.2.storage at hresult
  generalize result.2.1 = later, result.2.2.storage = stored at hresult ⊢
  cases hresult with
  | refused => exact ⟨rfl, rfl, .inl rfl⟩
  | notStored hissued hstored =>
    rcases hstored.of_error hget hremove with ⟨cause, -, hsame⟩ | ⟨cause, herror, htoken, huser⟩
    · exact ⟨rfl, by rw [hsame], .inl hsame⟩
    · exact ⟨rfl, huser, .inr ⟨cause, herror, htoken⟩⟩

/-- Identities cannot be stored any more. -/
def withoutRoomForUsers : Outside :=
  .aliceStored ⟨false, false, [userKey]⟩

def signedInBefore : Session :=
  (initial.restore withoutRoomForUsers).1

/-- Somebody else signs in, and the server grants it. -/
def loginWithoutRoom : Except LoginError Identity × Session × Outside :=
  signedInBefore.login (.ofAddress "http://identity") "bob" "secret" .granting withoutRoomForUsers

theorem loginWithoutRoom_failed : ∃ error, loginWithoutRoom.1 = .error error :=
  exists_eq_error_of_toOption (by decide +kernel)

theorem login_failed_withoutRoom :
    ∃ error, loginWithoutRoom.1 = .error error ∧
      loginWithoutRoom.2.1 = signedInBefore ∧
      loginWithoutRoom.2.2.storage.get userKey = withoutRoomForUsers.storage.get userKey ∧
      (loginWithoutRoom.2.2.storage = withoutRoomForUsers.storage ∨
        ∃ cause, error = .userNotStored cause ∧
          loginWithoutRoom.2.2.storage.get tokenKey = .ok none) := by
  obtain ⟨error, h⟩ := loginWithoutRoom_failed
  have hlogin : signedInBefore.login (.ofAddress "http://identity") "bob" "secret" .granting
      withoutRoomForUsers = loginWithoutRoom := rfl
  have hfailed := login_failed (.ofAddress "http://identity") "bob" "secret" .granting
    signedInBefore withoutRoomForUsers rfl rfl (hlogin ▸ h)
  rw [hlogin] at hfailed
  exact ⟨error, h, hfailed⟩

/-- The failed login takes the stored token of the session with it. -/
theorem loginWithoutRoom_token_lost :
    (∃ error, loginWithoutRoom.1 = .error error) ∧
    loginWithoutRoom.2.1.state = .signedIn (.named "alice") "abc123" ∧
    withoutRoomForUsers.storage.get tokenKey = .ok (some "abc123") ∧
    loginWithoutRoom.2.2.storage.get tokenKey = .ok none :=
  ⟨loginWithoutRoom_failed, by decide +kernel, eq_ok_of_toOption (by decide +kernel),
    eq_ok_of_toOption (by decide +kernel)⟩

end Session

end IdentityConsole
