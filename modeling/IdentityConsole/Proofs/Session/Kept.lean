import IdentityConsole.Proofs.Session.Storing

/-!
# The session is the stored one

As long as the storage does not fail, who is signed in is also who is stored: the token under its
key, and under the other a text that is read as the identity. So a restart changes nothing.
-/

namespace IdentityConsole

open Storage (tokenKey userKey)

namespace Session

/-- What is stored while a session lasts. An identity with floating point numbers is stored too, but
its text is not looked at here. -/
def Kept (storage : Storage) : SessionState → Prop
  | .signedOut => True
  | .signedIn user token =>
    storage.get tokenKey = .ok (some token) ∧
    ∃ text, storage.get userKey = .ok (some text) ∧
      (user.isIntegral = true → Json.decode Identity.decoder text = .ok user)

theorem kept_of_stored {storage : Storage} {state : SessionState}
    (h : stored storage = .ok state) : Kept storage state := by
  cases state with
  | signedOut => trivial
  | signedIn user token =>
    obtain ⟨foundToken, htoken, h⟩ := bind_eq_ok.mp h
    obtain ⟨foundUser, huser, h⟩ := bind_eq_ok.mp h
    split at h
    · next stored text hstored =>
      obtain ⟨identity, hidentity, h⟩ := bind_eq_ok.mp h
      cases h
      have hfound : foundToken = some token := (Option.filter_eq_some_iff.mp hstored).1
      rw [hfound] at htoken
      exact ⟨of_mapError_eq_ok htoken, text, of_mapError_eq_ok huser,
        fun _ => of_mapError_eq_ok hidentity⟩
    · cases h

theorem Persisted.failing {user : Identity} {token : String} {storage later : Storage}
    {result : Except LoginError Unit} (h : Persisted user token storage result later) :
    later.failing = storage.failing := by
  have hset : ∀ {storage later : Storage} {key value : String},
      storage.set key value = .ok later → later.failing = storage.failing :=
    fun h => (Storage.set_eq_ok_iff.mp h).2.2
  cases h with
  | tokenRefused htoken => rfl
  | userRefused htoken huser hrollback =>
    exact (Storage.remove_eq_ok_iff.mp hrollback).2.2.trans (hset htoken)
  | rollbackRefused htoken huser hrollback => exact hset htoken
  | stored htoken huser => exact (hset huser).trans (hset htoken)

theorem Persisted.kept {user : Identity} {token : String} {storage later : Storage}
    (h : Persisted user token storage (.ok ()) later) (hget : storage.failing.get = false)
    (huser : user.Fits (Json.nestingLimit - 1)) : Kept later (.signedIn user token) := by
  cases h with
  | @stored between _ htoken hidentity =>
    have hfailing := (Storage.set_eq_ok_iff.mp htoken).2.2
    have hstored : later.get userKey = .ok (some user.stored) :=
      Storage.get_of_set hidentity (hfailing ▸ hget)
    refine ⟨?_, user.stored, hstored, Identity.decode_stored huser⟩
    calc later.get tokenKey
        = between.get tokenKey :=
          Storage.get_of_set_of_ne hidentity Storage.tokenKey_ne_userKey
      _ = .ok (some token) := Storage.get_of_set htoken hget

/-- While a session is stored, another one can be. -/
theorem Persisted.not_error {user kept : Identity} {token other : String} {storage later : Storage}
    {error : LoginError} (h : Persisted user token storage (.error error) later)
    (hfailing : storage.failing = .never) (hkept : Kept storage (.signedIn kept other)) :
    False := by
  have hset : ∀ {storage : Storage} (key value : String), storage.failing = .never →
      (∃ key kept, storage.get key = .ok (some kept)) →
      ∃ later, storage.set key value = .ok later := by
    rintro storage key value hnever ⟨other, kept, hother⟩
    exact Storage.set_eq_ok_of_get hother (by rw [hnever]; exact List.not_mem_nil) value
  obtain ⟨between, htoken⟩ := hset tokenKey token hfailing ⟨_, _, hkept.1⟩
  have hbetween : between.failing = .never := (Storage.set_eq_ok_iff.mp htoken).2.2.trans hfailing
  have hget : between.get tokenKey = .ok (some token) :=
    Storage.get_of_set htoken (by rw [hfailing]; rfl)
  obtain ⟨stored, huser⟩ := hset userKey user.stored hbetween ⟨_, _, hget⟩
  cases h with
  | tokenRefused hrefused =>
    rw [hrefused] at htoken
    cases htoken
  | userRefused htoken' hrefused | rollbackRefused htoken' hrefused =>
    rw [htoken'] at htoken
    cases htoken
    rw [hrefused] at huser
    cases huser

theorem LoggedIn.kept {session later : Session} {storage stored : Storage}
    {issued : Option String} {result : Except LoginError Identity}
    (h : LoggedIn session storage issued result later stored)
    (hfailing : storage.failing = .never) (hkept : Kept storage session.state) :
    stored.failing = .never ∧ Kept stored later.state := by
  cases h with
  | refused error => exact ⟨hfailing, hkept⟩
  | notStored hissued hstored =>
    refine ⟨hstored.failing.trans hfailing, ?_⟩
    cases hstate : session.state with
    | signedOut => trivial
    | signedIn user token =>
      rw [hstate] at hkept
      exact (hstored.not_error hfailing hkept).elim
  | signedIn hissued huser hstored =>
    exact ⟨hstored.failing.trans hfailing, hstored.kept (by rw [hfailing]; rfl) huser⟩

end Session

end IdentityConsole
