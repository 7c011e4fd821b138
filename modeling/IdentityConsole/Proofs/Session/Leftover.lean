import IdentityConsole.Proofs.Api.Bearer
import IdentityConsole.Proofs.Session.Storing
import IdentityConsole.Proofs.Storage.Alike

/-!
# What an earlier session leaves behind

A login replaces what is stored, and as long as the storage works it comes to the same whatever that
was. There is one exception. Its request takes the stored token along like any other, so that a
token which cannot stand in a header keeps it from being sent.
-/

namespace IdentityConsole

open Storage (sessionKeys tokenKey userKey)

namespace Storage

/-- Every entry can be read and written. -/
structure Works (storage : Storage) : Prop where
  get : ∀ key, ∃ found, storage.get key = .ok found
  set : ∀ key value, ∃ later, storage.set key value = .ok later

/-- The stored token, if there is one, can stand in a header. -/
def Sendable (storage : Storage) : Prop :=
  ∀ token, storage.get tokenKey = .ok (some token) → Client.isHeaderValue token = true

theorem works_memory (entries : Dict String) : (reliable (.memory entries)).Works where
  get _ := ⟨_, rfl⟩
  set _ _ := ⟨_, rfl⟩

namespace Works

variable {storage later : Storage} {key value : String}

theorem failing_get (h : storage.Works) : storage.failing.get = false := by
  obtain ⟨found, hfound⟩ := h.get tokenKey
  unfold Storage.get at hfound
  split at hfound
  · cases hfound
  · next hfailing => exact Bool.eq_false_iff.mpr hfailing

theorem of_set (h : storage.Works) (hset : storage.set key value = .ok later) : later.Works := by
  obtain ⟨-, hstore, hfailing⟩ := set_eq_ok_iff.mp hset
  obtain ⟨entries, -, -, hentries, hobstacle⟩ := Store.entries_of_set hstore
  refine ⟨fun other => ?_, fun other text => ?_⟩
  · refine ⟨(entries.insert key value).get? other, ?_⟩
    rw [get_of_failing_eq (hfailing ▸ h.failing_get), hentries]
    rfl
  · obtain ⟨_, hother⟩ := h.set other text
    obtain ⟨store, hlater, -⟩ := Store.set_eq_ok hentries hobstacle other text
    exact ⟨{ later with store },
      set_eq_ok_iff.mpr ⟨hfailing ▸ (set_eq_ok_iff.mp hother).1, hlater, rfl⟩⟩

end Works

end Storage

namespace Client

variable {client : Client} {outside other : Outside}

/-- Of the token nothing is looked at but whether it can stand in a header. -/
theorem prepare_bind {α : Type} {token token' value value' : Option String}
    (h : authorization token = .ok value) (h' : authorization token' = .ok value')
    (request : Request) (network : Http.Network) (result : Except ApiError α) :
    ((client.prepare request token network).bind fun _ => result) =
      (client.prepare request token' network).bind fun _ => result := by
  unfold prepare
  rw [h, h', ok_bind, ok_bind]
  dsimp only
  split
  · rfl
  · split <;> rfl

theorem authorization_of_sendable (h : outside.storage.Sendable) :
    ∃ value, authorization (storedToken outside).1 = .ok value := by
  unfold storedToken
  split
  · next found hfound =>
    cases found with
    | none => exact ⟨none, rfl⟩
    | some token => exact ⟨bearer? token, by rw [authorization_some, if_pos (h token hfound)]⟩
  · exact ⟨none, rfl⟩

theorem requestToken_sendable (h : outside.storage.Sendable) (h' : other.storage.Sendable)
    (hnetwork : outside.network = other.network) (username password : String)
    (reply : Http.Reply) :
    (client.requestToken username password reply outside).1 =
      (client.requestToken username password reply other).1 := by
  obtain ⟨value, hvalue⟩ := authorization_of_sendable h
  obtain ⟨value', hvalue'⟩ := authorization_of_sendable h'
  rw [requestToken_fst, requestToken_fst, send_fst, send_fst, hnetwork,
    prepare_bind hvalue hvalue']

end Client

namespace Session

/-- What was stored can be read. -/
theorem Persisted.get {user : Identity} {token : String} {storage later : Storage}
    (h : Persisted user token storage (.ok ()) later) (hget : storage.failing.get = false) :
    later.get tokenKey = .ok (some token) ∧ later.get userKey = .ok (some user.stored) := by
  cases h with
  | stored htoken huser =>
    have hfailing := (Storage.set_eq_ok_iff.mp htoken).2.2
    refine ⟨?_, Storage.get_of_set huser (hfailing ▸ hget)⟩
    rw [Storage.get_of_set_of_ne huser Storage.tokenKey_ne_userKey]
    exact Storage.get_of_set htoken hget

theorem persist_fst_of_works {outside : Outside} (h : outside.storage.Works) (user : Identity)
    (token : String) : (persist user token outside).1 = .ok () := by
  obtain ⟨between, htoken⟩ := h.set tokenKey token
  obtain ⟨later, huser⟩ := (h.of_set htoken).set userKey user.stored
  unfold persist
  rw [htoken]
  dsimp only
  rw [huser]

section Login

variable (client : Client) {username password : String} (reply : Http.Reply) (session : Session)
  {outside : Outside} (husername : username ≠ "") (hpassword : password ≠ "")

include husername hpassword

/-- Where the storage works a login comes to what its request comes to. -/
theorem login_fst_of_works (h : outside.storage.Works) :
    (session.login client username password reply outside).1 =
      ((client.requestToken username password reply outside).1.mapError LoginError.api).map
        fun grant => grant.user.getD (.named username) := by
  obtain ⟨log, hrequest⟩ := client.requestToken_snd username password reply outside
  unfold login
  rw [if_neg (not_or.mpr ⟨husername, hpassword⟩)]
  generalize client.requestToken username password reply outside = result at hrequest
  obtain ⟨error | grant, later⟩ := result
  · rfl
  · have hstorage : later.storage = outside.storage := by
      dsimp only at hrequest
      rw [hrequest]
    have hworks : later.storage.Works := hstorage ▸ h
    have hpersist :=
      persist_fst_of_works hworks (grant.user.getD (.named username)) grant.accessToken
    dsimp only
    generalize persist (grant.user.getD (.named username)) grant.accessToken later = stored
      at hpersist
    obtain ⟨error | done, last⟩ := stored
    · cases hpersist
    · rfl

/-- With a token that cannot be sent nobody can sign in, and nothing comes of trying. -/
theorem login_of_not_isHeaderValue {token : String}
    (htoken : outside.storage.get tokenKey = .ok (some token))
    (hvalue : Client.isHeaderValue token = false) :
    session.login client username password reply outside =
      (.error (.api Client.badToken), session, outside) := by
  have hsend : client.send (Client.tokenRequest username password) outside =
      (.error Client.badToken, outside) :=
    Client.send_of_not_isHeaderValue htoken hvalue
  have hrequest : client.requestToken username password reply outside =
      (.error Client.badToken, outside) := by
    unfold Client.requestToken Client.call Client.execute
    rw [hsend]
    rfl
  unfold login
  rw [if_neg (not_or.mpr ⟨husername, hpassword⟩), hrequest]

end Login

/-- The session that a login is granted is that of the token that it is issued. -/
theorem login_of_ok {client : Client} {username password : String} {reply : Http.Reply}
    {session : Session} {outside : Outside} {user : Identity} (h : outside.storage.Works)
    (hlogin : (session.login client username password reply outside).1 = .ok user) :
    let result := session.login client username password reply outside
    ∃ token, client.issued? username password reply outside = some token ∧
      result.2.1.state = .signedIn user token ∧
      result.2.2.storage.get tokenKey = .ok (some token) ∧
      result.2.2.storage.get userKey = .ok (some user.stored) := by
  intro result
  have hresult := session.loggedIn client username password reply outside
  dsimp only at hresult
  rw [hlogin] at hresult
  change LoggedIn session outside.storage _ (.ok user) result.2.1 result.2.2.storage at hresult
  generalize result.2.2.storage = storage, result.2.1 = later at hresult
  cases hresult with
  | @signedIn _ token _ hissued huser hstored =>
    obtain ⟨htoken, hidentity⟩ := hstored.get h.failing_get
    exact ⟨token, hissued, rfl, htoken, hidentity⟩

/-- **Nothing that is left in the storage influences a login** but a token that cannot stand in a
header, which makes all of them fail. -/
theorem login_leftover (client : Client) {username password : String} (husername : username ≠ "")
    (hpassword : password ≠ "") (reply : Http.Reply) (session session' : Session)
    {outside other : Outside} (h : outside.storage.Works) (h' : other.storage.Works)
    (hnetwork : outside.network = other.network) :
    let result := session.login client username password reply outside
    let result' := session'.login client username password reply other
    (outside.storage.Sendable → other.storage.Sendable →
      result.1 = result'.1 ∧
      ∀ user, result.1 = .ok user → result.2.1.state = result'.2.1.state ∧
        ∀ key ∈ sessionKeys, result.2.2.storage.get key = result'.2.2.storage.get key) ∧
    (¬outside.storage.Sendable → result = (.error (.api Client.badToken), session, outside)) := by
  intro result result'
  refine ⟨fun hsendable hsendable' => ?_, fun hsendable => ?_⟩
  · have hrequest : (client.requestToken username password reply outside).1 =
        (client.requestToken username password reply other).1 :=
      Client.requestToken_sendable hsendable hsendable' hnetwork username password reply
    have hsame : result.1 = result'.1 := by
      rw [login_fst_of_works client reply session husername hpassword h,
        login_fst_of_works client reply session' husername hpassword h', hrequest]
    refine ⟨hsame, fun user hlogin => ?_⟩
    obtain ⟨token, hissued, hstate, htoken, huser⟩ := login_of_ok h hlogin
    obtain ⟨token', hissued', hstate', htoken', huser'⟩ := login_of_ok h' (hsame ▸ hlogin)
    have heq : token = token' := by
      rw [Client.issued?, hrequest] at hissued
      exact Option.some.inj (hissued.symm.trans hissued')
    subst heq
    refine ⟨hstate.trans hstate'.symm, fun key hkey => ?_⟩
    have hkeys : key = tokenKey ∨ key = userKey := by simpa [sessionKeys] using hkey
    rcases hkeys with rfl | rfl
    · exact htoken.trans htoken'.symm
    · exact huser.trans huser'.symm
  · simp only [Storage.Sendable, not_forall, Bool.not_eq_true] at hsendable
    obtain ⟨token, htoken, hvalue⟩ := hsendable
    exact login_of_not_isHeaderValue client reply session husername hpassword htoken hvalue

/-- A storage with these entries, in which everything works. -/
def holding (entries : Dict String) : Outside :=
  .initial (.reliable (.memory entries)) ["http://identity"]

/-- Bob signs in, and the server grants it. -/
def loginOver (entries : Dict String) : Except LoginError Identity × Session × Outside :=
  initial.login (.ofAddress "http://identity") "bob" "secret" .granting (holding entries)

/-- A token without the identity that it was issued for. -/
def tokenOnly (token : String) : Dict String :=
  Dict.empty.insert tokenKey token

theorem works_holding (entries : Dict String) : (holding entries).storage.Works :=
  Storage.works_memory entries

theorem sendable_empty : (holding .empty).storage.Sendable := by
  intro token htoken
  cases htoken

theorem get_tokenOnly (token : String) :
    (holding (tokenOnly token)).storage.get tokenKey = .ok (some token) :=
  congrArg Except.ok (Dict.get?_insert_self tokenKey token .empty)

theorem sendable_tokenOnly {token : String} (h : Client.isHeaderValue token = true) :
    (holding (tokenOnly token)).storage.Sendable := by
  intro found hfound
  rw [get_tokenOnly] at hfound
  cases hfound
  exact h

theorem login_leftover_tokenOnly :
    (loginOver .empty).1 = .ok (.named "bob") ∧
    (loginOver (tokenOnly "abc123")).1 = .ok (.named "bob") ∧
    (loginOver .empty).2.1.state = (loginOver (tokenOnly "abc123")).2.1.state ∧
    ∀ key ∈ sessionKeys, (loginOver .empty).2.2.storage.get key =
      (loginOver (tokenOnly "abc123")).2.2.storage.get key := by
  have hlogin : (loginOver .empty).1 = .ok (.named "bob") :=
    eq_ok_of_toOption (by decide +kernel)
  have hunfold : ∀ entries, initial.login (.ofAddress "http://identity") "bob" "secret" .granting
      (holding entries) = loginOver entries := fun _ => rfl
  have hleftover := login_leftover (.ofAddress "http://identity") (show "bob" ≠ "" by decide)
    (show "secret" ≠ "" by decide) .granting initial initial (works_holding .empty)
    (works_holding (tokenOnly "abc123")) rfl
  rw [hunfold, hunfold] at hleftover
  obtain ⟨hsame, hlater⟩ := hleftover.1 sendable_empty (sendable_tokenOnly (by decide))
  exact ⟨hlogin, hsame.symm.trans hlogin, hlater (.named "bob") hlogin⟩

/-- With nothing in the storage Bob is signed in. With a token that has a line break he is not,
although both storages work and the server grants both logins. -/
theorem loginOver_lineBreak :
    (holding .empty).storage.Works ∧ (holding (tokenOnly "abc\n123")).storage.Works ∧
    (loginOver .empty).1 = .ok (.named "bob") ∧
    loginOver (tokenOnly "abc\n123") =
      (.error (.api Client.badToken), initial, holding (tokenOnly "abc\n123")) :=
  ⟨works_holding _, works_holding _, eq_ok_of_toOption (by decide +kernel),
    login_of_not_isHeaderValue _ _ _ (by decide) (by decide) (get_tokenOnly _) (by decide)⟩

end Session

end IdentityConsole
