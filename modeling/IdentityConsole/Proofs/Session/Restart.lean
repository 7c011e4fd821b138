import IdentityConsole.Proofs.Session.Kept

/-!
# Restarts

Whoever signed in is signed in again after a restart, with the same identity and the same token. The
one exception is an empty token: a login takes it for a session, but it is not restored.
-/

namespace IdentityConsole

open Storage (tokenKey)

namespace Session

/-- A session that is kept is the one that is found, unless its token is empty. -/
theorem stored_of_kept {storage : Storage} {user : Identity} {token : String}
    (h : Kept storage (.signedIn user token)) (hintegral : user.isIntegral = true) :
    stored storage = .ok (if token = "" then .signedOut else .signedIn user token) := by
  obtain ⟨htoken, text, huser, hdecode⟩ := h
  rw [stored, htoken, huser]
  by_cases hempty : token = ""
  · rw [if_pos hempty, hempty]
    rfl
  · have hfilter : (some token).filter (· ≠ "") = some token :=
      Option.filter_eq_some_iff.mpr ⟨rfl, decide_eq_true hempty⟩
    rw [if_neg hempty]
    simp only [Except.mapError, ok_bind, hfilter, hdecode hintegral]
    rfl

/-- **A restart finds the session of the last login**, whatever was stored before: the same identity
with the token that was issued, unless that is empty. Nothing is written or noted when it is
restored. -/
theorem restore_login (client : Client) (username password : String) (reply : Http.Reply)
    (session : Session) (outside : Outside) (hget : outside.storage.failing.get = false)
    {user : Identity}
    (h : (session.login client username password reply outside).1 = .ok user)
    (hintegral : user.isIntegral = true) :
    let result := session.login client username password reply outside
    ∃ token, client.issued? username password reply outside = some token ∧
      result.2.1.state = .signedIn user token ∧
      initial.restore result.2.2 =
        (initial.announce (if token = "" then .signedOut else .signedIn user token),
          result.2.2) := by
  intro result
  have hresult := session.loggedIn client username password reply outside
  dsimp only at hresult
  rw [h] at hresult
  change LoggedIn session outside.storage _ (.ok user) result.2.1 result.2.2.storage at hresult
  generalize hstorage : result.2.2.storage = storage, hlater : result.2.1 = later at hresult
  cases hresult with
  | @signedIn _ token _ hissued huser hstored =>
    refine ⟨token, hissued, rfl, ?_⟩
    have hfound := stored_of_kept (hstored.kept hget huser) hintegral
    rw [restore, hstorage, hfound]

/-- Nothing is stored yet, and everything works. -/
def nothingStored : Outside :=
  .initial (.reliable (.memory .empty)) ["http://identity"]

/-- Bob signs in, and this is the answer. -/
def loginAnswered (answer : String) : Except LoginError Identity × Session × Outside :=
  initial.login (.ofAddress "http://identity") "bob" "secret"
    (.response 200 (Text.Utf8.encode answer) true) nothingStored

def tokenWithRecord : String :=
  "\x7b\"access_token\":\"def456\",\"user\":\x7b\"name\":\"Bob\",\"age\":41\x7d\x7d"

def bob : Identity :=
  ⟨none, some "Bob", none, Dict.empty.insert "age" (.ofNat 41)⟩

theorem restore_login_tokenWithRecord :
    (loginAnswered tokenWithRecord).1 = .ok bob ∧ bob.isIntegral = true ∧
      (initial.restore (loginAnswered tokenWithRecord).2.2).1.state = .signedIn bob "def456" := by
  have hlogin : (loginAnswered tokenWithRecord).1 = .ok bob := eq_ok_of_toOption (by decide +kernel)
  have hstate : (loginAnswered tokenWithRecord).2.1.state = .signedIn bob "def456" := by
    decide +kernel
  have hintegral : bob.isIntegral = true := by decide +kernel
  have hunfold : initial.login (.ofAddress "http://identity") "bob" "secret"
      (.response 200 (Text.Utf8.encode tokenWithRecord) true) nothingStored =
      loginAnswered tokenWithRecord := rfl
  have hrestore := restore_login (.ofAddress "http://identity") "bob" "secret"
    (.response 200 (Text.Utf8.encode tokenWithRecord) true) initial nothingStored rfl hlogin
    hintegral
  rw [hunfold] at hrestore
  obtain ⟨token, -, hsignedIn, hrestored⟩ := hrestore
  rw [hstate] at hsignedIn
  cases hsignedIn
  refine ⟨hlogin, hintegral, ?_⟩
  rw [hrestored, if_neg (by decide)]
  rfl

def emptyToken : String :=
  "\x7b\"access_token\":\"\"\x7d"

/-- With an empty token Bob is signed in, but not any more after a restart. -/
theorem loginAnswered_emptyToken :
    (loginAnswered emptyToken).1 = .ok (.named "bob") ∧
    (loginAnswered emptyToken).2.1.state = .signedIn (.named "bob") "" ∧
    (loginAnswered emptyToken).2.2.storage.get tokenKey = .ok (some "") ∧
    (initial.restore (loginAnswered emptyToken).2.2).1.state = .signedOut :=
  ⟨eq_ok_of_toOption (by decide +kernel), by decide +kernel, eq_ok_of_toOption (by decide +kernel),
    by decide +kernel⟩

end Session

end IdentityConsole
