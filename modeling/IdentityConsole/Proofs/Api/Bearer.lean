import IdentityConsole.Console.Task
import IdentityConsole.Proofs.Api.Send
import IdentityConsole.Proofs.Http.Address

/-!
# The token of a request

A request leaves with the token that is stored, or not at all. Whether it can leave depends on that
token and on the base address, and not on what is asked for.
-/

namespace IdentityConsole

/-- The header of a request shows a token. -/
def Sent.Carries (sent : Sent) (token : String) : Prop :=
  sent.authorization = some ("Bearer " ++ token)

namespace Client

/-- The header for a token; an empty token makes none. -/
def bearer? (token : String) : Option String :=
  if token = "" then none else some ("Bearer " ++ token)

def isHeaderValue (token : String) : Bool :=
  token.toList.all isHeaderChar

/-- Why a request with such a token does not leave. -/
def badToken : ApiError :=
  .invalidRequest "Stored token is not a valid header value"

theorem authorization_some (token : String) :
    authorization (some token) =
      if isHeaderValue token then .ok (bearer? token) else .error badToken := by
  by_cases hempty : token = ""
  · subst hempty
    rfl
  · have hfilter : (some token).filter (· ≠ "") = some token := by simp [hempty]
    rw [authorization, hfilter, bearer?, if_neg hempty]
    rfl

section Send

variable {client : Client} {request : Request} {outside : Outside} {token : String}

theorem send_of_not_isHeaderValue (htoken : outside.storage.get Storage.tokenKey = .ok (some token))
    (hvalue : isHeaderValue token = false) :
    client.send request outside = (.error badToken, outside) := by
  have hprepare : client.prepare request (some token) outside.network = .error badToken := by
    rw [prepare, authorization_some, hvalue]
    rfl
  simp only [send, storedToken, htoken, hprepare]

theorem send_of_isHeaderValue (htoken : outside.storage.get Storage.tokenKey = .ok (some token))
    (hvalue : isHeaderValue token = true) {root : Http.Address}
    (hroot : Http.Address.parse? (client.address ++ "/") = some root)
    (hnetwork : root.origin ∈ outside.network) (hpath : request.path.toList.head? = some '/') :
    ∃ sent, client.send request outside = (.ok sent, outside.send sent) ∧
      sent.authorization = bearer? token ∧ sent.method = request.method ∧
      sent.body = request.body := by
  obtain ⟨address, haddress, horigin⟩ := Http.Address.parse?_below hroot hpath
  have hprepare : client.prepare request (some token) outside.network =
      .ok ⟨request.method, address.origin ++ address.target, address.target, bearer? token,
        request.body⟩ := by
    rw [← horigin] at hnetwork
    rw [prepare, authorization_some, hvalue]
    simp only [if_true, bind, Except.bind, haddress, if_pos hnetwork]
    rfl
  refine ⟨⟨request.method, address.origin ++ address.target, address.target, bearer? token,
    request.body⟩, ?_, rfl, rfl, rfl⟩
  simp only [send, storedToken, htoken, hprepare]

theorem of_prepare {token : Option String} {network : Http.Network} {sent : Sent}
    (h : client.prepare request token network = .ok sent) :
    authorization token = .ok sent.authorization ∧ sent.method = request.method ∧
      sent.body = request.body := by
  unfold prepare at h
  cases hauthorization : authorization token with
  | error error =>
    rw [hauthorization] at h
    cases h
  | ok value =>
    rw [hauthorization] at h
    simp only [bind, Except.bind] at h
    split at h
    · cases h
    · split at h
      · cases h
        exact ⟨rfl, rfl, rfl⟩
      · cases h

theorem eq_of_authorization {found : Option String}
    (h : authorization found = .ok (some ("Bearer " ++ token))) : found = some token := by
  cases found with
  | none => cases h
  | some other =>
    rw [authorization_some] at h
    split at h
    · have hbearer : bearer? other = some ("Bearer " ++ token) := Except.ok.inj h
      unfold bearer? at hbearer
      split at hbearer
      · cases hbearer
      · have happend : "Bearer " ++ other = "Bearer " ++ token := Option.some.inj hbearer
        rw [String.append_right_inj] at happend
        rw [happend]
    · cases h

/-- What a request carries is stored when it leaves. -/
theorem get_of_send {sent : Sent} (h : (client.send request outside).1 = .ok sent)
    (hcarries : sent.Carries token) :
    outside.storage.get Storage.tokenKey = .ok (some token) := by
  have hstored : (storedToken outside).1 = some token := by
    rw [send_fst] at h
    refine eq_of_authorization ?_
    rw [(of_prepare h).1, hcarries]
  unfold storedToken at hstored
  split at hstored
  · next found hfound =>
    dsimp only at hstored
    rw [hfound, hstored]
  · cases hstored

end Send

end Client

theorem Request.head?_rooted (path : String) : (rooted path).toList.head? = some '/' := by
  unfold rooted
  split
  · next h => exact h
  · rw [String.toList_append]
    rfl

theorem Task.head?_path (task : Task) : task.request.path.toList.head? = some '/' := by
  cases task <;> exact Request.head?_rooted _

end IdentityConsole
