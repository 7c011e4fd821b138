import IdentityConsole.Proofs.Storage.Alike

/-!
# Sessions over storages that look alike

What a request carries, and what comes of a login, is the same over storages that look alike to the
session; and they still look alike afterwards.
-/

namespace IdentityConsole

open Storage (tokenKey userKey)

variable {outside other : Outside}

theorem Client.send_alike {client client' : Client} (hclient : client = client')
    (hstorage : outside.storage.Alike other.storage) (hnetwork : outside.network = other.network)
    (request : Request) :
    (client.send request outside).1 = (client'.send request other).1 := by
  have htoken : (storedToken outside).1 = (storedToken other).1 := by
    unfold storedToken
    rw [hstorage.get Storage.tokenKey_mem]
    split <;> rfl
  rw [send_fst, send_fst, hclient, htoken, hnetwork]

namespace Session

theorem persist_alike (h : outside.storage.Alike other.storage) (user : Identity) (token : String) :
    (persist user token outside).1 = (persist user token other).1 ∧
      (persist user token outside).2.storage.Alike (persist user token other).2.storage := by
  have htoken := h.set tokenKey token
  unfold persist
  generalize outside.storage.set tokenKey token = result,
    other.storage.set tokenKey token = result' at htoken ⊢
  cases htoken with
  | error error => exact ⟨rfl, h⟩
  | @ok between between' hbetween =>
    have huser := hbetween.set userKey user.stored
    dsimp only
    generalize between.set userKey user.stored = result,
      between'.set userKey user.stored = result' at huser ⊢
    cases huser with
    | ok hlater => exact ⟨rfl, hlater⟩
    | error error =>
      have hrollback := hbetween.remove tokenKey
      dsimp only
      generalize between.remove tokenKey = result, between'.remove tokenKey = result'
        at hrollback ⊢
      cases hrollback with
      | error rollback => exact ⟨rfl, hbetween⟩
      | ok hlater => exact ⟨rfl, hlater⟩

section Login

variable (username password : String) (reply : Http.Reply)

theorem requestToken_alike (client : Client) (hstorage : outside.storage.Alike other.storage)
    (hnetwork : outside.network = other.network) :
    ∃ result log log' posts,
      client.requestToken username password reply outside =
        (result, { outside with log, sent := outside.sent ++ posts }) ∧
      client.requestToken username password reply other =
        (result, { other with log := log', sent := other.sent ++ posts }) := by
  have hsend := Client.send_alike (Eq.refl client) hstorage hnetwork
    (Client.tokenRequest username password)
  obtain ⟨log, hlater⟩ := client.requestToken_snd username password reply outside
  obtain ⟨log', hlater'⟩ := client.requestToken_snd username password reply other
  have hresult : (client.requestToken username password reply outside).1 =
      (client.requestToken username password reply other).1 := by
    rw [Client.requestToken_fst, Client.requestToken_fst, hsend]
  refine ⟨_, log, log', _, Prod.ext rfl hlater, Prod.ext hresult.symm ?_⟩
  rw [hlater', hsend]

theorem login_alike {client client' : Client} {session session' : Session}
    (hclient : client = client') (hstate : session.state = session'.state)
    (hstorage : outside.storage.Alike other.storage) (hnetwork : outside.network = other.network) :
    let result := session.login client username password reply outside
    let result' := session'.login client' username password reply other
    result.1 = result'.1 ∧ result.2.1.state = result'.2.1.state ∧
    result.2.2.storage.Alike result'.2.2.storage ∧ result.2.2.network = result'.2.2.network ∧
    ∃ posts, result.2.2.sent = outside.sent ++ posts ∧ result'.2.2.sent = other.sent ++ posts := by
  subst hclient
  obtain ⟨granted, log, log', posts, hrequest, hrequest'⟩ :=
    requestToken_alike username password reply client hstorage hnetwork
  dsimp only [login]
  by_cases hempty : username = "" ∨ password = ""
  · rw [if_pos hempty, if_pos hempty]
    exact ⟨rfl, hstate, hstorage, hnetwork, [], by simp, by simp⟩
  rw [if_neg hempty, if_neg hempty, hrequest, hrequest']
  cases granted with
  | error error => exact ⟨rfl, hstate, hstorage, hnetwork, posts, rfl, rfl⟩
  | ok grant =>
    dsimp only
    -- The two sides differ in their logs and in what was sent, and neither is stored.
    generalize hasked : { outside with log, sent := outside.sent ++ posts } = asked
    generalize hasked' : { other with log := log', sent := other.sent ++ posts } = asked'
    have hasks : asked.storage.Alike asked'.storage := by
      rw [← hasked, ← hasked']
      exact hstorage
    obtain ⟨hresult, hlater⟩ := persist_alike hasks (grant.user.getD (.named username))
      grant.accessToken
    obtain ⟨storage, log₁, hkept⟩ :=
      persist_snd (grant.user.getD (.named username)) grant.accessToken asked
    obtain ⟨storage', log₂, hkept'⟩ :=
      persist_snd (grant.user.getD (.named username)) grant.accessToken asked'
    generalize persist (grant.user.getD (.named username)) grant.accessToken asked = kept,
      persist (grant.user.getD (.named username)) grant.accessToken asked' = kept' at *
    obtain ⟨stored, after⟩ := kept
    obtain ⟨stored', after'⟩ := kept'
    dsimp only at hresult hlater hkept hkept'
    subst hresult hkept hkept' hasked hasked'
    cases stored with
    | error error => exact ⟨rfl, hstate, hlater, hnetwork, posts, rfl, rfl⟩
    | ok _ => exact ⟨rfl, rfl, hlater, hnetwork, posts, rfl, rfl⟩

end Login

end Session

end IdentityConsole
