import IdentityConsole.Proofs.Api.Bearer
import IdentityConsole.Proofs.Json.Value

/-!
# What comes of an operation

Every operation sends at most one request, and it sends one if the stored token can be shown and
someone listens. Only the reply decides what comes of the operation: a rejected session shows
whether or not the body arrived, a change is made whatever the body says, and all that reads a body
needs the whole of it.
-/

namespace IdentityConsole

namespace Response

/-- Of all replies only the status 401 reads as a rejected session. -/
theorem ofReply_eq_unauthorized {reply : Http.Reply} :
    ofReply reply = .error .unauthorized ↔
      ∃ body complete, reply = .response 401 body complete := by
  constructor
  · intro h
    cases reply with
    | dropped => cases h
    | response status body complete =>
      rw [ofReply] at h
      split at h
      · cases h
      · have herror := Except.error.inj h
        unfold ApiError.ofResponse at herror
        by_cases hstatus : status = 401
        · exact ⟨body, complete, by rw [hstatus]⟩
        · rw [if_neg hstatus] at herror
          split_ifs at herror
  · rintro ⟨body, complete, rfl⟩
    rfl

theorem ofReply_eq_ok {reply : Http.Reply} {response : Response} :
    ofReply reply = .ok response ↔
      reply = .response response.status response.body response.complete ∧
        200 ≤ response.status ∧ response.status < 300 := by
  have hsuccess (status : Nat) :
      Http.Status.isSuccess status = true ↔ 200 ≤ status ∧ status < 300 := by
    simp only [Http.Status.isSuccess, Bool.and_eq_true, decide_eq_true_eq]
    omega
  constructor
  · intro h
    cases reply with
    | dropped => cases h
    | response status body complete =>
      rw [ofReply] at h
      split at h
      · next hstatus =>
        cases h
        exact ⟨rfl, (hsuccess status).mp hstatus⟩
      · cases h
  · rintro ⟨rfl, hstatus⟩
    rw [ofReply, if_pos ((hsuccess response.status).mpr hstatus)]

section Value

variable {α : Type} {decoder : Json.Decoder α} {path : String} {response : Response}

theorem value_ne_unauthorized : response.value decoder path ≠ .error .unauthorized := by
  intro h
  unfold value text at h
  split at h
  · rw [ok_bind] at h
    cases hdecode : Json.decode decoder (Text.Utf8.decodeLossy response.body) with
    | error fault =>
      rw [hdecode] at h
      cases h
    | ok found =>
      rw [hdecode] at h
      cases h
  · cases h

/-- A response holds a value when all of its body arrived and reads as that value. -/
theorem value_eq_ok {found : α} :
    response.value decoder path = .ok found ↔ response.complete = true ∧
      Json.decode decoder (Text.Utf8.decodeLossy response.body) = .ok found := by
  unfold value text
  constructor
  · intro h
    split at h
    · next hcomplete => exact ⟨hcomplete, of_mapError_eq_ok h⟩
    · cases h
  · rintro ⟨hcomplete, hdecode⟩
    rw [if_pos hcomplete, ok_bind, hdecode]
    rfl

end Value

end Response

/-- What comes of a request that was made of `outside`: `reads` says which bodies of a success hold
which answer, and `departed` lists what left. -/
structure Exchange {α : Type} (request : Request)
    (reads : List UInt8 → (complete : Bool) → α → Prop) (reply : Http.Reply) (outside : Outside)
    (departed : List Sent) (result : Except ApiError α × Outside) : Prop where
  sent : result.2.sent = outside.sent ++ departed
  once : departed.length ≤ 1
  asks : ∀ sent ∈ departed, sent.method = request.method ∧ sent.body = request.body
  storage : result.2.storage = outside.storage
  unauthorized : result.1 = .error .unauthorized ↔
    departed ≠ [] ∧ ∃ body complete, reply = .response 401 body complete
  ok : ∀ answer, result.1 = .ok answer ↔
    departed ≠ [] ∧ ∃ status body complete, reply = .response status body complete ∧
      200 ≤ status ∧ status < 300 ∧ reads body complete answer

namespace Client

section Exchange

variable {client : Client} {request : Request} {reply : Http.Reply} {outside : Outside}

theorem authorization_ne_unauthorized (token : Option String) :
    authorization token ≠ .error .unauthorized := by
  intro h
  unfold authorization at h
  split at h
  · cases h
  · split at h <;> cases h

theorem send_ne_unauthorized : (client.send request outside).1 ≠ .error .unauthorized := by
  intro h
  rw [send_fst, prepare] at h
  cases hauthorization : authorization (storedToken outside).1 with
  | error error =>
    rw [hauthorization] at h
    have herror : error = .unauthorized := Except.error.inj h
    rw [herror] at hauthorization
    exact authorization_ne_unauthorized _ hauthorization
  | ok value =>
    rw [hauthorization, ok_bind] at h
    dsimp only at h
    split at h
    · cases h
    · split at h <;> cases h

/-- A request can leave: the stored token, as far as it can be read, may stand in a header, and
someone listens at the address. -/
structure Reaches (client : Client) (request : Request) (outside : Outside) : Prop where
  token : ∀ token, outside.storage.get Storage.tokenKey = .ok (some token) →
    isHeaderValue token = true
  address : ∃ address, Http.Address.parse? (client.address ++ request.path) = some address ∧
    address.origin ∈ outside.network

/-- The form in which a request leaves: as it was made, to who listens at its address, with the
token that is stored. -/
structure Leaves (client : Client) (request : Request) (outside : Outside) (sent : Sent) :
    Prop where
  method : sent.method = request.method
  body : sent.body = request.body
  authorization : sent.authorization = (storedToken outside).1.bind bearer?
  address : ∃ address, Http.Address.parse? (client.address ++ request.path) = some address ∧
    address.origin ∈ outside.network ∧ sent.address = address.origin ++ address.target ∧
    sent.target = address.target

theorem authorization_eq_ok {header : Option String} :
    authorization (storedToken outside).1 = .ok header ↔
      (∀ token, outside.storage.get Storage.tokenKey = .ok (some token) →
        isHeaderValue token = true) ∧ header = (storedToken outside).1.bind bearer? := by
  unfold storedToken
  cases outside.storage.get Storage.tokenKey with
  | error error =>
    constructor
    · rintro ⟨⟩
      exact ⟨fun _ => nofun, rfl⟩
    · rintro ⟨-, rfl⟩
      rfl
  | ok found =>
    cases found with
    | none =>
      constructor
      · rintro ⟨⟩
        exact ⟨fun _ => nofun, rfl⟩
      · rintro ⟨-, rfl⟩
        rfl
    | some token =>
      dsimp only
      rw [authorization_some]
      constructor
      · intro h
        split at h
        · next hvalue =>
          cases h
          refine ⟨?_, rfl⟩
          rintro _ ⟨⟩
          exact hvalue
        · cases h
      · rintro ⟨hvalue, rfl⟩
        rw [if_pos (hvalue token rfl)]
        rfl

/-- **A request leaves whenever it can**, and in which form. -/
theorem send_eq_ok {sent : Sent} :
    (client.send request outside).1 = .ok sent ↔
      client.Reaches request outside ∧ client.Leaves request outside sent := by
  rw [send_fst, prepare]
  constructor
  · intro h
    obtain ⟨header, hheader, h⟩ := bind_eq_ok.mp h
    obtain ⟨htoken, hheader⟩ := authorization_eq_ok.mp hheader
    dsimp only at h
    split at h
    · cases h
    · next address haddress =>
      split at h
      · next hnetwork =>
        cases h
        exact ⟨⟨htoken, address, haddress, hnetwork⟩,
          ⟨rfl, rfl, hheader, address, haddress, hnetwork, rfl, rfl⟩⟩
      · cases h
  · rintro ⟨⟨htoken, -⟩,
      ⟨hmethod, hbody, hauthorization, address, haddress, hnetwork, hat, htarget⟩⟩
    have hheader := authorization_eq_ok.mpr ⟨htoken, hauthorization⟩
    simp only [hheader, ok_bind, haddress, if_pos hnetwork]
    rw [← hmethod, ← hbody, ← hat, ← htarget]
    rfl

theorem exists_send_eq_ok :
    (∃ sent, (client.send request outside).1 = .ok sent) ↔ client.Reaches request outside := by
  constructor
  · rintro ⟨sent, h⟩
    exact (send_eq_ok.mp h).1
  · intro h
    obtain ⟨address, haddress, hnetwork⟩ := h.address
    exact ⟨⟨request.method, address.origin ++ address.target, address.target,
      (storedToken outside).1.bind bearer?, request.body⟩,
      send_eq_ok.mpr ⟨h, ⟨rfl, rfl, rfl, address, haddress, hnetwork, rfl, rfl⟩⟩⟩

/-- What leaves for a request: itself, once, if it can leave. -/
structure Departs (client : Client) (request : Request) (outside : Outside) (departed : List Sent) :
    Prop where
  once : departed.length ≤ 1
  leaves : ∀ sent ∈ departed, client.Leaves request outside sent
  reaches : departed ≠ [] ↔ client.Reaches request outside

/-- The requests that leave when this one is made. -/
def departing (client : Client) (request : Request) (outside : Outside) : List Sent :=
  (client.send request outside).1.toOption.toList

theorem departing_ne_nil :
    client.departing request outside ≠ [] ↔
      ∃ sent, (client.send request outside).1 = .ok sent := by
  constructor
  · intro h
    obtain ⟨sent, hmem⟩ := List.exists_mem_of_ne_nil _ h
    exact ⟨sent, mem_toList_toOption.mp hmem⟩
  · rintro ⟨sent, h⟩
    exact List.ne_nil_of_mem (mem_toList_toOption.mpr h)

theorem departs_departing (client : Client) (request : Request) (outside : Outside) :
    client.Departs request outside (client.departing request outside) where
  once := by
    unfold departing
    cases (client.send request outside).1.toOption with
    | none => exact Nat.zero_le 1
    | some sent => exact Nat.le_refl 1
  leaves sent hmem := (send_eq_ok.mp (mem_toList_toOption.mp hmem)).2
  reaches := departing_ne_nil.trans exists_send_eq_ok

theorem execute_eq_unauthorized :
    (client.execute request reply outside).1 = .error .unauthorized ↔
      client.departing request outside ≠ [] ∧
        ∃ body complete, reply = .response 401 body complete := by
  rw [execute_fst, departing_ne_nil, ← Response.ofReply_eq_unauthorized]
  cases hsend : (client.send request outside).1 with
  | error error =>
    constructor
    · intro h
      have herror : error = .unauthorized := Except.error.inj h
      rw [herror] at hsend
      exact absurd hsend send_ne_unauthorized
    · rintro ⟨⟨sent, hsent⟩, -⟩
      cases hsent
  | ok sent =>
    constructor
    · exact fun h => ⟨⟨sent, rfl⟩, h⟩
    · exact fun h => h.2

theorem execute_eq_ok {response : Response} :
    (client.execute request reply outside).1 = .ok response ↔
      client.departing request outside ≠ [] ∧
        reply = .response response.status response.body response.complete ∧
          200 ≤ response.status ∧ response.status < 300 := by
  rw [execute_fst, departing_ne_nil, ← Response.ofReply_eq_ok]
  constructor
  · intro h
    obtain ⟨sent, hsend, hreply⟩ := bind_eq_ok.mp h
    exact ⟨⟨sent, hsend⟩, hreply⟩
  · rintro ⟨⟨sent, hsend⟩, hreply⟩
    exact bind_eq_ok.mpr ⟨sent, hsend, hreply⟩

/-- Whatever is read from the response, as long as reading does not make up a rejection. -/
theorem exchange_execute {α : Type} {read : Response → Except ApiError α}
    {reads : List UInt8 → (complete : Bool) → α → Prop}
    (hunauthorized : ∀ response, read response ≠ .error .unauthorized)
    (hreads : ∀ response answer,
      read response = .ok answer ↔ reads response.body response.complete answer) :
    Exchange request reads reply outside (client.departing request outside)
      ((client.execute request reply outside).1.bind read,
        (client.execute request reply outside).2) := by
  obtain ⟨log, hafter⟩ := client.execute_snd request reply outside
  have hdeparts := client.departs_departing request outside
  refine ⟨by rw [hafter]; rfl, hdeparts.once, ?_, by rw [hafter], ?_, ?_⟩
  · intro sent hmem
    have hleaves := hdeparts.leaves sent hmem
    exact ⟨hleaves.method, hleaves.body⟩
  · rw [← execute_eq_unauthorized]
    cases (client.execute request reply outside).1 with
    | error error =>
      change Except.error error = Except.error .unauthorized ↔ _
      rw [Except.error.injEq, Except.error.injEq]
    | ok response =>
      constructor
      · exact fun h => absurd h (hunauthorized response)
      · rintro ⟨⟩
  · intro answer
    constructor
    · intro h
      obtain ⟨response, hexecute, hread⟩ := bind_eq_ok.mp h
      obtain ⟨hdeparting, hreply, hlow, hhigh⟩ := execute_eq_ok.mp hexecute
      exact ⟨hdeparting, response.status, response.body, response.complete, hreply, hlow, hhigh,
        (hreads response answer).mp hread⟩
    · rintro ⟨hdeparting, status, body, complete, hreply, hlow, hhigh, hread⟩
      refine bind_eq_ok.mpr ⟨⟨status, body, complete⟩, ?_, ?_⟩
      · exact execute_eq_ok.mpr ⟨hdeparting, hreply, hlow, hhigh⟩
      · exact (hreads ⟨status, body, complete⟩ answer).mpr hread

/-- A body that holds a value arrived in full and is the text of that value. -/
def Holds {α : Type} (decoder : Json.Decoder α) (body : List UInt8) (complete : Bool)
    (value : α) : Prop :=
  complete = true ∧ Json.decode decoder (Text.Utf8.decodeLossy body) = .ok value

theorem exchange_call {α : Type} {decoder : Json.Decoder α} :
    Exchange request (Holds decoder) reply outside (client.departing request outside)
      (client.call decoder request reply outside) :=
  exchange_execute (fun _ => Response.value_ne_unauthorized) fun _ _ => Response.value_eq_ok

theorem exchange_perform :
    Exchange request (fun _ _ _ => True) reply outside (client.departing request outside)
      (client.perform request reply outside) := by
  have hbind : client.perform request reply outside =
      ((client.execute request reply outside).1.bind fun _ => .ok (),
        (client.execute request reply outside).2) := by
    unfold perform
    obtain ⟨result, after⟩ := client.execute request reply outside
    cases result with
    | error error => rfl
    | ok response => rfl
  rw [hbind]
  exact exchange_execute nofun fun _ _ => iff_of_true rfl trivial

end Exchange

end Client

theorem Exchange.map {α β : Type} {request : Request}
    {reads : List UInt8 → (complete : Bool) → α → Prop} {reply : Http.Reply} {outside : Outside}
    {departed : List Sent} {result : Except ApiError α × Outside}
    (h : Exchange request reads reply outside departed result) (f : α → β) :
    Exchange request (fun body complete answer => ∃ value, reads body complete value ∧
      f value = answer) reply outside departed (result.1.map f, result.2) := by
  have hok (answer : β) : result.1.map f = .ok answer ↔
      ∃ value, result.1 = .ok value ∧ f value = answer := by
    cases result.1 with
    | error error =>
      constructor
      · rintro ⟨⟩
      · rintro ⟨value, ⟨⟩, -⟩
    | ok value =>
      constructor
      · exact fun heq => ⟨value, rfl, Except.ok.inj heq⟩
      · rintro ⟨_, ⟨⟩, rfl⟩
        rfl
  refine ⟨h.sent, h.once, h.asks, h.storage, ?_, ?_⟩
  · rw [← h.unauthorized]
    cases result.1 with
    | error error =>
      change Except.error error = Except.error .unauthorized ↔ _
      rw [Except.error.injEq, Except.error.injEq]
    | ok value =>
      constructor
      · rintro ⟨⟩
      · rintro ⟨⟩
  · intro answer
    rw [hok]
    constructor
    · rintro ⟨value, heq, rfl⟩
      obtain ⟨hdeparted, status, body, complete, hreply, hlow, hhigh, hreads⟩ := (h.ok value).mp heq
      exact ⟨hdeparted, status, body, complete, hreply, hlow, hhigh, value, hreads, rfl⟩
    · rintro ⟨hdeparted, status, body, complete, hreply, hlow, hhigh, value, hreads, rfl⟩
      exact ⟨value,
        (h.ok value).mpr ⟨hdeparted, status, body, complete, hreply, hlow, hhigh, hreads⟩, rfl⟩

namespace Client

/-- An operation as it is asked for. -/
inductive Operation
  | list (kind : Kind)
  | fetch (kind : Kind) (id : String)
  | create {kind : Kind} (record : kind.Record)
  | update {kind : Kind} (id : String) (record : kind.Record)
  | delete (kind : Kind) (id : String)
  | requestToken (username password : String)

namespace Operation

/-- What an operation gives when it succeeds. -/
def Answer : Operation → Type
  | .list kind => List kind.Record
  | .fetch kind _ => kind.Record
  | .create _ => CreatedId
  | .update _ _ | .delete _ _ => Unit
  | .requestToken _ _ => TokenGrant

def request : Operation → Request
  | .list kind => .get kind.collectionPath
  | .fetch kind id => .get (kind.itemPath id)
  | @create kind record => .post kind.collectionPath (Record.toJson record)
  | @update kind id record => .put (kind.itemPath id) (Record.toJson record)
  | .delete kind id => .delete (kind.itemPath id)
  | .requestToken username password => tokenRequest username password

def run (client : Client) : (operation : Operation) → Http.Reply → Outside →
    Except ApiError operation.Answer × Outside
  | .list kind => client.list kind
  | .fetch kind id => client.fetch kind id
  | .create record => client.create record
  | .update id record => client.update id record
  | .delete kind id => client.delete kind id
  | .requestToken username password => client.requestToken username password

/-- Which bodies of a success hold the answer of an operation. Those that change or delete a record
take any body; of a page only the records count. -/
def Reads : (operation : Operation) → List UInt8 → (complete : Bool) → operation.Answer → Prop
  | .list kind => fun body complete records =>
    ∃ page, Holds (Page.decoder (Record.decoder kind)) body complete page ∧ page.data = records
  | .fetch kind _ => Holds (Record.decoder kind)
  | .create _ => Holds CreatedId.decoder
  | .update _ _ | .delete _ _ => fun _ _ _ => True
  | .requestToken _ _ => Holds TokenGrant.decoder

/-- **Only the reply decides.** An operation sends its request once, or not at all where it cannot
leave, and leaves the stored entries alone. Its session was rejected exactly if the request left and
the status 401 came back for it, all of the body or not. It succeeds exactly if the request left and
a success came back for it with a body that holds the answer. -/
theorem exchange_run (operation : Operation) (client : Client) (reply : Http.Reply)
    (outside : Outside) :
    ∃ departed, (departed ≠ [] ↔ client.Reaches operation.request outside) ∧
      Exchange operation.request operation.Reads reply outside departed
        (operation.run client reply outside) := by
  refine ⟨client.departing operation.request outside,
    (client.departs_departing operation.request outside).reaches, ?_⟩
  cases operation with
  | list kind => exact Exchange.map exchange_call Page.data
  | fetch kind id => exact exchange_call
  | create record => exact exchange_call
  | update id record => exact exchange_perform
  | delete kind id => exact exchange_perform
  | requestToken username password => exact exchange_call

end Operation

end Client

end IdentityConsole
