import IdentityConsole.Api.Client

/-!
# What sending leaves behind

A request that leaves is added to the record of those that left; nothing else outside changes but
the log. The reply to it changes only the log.
-/

namespace IdentityConsole.Client

theorem storedToken_snd (outside : Outside) :
    ∃ log, (storedToken outside).2 = { outside with log } := by
  unfold storedToken
  split
  · exact ⟨outside.log, rfl⟩
  · exact ⟨_, rfl⟩

/-- The requests that left are those before and the one sent, if it could be. -/
theorem send_snd (client : Client) (request : Request) (outside : Outside) :
    ∃ log, (client.send request outside).2 =
      { outside with
        log
        sent := outside.sent ++ (client.send request outside).1.toOption.toList } := by
  obtain ⟨log, hlog⟩ := storedToken_snd outside
  refine ⟨log, ?_⟩
  unfold send
  simp only [hlog]
  split
  · rfl
  · simp [Except.toOption]

/-- Whether a request leaves depends on the token that is stored and on who listens. -/
theorem send_fst (client : Client) (request : Request) (outside : Outside) :
    (client.send request outside).1 =
      client.prepare request (storedToken outside).1 outside.network := by
  obtain ⟨log, hlog⟩ := storedToken_snd outside
  unfold send
  simp only [hlog]
  split
  · next h => exact h.symm
  · next h => exact h.symm

theorem mem_toList_toOption {ε α : Type} {result : Except ε α} {value : α} :
    value ∈ result.toOption.toList ↔ result = .ok value := by
  cases result with
  | error error => simp [Except.toOption]
  | ok other => simp [Except.toOption, eq_comm]

theorem prepare_of_send_eq_ok {client : Client} {request : Request} {outside : Outside}
    {sent : Sent} (h : (client.send request outside).1 = .ok sent) :
    ∃ token, client.prepare request token outside.network = .ok sent := by
  rw [send_fst] at h
  exact ⟨_, h⟩

theorem receive_snd (sent : Sent) (reply : Http.Reply) (outside : Outside) :
    ∃ log, (receive sent reply outside).2 = { outside with log } := by
  unfold receive
  split
  · exact ⟨_, rfl⟩
  · exact ⟨outside.log, rfl⟩

@[simp]
theorem receive_fst (sent : Sent) (reply : Http.Reply) (outside : Outside) :
    (receive sent reply outside).1 = Response.ofReply reply := by
  unfold receive
  split
  · next h => exact h.symm
  · rfl

theorem execute_fst (client : Client) (request : Request) (reply : Http.Reply)
    (outside : Outside) :
    (client.execute request reply outside).1 =
      (client.send request outside).1.bind fun _ => Response.ofReply reply := by
  unfold execute
  split
  · next h =>
    rw [h]
    rfl
  · next h =>
    rw [h, receive_fst]
    rfl

theorem execute_snd (client : Client) (request : Request) (reply : Http.Reply)
    (outside : Outside) :
    ∃ log, (client.execute request reply outside).2 =
      { outside with
        log
        sent := outside.sent ++ (client.send request outside).1.toOption.toList } := by
  obtain ⟨log, hsend⟩ := client.send_snd request outside
  unfold execute
  split
  · next h =>
    rw [h] at hsend
    exact ⟨log, by simpa [h] using hsend⟩
  · next sent outside' h =>
    rw [h] at hsend
    obtain ⟨log', hreceive⟩ := receive_snd sent reply outside'
    refine ⟨log', ?_⟩
    rw [hreceive, h]
    simp only at hsend
    rw [hsend]

theorem requestToken_fst (client : Client) (username password : String) (reply : Http.Reply)
    (outside : Outside) :
    (client.requestToken username password reply outside).1 =
      (((client.send (tokenRequest username password) outside).1.bind fun _ =>
        Response.ofReply reply).bind
          (Response.value TokenGrant.decoder (tokenRequest username password).path)) := by
  rw [← execute_fst]
  rfl

theorem requestToken_snd (client : Client) (username password : String) (reply : Http.Reply)
    (outside : Outside) :
    ∃ log, (client.requestToken username password reply outside).2 =
      { outside with
        log
        sent := outside.sent ++
          (client.send (tokenRequest username password) outside).1.toOption.toList } :=
  client.execute_snd (tokenRequest username password) reply outside

end IdentityConsole.Client
