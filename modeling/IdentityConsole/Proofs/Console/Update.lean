import IdentityConsole.Proofs.Console.Detail
import IdentityConsole.Proofs.Session.Storing

/-!
# Updates of policies

A policy that is saved goes back to the server as it came from there but for the edits, which can
only be made to its description. Of its statements, the declared members go back.
-/

namespace IdentityConsole

open Json (Draft EachItem Kept)

namespace Policy

/-- What is sent of a policy that was received and then edited: only its description may differ. -/
structure Updated (received : List (String × Draft)) (sent : List (String × Json)) : Prop where
  declared : ∀ declaration ∈ declarations, declaration.key ≠ "desc" →
    declaration.Returned (received.reverse.lookup declaration.key) (sent.lookup declaration.key)
  undeclared : ∀ key, key ∉ declarations.map (·.key) →
    Kept (received.reverse.lookup key) (sent.lookup key)

/-- Of a policy only the description can be edited. -/
theorem member?_ne {key : String} (h : key ≠ "desc") (field : Field) :
    Record.member? .policies field ≠ some key := by
  cases field with
  | name | email => exact Option.some_ne_none key ∘ Eq.symm
  | description => exact fun heq => h (Option.some.inj heq).symm

theorem updated_of_decode {text : String} {policy : Kind.policies.Record}
    (h : Json.decode decoder text = .ok policy) (edits : List (Field × String)) :
    ∃ received, Draft.ofText text = (.ofMembers received, true) ∧
      Updated received (Record.members (Record.edited policy edits)).toList := by
  obtain ⟨draft, hdraft, hpolicy⟩ := Json.ofText_of_decode h
  obtain ⟨received, sent, rfl, hsent, hback⟩ := sentBack hpolicy
  cases (Record.toJson_eq_members policy).symm.trans hsent
  have hapart : Record.Apart policy := Record.apart_of_decode h
  have hkept : ∀ {key}, key ≠ "desc" →
      (Record.members (Record.edited policy edits)).toList.lookup key =
        (Record.members policy).toList.lookup key := by
    intro key hkey
    have hedited := Record.get?_members_edited hapart edits key
    rwa [Record.lastValue?_eq_none (member?_ne hkey), Option.map_none, Option.none_or] at hedited
  refine ⟨received, hdraft, fun declaration hmem hkey => ?_, fun key hkey => ?_⟩
  · rw [hkept hkey]
    exact hback.declared declaration hmem
  · have hdesc : key ≠ "desc" := by
      rintro rfl
      exact hkey (by decide)
    rw [hkept hdesc]
    exact hback.undeclared key hkey

end Policy

namespace Console

variable {console : Console} {id : String} {notice : Option String}

section Edited

variable {kind : Kind} {record : kind.Record}

theorem run_setField (hview : console.view = .detail kind id (some record) notice)
    (edits : List (Field × String)) :
    ∃ notice, console.run (edits.map fun edit => .setField edit.1 edit.2) =
      { console with view := .detail kind id (some (Record.edited record edits)) notice } := by
  induction edits generalizing console record notice with
  | nil => exact ⟨notice, by rw [List.map_nil, run_nil, Record.edited, List.foldl_nil, ← hview]⟩
  | cons edit rest ih =>
    have hedit : console.step (.setField edit.1 edit.2) =
        { console with
          view := .detail kind id (some (Record.setField record edit.1 edit.2)) none } := by
      rw [step, setField?_detail hview]
      rfl
    rw [List.map_cons, run_cons, hedit]
    exact ih rfl

/-- What is sent by a save is the record that is shown. -/
theorem step_save_sent (hview : console.view = .detail kind id (some record) notice) :
    ∃ requests, (console.step .save).outside.sent = console.outside.sent ++ requests ∧
      ∀ sent ∈ requests, sent.method = .put ∧ sent.body = some (Record.toJson record) := by
  have hsave : (console.step .save).outside.sent =
      (console.begin (.update kind id record)).outside.sent := by
    rw [step, save?_detail hview]
    rfl
  rw [hsave]
  cases requests_begin (.update kind id record) console with
  | @sent sent hsend hleaves hreaches hsent =>
    refine ⟨[sent], hsent, fun other hmem => ?_⟩
    rw [List.mem_singleton.mp hmem]
    exact ⟨hleaves.method, hleaves.body⟩
  | failed hsend hreaches hsent =>
    exact ⟨[], by rw [hsent, List.append_nil], fun sent hmem => absurd hmem List.not_mem_nil⟩

end Edited

variable {policy : Policy}

/-- **A policy that is saved is sent back as it was received**, but for its description. Each of its
statements has the declared members it came with; its other members are lost. -/
theorem run_save_updated {text : String} (hread : Json.decode Policy.decoder text = .ok policy)
    (hview : console.view = .detail .policies id (some policy) notice)
    (edits : List (Field × String)) :
    ∃ received, Draft.ofText text = (.ofMembers received, true) ∧
      ∃ requests, ((console.run (edits.map fun edit => .setField edit.1 edit.2)).step
          .save).outside.sent = console.outside.sent ++ requests ∧
        ∀ sent ∈ requests, sent.method = .put ∧
          ∃ members, sent.body = some (.object members) ∧ Policy.Updated received members := by
  obtain ⟨received, hreceived, hupdated⟩ := Policy.updated_of_decode hread edits
  obtain ⟨notice, hrun⟩ := run_setField hview edits
  obtain ⟨requests, hsent, hrequests⟩ := step_save_sent (congrArg Console.view hrun)
  refine ⟨received, hreceived, requests, hsent.trans (by rw [hrun]), fun sent hmem => ?_⟩
  obtain ⟨hmethod, hbody⟩ := hrequests sent hmem
  rw [Record.toJson_eq_members] at hbody
  exact ⟨hmethod, _, hbody, hupdated⟩

/-- A policy whose statement has a member that statements do not declare. -/
def policyWithSid : String :=
  "\x7b\"id\":\"p1\",\"statement\":[\x7b\"effect\":\"Allow\",\"sid\":\"s1\"\x7d]\x7d"

def readWithSid : Policy :=
  ⟨"p1", none, "", "", [⟨.allow, [], [], [], none⟩], none, none, .empty⟩

def showingWithSid : Console :=
  { start "http://identity" (.aliceStored .never) with
    route := .detail .policies "p1"
    view := .detail .policies "p1" (some readWithSid) none }

def audited : List (Field × String) :=
  [(.description, "audited")]

theorem run_save_updated_withSid :
    Json.decode Policy.decoder policyWithSid = .ok readWithSid ∧
      showingWithSid.view = .detail .policies "p1" (some readWithSid) none ∧
      ∃ received, Draft.ofText policyWithSid = (.ofMembers received, true) ∧
        ∃ requests, ((showingWithSid.run (audited.map fun edit => .setField edit.1 edit.2)).step
            .save).outside.sent = showingWithSid.outside.sent ++ requests ∧
          ∀ sent ∈ requests, sent.method = .put ∧
            ∃ members, sent.body = some (.object members) ∧ Policy.Updated received members := by
  have hread : Json.decode Policy.decoder policyWithSid = .ok readWithSid :=
    eq_ok_of_toOption (by decide +kernel)
  have hview : showingWithSid.view = .detail .policies "p1" (some readWithSid) none := rfl
  exact ⟨hread, hview, run_save_updated hread hview audited⟩

/-- Alice opens the policy, gets it, and saves it as it is. -/
def savedWithSid : Console :=
  (start "http://identity" (.aliceStored .never)).run [.navigate "/policies/p1",
    .respond 0 (.response 200 (Text.Utf8.encode policyWithSid) true), .poll, .save]

/-- The policy goes back without that member. -/
theorem savedWithSid_sid_lost :
    ∃ received sent,
      Json.decode Json.Decoder.json policyWithSid =
        .ok (.object [("id", .string "p1"), ("statement", .array [.object received])]) ∧
      received.lookup "sid" = some (.string "s1") ∧
      savedWithSid.outside.sent.map (·.body) = [none, some (.object [("desc", .string ""),
        ("id", .string "p1"), ("statement", .array [.object sent]), ("version", .string "")])] ∧
      sent.lookup "sid" = none :=
  ⟨[("effect", .string "Allow"), ("sid", .string "s1")],
    [("actions", .array []), ("effect", .string "Allow"), ("resources", .array []),
      ("subjects", .array [])],
    eq_ok_of_toOption (by decide +kernel), by decide +kernel, by decide +kernel, by decide +kernel⟩

end Console

end IdentityConsole
