import IdentityConsole.Http.Status

/-!
# What comes back for a request
-/

namespace IdentityConsole.Http

/-- The body of a response ends early when the connection breaks off before all of it arrived. -/
inductive Reply
  | dropped
  | response (status : Nat) (body : List UInt8) (complete : Bool)
deriving DecidableEq, Repr

/-- A response as it arrives: some statuses leave no room for a body. -/
def Reply.answering (status : Nat) (body : List UInt8) (complete : Bool) : Reply :=
  if Status.isBodiless status then .response status [] true
  else .response status body complete

end IdentityConsole.Http
