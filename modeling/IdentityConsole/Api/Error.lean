import IdentityConsole.Http.Status
import IdentityConsole.Text.Budget

/-!
# What can go wrong with a request
-/

namespace IdentityConsole

/-- A request fails below its response when there is none, or when it ends early. -/
inductive NetworkFault
  | noAddress
  | noConnection
  | dropped
  | cutShort
  | timedOut
deriving DecidableEq, Repr

inductive ApiError
  | accessDenied (body : String)
  | unauthorized
  | notFound (body : String)
  | rateLimited
  | serverError (body : String)
  | network (fault : NetworkFault)
  | invalidRequest (reason : String)
  | invalidResponse (reason : String)
deriving DecidableEq, Repr

namespace ApiError

/-- How many bytes of a response are quoted in a message. -/
def quotedBytes : Nat := 500

/-- The error for a response that is no success. -/
def ofResponse (status : Nat) (body : String) : ApiError :=
  let quoted := Text.withinBudget quotedBytes body
  if status = 401 then .unauthorized
  else if status = 403 then .accessDenied quoted
  else if status = 404 then .notFound quoted
  else if status = 429 then .rateLimited
  else if 500 ≤ status ∧ status ≤ 599 then .serverError quoted
  else .invalidResponse ("Status " ++ Http.Status.text status ++ ": " ++ quoted)

def message : ApiError → String
  | .accessDenied body => "Access denied: " ++ body
  | .unauthorized => "Unauthorized - token may be expired"
  | .notFound body => "Resource not found: " ++ body
  | .rateLimited => "Rate limited - please wait before retrying"
  | .serverError body => "Server error: " ++ body
  | .network _ => "Network error"
  | .invalidRequest reason => "Invalid request: " ++ reason
  | .invalidResponse reason => "Invalid response: " ++ reason

/-- What a person can do about an error at login, where that is known. -/
def advice? : ApiError → Option String
  | .unauthorized | .accessDenied _ => some "Invalid username or password"
  | .network .timedOut => some "Connection timed out. Please try again."
  | .network _ => some "Unable to connect to server. Check CIM_API_URL."
  | .rateLimited => some "Too many attempts. Please wait and try again."
  | _ => none

/-- How a failed login is reported to a person, `message` being that of the error as a whole. -/
def loginMessage (cause : Option ApiError) (message : String) : String :=
  match cause.bind advice? with
  | some advice => advice
  | none => "Login failed: " ++ message

end ApiError

end IdentityConsole
