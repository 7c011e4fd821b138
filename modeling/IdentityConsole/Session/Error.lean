import IdentityConsole.Api.Error
import IdentityConsole.Storage.Error

/-!
# What can go wrong with a session
-/

namespace IdentityConsole

/-- Why a stored session cannot be restored. -/
inductive RestoreError
  | storage (error : StorageError)
  | identity (fault : Json.Fault)
deriving Repr

def RestoreError.report : RestoreError → Report
  | .storage error => error.report
  | .identity fault =>
    (Report.plain fault.message).during "Persisted user record is not a JSON object"

inductive LoginError
  | credentialsRequired
  | api (error : ApiError)
  | tokenNotStored (error : StorageError)
  | userNotStored (error : StorageError)
deriving Repr

namespace LoginError

def report : LoginError → Report
  | .credentialsRequired => .plain "Username and password required"
  | .api error => .plain error.message
  | .tokenNotStored error => error.report.during "Failed to persist token"
  | .userNotStored error => error.report.during "Failed to persist user"

def cause? : LoginError → Option ApiError
  | .api error => some error
  | _ => none

/-- How the error is reported to a person. -/
def advice (error : LoginError) : String :=
  ApiError.loginMessage error.cause? error.report.message

end LoginError

end IdentityConsole
