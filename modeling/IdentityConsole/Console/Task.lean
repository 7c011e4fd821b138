import IdentityConsole.Api.Client
import IdentityConsole.Console.View

/-!
# Tasks

What a view asks of the server, and what the reply makes of it.
-/

namespace IdentityConsole

inductive Task
  | loadList (kind : Kind)
  | loadRecord (kind : Kind) (id : String)
  | delete (kind : Kind) (id : String)
  | update (kind : Kind) (id : String) (record : kind.Record)

inductive Outcome
  | loaded (data : Loaded)
  | deleted (kind : Kind) (id : String)
  | updated (kind : Kind) (id : String)
  | failed (action : String) (error : ApiError)

namespace Task

/-- The task that fills the view of a route. -/
def ofRoute? : Route → Option Task
  | .list kind => some (.loadList kind)
  | .detail kind id => some (.loadRecord kind id)
  | .login | .dashboard => none

def action : Task → String
  | .loadList kind => "load " ++ kind.nouns
  | .loadRecord kind _ => "load " ++ kind.noun
  | .delete .. => "delete"
  | .update kind .. => "update " ++ kind.noun

def request : Task → Request
  | .loadList kind => .get kind.collectionPath
  | .loadRecord kind id => .get (kind.itemPath id)
  | .delete kind id => .delete (kind.itemPath id)
  | .update kind id record => .put (kind.itemPath id) (Record.toJson record)

def failed (task : Task) (error : ApiError) : Outcome :=
  .failed task.action error

/-- What a successful response amounts to. -/
def result (task : Task) (response : Response) : Except ApiError Outcome :=
  match task with
  | .loadList kind => do
    let page ← response.value (Page.decoder (Record.decoder kind)) task.request.path
    return .loaded (.rows kind page.data)
  | .loadRecord kind _ => do
    return .loaded (.record kind (← response.value (Record.decoder kind) task.request.path))
  | .delete kind id => return .deleted kind id
  | .update kind id _ => return .updated kind id

def outcome (task : Task) (response : Except ApiError Response) : Outcome :=
  match response.bind task.result with
  | .ok outcome => outcome
  | .error error => task.failed error

end Task

end IdentityConsole
