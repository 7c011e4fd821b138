/-!
# How errors are reported

The message of an error, and of the errors that caused it, the outermost first.
-/

namespace IdentityConsole

structure Report where
  message : String
  causes : List String
deriving DecidableEq, Repr

def Report.plain (message : String) : Report :=
  ⟨message, []⟩

/-- Says what failed; the report so far becomes the cause. -/
def Report.during (context : String) (report : Report) : Report :=
  ⟨context, report.message :: report.causes⟩

end IdentityConsole
