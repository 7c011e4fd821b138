/-!
# Scopes

A scope lasts as long as a view is shown. Whoever holds one of its tokens can see that it has ended.
-/

namespace IdentityConsole

/-- Views are numbered in the order in which they were entered. -/
structure Scope where
  generation : Nat
  cancelled : Bool
deriving DecidableEq, Repr

namespace Scope

def opened (generation : Nat) : Scope :=
  ⟨generation, false⟩

def cancel (scope : Scope) : Scope :=
  { scope with cancelled := true }

/-- The scope of the view that is entered next. -/
def next (scope : Scope) : Scope :=
  opened (scope.generation + 1)

end Scope

end IdentityConsole
