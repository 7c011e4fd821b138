import IdentityConsole.Json.Printer

/-!
# Requests
-/

namespace IdentityConsole

inductive Method
  | get
  | post
  | put
  | delete
  | other (name : String)
deriving DecidableEq, Repr

def Method.text : Method → String
  | .get => "GET"
  | .post => "POST"
  | .put => "PUT"
  | .delete => "DELETE"
  | .other name => name

/-- `path` is relative to the base address and begins with a slash. -/
structure Request where
  method : Method
  path : String
  body : Option Json

namespace Request

def rooted (path : String) : String :=
  if path.toList.head? = some '/' then path else "/" ++ path

def bare (method : Method) (path : String) : Request :=
  ⟨method, rooted path, none⟩

def withBody (method : Method) (path : String) (body : Json) : Request :=
  ⟨method, rooted path, some body⟩

def get (path : String) : Request := bare .get path

def delete (path : String) : Request := bare .delete path

def post (path : String) (body : Json) : Request := withBody .post path body

def put (path : String) (body : Json) : Request := withBody .put path body

end Request

/-- A request as it left: with its target on the server and the header that says who asks. -/
structure Sent where
  method : Method
  address : String
  target : String
  authorization : Option String
  body : Option Json

end IdentityConsole
