import IdentityConsole.Records.Identity

/-!
# The answer to a login
-/

namespace IdentityConsole

/-- `user` is there when the server says who signed in. -/
structure TokenGrant where
  accessToken : String
  tokenType : Option String
  expiresIn : Option Int
  refreshToken : Option String
  idToken : Option String
  scopes : Option (List String)
  user : Option Identity
deriving DecidableEq, Repr

namespace TokenGrant

open Json (Decoder)

def shape : Json.Shape where
  name := "TokenGrant"
  fields := [
    Json.field "access_token" Decoder.string,
    Json.field "token_type" (Decoder.optional Decoder.string),
    Json.field "expires_in" (Decoder.optional Decoder.signed64),
    Json.field "refresh_token" (Decoder.optional Decoder.string),
    Json.field "id_token" (Decoder.optional Decoder.string),
    Json.field "scopes" (Decoder.optional (Decoder.list Decoder.string)),
    Json.field "user" (Decoder.optional Identity.decoder)]
  undeclared := .skipped true

def decoder : Decoder TokenGrant := fun depth draft => do
  let members ← shape.members depth draft
  return {
    accessToken := ← members.required "access_token" Decoder.string
    tokenType := ← members.optional "token_type" Decoder.string
    expiresIn := ← members.optional "expires_in" Decoder.signed64
    refreshToken := ← members.optional "refresh_token" Decoder.string
    idToken := ← members.optional "id_token" Decoder.string
    scopes := ← members.optional "scopes" (Decoder.list Decoder.string)
    user := ← members.optional "user" Identity.decoder }

end TokenGrant

end IdentityConsole
