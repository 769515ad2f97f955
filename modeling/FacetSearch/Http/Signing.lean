import FacetSearch.Error
import FacetSearch.Text.Code
import FacetSearch.Value.Equality
/-!
# Signed sessions

With a secret key in the settings, requests have a session that is kept in a signed cookie; it is looked
for before anything else is done for a request. That fails if the keys cannot be gone through or encoded,
or if the name of the cookie is nothing that can be looked for.
-/

namespace FacetSearch.Http

/-- The keys for the signature, older ones that still count, and the name of the cookie. -/
structure Signing where
  secret : Value := .null
  fallbacks : Value := .null
  cookie : Value := .text "session"

namespace Signing

/-- The settings of an object. -/
def ofConfig (config : Value) : Signing :=
  let usual : Signing := {}
  { secret := (config.get? "SECRET_KEY").getD usual.secret
    fallbacks := (config.get? "SECRET_KEY_FALLBACKS").getD usual.fallbacks
    cookie := (config.get? "SESSION_COOKIE_NAME").getD usual.cookie }

/-- A key that cannot be encoded. -/
def isBroken : Value → Bool
  | .text s => Text.hasHalf s.toList
  | _ => false

/-- The keys, if they can be gone through. -/
def keys? (s : Signing) : Option (List Value) :=
  let older := if s.fallbacks.isTruthy then s.fallbacks.items? else some []
  older.map (· ++ [s.secret])

/-- Why the session of a request is not found, if there are sessions and that fails. -/
def failure? (s : Signing) : Option Failure :=
  if !s.secret.isTruthy then none
  else match s.keys? with
    | none => some .wrongType
    | some keys =>
      if keys.any isBroken then some .encoding
      else match s.cookie with
        | .list _ | .object _ => some .wrongType
        | _ => none

end Signing

end FacetSearch.Http
