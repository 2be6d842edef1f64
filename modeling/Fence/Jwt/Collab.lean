import Fence.Prog

/-!
# The collaborators of `fence/jwt/validate.py`

What `validate_jwt` and `require_jwt` read and call without controlling it:

* `fence.config.config`, read for `BASE_URL` and the fence OIDC client's `api_base_url` (`Config`);
* `jwt.decode(token, verify=False)`, a function of the token, passed to the model as `decode`;
* the calls (`Call`): `get_jwt_header()`, `authutils.token.keys.get_public_key_for_token`,
  `authutils.token.validate.validate_jwt`, `fence.jwt.blacklist.is_blacklisted` and the view
  function `f` that `require_jwt` wraps. Each answers with its Python return value (`Call.Ret`)
  or raises.

A run's history is a `Trace`; `verifications`, `keyLookups` and `blacklistChecks` pick out the
calls of one collaborator with their answers.
-/

namespace Fence.Jwt

/-- The `scope` argument: a set or a list of scope names, `None`, or any other object. -/
inductive Scope where
  | set (names : List String)
  | list (names : List String)
  | none
  | other
  deriving DecidableEq, Repr

/-- The keyword arguments of a call to `authutils.token.validate.validate_jwt`. -/
structure VerifyArgs where
  encodedToken : String
  aud : String
  scope : Scope
  purpose : Option String
  issuers : List String
  publicKey : String
  attemptRefresh : Bool
  kwargs : List (String × Value)

/-- The calls `validate.py` makes to code it does not control. -/
inductive Call where
  /-- `fence.jwt.utils.get_jwt_header()`. -/
  | getJwtHeader
  /-- `authutils.token.keys.get_public_key_for_token(encoded_token, attempt_refresh=...,
  pkey_cache=...)`. -/
  | getPublicKeyForToken (encodedToken : String) (attemptRefresh : Bool) (pkeyCache : Value)
  /-- `authutils.token.validate.validate_jwt(**args)`, the verifier. -/
  | validateJwt (args : VerifyArgs)
  /-- `fence.jwt.blacklist.is_blacklisted(jti)`. -/
  | isBlacklisted (jti : Value)
  /-- The view `f` that `require_jwt` wraps, called with positional and keyword arguments. -/
  | wrapped (args : List Value) (kwargs : List (String × Value))

/-- What a call returns when it does not raise. -/
def Call.Ret : Call → Type
  | .getJwtHeader => String
  | .getPublicKeyForToken .. => String
  | .validateJwt _ => Claims
  | .isBlacklisted _ => Bool
  | .wrapped .. => Value

/-- Programs of `validate.py`. -/
abbrev PyM := Prog Call Call.Ret

/-- `fence.jwt.utils.get_jwt_header()`. -/
def getJwtHeader : PyM String := @Prog.invoke _ Call.Ret .getJwtHeader

/-- `authutils.token.keys.get_public_key_for_token`. -/
def getPublicKeyForToken (encodedToken : String) (attemptRefresh : Bool) (pkeyCache : Value) :
    PyM String :=
  @Prog.invoke _ Call.Ret (.getPublicKeyForToken encodedToken attemptRefresh pkeyCache)

/-- `authutils.token.validate.validate_jwt`. -/
def authutilsValidateJwt (args : VerifyArgs) : PyM Claims :=
  @Prog.invoke _ Call.Ret (.validateJwt args)

/-- `fence.jwt.blacklist.is_blacklisted`. -/
def isBlacklisted (jti : Value) : PyM Bool := @Prog.invoke _ Call.Ret (.isBlacklisted jti)

/-- A call of the wrapped view. -/
def callWrapped (args : List Value) (kwargs : List (String × Value)) : PyM Value :=
  @Prog.invoke _ Call.Ret (.wrapped args kwargs)

/-- A history of calls and answers. -/
abbrev Trace := List (Event Call Call.Ret)

section
variable (o : Oracle Call Call.Ret) (h : Trace)

@[simp] theorem run_getJwtHeader :
    getJwtHeader.run o h = (o h .getJwtHeader, h ++ [⟨.getJwtHeader, o h .getJwtHeader⟩]) :=
  Prog.run_invoke ..

@[simp] theorem run_getPublicKeyForToken (tok : String) (r : Bool) (c : Value) :
    (getPublicKeyForToken tok r c).run o h =
      (o h (.getPublicKeyForToken tok r c),
        h ++ [⟨.getPublicKeyForToken tok r c, o h (.getPublicKeyForToken tok r c)⟩]) :=
  Prog.run_invoke ..

@[simp] theorem run_authutilsValidateJwt (a : VerifyArgs) :
    (authutilsValidateJwt a).run o h = (o h (.validateJwt a), h ++ [⟨.validateJwt a, o h (.validateJwt a)⟩]) :=
  Prog.run_invoke ..

@[simp] theorem run_isBlacklisted (j : Value) :
    (isBlacklisted j).run o h = (o h (.isBlacklisted j), h ++ [⟨.isBlacklisted j, o h (.isBlacklisted j)⟩]) :=
  Prog.run_invoke ..

@[simp] theorem run_callWrapped (as : List Value) (kw : List (String × Value)) :
    (callWrapped as kw).run o h = (o h (.wrapped as kw), h ++ [⟨.wrapped as kw, o h (.wrapped as kw)⟩]) :=
  Prog.run_invoke ..

end

/-- The entries of `fence.config.config` the module reads: `config["BASE_URL"]`, and
`config.get("OPENID_CONNECT", {}).get("fence", {}).get("api_base_url", None)`. -/
structure Config where
  baseUrl : String
  fenceApiBaseUrl : Option String

/-- The arguments of fence's `validate_jwt`, with the defaults of its signature. -/
structure Request where
  encodedToken : Option String := none
  aud : Option String := none
  scope : Scope := .set ["openid"]
  requirePurpose : Bool := true
  purpose : Option String := none
  publicKey : Option String := none
  attemptRefresh : Bool := false
  issuers : Option (List String) := none
  pkeyCache : Value := .none
  kwargs : List (String × Value) := []

/-! ### The calls of a history -/

/-- The verifier calls of a history, with their answers. -/
def verifications (t : Trace) : List (VerifyArgs × Except PyExc Claims) :=
  t.filterMap fun
    | ⟨.validateJwt a, r⟩ => some (a, r)
    | _ => none

/-- The answers `get_jwt_header()` gave in a history. -/
def headerReads (t : Trace) : List (Except PyExc String) :=
  t.filterMap fun
    | ⟨.getJwtHeader, r⟩ => some r
    | _ => none

/-- The key resolver calls of a history: token, `attempt_refresh`, cache, and the answer. -/
def keyLookups (t : Trace) : List ((String × Bool × Value) × Except PyExc String) :=
  t.filterMap fun
    | ⟨.getPublicKeyForToken tok r c, k⟩ => some ((tok, r, c), k)
    | _ => none

/-- The blacklist calls of a history, with their answers. -/
def blacklistChecks (t : Trace) : List (Value × Except PyExc Bool) :=
  t.filterMap fun
    | ⟨.isBlacklisted j, b⟩ => some (j, b)
    | _ => none

@[simp] theorem verifications_append (t t' : Trace) :
    verifications (t ++ t') = verifications t ++ verifications t' := List.filterMap_append ..

@[simp] theorem headerReads_append (t t' : Trace) :
    headerReads (t ++ t') = headerReads t ++ headerReads t' := List.filterMap_append ..

@[simp] theorem keyLookups_append (t t' : Trace) :
    keyLookups (t ++ t') = keyLookups t ++ keyLookups t' := List.filterMap_append ..

@[simp] theorem blacklistChecks_append (t t' : Trace) :
    blacklistChecks (t ++ t') = blacklistChecks t ++ blacklistChecks t' := List.filterMap_append ..


/-! ### Stateless collaborators -/

/-- Collaborators whose answers depend on their arguments only. -/
structure Stateless where
  header : Except PyExc String
  keyFor : String → Bool → Value → Except PyExc String
  verify : VerifyArgs → Except PyExc Claims
  blacklisted : Value → Except PyExc Bool
  view : List Value → List (String × Value) → Except PyExc Value

/-- The behaviour of stateless collaborators. -/
def Stateless.oracle (c : Stateless) : Oracle Call Call.Ret := fun _ q =>
  match q with
  | .getJwtHeader => c.header
  | .getPublicKeyForToken tok r p => c.keyFor tok r p
  | .validateJwt a => c.verify a
  | .isBlacklisted j => c.blacklisted j
  | .wrapped as kw => c.view as kw

/-! ### Sample deployments -/

/-- A deployment whose `BASE_URL` is `https://fence`, with no fence OIDC client. -/
def sampleConfig : Config := { baseUrl := "https://fence", fenceApiBaseUrl := none }

/-- Collaborators of a deployment that issued `claims`: the verifier accepts the token for the
audience `aud` only, and nothing is blacklisted. -/
def issuedFor (claims : Claims) (aud : String) : Stateless where
  header := .error (.unauthorized "missing authorization header")
  keyFor _ _ _ := .ok "public-key"
  verify a := if a.aud = aud then .ok claims else .error (.authutilsJWTAudienceError "invalid audience")
  blacklisted _ := .ok false
  view _ _ := .ok .none

/-- An unverified decoder that reads every token as `claims`. -/
def decodesTo (claims : Claims) : String → Except PyExc Claims := fun _ => .ok claims

/-- An old-style refresh token: its audience is `openid`. -/
def legacyRefreshClaims : Claims :=
  [("iss", .str "https://fence"), ("aud", .list [.str "openid"]), ("pur", .str "refresh"),
   ("jti", .str "j1")]

/-- An access token for `https://fence`. -/
def accessClaims : Claims :=
  [("iss", .str "https://fence"), ("aud", .list [.str "https://fence"]), ("pur", .str "access"),
   ("jti", .str "j2")]

end Fence.Jwt
