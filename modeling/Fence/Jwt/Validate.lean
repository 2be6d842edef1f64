import Fence.Jwt.Collab

/-!
# `fence/jwt/validate.py`

`validate_purpose`, `validate_jwt` and `require_jwt`, statement by statement. `validate_jwt` is cut
at its phases: `verifierArgs` (lines 84-113) computes the token, audience, issuers and public key
the verifier is called with; `verify` (lines 115-177) calls it and, on an authutils `JWTError`,
runs the handler of the `except` clause; `checkClaims` (lines 178-189) checks purpose and
blacklist.

In the code the handler is the legacy patch block (`legacyPatch`). Its `else` branch,
`invalidToken`, is the whole handler once the block's TODO is carried out ("remove this if/elif
block and take the else block back out of the else"); `validateJwtUnpatched` is that function.

Two facts of the source carry through: the patch's `except Error` names a class that nothing in
the module binds, so an exception reaching it raises `NameError` (`pyTry`); and `require_jwt`'s
wrapper calls `f(args, kwargs)`, the tuple and the dictionary as two positional arguments.
-/

namespace Fence.Jwt

/-- The exception classes bound in `validate.py` when its `except` clauses and `isinstance` tests
run: its imports, and `JWTAudienceError` from the patch block's local import. -/
def excClassNamed : String → Option ExcClass
  | "JWTError" => some .fenceJWTError
  | "authutils.errors.JWTError" => some .authutilsJWTError
  | "JWTAudienceError" => some .authutilsJWTAudienceError
  | "jwt.InvalidTokenError" => some .invalidTokenError
  | "Unauthorized" => some .unauthorized
  | _ => none

/-- `try: body except <name> as e: handler(e)`; a clause naming no class raises `NameError` when
an exception reaches it. -/
def pyTry {α : Type} (body : PyM α) (name : String) (handler : PyExc → PyM α) : PyM α :=
  body.tryCatch fun e =>
    match excClassNamed name with
    | some c => if e.isInstance c then handler e else Prog.raise e
    | none => Prog.raise (.nameError ("name " ++ reprStr name ++ " is not defined"))

/-- `isinstance(scope, set) or isinstance(scope, list) or scope is None`. -/
def Scope.isSetListOrNone : Scope → Bool
  | .other => false
  | _ => true

/-- `validate_purpose(claims, pur)`. -/
def validatePurpose (claims : Claims) (pur : String) : PyM Unit := do
  if !claims.contains "pur" then
    throw (.fenceJWTPurposeError "claims missing `pur` claim")
  let got ← Prog.ofExcept (claims.getItem "pur")
  if !got.eqStr pur then
    throw (.fenceJWTPurposeError
      ("claims have incorrect purpose: expected " ++ pur ++ ", got " ++ got.pyStr))

/-- Lines 178-179. -/
def checkPurpose (purpose : Option String) (claims : Claims) : PyM Unit :=
  match truthy purpose with
  | some pur => validatePurpose claims pur
  | none => pure ()

/-- Lines 180-181. -/
def checkPurposePresent (requirePurpose : Bool) (claims : Claims) : PyM Unit :=
  if requirePurpose && !claims.contains "pur" then do
    let jti ← Prog.ofExcept (claims.getItem "jti")
    throw (.fenceJWTError ("token " ++ jti.pyStr ++ " missing purpose (`pur`) claim"))
  else pure ()

/-- Lines 183-187: refresh tokens and API keys must not be blacklisted. -/
def checkBlacklist (requirePurpose : Bool) (claims : Claims) : PyM Unit :=
  if requirePurpose then do
    let pur ← Prog.ofExcept (claims.getItem "pur")
    if pur.eqStr "refresh" || pur.eqStr "api_key" then
      let jti ← Prog.ofExcept (claims.getItem "jti")
      if ← isBlacklisted jti then
        throw (.fenceJWTError "token is blacklisted")
  else pure ()

/-- Lines 178-189: the purpose and blacklist checks on the verified claims. -/
def checkClaims (requirePurpose : Bool) (purpose : Option String) (claims : Claims) :
    PyM Claims := do
  checkPurpose purpose claims
  checkPurposePresent requirePurpose claims
  checkBlacklist requirePurpose claims
  return claims

section

variable (config : Config) (decode : String → Except PyExc Claims)

/-- The issuers trusted when the caller passes none: `BASE_URL`, and the fence OIDC client's
`api_base_url` when it is set (lines 99-105). -/
def defaultIssuers : List String := config.baseUrl :: (truthy config.fenceApiBaseUrl).toList

/-- Lines 84-88: the token passed in, or the one in the request's `Authorization` header. -/
def resolveToken (encodedToken : Option String) : PyM String :=
  match encodedToken with
  | some t => pure t
  | none => pyTry getJwtHeader "Unauthorized" fun e => throw (.fenceJWTError e.message)

/-- Lines 90-92. -/
def checkScope (scope : Scope) : PyM Unit :=
  if !scope.isSetListOrNone then
    throw (.assertionError "scope argument must be set or list or None")
  else pure ()

/-- Lines 106-109: the unverified decode, its `InvalidTokenError` raised as fence's `JWTError`. -/
def decodeUnverified (encodedToken : String) : PyM Claims :=
  pyTry (Prog.ofExcept (decode encodedToken)) "jwt.InvalidTokenError"
    fun e => throw (.fenceJWTError e.message)

/-- Lines 111-113: `public_key or get_public_key_for_token(...)`. -/
def resolvePublicKey (publicKey : Option String) (encodedToken : String) (attemptRefresh : Bool)
    (pkeyCache : Value) : PyM String :=
  match truthy publicKey with
  | some k => pure k
  | none => getPublicKeyForToken encodedToken attemptRefresh pkeyCache

/-- Lines 84-113: the token, the audience, the issuers and the public key, as the keyword
arguments of the verifier call of lines 116-125. -/
def verifierArgs (req : Request) : PyM VerifyArgs := do
  let encodedToken ← resolveToken req.encodedToken
  checkScope req.scope
  let aud := req.aud.getD config.baseUrl
  let iss := config.baseUrl
  let issuers := req.issuers.getD (defaultIssuers config)
  let unverifiedClaims ← decodeUnverified decode encodedToken
  let attemptRefresh := req.attemptRefresh && !(unverifiedClaims.get "iss").eqStr iss
  let publicKey ← resolvePublicKey req.publicKey encodedToken attemptRefresh req.pkeyCache
  return { encodedToken, aud, scope := req.scope, purpose := req.purpose, issuers, publicKey,
           attemptRefresh, kwargs := req.kwargs }

/-- Line 175's condition, `not unverified_claims.get("scope") or "" in unverified_claims["scope"]`. -/
def missingScopeHint (unverifiedClaims : Claims) : Except PyExc Bool :=
  if !(unverifiedClaims.get "scope").truthy then .ok true
  else (unverifiedClaims.getItem "scope").bind (·.pyContains "")

/-- Lines 173-177, the `else` branch of the patch block. -/
def invalidToken (args : VerifyArgs) (e : PyExc) : PyM Claims := do
  let msg := "Invalid token : " ++ e.message
  let unverifiedClaims ← Prog.ofExcept (decode args.encodedToken)
  let hint ← Prog.ofExcept (missingScopeHint unverifiedClaims)
  throw (.fenceJWTError (if hint then msg ++ "; was OIDC client configured with scopes?" else msg))

/-- Lines 141-153 and 158-170: the verifier call again with audience `aud`, no scope and purpose
`pur`. -/
def retryLegacy (args : VerifyArgs) (aud pur label : String) : PyM Claims :=
  pyTry (authutilsValidateJwt { args with aud := aud, scope := .none, purpose := some pur })
    "Error"
    fun e => throw (.fenceJWTError (label ++ e.message))

/-- Lines 128-177: the legacy patch block, the handler of the primary verifier's `JWTError`. -/
def legacyPatch (args : VerifyArgs) (e : PyExc) : PyM Claims := do
  let unverifiedClaims ← Prog.ofExcept (decode args.encodedToken)
  if (unverifiedClaims.get "pur").eqStr "refresh" && e.isInstance .authutilsJWTAudienceError then
    retryLegacy args "openid" "refresh" "Invalid refresh token: "
  else if (unverifiedClaims.get "pur").eqStr "api_key" && e.isInstance .authutilsJWTAudienceError then
    retryLegacy args "fence" "api_key" "Invalid API key: "
  else
    invalidToken decode args e

/-- Lines 115-177: the verifier call, and the handler of its `except authutils.errors.JWTError`. -/
def verify (onJWTError : VerifyArgs → PyExc → PyM Claims) (args : VerifyArgs) : PyM Claims :=
  pyTry (authutilsValidateJwt args) "authutils.errors.JWTError" (onJWTError args)

/-- `validate_jwt` with the handler `onJWTError` in its `except authutils.errors.JWTError`. -/
def validateJwtWith (onJWTError : VerifyArgs → PyExc → PyM Claims) (req : Request) :
    PyM Claims := do
  let args ← verifierArgs config decode req
  let claims ← verify onJWTError args
  checkClaims req.requirePurpose req.purpose claims

/-- `validate_jwt(**req)`. -/
def validateJwt : Request → PyM Claims := validateJwtWith config decode (legacyPatch decode)

/-- `validate_jwt` once the TODO of the patch block is carried out. -/
def validateJwtUnpatched : Request → PyM Claims := validateJwtWith config decode (invalidToken decode)

/-- `require_jwt(aud, purpose)(f)(*args, **kwargs)`, `f` answering the `wrapped` calls. -/
def requireJwt (aud purpose : Option String) (args : List Value) (kwargs : List (String × Value)) :
    PyM Value := do
  let _ ← validateJwt config decode { aud := aud, purpose := purpose }
  callWrapped [.tuple args, .dict kwargs] []

end

/-! ### `require_jwt`'s call of the view -/

/-- A view `f(x)` with one positional parameter, as Python calls it. -/
def oneArgView (as : List Value) (kw : List (String × Value)) : Except PyExc Value :=
  match as, kw with
  | [v], [] => .ok v
  | _, _ => .error (.typeError
      ("f() takes 1 positional argument but " ++ toString as.length ++ " were given"))

theorem requireJwt_calls_view_with_tuple_and_dict :
    oneArgView [.int 1] [] = .ok (.int 1) ∧
    ((requireJwt sampleConfig (decodesTo accessClaims) none none [.int 1] []).run
      { issuedFor accessClaims "https://fence" with header := .ok "token", view := oneArgView }.oracle
      []).1 = .error (.typeError "f() takes 1 positional argument but 2 were given") :=
  ⟨rfl, rfl⟩

end Fence.Jwt
