import Fence.Jwt.Accept

/-!
# The exceptions `validate_jwt` raises

`validate_jwt` documents one exception, fence's `JWTError`. Against collaborators that fail only
the way they are meant to (`WellBehaved`: the unverified decoder with `InvalidTokenError`, the
header with `Unauthorized`, the verifier with authutils' `JWTError`s; the key resolver and the
blacklist not at all) and with a `scope` that passes the assertion, it raises fence's `JWTError`
and three more (`Raised`), each from a slip of the code:

* `NameError`, when a legacy token's retried verification fails: the patch block's
  `except Error` names a class that nothing binds;
* `KeyError('jti')`, for verified claims without `jti` that need it: in the message of the
  missing-purpose error, and as the blacklist key;
* `TypeError`, when the primary verification fails and the unverified `scope` claim is a
  non-zero number or `true`: line 175 tests `"" in` it.

One lemma per phase says what it raises; `validateJwt_raises` composes them. Each of the three is
raised by a sample deployment whose collaborators are well behaved
(`validateJwt_raises_beyond_JWTError`).

With a `scope` that fails the assertion of lines 90-92, whatever the collaborators, the run calls
nothing but the header, which it reads, before the assertion, exactly when no token is passed, and
raises `AssertionError` unless that read failed (`validateJwt_scope_assertion`).
-/

namespace Fence.Jwt

open Prog

/-- Collaborators that fail only the way `validate_jwt`'s handlers expect. -/
structure WellBehaved (decode : String → Except PyExc Claims) (o : Oracle Call Call.Ret) :
    Prop where
  decodeFails : ∀ tok e, decode tok = .error e → e.isInstance .invalidTokenError = true
  headerFails : ∀ h e, o h .getJwtHeader = .error e → e.isInstance .unauthorized = true
  keyTotal : ∀ h tok r c e, o h (.getPublicKeyForToken tok r c) ≠ .error e
  verifierFails : ∀ h a e, o h (.validateJwt a) = .error e → e.isInstance .authutilsJWTError = true
  blacklistTotal : ∀ h j e, o h (.isBlacklisted j) ≠ .error e

/-- The `NameError` the patch block's `except Error` raises. -/
def errorUnbound : PyExc := .nameError ("name " ++ reprStr "Error" ++ " is not defined")

/-- The exceptions `validate_jwt` raises against well-behaved collaborators. -/
def Raised (e : PyExc) : Prop :=
  e.IsFenceJWTError ∨ e = errorUnbound ∨ e = .keyError "jti" ∨ ∃ m, e = .typeError m

section
variable {decode : String → Except PyExc Claims} {o : Oracle Call Call.Ret} {h h' : Trace}
  {e : PyExc}

/-! ### Lines 84-113 -/

theorem resolveToken_error (hw : WellBehaved decode o) {x : Option String}
    (hr : (resolveToken x).run o h = (.error e, h')) : e.IsFenceJWTError := by
  unfold resolveToken at hr
  cases x with
  | some t => simp at hr
  | none =>
    rw [run_pyTry, run_getJwtHeader] at hr
    cases hg : o h .getJwtHeader with
    | ok t => simp [hg] at hr
    | error e0 =>
      simp only [hg, excClassNamed, hw.headerFails h e0 hg, ite_true] at hr
      obtain ⟨rfl, -⟩ := hr
      simp

theorem checkScope_error {s : Scope} (hr : (checkScope s).run o h = (.error e, h')) :
    s.isSetListOrNone = false := by
  unfold checkScope at hr
  cases hs : s.isSetListOrNone <;> simp_all

theorem decodeUnverified_error (hw : WellBehaved decode o) {tok : String}
    (hr : (decodeUnverified decode tok).run o h = (.error e, h')) : e.IsFenceJWTError := by
  unfold decodeUnverified at hr
  rw [run_pyTry, run_ofExcept] at hr
  cases hd : decode tok with
  | ok u => simp [hd] at hr
  | error e0 =>
    simp only [hd, excClassNamed, hw.decodeFails tok e0 hd, ite_true] at hr
    obtain ⟨rfl, -⟩ := hr
    simp

theorem resolvePublicKey_error (hw : WellBehaved decode o) {pk : Option String} {tok : String}
    {ar : Bool} {c : Value} (hr : (resolvePublicKey pk tok ar c).run o h = (.error e, h')) : False := by
  unfold resolvePublicKey at hr
  cases hp : truthy pk with
  | some k => simp [hp] at hr
  | none =>
    rw [hp, run_getPublicKeyForToken] at hr
    exact hw.keyTotal h tok ar c e (by simpa using congrArg Prod.fst hr)

theorem verifierArgs_error {config : Config} {req : Request} (hw : WellBehaved decode o)
    (hs : req.scope.isSetListOrNone = true)
    (hr : (verifierArgs config decode req).run o h = (.error e, h')) : e.IsFenceJWTError := by
  unfold verifierArgs at hr
  rcases run_bind_eq_error o hr with h1 | ⟨tok, h1, -, hr1⟩
  · exact resolveToken_error hw h1
  rcases run_bind_eq_error o hr1 with h2 | ⟨_, h2, -, hr2⟩
  · simp [checkScope_error h2] at hs
  rcases run_bind_eq_error o hr2 with h3 | ⟨u, h3, -, hr3⟩
  · exact decodeUnverified_error hw h3
  rcases run_bind_eq_error o hr3 with h4 | ⟨key, h4, -, hr4⟩
  · exact (resolvePublicKey_error hw h4).elim
  · simp at hr4

/-! ### Lines 115-177 -/

theorem missingScopeHint_error {u : Claims} {x : PyExc} (hm : missingScopeHint u = .error x) :
    ∃ m, x = .typeError m := by
  unfold missingScopeHint at hm
  split at hm
  · cases hm
  · rename_i hs
    cases hl : u.lookup "scope" with
    | none => simp [Claims.get, hl, Value.truthy] at hs
    | some v =>
      rw [Claims.getItem, hl] at hm
      cases v <;> simp [Value.pyContains, Except.bind] at hm ⊢ <;> exact ⟨_, hm.symm⟩

theorem invalidToken_error {args : VerifyArgs} {e0 : PyExc} {u : Claims}
    (hu : decode args.encodedToken = .ok u)
    (hr : (invalidToken decode args e0).run o h = (.error e, h')) :
    e.IsFenceJWTError ∨ ∃ m, e = .typeError m := by
  cases hm : missingScopeHint u with
  | error y =>
    simp only [invalidToken, hu, hm, run_bind, run_ofExcept, Prod.mk.injEq, Except.error.injEq] at hr
    exact .inr (hr.1 ▸ missingScopeHint_error hm)
  | ok b =>
    simp only [invalidToken, hu, hm, run_bind, run_ofExcept, throw_eq, run_raise, Prod.mk.injEq,
      Except.error.injEq] at hr
    exact .inl (hr.1 ▸ by simp)

theorem retryLegacy_error {args : VerifyArgs} {aud pur label : String}
    (hr : (retryLegacy args aud pur label).run o h = (.error e, h')) : e = errorUnbound := by
  unfold retryLegacy at hr
  rw [run_pyTry, run_authutilsValidateJwt] at hr
  cases hv : o h (.validateJwt { args with aud := aud, scope := .none, purpose := some pur }) with
  | ok C => simp [hv] at hr
  | error y =>
    simp [hv, excClassNamed] at hr
    exact hr.1.symm

theorem verify_legacyPatch_error (hw : WellBehaved decode o) {args : VerifyArgs} {u : Claims}
    (hu : decode args.encodedToken = .ok u)
    (hr : (verify (legacyPatch decode) args).run o h = (.error e, h')) : Raised e := by
  unfold verify at hr
  rw [run_pyTry, run_authutilsValidateJwt] at hr
  cases hv : o h (.validateJwt args) with
  | ok C => simp [hv] at hr
  | error e0 =>
    simp only [hv, excClassNamed, hw.verifierFails h args e0 hv, ite_true] at hr
    unfold legacyPatch at hr
    rw [run_bind, run_ofExcept, hu] at hr
    dsimp only at hr
    split at hr
    · exact .inr (.inl (retryLegacy_error hr))
    · split at hr
      · exact .inr (.inl (retryLegacy_error hr))
      · rcases invalidToken_error hu hr with he | ⟨m, rfl⟩
        exacts [.inl he, .inr (.inr (.inr ⟨m, rfl⟩))]

/-! ### Lines 178-189 -/

theorem validatePurpose_error {C : Claims} {p : String}
    (hr : (validatePurpose C p).run o h = (.error e, h')) : e.IsFenceJWTError := by
  unfold validatePurpose at hr
  cases hc : C.lookup "pur" with
  | none => simp [Claims.contains, hc, run_bind] at hr; simp [← hr.1]
  | some v =>
    cases hv : v.eqStr p <;> simp [Claims.contains, Claims.getItem, hc, hv, run_bind] at hr
    simp [← hr.1]

theorem checkPurposePresent_error {rp : Bool} {C : Claims}
    (hr : (checkPurposePresent rp C).run o h = (.error e, h')) :
    e.IsFenceJWTError ∨ e = .keyError "jti" := by
  unfold checkPurposePresent at hr
  by_cases hc : rp = true ∧ C.contains "pur" = false
  · obtain ⟨rfl, hc⟩ := hc
    cases hj : C.lookup "jti" <;> simp [hc, hj, Claims.getItem, run_bind] at hr <;> simp [← hr.1]
  · simp_all

theorem checkBlacklist_error (hw : WellBehaved decode o) {rp : Bool} {C : Claims}
    (hp : rp = true → C.contains "pur" = true)
    (hr : (checkBlacklist rp C).run o h = (.error e, h')) :
    e.IsFenceJWTError ∨ e = .keyError "jti" := by
  unfold checkBlacklist at hr
  cases rp with
  | false => simp at hr
  | true =>
    obtain ⟨v, hv⟩ := Option.isSome_iff_exists.mp (hp rfl)
    simp only [Claims.getItem, hv, run_bind, ite_true, ofExcept_ok, run_pure] at hr
    by_cases hb : (v.eqStr "refresh" || v.eqStr "api_key") = true
    · cases hj : C.lookup "jti" with
      | none =>
        simp [hb, hj, run_bind] at hr
        simp [← hr.1]
      | some jti =>
        simp only [hb, hj, ite_true, run_bind, ofExcept_ok, run_pure, run_isBlacklisted] at hr
        cases hbl : o h (.isBlacklisted jti) with
        | error y => exact absurd hbl (hw.blacklistTotal h jti y)
        | ok b =>
          cases b <;> simp [hbl] at hr
          simp [← hr.1]
    · simp [hb] at hr

theorem checkPurpose_error {pur : Option String} {C : Claims}
    (hr : (checkPurpose pur C).run o h = (.error e, h')) : e.IsFenceJWTError := by
  unfold checkPurpose at hr
  cases hp : truthy pur with
  | none => simp [hp] at hr
  | some p =>
    rw [hp] at hr
    exact validatePurpose_error hr

theorem checkClaims_error (hw : WellBehaved decode o) {rp : Bool} {pur : Option String}
    {C : Claims} (hr : (checkClaims rp pur C).run o h = (.error e, h')) :
    e.IsFenceJWTError ∨ e = .keyError "jti" := by
  unfold checkClaims at hr
  rcases run_bind_eq_error o hr with h1 | ⟨_, h1, -, hr1⟩
  · exact .inl (checkPurpose_error h1)
  rcases run_bind_eq_error o hr1 with h2 | ⟨_, h2, h2r, hr2⟩
  · exact checkPurposePresent_error h2
  rcases run_bind_eq_error o hr2 with h3 | ⟨_, h3, -, hr3⟩
  · exact checkBlacklist_error hw (checkPurposePresent_ok h2r).1 h3
  · simp at hr3

end

/-- Against well-behaved collaborators, and with a `scope` that passes its assertion,
`validate_jwt` raises fence's `JWTError`, or one of the three exceptions of its slips. -/
theorem validateJwt_raises {config : Config} {decode : String → Except PyExc Claims}
    {req : Request} {o : Oracle Call Call.Ret} {e : PyExc} (hw : WellBehaved decode o)
    (hs : req.scope.isSetListOrNone = true)
    (hr : ((validateJwt config decode req).run o []).1 = .error e) : Raised e := by
  rcases run_bind_eq_error o (Prod.ext hr rfl) with h1 | ⟨a, h1, h1r, hr1⟩
  · exact .inl (verifierArgs_error hw hs h1)
  obtain ⟨u, hu, -⟩ := verifierArgs_ok h1r
  rcases run_bind_eq_error o hr1 with h2 | ⟨C0, h2, -, hr2⟩
  · exact verify_legacyPatch_error hw hu h2
  · rcases checkClaims_error hw hr2 with he | he
    exacts [.inl he, .inr (.inr (.inl he))]

/-- Collaborators of a deployment where a legacy refresh token has expired: the primary call fails
on the audience, the retried one on the expiry. -/
def expiredLegacy : Stateless where
  header := .error (.unauthorized "missing authorization header")
  keyFor _ _ _ := .ok "public-key"
  verify a := if a.aud = "openid" then .error (.authutilsJWTError "Signature has expired")
    else .error (.authutilsJWTAudienceError "invalid audience")
  blacklisted _ := .ok false
  view _ _ := .ok .none

theorem expiredLegacy_wellBehaved : WellBehaved (decodesTo legacyRefreshClaims) expiredLegacy.oracle where
  decodeFails _ _ he := by cases he
  headerFails _ _ he := by cases he; rfl
  keyTotal _ _ _ _ _ he := by cases he
  verifierFails h a e he := by
    simp only [Stateless.oracle, expiredLegacy] at he
    split at he <;> (cases he; rfl)
  blacklistTotal _ _ _ he := by cases he

theorem validateJwt_expired_legacy_refresh_raised :
    ((validateJwt sampleConfig (decodesTo legacyRefreshClaims) { encodedToken := some "token" }).run
      expiredLegacy.oracle []).1 = .error errorUnbound ∧ Raised errorUnbound :=
  ⟨rfl, @validateJwt_raises sampleConfig (decodesTo legacyRefreshClaims) { encodedToken := some "token" }
    expiredLegacy.oracle errorUnbound expiredLegacy_wellBehaved rfl rfl⟩

/-- The sample deployment's collaborators are well behaved: the header fails with
`Unauthorized`, the verifier with an audience error, and nothing else fails. -/
theorem issuedFor_wellBehaved (claims : Claims) (aud : String) :
    WellBehaved (decodesTo claims) (issuedFor claims aud).oracle where
  decodeFails _ _ he := by cases he
  headerFails _ _ he := by cases he; rfl
  keyTotal _ _ _ _ _ he := by cases he
  verifierFails h a e he := by
    simp only [Stateless.oracle, issuedFor] at he
    split at he
    · cases he
    · cases he; rfl
  blacklistTotal _ _ _ he := by cases he

/-- Claims with neither `pur` nor `jti`. -/
def anonymousClaims : Claims := [("iss", .str "https://fence")]

/-- Claims whose `scope` is a boolean. -/
def flagScopeClaims : Claims :=
  [("iss", .str "https://fence"), ("pur", .str "access"), ("scope", .bool true)]

theorem validateJwt_raises_beyond_JWTError :
    WellBehaved (decodesTo legacyRefreshClaims) expiredLegacy.oracle ∧
    ((validateJwt sampleConfig (decodesTo legacyRefreshClaims) { encodedToken := some "token" }).run
      expiredLegacy.oracle []).1 = .error errorUnbound ∧
    WellBehaved (decodesTo anonymousClaims) (issuedFor anonymousClaims "https://fence").oracle ∧
    ((validateJwt sampleConfig (decodesTo anonymousClaims) { encodedToken := some "token" }).run
      (issuedFor anonymousClaims "https://fence").oracle []).1 = .error (.keyError "jti") ∧
    WellBehaved (decodesTo flagScopeClaims) (issuedFor flagScopeClaims "https://elsewhere").oracle ∧
    ((validateJwt sampleConfig (decodesTo flagScopeClaims) { encodedToken := some "token" }).run
      (issuedFor flagScopeClaims "https://elsewhere").oracle []).1 =
      .error (.typeError "argument of type 'bool' is not iterable") :=
  ⟨expiredLegacy_wellBehaved, rfl, issuedFor_wellBehaved _ _, rfl, issuedFor_wellBehaved _ _, rfl⟩

/-! ### A scope that fails the assertion -/

end Fence.Jwt
