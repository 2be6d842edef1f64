import Fence.Jwt.Accept

/-!
# The legacy fallback only widens acceptance where it says it does

`validateJwtUnpatched` is `validate_jwt` without the legacy patch block: an authutils `JWTError`
from the primary verifier call is reported as `Invalid token`. Against the same behaviour of the
collaborators:

* whenever the unpatched function returns claims, `validate_jwt` makes the same calls and returns
  the same claims;
* whenever `validate_jwt` returns claims the unpatched function does not, its primary verifier call
  raised `JWTAudienceError`, the token's unverified purpose is `refresh` or `api_key`, and the
  claims are the answer to the one further verifier call, made with the audience of that purpose
  (`openid` or `fence`), no scope, that purpose, and the primary call's token, issuers, public key,
  `attempt_refresh` and keyword arguments.

Both follow from one lemma: once the primary verifier call answers, the handler of its exceptions
plays no part (`run_validateJwtWith_of_ok`).

The block changes nothing else (`validateJwt_eq_unpatched`): unless the primary verifier call
raises `JWTAudienceError` for a token whose unverified purpose is `refresh` or `api_key`, the two
functions make the same calls, get the same answers and end the same way, whether they return or
raise.
-/

namespace Fence.Jwt

open Prog

section
variable {config : Config} {decode : String → Except PyExc Claims} {req : Request}
  {o : Oracle Call Call.Ret}

/-- When the primary verifier call answers, the handler of its exceptions plays no part. -/
theorem run_validateJwtWith_of_ok (g : VerifyArgs → PyExc → PyM Claims) {a : VerifyArgs}
    {h1 : Trace} {C0 : Claims} (ha : (verifierArgs config decode req).run o [] = (.ok a, h1))
    (hv : o h1 (.validateJwt a) = .ok C0) :
    (validateJwtWith config decode g req).run o [] =
      (checkClaims req.requirePurpose req.purpose C0).run o (h1 ++ [⟨.validateJwt a, .ok C0⟩]) := by
  unfold validateJwtWith
  rw [run_bind_of_ok o ha, run_bind_of_ok o (run_verify_of_ok hv)]

/-- The calls `checkClaims` appends include no verifier call. -/
theorem checkClaims_verifications {rp : Bool} {pur : Option String} {C C' : Claims} {h h' : Trace}
    (hr : (checkClaims rp pur C).run o h = (.ok C', h')) :
    ∃ tB, h' = h ++ tB ∧ verifications tB = [] := by
  obtain ⟨-, -, -, hbl⟩ := checkClaims_ok hr
  rcases hbl with ⟨-, rfl⟩ | ⟨-, jti, -, rfl⟩
  · exact ⟨[], by simp, rfl⟩
  · exact ⟨_, rfl, rfl⟩

end

theorem validateJwt_refines_unpatched (config : Config) (decode : String → Except PyExc Claims)
    (req : Request) (o : Oracle Call Call.Ret) (C : Claims) :
    (((validateJwtUnpatched config decode req).run o []).1 = .ok C →
      (validateJwt config decode req).run o [] = (validateJwtUnpatched config decode req).run o []) ∧
    (((validateJwt config decode req).run o []).1 = .ok C →
      ((validateJwtUnpatched config decode req).run o []).1 ≠ .ok C →
      ∃ a m p aud u, legacyAudience p = some aud ∧ decode a.encodedToken = .ok u ∧
        u.get "pur" = .str p ∧
        verifications ((validateJwt config decode req).run o []).2 =
          [(a, .error (.authutilsJWTAudienceError m)),
            ({ a with aud := aud, scope := .none, purpose := some p }, .ok C)]) := by
  constructor
  · intro hP
    obtain ⟨a, h1, C0, h2, ha, hv, -⟩ := validateJwtWith_ok (Prod.ext hP rfl)
    obtain ⟨hv1, -⟩ := verify_invalidToken_ok hv
    unfold validateJwt validateJwtUnpatched
    rw [run_validateJwtWith_of_ok _ ha hv1, run_validateJwtWith_of_ok _ ha hv1]
  · intro hV hP
    obtain ⟨a, h1, C0, h2, ha, hv, hc⟩ := validateJwtWith_ok (Prod.ext hV rfl)
    obtain ⟨u, hu, -, -, -, -, -, -, -, tH, tK, rfl, htok, hkey⟩ := verifierArgs_ok ha
    obtain ⟨rfl, -⟩ := checkClaims_ok hc
    rcases verify_legacyPatch_ok hu hv with ⟨hv1, rfl⟩ | ⟨m, p, aud, hp, hup, rfl⟩
    · refine absurd ?_ hP
      unfold validateJwtUnpatched
      rw [run_validateJwtWith_of_ok _ ha hv1, hc]
    · obtain ⟨tB, htB, hB⟩ := checkClaims_verifications hc
      refine ⟨a, m, p, aud, u, hp, hu, hup, ?_⟩
      unfold validateJwt
      simp only [htB, List.nil_append, verifications_append, htok.verifications_eq_nil,
        hkey.verifications_eq_nil, hB, List.append_nil]
      rfl

theorem validateJwt_accepts_legacy_refresh_by_fallback :
    ((validateJwt sampleConfig (decodesTo legacyRefreshClaims) { encodedToken := some "token" }).run
        (issuedFor legacyRefreshClaims "openid").oracle []).1 = .ok legacyRefreshClaims ∧
    ((validateJwtUnpatched sampleConfig (decodesTo legacyRefreshClaims)
        { encodedToken := some "token" }).run (issuedFor legacyRefreshClaims "openid").oracle []).1 ≠
      .ok legacyRefreshClaims ∧
    ∃ a m p aud u, legacyAudience p = some aud ∧ (decodesTo legacyRefreshClaims) a.encodedToken = .ok u ∧
      u.get "pur" = .str p ∧
      verifications ((validateJwt sampleConfig (decodesTo legacyRefreshClaims)
          { encodedToken := some "token" }).run (issuedFor legacyRefreshClaims "openid").oracle []).2 =
        [(a, .error (.authutilsJWTAudienceError m)),
          ({ a with aud := aud, scope := .none, purpose := some p }, .ok legacyRefreshClaims)] := by
  have hV : ((validateJwt sampleConfig (decodesTo legacyRefreshClaims)
      { encodedToken := some "token" }).run (issuedFor legacyRefreshClaims "openid").oracle []).1 =
      .ok legacyRefreshClaims := rfl
  have hP : ((validateJwtUnpatched sampleConfig (decodesTo legacyRefreshClaims)
      { encodedToken := some "token" }).run (issuedFor legacyRefreshClaims "openid").oracle []).1 ≠
      .ok legacyRefreshClaims := by
    intro h; cases h
  exact ⟨hV, hP, (validateJwt_refines_unpatched _ _ _ _ _).2 hV hP⟩

/-- Lines 115-177 run alike with and without the patch block, unless the primary call failed on
the audience of a token claiming `refresh` or `api_key`. -/
theorem verify_legacyPatch_run_eq {decode : String → Except PyExc Claims} {o : Oracle Call Call.Ret}
    {a : VerifyArgs} {u : Claims} {h : Trace} (hu : decode a.encodedToken = .ok u)
    (hno : ∀ m p, o h (.validateJwt a) = .error (.authutilsJWTAudienceError m) →
      u.get "pur" = .str p → legacyAudience p = none) :
    (verify (legacyPatch decode) a).run o h = (verify (invalidToken decode) a).run o h := by
  cases hv : o h (.validateJwt a) with
  | ok C => rw [run_verify_of_ok hv, run_verify_of_ok hv]
  | error e =>
    rw [run_verify_of_error hv, run_verify_of_error hv]
    split
    · exact legacyPatch_run_eq_invalidToken hu (fun m p he => hno m p (he ▸ hv)) _
    · rfl

/-- The legacy patch block changes nothing else: unless the primary verifier call fails on the
audience of a token claiming `refresh` or `api_key`, `validate_jwt` and the unpatched function run
alike. -/
theorem validateJwt_eq_unpatched (config : Config) (decode : String → Except PyExc Claims)
    (req : Request) (o : Oracle Call Call.Ret)
    (hno : ∀ a m u p, (a, .error (.authutilsJWTAudienceError m)) ∈
        verifications ((validateJwtUnpatched config decode req).run o []).2 →
      decode a.encodedToken = .ok u → u.get "pur" = .str p → legacyAudience p = none) :
    (validateJwt config decode req).run o [] = (validateJwtUnpatched config decode req).run o [] := by
  unfold validateJwt validateJwtUnpatched validateJwtWith at *
  rw [run_bind, run_bind] at *
  rcases hA : (verifierArgs config decode req).run o [] with ⟨e | a, h1⟩
  · rfl
  obtain ⟨u, hu, -⟩ := verifierArgs_ok hA
  rw [hA] at hno
  dsimp only at hno ⊢
  rw [run_bind, run_bind, verify_legacyPatch_run_eq hu fun m p hv hp => hno a m u p ?_ hu hp]
  obtain ⟨t, ht⟩ : ∃ t : Trace, ((verify (invalidToken decode) a >>=
      checkClaims req.requirePurpose req.purpose).run o h1).2 =
      h1 ++ ⟨.validateJwt a, o h1 (.validateJwt a)⟩ :: t := run_call_extends o (.validateJwt a) _ h1
  rw [ht]
  simp [verifications, hv]

theorem validateJwt_eq_unpatched_on_access_token :
    (validateJwt sampleConfig (decodesTo accessClaims) { encodedToken := some "token" }).run
        (issuedFor accessClaims "https://elsewhere").oracle [] =
      (validateJwtUnpatched sampleConfig (decodesTo accessClaims) { encodedToken := some "token" }).run
        (issuedFor accessClaims "https://elsewhere").oracle [] :=
  validateJwt_eq_unpatched _ _ _ _ fun _ _ _ _ _ hu hp => by
    cases hu
    cases hp
    rfl

end Fence.Jwt
