import Fence.Jwt.Validate

/-!
# What each phase of `validate_jwt` does

One lemma per phase: what a run of it that returns a value called, and what it computed. The
results about `validate_jwt` cite these and never unfold a phase.
-/

namespace Fence.Jwt

open Prog

variable {o : Oracle Call Call.Ret} {h h' : Trace}

theorem run_pyTry {α : Type} (body : PyM α) (name : String) (handler : PyExc → PyM α) :
    (pyTry body name handler).run o h =
      match body.run o h with
      | (.ok a, h') => (.ok a, h')
      | (.error e, h') =>
        match excClassNamed name with
        | some c => if e.isInstance c then (handler e).run o h' else (.error e, h')
        | none => (.error (.nameError ("name " ++ reprStr name ++ " is not defined")), h') := by
  unfold pyTry
  rw [run_tryCatch]
  rcases body.run o h with ⟨e | a, h1⟩
  · cases excClassNamed name with
    | none => rfl
    | some c => by_cases he : e.isInstance c <;> simp [he]
  · rfl

theorem validatePurpose_ok {C : Claims} {p : String} (hr : (validatePurpose C p).run o h = (.ok (), h')) :
    C.lookup "pur" = some (.str p) ∧ h' = h := by
  unfold validatePurpose at hr
  cases hc : C.lookup "pur" with
  | none => simp [Claims.contains, hc, run_bind] at hr
  | some v =>
    simp only [Claims.contains, Claims.getItem, hc, run_bind, Option.isSome_some, Bool.not_true,
      Bool.false_eq_true, if_false, ofExcept_ok, run_pure] at hr
    cases hv : v.eqStr p
    · simp [hv] at hr
    · simp_all

theorem checkPurpose_ok {pur : Option String} {C : Claims}
    (hr : (checkPurpose pur C).run o h = (.ok (), h')) :
    (∀ p, truthy pur = some p → C.lookup "pur" = some (.str p)) ∧ h' = h := by
  unfold checkPurpose at hr
  cases hp : truthy pur with
  | none => simp_all
  | some p =>
    rw [hp] at hr
    obtain ⟨hc, rfl⟩ := validatePurpose_ok hr
    exact ⟨fun q hq => by simp_all, rfl⟩

theorem checkPurposePresent_ok {rp : Bool} {C : Claims}
    (hr : (checkPurposePresent rp C).run o h = (.ok (), h')) :
    (rp = true → C.contains "pur" = true) ∧ h' = h := by
  unfold checkPurposePresent at hr
  by_cases hc : rp = true ∧ C.contains "pur" = false
  · obtain ⟨rfl, hc⟩ := hc
    cases hj : C.getItem "jti" <;> simp [hc, hj, run_bind] at hr
  · simp_all

/-- Lines 185-187 apply to `C`: purpose is required, and `C` is a refresh token's or an API key's. -/
def Blacklistable (rp : Bool) (C : Claims) : Prop :=
  rp = true ∧ (C.lookup "pur" = some (.str "refresh") ∨ C.lookup "pur" = some (.str "api_key"))

theorem checkBlacklist_ok {rp : Bool} {C : Claims}
    (hr : (checkBlacklist rp C).run o h = (.ok (), h')) :
    (¬ Blacklistable rp C ∧ h' = h) ∨
    (Blacklistable rp C ∧ ∃ jti, C.lookup "jti" = some jti ∧
      h' = h ++ [⟨.isBlacklisted jti, .ok false⟩]) := by
  unfold checkBlacklist at hr
  unfold Blacklistable
  cases rp with
  | false => simp_all
  | true =>
    cases hp : C.lookup "pur" with
    | none => simp [Claims.getItem, hp, run_bind] at hr
    | some v =>
      simp only [Claims.getItem, hp, run_bind, ite_true, ofExcept_ok, run_pure] at hr
      by_cases hv : (v.eqStr "refresh" || v.eqStr "api_key") = true
      · cases hj : C.lookup "jti" with
        | none => simp [hv, hj, run_bind] at hr
        | some jti =>
          simp only [hv, hj, ite_true, run_bind, ofExcept_ok, run_pure, run_isBlacklisted] at hr
          cases hb : o h (.isBlacklisted jti) with
          | error e => simp [hb] at hr
          | ok b =>
            cases b
            · simp only [hb, Bool.false_eq_true, ite_false, pure_eq, run_pure, Prod.mk.injEq] at hr
              simp_all
            · simp [hb] at hr
      · simp_all

theorem checkClaims_ok {rp : Bool} {pur : Option String} {C C' : Claims}
    (hr : (checkClaims rp pur C).run o h = (.ok C', h')) :
    C' = C ∧ (∀ p, truthy pur = some p → C.lookup "pur" = some (.str p)) ∧
    (rp = true → C.contains "pur" = true) ∧
    ((¬ Blacklistable rp C ∧ h' = h) ∨
      (Blacklistable rp C ∧ ∃ jti, C.lookup "jti" = some jti ∧
        h' = h ++ [⟨.isBlacklisted jti, .ok false⟩])) := by
  unfold checkClaims at hr
  obtain ⟨_, h1, h1r, hr1⟩ := run_bind_eq_ok o hr
  obtain ⟨_, h2, h2r, hr2⟩ := run_bind_eq_ok o hr1
  obtain ⟨_, h3, h3r, hr3⟩ := run_bind_eq_ok o hr2
  obtain ⟨hpur, rfl⟩ := checkPurpose_ok h1r
  obtain ⟨hpres, rfl⟩ := checkPurposePresent_ok h2r
  obtain ⟨rfl, rfl⟩ : C = C' ∧ h3 = h' := by simpa using hr3
  exact ⟨rfl, hpur, hpres, checkBlacklist_ok h3r⟩

/-! ### Lines 84-113 -/

/-- The calls lines 84-88 made when they returned `tok`: none when a token was passed in, the
header read otherwise. -/
def TokenRead (x : Option String) (tok : String) (t : Trace) : Prop :=
  match x with
  | some t0 => tok = t0 ∧ t = []
  | none => t = [⟨.getJwtHeader, .ok tok⟩]

/-- The calls lines 111-113 made when they returned `key`. -/
def KeyRead (pk : Option String) (tok : String) (ar : Bool) (c : Value) (key : String)
    (t : Trace) : Prop :=
  match truthy pk with
  | some k => key = k ∧ t = []
  | none => t = [⟨.getPublicKeyForToken tok ar c, .ok key⟩]

theorem resolveToken_ok {x : Option String} {tok : String}
    (hr : (resolveToken x).run o h = (.ok tok, h')) : ∃ t, h' = h ++ t ∧ TokenRead x tok t := by
  unfold resolveToken at hr
  cases x with
  | some t0 => simp_all [TokenRead]
  | none =>
    rw [run_pyTry, run_getJwtHeader] at hr
    cases hg : o h .getJwtHeader with
    | ok t0 =>
      obtain ⟨rfl, rfl⟩ : t0 = tok ∧ _ = h' := by simpa [hg] using hr
      exact ⟨_, rfl, rfl⟩
    | error e =>
      simp only [hg, excClassNamed] at hr
      split at hr <;> simp at hr

theorem checkScope_ok {s : Scope} (hr : (checkScope s).run o h = (.ok (), h')) :
    s.isSetListOrNone = true ∧ h' = h := by
  unfold checkScope at hr
  cases hs : s.isSetListOrNone <;> simp_all

theorem decodeUnverified_ok {decode : String → Except PyExc Claims} {tok : String} {u : Claims}
    (hr : (decodeUnverified decode tok).run o h = (.ok u, h')) : decode tok = .ok u ∧ h' = h := by
  unfold decodeUnverified at hr
  rw [run_pyTry, run_ofExcept] at hr
  cases hd : decode tok with
  | ok v => simp_all
  | error e =>
    simp only [hd, excClassNamed] at hr
    split at hr <;> simp at hr

theorem resolvePublicKey_ok {pk : Option String} {tok : String} {ar : Bool} {c : Value}
    {key : String} (hr : (resolvePublicKey pk tok ar c).run o h = (.ok key, h')) :
    ∃ t, h' = h ++ t ∧ KeyRead pk tok ar c key t := by
  unfold resolvePublicKey at hr
  unfold KeyRead
  cases hp : truthy pk with
  | some k => simp_all
  | none =>
    rw [hp, run_getPublicKeyForToken] at hr
    cases hk : o h (.getPublicKeyForToken tok ar c) with
    | error e => simp [hk] at hr
    | ok k =>
      obtain ⟨rfl, rfl⟩ : k = key ∧ _ = h' := by simpa [hk] using hr
      exact ⟨_, rfl, rfl⟩

section
variable {config : Config} {decode : String → Except PyExc Claims}

theorem verifierArgs_ok {req : Request} {a : VerifyArgs}
    (hr : (verifierArgs config decode req).run o h = (.ok a, h')) :
    ∃ u, decode a.encodedToken = .ok u ∧ req.scope.isSetListOrNone = true ∧
      a.aud = req.aud.getD config.baseUrl ∧ a.scope = req.scope ∧ a.purpose = req.purpose ∧
      a.issuers = req.issuers.getD (defaultIssuers config) ∧
      a.attemptRefresh = (req.attemptRefresh && !(u.get "iss").eqStr config.baseUrl) ∧
      a.kwargs = req.kwargs ∧
      ∃ tH tK, h' = h ++ tH ++ tK ∧ TokenRead req.encodedToken a.encodedToken tH ∧
        KeyRead req.publicKey a.encodedToken a.attemptRefresh req.pkeyCache a.publicKey tK := by
  unfold verifierArgs at hr
  obtain ⟨tok, h1, h1r, hr1⟩ := run_bind_eq_ok o hr
  obtain ⟨_, h2, h2r, hr2⟩ := run_bind_eq_ok o hr1
  obtain ⟨u, h3, h3r, hr3⟩ := run_bind_eq_ok o hr2
  obtain ⟨key, h4, h4r, hr4⟩ := run_bind_eq_ok o hr3
  obtain ⟨tH, rfl, htok⟩ := resolveToken_ok h1r
  obtain ⟨hs, rfl⟩ := checkScope_ok h2r
  obtain ⟨hd, rfl⟩ := decodeUnverified_ok h3r
  obtain ⟨tK, rfl, hkey⟩ := resolvePublicKey_ok h4r
  simp only [pure_eq, run_pure, Prod.mk.injEq, Except.ok.injEq] at hr4
  obtain ⟨rfl, rfl⟩ := hr4
  exact ⟨u, hd, hs, rfl, rfl, rfl, rfl, rfl, rfl, tH, tK, by simp, htok, hkey⟩

/-! ### Lines 115-177 -/

/-- The legacy fallback's purposes, each with the audience its second verifier call expects. -/
def legacyAudience : String → Option String
  | "refresh" => some "openid"
  | "api_key" => some "fence"
  | _ => none

/-- The legacy fallback's purposes are `refresh` and `api_key` only. -/
theorem legacyAudience_eq_none {p : String} (hr : p ≠ "refresh") (ha : p ≠ "api_key") :
    legacyAudience p = none := by
  unfold legacyAudience
  split <;> simp_all

theorem run_verify_of_ok {g : VerifyArgs → PyExc → PyM Claims} {args : VerifyArgs} {C : Claims}
    (hv : o h (.validateJwt args) = .ok C) :
    (verify g args).run o h = (.ok C, h ++ [⟨.validateJwt args, .ok C⟩]) := by
  unfold verify
  rw [run_pyTry, run_authutilsValidateJwt, hv]

theorem run_verify_of_error {g : VerifyArgs → PyExc → PyM Claims} {args : VerifyArgs} {e : PyExc}
    (hv : o h (.validateJwt args) = .error e) :
    (verify g args).run o h =
      if e.isInstance .authutilsJWTError then (g args e).run o (h ++ [⟨.validateJwt args, .error e⟩])
      else (.error e, h ++ [⟨.validateJwt args, .error e⟩]) := by
  unfold verify
  rw [run_pyTry, run_authutilsValidateJwt, hv]
  by_cases hi : e.isInstance .authutilsJWTError = true <;> simp [hi, excClassNamed]

theorem invalidToken_raises (decode : String → Except PyExc Claims) (args : VerifyArgs) (e : PyExc)
    (o : Oracle Call Call.Ret) (h : Trace) :
    ∃ e', (invalidToken decode args e).run o h = (.error e', h) := by
  unfold invalidToken
  cases decode args.encodedToken with
  | error d => exact ⟨d, rfl⟩
  | ok u => cases hm : missingScopeHint u <;> simp [run_bind, hm]

theorem retryLegacy_ok {args : VerifyArgs} {aud pur label : String} {C : Claims}
    (hr : (retryLegacy args aud pur label).run o h = (.ok C, h')) :
    h' = h ++ [⟨.validateJwt { args with aud := aud, scope := .none, purpose := some pur }, .ok C⟩] := by
  unfold retryLegacy at hr
  rw [run_pyTry, run_authutilsValidateJwt] at hr
  cases hv : o h (.validateJwt { args with aud := aud, scope := .none, purpose := some pur }) with
  | error e => simp [hv, excClassNamed] at hr
  | ok C0 =>
    obtain ⟨rfl, rfl⟩ : C0 = C ∧ _ = h' := by simpa [hv] using hr
    rfl

theorem verify_invalidToken_ok {args : VerifyArgs} {C : Claims}
    (hr : (verify (invalidToken decode) args).run o h = (.ok C, h')) :
    o h (.validateJwt args) = .ok C ∧ h' = h ++ [⟨.validateJwt args, .ok C⟩] := by
  unfold verify at hr
  rw [run_pyTry, run_authutilsValidateJwt] at hr
  cases hv : o h (.validateJwt args) with
  | ok C0 =>
    obtain ⟨rfl, rfl⟩ : C0 = C ∧ _ = h' := by simpa [hv] using hr
    exact ⟨rfl, rfl⟩
  | error e =>
    simp only [hv, excClassNamed] at hr
    split at hr
    · obtain ⟨e', he'⟩ := invalidToken_raises decode args e o
        (h ++ [⟨.validateJwt args, .error e⟩])
      simp [he'] at hr
    · simp at hr

theorem verify_legacyPatch_ok {args : VerifyArgs} {u C : Claims}
    (hu : decode args.encodedToken = .ok u)
    (hr : (verify (legacyPatch decode) args).run o h = (.ok C, h')) :
    (o h (.validateJwt args) = .ok C ∧ h' = h ++ [⟨.validateJwt args, .ok C⟩]) ∨
    ∃ m p aud, legacyAudience p = some aud ∧ u.get "pur" = .str p ∧
      h' = h ++ [⟨.validateJwt args, .error (.authutilsJWTAudienceError m)⟩,
        ⟨.validateJwt { args with aud := aud, scope := .none, purpose := some p }, .ok C⟩] := by
  unfold verify at hr
  rw [run_pyTry, run_authutilsValidateJwt] at hr
  cases hv : o h (.validateJwt args) with
  | ok C0 =>
    obtain ⟨rfl, rfl⟩ : C0 = C ∧ _ = h' := by simpa [hv] using hr
    exact .inl ⟨rfl, rfl⟩
  | error e =>
    simp only [hv, excClassNamed] at hr
    split at hr
    · unfold legacyPatch at hr
      rw [run_bind, run_ofExcept, hu] at hr
      dsimp only at hr
      split at hr
      · rename_i hc
        simp only [Bool.and_eq_true, Value.eqStr_iff, PyExc.isInstance_audience] at hc
        obtain ⟨hp, m, rfl⟩ := hc
        exact .inr ⟨m, "refresh", "openid", rfl, hp, by simp [retryLegacy_ok hr]⟩
      · split at hr
        · rename_i hc
          simp only [Bool.and_eq_true, Value.eqStr_iff, PyExc.isInstance_audience] at hc
          obtain ⟨hp, m, rfl⟩ := hc
          exact .inr ⟨m, "api_key", "fence", rfl, hp, by simp [retryLegacy_ok hr]⟩
        · obtain ⟨e', he'⟩ := invalidToken_raises decode args e o
            (h ++ [⟨.validateJwt args, .error e⟩])
          simp [he'] at hr
    · simp at hr

/-- Lines 128-177 once the unverified decode returned `u`: an audience error on a token claiming
`refresh` or `api_key` brings the retry with that purpose's audience, and every other exception the
`else` branch. -/
theorem legacyPatch_cases {args : VerifyArgs} {u : Claims} (hu : decode args.encodedToken = .ok u)
    (e : PyExc) :
    (∃ m p aud label, e = .authutilsJWTAudienceError m ∧ u.get "pur" = .str p ∧
      legacyAudience p = some aud ∧ legacyPatch decode args e = retryLegacy args aud p label) ∨
    ((∀ m p, e = .authutilsJWTAudienceError m → u.get "pur" = .str p → legacyAudience p = none) ∧
      legacyPatch decode args e = invalidToken decode args e) := by
  unfold legacyPatch
  simp only [hu, ofExcept_ok, pure_bind]
  split_ifs with hr ha
  · simp only [Bool.and_eq_true, Value.eqStr_iff, PyExc.isInstance_audience] at hr
    obtain ⟨hp, m, rfl⟩ := hr
    exact .inl ⟨m, _, _, _, rfl, hp, rfl, rfl⟩
  · simp only [Bool.and_eq_true, Value.eqStr_iff, PyExc.isInstance_audience] at ha
    obtain ⟨hp, m, rfl⟩ := ha
    exact .inl ⟨m, _, _, _, rfl, hp, rfl, rfl⟩
  · refine .inr ⟨fun m p he hp => ?_, rfl⟩
    subst he
    simp only [hp, Bool.and_eq_true, Value.eqStr_iff, PyExc.isInstance_audience,
      Value.str.injEq, PyExc.authutilsJWTAudienceError.injEq, exists_eq', and_true] at hr ha
    exact legacyAudience_eq_none hr ha

/-- The patch block falls through to its `else` branch for an exception that is not an audience
error on a token claiming `refresh` or `api_key`. -/
theorem legacyPatch_run_eq_invalidToken {args : VerifyArgs} {u : Claims} {e : PyExc}
    (hu : decode args.encodedToken = .ok u)
    (hno : ∀ m p, e = .authutilsJWTAudienceError m → u.get "pur" = .str p → legacyAudience p = none)
    (h : Trace) :
    (legacyPatch decode args e).run o h = (invalidToken decode args e).run o h := by
  rcases legacyPatch_cases hu e with ⟨m, p, aud, -, rfl, hp, hl, -⟩ | ⟨-, heq⟩
  · cases (hno m p rfl hp).symm.trans hl
  · rw [heq]

end

theorem validateJwtWith_ok {config : Config} {decode : String → Except PyExc Claims}
    {g : VerifyArgs → PyExc → PyM Claims} {req : Request} {C : Claims}
    (hr : (validateJwtWith config decode g req).run o h = (.ok C, h')) :
    ∃ a h1 C0 h2, (verifierArgs config decode req).run o h = (.ok a, h1) ∧
      (verify g a).run o h1 = (.ok C0, h2) ∧
      (checkClaims req.requirePurpose req.purpose C0).run o h2 = (.ok C, h') := by
  obtain ⟨a, h1, ha, hr1⟩ := run_bind_eq_ok o hr
  obtain ⟨C0, h2, hv, hc⟩ := run_bind_eq_ok o hr1
  exact ⟨a, h1, C0, h2, ha, hv, hc⟩

theorem TokenRead.verifications_eq_nil {x : Option String} {tok : String} {t : Trace}
    (ht : TokenRead x tok t) : verifications t = [] := by
  unfold TokenRead at ht
  split at ht
  exacts [ht.2 ▸ rfl, ht ▸ rfl]

theorem KeyRead.verifications_eq_nil {pk : Option String} {tok : String} {ar : Bool} {c : Value}
    {key : String} {t : Trace} (ht : KeyRead pk tok ar c key t) : verifications t = [] := by
  unfold KeyRead at ht
  split at ht
  exacts [ht.2 ▸ rfl, ht ▸ rfl]

end Fence.Jwt
