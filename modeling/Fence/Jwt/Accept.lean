import Fence.Jwt.Phases

/-!
# What an accepted token has been through

`Accepted config req t C` is what the claims `C` returned by a run with history `t` must have
been through before `validate_jwt` returns them (the spec's invariant on `Claims`, as this code
can establish it): `C` is what the verifier answered for the run's token, with the issuers and
public key the run resolved; a non-empty purpose passed in is `C`'s purpose; a required purpose is
present; and a refresh token or API key was found not to be blacklisted.

`validateJwt_accepted`: every run of `validate_jwt` that returns claims, against any behaviour of
its collaborators, satisfies `Accepted`, on the primary path and on both legacy fallbacks. The
proof composes the phase lemmas: `verifierArgs_ok` gives the token and key, `verify_legacyPatch_ok`
the verifier call whose answer is `C`, `checkClaims_ok` the purpose and blacklist facts.

A purpose passed in as the empty string is not checked: `if purpose:` treats it as no purpose.
-/

namespace Fence.Jwt

open Prog

/-- `tok` is the token a run with history `t` validated: the one passed in, or the header's. -/
def TokenOf (req : Request) (t : Trace) (tok : String) : Prop :=
  match req.encodedToken with
  | some t0 => tok = t0
  | none => .ok tok ∈ headerReads t

/-- `key` is the public key a run with history `t` verified `tok` with: the one passed in when it
is set, the key resolver's answer for `tok` otherwise. -/
def KeyOf (req : Request) (t : Trace) (tok key : String) : Prop :=
  match truthy req.publicKey with
  | some k => key = k
  | none => ∃ ar, ((tok, ar, req.pkeyCache), .ok key) ∈ keyLookups t

/-- What `validate_jwt` has established about the claims `C` it returns after the history `t`. -/
structure Accepted (config : Config) (req : Request) (t : Trace) (C : Claims) : Prop where
  /-- `C` is the verifier's answer for the run's token, issuers and public key. -/
  verified : ∃ a, (a, .ok C) ∈ verifications t ∧ TokenOf req t a.encodedToken ∧
    a.issuers = req.issuers.getD (defaultIssuers config) ∧ KeyOf req t a.encodedToken a.publicKey
  /-- A non-empty purpose passed in is `C`'s purpose. -/
  purpose : ∀ p, req.purpose = some p → p ≠ "" → C.lookup "pur" = some (.str p)
  /-- A required purpose is present. -/
  purposePresent : req.requirePurpose = true → (C.lookup "pur").isSome
  /-- A refresh token or an API key was looked up in the blacklist and was not on it. -/
  notBlacklisted : Blacklistable req.requirePurpose C →
    ∃ jti, C.lookup "jti" = some jti ∧ (jti, .ok false) ∈ blacklistChecks t

theorem TokenOf.mono {req : Request} {t t' : Trace} {tok : String} (h : TokenOf req t tok)
    (hs : t ⊆ t') : TokenOf req t' tok := by
  unfold TokenOf at *
  cases hx : req.encodedToken with
  | some t0 => simpa [hx] using h
  | none =>
    simp only [hx] at h ⊢
    exact List.filterMap_subset _ hs h

theorem KeyOf.mono {req : Request} {t t' : Trace} {tok key : String} (h : KeyOf req t tok key)
    (hs : t ⊆ t') : KeyOf req t' tok key := by
  unfold KeyOf at *
  cases hk : truthy req.publicKey with
  | some k => simpa [hk] using h
  | none =>
    simp only [hk] at h ⊢
    obtain ⟨ar, har⟩ := h
    exact ⟨ar, List.filterMap_subset _ hs har⟩

theorem tokenOf_of_tokenRead {req : Request} {tok : String} {tH : Trace}
    (hr : TokenRead req.encodedToken tok tH) : TokenOf req tH tok := by
  unfold TokenRead at hr
  unfold TokenOf
  cases hx : req.encodedToken with
  | some t0 => simp only [hx] at hr; exact hr.1
  | none =>
    simp only [hx] at hr
    exact hr ▸ List.mem_singleton_self _

theorem keyOf_of_keyRead {req : Request} {tok key : String} {ar : Bool} {tK : Trace}
    (hr : KeyRead req.publicKey tok ar req.pkeyCache key tK) : KeyOf req tK tok key := by
  unfold KeyRead at hr
  unfold KeyOf
  cases hk : truthy req.publicKey with
  | some k => simp only [hk] at hr; exact hr.1
  | none =>
    simp only [hk] at hr
    exact ⟨ar, hr ▸ List.mem_singleton_self _⟩

/-- A call as a run that accepts can have seen it: the header and the key resolver answered, and
the blacklist answered `False`. A verifier call may have failed: the legacy fallback retries it.
The view is not called at all. -/
def Unfailed : Event Call Call.Ret → Prop
  | ⟨.getJwtHeader, r⟩ => ∃ tok, r = .ok tok
  | ⟨.getPublicKeyForToken .., r⟩ => ∃ key, r = .ok key
  | ⟨.isBlacklisted _, r⟩ => r = .ok false
  | ⟨.validateJwt _, _⟩ => True
  | ⟨.wrapped .., _⟩ => False

theorem TokenRead.unfailed {x : Option String} {tok : String} {t : Trace} (ht : TokenRead x tok t) :
    ∀ ev ∈ t, Unfailed ev := by
  unfold TokenRead at ht
  split at ht
  · simp [ht.2]
  · simp [ht, Unfailed]

theorem KeyRead.unfailed {pk : Option String} {tok : String} {ar : Bool} {c : Value} {key : String}
    {t : Trace} (ht : KeyRead pk tok ar c key t) : ∀ ev ∈ t, Unfailed ev := by
  unfold KeyRead at ht
  split at ht
  · simp [ht.2]
  · simp [ht, Unfailed]

section
variable {config : Config} {decode : String → Except PyExc Claims} {req : Request}
  {o : Oracle Call Call.Ret} {C : Claims} {t : Trace}

/-- The verifier call whose answer a run of lines 115-177 returns has the token, issuers and
public key of the primary call. -/
theorem verify_legacyPatch_answer {args : VerifyArgs} {u : Claims} {h h' : Trace}
    (hu : decode args.encodedToken = .ok u)
    (hr : (verify (legacyPatch decode) args).run o h = (.ok C, h')) :
    ∃ b tV, h' = h ++ tV ∧ (b, .ok C) ∈ verifications tV ∧ b.encodedToken = args.encodedToken ∧
      b.issuers = args.issuers ∧ b.publicKey = args.publicKey := by
  rcases verify_legacyPatch_ok hu hr with ⟨-, rfl⟩ | ⟨m, p, aud, -, -, rfl⟩
  · exact ⟨args, _, rfl, List.mem_singleton_self _, rfl, rfl, rfl⟩
  · exact ⟨{ args with aud := aud, scope := .none, purpose := some p }, _, rfl,
      List.mem_cons_of_mem _ (List.mem_singleton_self _), rfl, rfl, rfl⟩

theorem validateJwt_accepted (hr : (validateJwt config decode req).run o [] = (.ok C, t)) :
    Accepted config req t C := by
  obtain ⟨a, h1, C0, h2, h1r, h2r, hr2⟩ := validateJwtWith_ok hr
  obtain ⟨u, hu, -, -, -, -, hiss, -, -, tH, tK, rfl, htok, hkey⟩ := verifierArgs_ok h1r
  obtain ⟨b, tV, rfl, hb, hbtok, hbiss, hbkey⟩ := verify_legacyPatch_answer hu h2r
  obtain ⟨rfl, hpur, hpres, hbl⟩ := checkClaims_ok hr2
  obtain ⟨tB, rfl⟩ : ∃ tB, t = [] ++ tH ++ tK ++ tV ++ tB := by
    rcases hbl with ⟨-, rfl⟩ | ⟨-, _, -, rfl⟩
    exacts [⟨[], by simp⟩, ⟨_, rfl⟩]
  refine ⟨⟨b, by simp [hb], ?_, hbiss.trans hiss, ?_⟩, fun p hp hne => hpur p (by
    rw [hp, truthy_some hne]), hpres, fun hB => ?_⟩
  · exact hbtok ▸ (tokenOf_of_tokenRead htok).mono fun ev hev => by simp [hev]
  · exact hbtok ▸ hbkey ▸ (keyOf_of_keyRead hkey).mono fun ev hev => by simp [hev]
  · rcases hbl with ⟨hnB, -⟩ | ⟨-, jti, hj, hB'⟩
    · exact absurd hB hnB
    · simp only [List.nil_append, List.append_assoc, List.append_cancel_left_eq] at hB'
      rw [hB', blacklistChecks_append]
      exact ⟨jti, hj, List.mem_append_right _ (List.mem_singleton_self _)⟩

/-- `validate_jwt` fails closed: a run that returns claims saw no failure of the header, the key
resolver or the blacklist, no blacklisted token, and no call of the view; only a verifier call may
have raised. -/
theorem validateJwt_fails_closed (hr : (validateJwt config decode req).run o [] = (.ok C, t)) :
    ∀ ev ∈ t, Unfailed ev := by
  obtain ⟨a, h1, C0, h2, h1r, h2r, hr2⟩ := validateJwtWith_ok hr
  obtain ⟨u, hu, -, -, -, -, -, -, -, tH, tK, rfl, htok, hkey⟩ := verifierArgs_ok h1r
  obtain ⟨-, -, -, hbl⟩ := checkClaims_ok hr2
  rcases verify_legacyPatch_ok hu h2r with ⟨-, rfl⟩ | ⟨m, p, aud, -, -, rfl⟩ <;>
    rcases hbl with ⟨-, rfl⟩ | ⟨-, jti, -, rfl⟩ <;>
    simp only [List.nil_append, List.forall_mem_append, List.forall_mem_singleton, and_assoc] <;>
    exact ⟨htok.unfailed, hkey.unfailed, by simp [Unfailed]⟩

end

/-! ### On the sample deployments -/

theorem validateJwt_accepts_legacy_refresh :
    Accepted sampleConfig { encodedToken := some "token" }
      ((validateJwt sampleConfig (decodesTo legacyRefreshClaims) { encodedToken := some "token" }).run
        (issuedFor legacyRefreshClaims "openid").oracle []).2 legacyRefreshClaims :=
  @validateJwt_accepted _ (decodesTo legacyRefreshClaims) _ (issuedFor legacyRefreshClaims "openid").oracle
    _ _ (by rfl)

theorem validateJwt_legacy_refresh_unfailed :
    Unfailed (((validateJwt sampleConfig (decodesTo legacyRefreshClaims)
      { encodedToken := some "token" }).run (issuedFor legacyRefreshClaims "openid").oracle []).2.get
        ⟨3, by decide⟩) :=
  @validateJwt_fails_closed sampleConfig (decodesTo legacyRefreshClaims) { encodedToken := some "token" }
    (issuedFor legacyRefreshClaims "openid").oracle legacyRefreshClaims _ (by rfl) _ (List.get_mem _ _ _)

theorem validateJwt_empty_purpose_unchecked :
    ((validateJwt sampleConfig (decodesTo accessClaims)
        { encodedToken := some "token", purpose := some "" }).run
      (issuedFor accessClaims "https://fence").oracle []).1 = .ok accessClaims ∧
    accessClaims.lookup "pur" ≠ some (.str "") :=
  ⟨by rfl, by rw [show accessClaims.lookup "pur" = some (.str "access") from rfl]; simp⟩

end Fence.Jwt
