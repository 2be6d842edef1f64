import Fence.Jwt.Calls

/-!
# The protocol of `validate_jwt`: each call, given the calls before it

`validateJwt_call_order` says in which order a run calls. Here each call of a run is tied to the
history before it (`Justified`), whatever the collaborators answer and whether the run returns or
raises:

* the header is read first, and only when no token is passed;
* the key resolver is called right after the token is read, for that token;
* the primary verifier call comes right after the token read and the key lookup, with the token and
  the key they returned (`PrimaryAt`); the legacy retry comes right after the primary call failed on
  the audience of a token that claims `refresh` or `api_key` (`VerifierCall`);
* the blacklist is consulted right after a verifier call returned claims `C`, on `C`'s `jti`, and
  only for a refresh token or an API key of a request that requires a purpose (`VerifiedAt`);
* the wrapped view is never called.

So a run never mixes tokens, never retries after a success or after any other failure, and never
asks the blacklist about claims no verifier call returned. Each phase has a `_guard` lemma
(`Prog.Guard`) whose postcondition says what the history is when the phase returns;
`validateJwt_protocol` composes them.

Without the history this is `Allowed` (`Justified.allowed`), what the request allows each call to
carry (`validateJwt_calls_allowed`): the header only when no token is passed; the key resolver only
when no public key is passed, with the `attempt_refresh` line 110 computes and the request's
`pkey_cache`; the primary verifier call with the request's audience (`BASE_URL` when it passes
none), scope and purpose (`PrimaryArgs`), or its legacy retry with the audience of the purpose the
token claims (`openid` for `refresh`, `fence` for `api_key`) and no scope; the blacklist only when
a purpose is required; the view never.

Revoking more never widens acceptance (`validateJwt_revocation_monotone`): a run that accepts
saw `False` from every blacklist call, and a run depends on the collaborators only through the
answers to its own calls (`Prog.run_congr`). So an accepting run is also the run against a
blacklist that answers `False` wherever the first does.
-/

namespace Fence.Jwt

open Prog

section
variable (config : Config) (decode : String → Except PyExc Claims) (req : Request)

/-- `tok` is the token passed in, when one is. -/
def TokenFor (tok : String) : Prop := ∀ t0, req.encodedToken = some t0 → tok = t0

/-- `ar` is `attempt_refresh` as line 110 computes it for the token `tok`. -/
def RefreshFor (tok : String) (ar : Bool) : Prop :=
  ∃ u, decode tok = .ok u ∧ ar = (req.attemptRefresh && !(u.get "iss").eqStr config.baseUrl)

/-- The keyword arguments of the primary verifier call, lines 116-125. -/
structure PrimaryArgs (a : VerifyArgs) : Prop where
  token : TokenFor req a.encodedToken
  aud : a.aud = req.aud.getD config.baseUrl
  scope : a.scope = req.scope
  purpose : a.purpose = req.purpose
  issuers : a.issuers = req.issuers.getD (defaultIssuers config)
  publicKey : ∀ k, truthy req.publicKey = some k → a.publicKey = k
  attemptRefresh : RefreshFor config decode req a.encodedToken a.attemptRefresh
  kwargs : a.kwargs = req.kwargs

/-- The calls `validate_jwt(**req)` may make, with the arguments it may pass. -/
def Allowed : Call → Prop
  | .getJwtHeader => req.encodedToken = none
  | .getPublicKeyForToken tok ar c => truthy req.publicKey = none ∧ TokenFor req tok ∧
      RefreshFor config decode req tok ar ∧ c = req.pkeyCache
  | .validateJwt b => PrimaryArgs config decode req b ∨
      ∃ a p aud u, PrimaryArgs config decode req a ∧ legacyAudience p = some aud ∧
        decode a.encodedToken = .ok u ∧ u.get "pur" = .str p ∧
        b = { a with aud := aud, scope := .none, purpose := some p }
  | .isBlacklisted _ => req.requirePurpose = true
  | .wrapped .. => False

/-- `a` are the arguments of the primary verifier call and `t` the calls lines 84-113 made to
compute them: the header read that returned the token, when none is passed, and the key lookup that
returned the public key, when none is passed. -/
def PrimaryAt (t : Trace) (a : VerifyArgs) : Prop :=
  PrimaryArgs config decode req a ∧ ∃ tH tK, t = tH ++ tK ∧
    TokenRead req.encodedToken a.encodedToken tH ∧
    KeyRead req.publicKey a.encodedToken a.attemptRefresh req.pkeyCache a.publicKey tK

/-- `t` is the history before a verifier call with the arguments `b`: the primary call right after
lines 84-113, or the legacy retry right after the primary call failed on the audience of a token
that claims `refresh` or `api_key`. -/
def VerifierCall (t : Trace) (b : VerifyArgs) : Prop :=
  PrimaryAt config decode req t b ∨
  ∃ t₀ a m p aud u, PrimaryAt config decode req t₀ a ∧
    t = t₀ ++ [⟨.validateJwt a, .error (.authutilsJWTAudienceError m)⟩] ∧
    decode a.encodedToken = .ok u ∧ u.get "pur" = .str p ∧ legacyAudience p = some aud ∧
    b = { a with aud := aud, scope := .none, purpose := some p }

/-- `t` ends with a verifier call, made as `VerifierCall` says, that returned the claims `C`. -/
def VerifiedAt (t : Trace) (C : Claims) : Prop :=
  ∃ t₀ b, t = t₀ ++ [⟨.validateJwt b, .ok C⟩] ∧ VerifierCall config decode req t₀ b

/-- The calls `validate_jwt(**req)` makes, each given the calls and answers `t` before it in its
run. -/
def Justified (t : Trace) : Call → Prop
  | .getJwtHeader => req.encodedToken = none ∧ t = []
  | .getPublicKeyForToken tok ar c => truthy req.publicKey = none ∧
      TokenRead req.encodedToken tok t ∧ RefreshFor config decode req tok ar ∧ c = req.pkeyCache
  | .validateJwt b => VerifierCall config decode req t b
  | .isBlacklisted j => ∃ C, VerifiedAt config decode req t C ∧ C.lookup "jti" = some j ∧
      Blacklistable req.requirePurpose C
  | .wrapped .. => False

end

/-! ### Handlers -/

section
variable {α : Type} {G : Trace → Call → Prop} {E : Trace → α → Prop} {t : Trace}

/-- The `except` clause an exception `e` reaches: the handler, or `e` or `NameError` raised. -/
theorem pyTry_raise_guard {name : String} {handler : PyExc → PyM α} {e : PyExc}
    (hh : (handler e).Guard G E t) : (pyTry (Prog.raise e) name handler).Guard G E t := by
  dsimp only [pyTry, Prog.tryCatch]
  split
  · split
    exacts [hh, trivial]
  · trivial

theorem pyTry_guard {body : PyM α} {name : String} {handler : PyExc → PyM α}
    (hb : body.Guard G E t) (hh : ∀ t' e, (handler e).Guard G E t') :
    (pyTry body name handler).Guard G E t :=
  guard_tryCatch hb fun t' e => pyTry_raise_guard (hh t' e)

/-- The handler of a `try` around one call runs right after the call raised. -/
theorem pyTry_invoke_guard {q : Call} {name : String} {handler : PyExc → PyM (Call.Ret q)}
    {E : Trace → Call.Ret q → Prop} (hq : G t q) (hok : ∀ v, E (t ++ [⟨q, .ok v⟩]) v)
    (hh : ∀ e, (handler e).Guard G E (t ++ [⟨q, .error e⟩])) :
    (pyTry (Prog.invoke q) name handler).Guard G E t :=
  ⟨hq, fun
    | .ok v => hok v
    | .error e => pyTry_raise_guard (hh e)⟩

end

/-! ### The phases -/

section
variable {config : Config} {decode : String → Except PyExc Claims} {req : Request}

theorem TokenRead.tokenFor {tok : String} {t : Trace} (h : TokenRead req.encodedToken tok t) :
    TokenFor req tok := fun t₀ hx => by
  rw [TokenRead.eq_def, hx] at h
  exact h.1

theorem KeyRead.publicKey {tok : String} {ar : Bool} {key : String} {t : Trace}
    (h : KeyRead req.publicKey tok ar req.pkeyCache key t) :
    ∀ k, truthy req.publicKey = some k → key = k := fun k hk => by
  rw [KeyRead.eq_def, hk] at h
  exact h.1

theorem resolveToken_guard :
    (resolveToken req.encodedToken).Guard (Justified config decode req)
      (fun t tok => TokenRead req.encodedToken tok t) [] := by
  unfold resolveToken TokenRead
  cases hx : req.encodedToken with
  | some t₀ => exact guard_pure ⟨rfl, rfl⟩
  | none => exact pyTry_guard (guard_invoke ⟨hx, rfl⟩ fun _ => rfl) fun _ _ => trivial

theorem decodeUnverified_guard {G : Trace → Call → Prop} {tok : String} {t : Trace} :
    (decodeUnverified decode tok).Guard G (fun t' u => t' = t ∧ decode tok = .ok u) t :=
  pyTry_guard guard_ofExcept_eq fun _ _ => trivial

theorem resolvePublicKey_guard {tok : String} {ar : Bool} {t : Trace}
    (htok : TokenRead req.encodedToken tok t) (har : RefreshFor config decode req tok ar) :
    (resolvePublicKey req.publicKey tok ar req.pkeyCache).Guard (Justified config decode req)
      (fun t' key => ∃ tK, t' = t ++ tK ∧ KeyRead req.publicKey tok ar req.pkeyCache key tK) t := by
  unfold resolvePublicKey KeyRead
  cases hp : truthy req.publicKey with
  | some k => exact guard_pure ⟨[], by simp, rfl, rfl⟩
  | none => exact guard_invoke ⟨hp, htok, har, rfl⟩ fun _ => ⟨_, rfl, rfl⟩

theorem verifierArgs_guard :
    (verifierArgs config decode req).Guard (Justified config decode req)
      (PrimaryAt config decode req) [] := by
  refine guard_bind resolveToken_guard fun tH tok htok => ?_
  refine guard_bind (guard_of_within_nil (checkScope_within _)) ?_
  rintro t _ rfl
  refine guard_bind decodeUnverified_guard ?_
  rintro t' u ⟨h, hu⟩
  subst t'
  refine guard_bind (resolvePublicKey_guard htok ⟨u, hu, rfl⟩) ?_
  rintro _ key ⟨tK, rfl, hkey⟩
  exact guard_pure ⟨⟨htok.tokenFor, rfl, rfl, rfl, rfl, hkey.publicKey, ⟨u, hu, rfl⟩, rfl⟩,
    t, tK, rfl, htok, hkey⟩

theorem invalidToken_guard {G : Trace → Call → Prop} {E : Trace → Claims → Prop} {a : VerifyArgs}
    {e : PyExc} {t : Trace} : (invalidToken decode a e).Guard G E t := by
  unfold invalidToken
  exact guard_bind guard_ofExcept_eq fun _ _ _ => guard_bind guard_ofExcept_eq fun _ _ _ => trivial

theorem retryLegacy_guard {a : VerifyArgs} {aud p label : String} {t : Trace}
    (hb : VerifierCall config decode req t { a with aud := aud, scope := .none, purpose := some p }) :
    (retryLegacy a aud p label).Guard (Justified config decode req)
      (VerifiedAt config decode req) t :=
  pyTry_guard (guard_invoke hb fun _ => ⟨t, _, rfl, hb⟩) fun _ _ => trivial

theorem legacyPatch_guard {a : VerifyArgs} {e : PyExc} {t : Trace}
    (ha : PrimaryAt config decode req t a) :
    (legacyPatch decode a e).Guard (Justified config decode req) (VerifiedAt config decode req)
      (t ++ [⟨.validateJwt a, .error e⟩]) := by
  cases hu : decode a.encodedToken with
  | error d =>
    unfold legacyPatch
    rw [hu]
    trivial
  | ok u =>
    rcases legacyPatch_cases hu e with ⟨m, p, aud, label, rfl, hp, hl, heq⟩ | ⟨-, heq⟩ <;> rw [heq]
    exacts [retryLegacy_guard (.inr ⟨t, a, m, p, aud, u, ha, rfl, hu, hp, hl, rfl⟩), invalidToken_guard]

theorem verify_guard {a : VerifyArgs} {t : Trace} (ha : PrimaryAt config decode req t a) :
    (verify (legacyPatch decode) a).Guard (Justified config decode req)
      (VerifiedAt config decode req) t := by
  refine pyTry_invoke_guard (q := .validateJwt a) ?_ ?_ ?_
  exacts [.inl ha, fun _ => ⟨t, a, rfl, .inl ha⟩, fun _ => legacyPatch_guard ha]

theorem checkBlacklist_guard {C : Claims} {t : Trace} (hC : VerifiedAt config decode req t C) :
    (checkBlacklist req.requirePurpose C).Guard (Justified config decode req) (fun _ _ => True) t := by
  unfold checkBlacklist
  cases hrp : req.requirePurpose with
  | false => exact guard_pure trivial
  | true =>
    refine guard_bind guard_ofExcept_eq ?_
    rintro _ pur ⟨rfl, hpur⟩
    split_ifs with hc
    · refine guard_bind guard_ofExcept_eq ?_
      rintro _ jti ⟨rfl, hjti⟩
      have hB : Blacklistable req.requirePurpose C := by
        simp only [Bool.or_eq_true, Value.eqStr_iff] at hc
        rw [Claims.getItem_eq_ok] at hpur
        rcases hc with rfl | rfl
        exacts [⟨hrp, .inl hpur⟩, ⟨hrp, .inr hpur⟩]
      exact guard_bind (guard_invoke (E := fun _ _ => True) ⟨C, hC, Claims.getItem_eq_ok.mp hjti, hB⟩
        fun _ => trivial) fun _ _ _ => by split <;> trivial
    · exact guard_pure trivial

theorem checkClaims_guard {C : Claims} {t : Trace} (hC : VerifiedAt config decode req t C) :
    (checkClaims req.requirePurpose req.purpose C).Guard (Justified config decode req)
      (fun _ _ => True) t := by
  refine guard_bind (guard_of_within_nil (checkPurpose_within _ _)) ?_
  rintro _ _ rfl
  refine guard_bind (guard_of_within_nil (checkPurposePresent_within _ _)) ?_
  rintro _ _ rfl
  exact guard_bind (checkBlacklist_guard hC) fun _ _ _ => guard_pure trivial

theorem validateJwt_guard :
    (validateJwt config decode req).Guard (Justified config decode req) (fun _ _ => True) [] :=
  guard_bind verifierArgs_guard fun _ _ ha =>
    guard_bind (verify_guard ha) fun _ _ hC => checkClaims_guard hC

end

/-- Every call of every run of `validate_jwt` is justified by the calls and answers before it. -/
theorem validateJwt_protocol (config : Config) (decode : String → Except PyExc Claims)
    (req : Request) (o : Oracle Call Call.Ret)
    (i : Fin ((validateJwt config decode req).run o []).2.length) :
    Justified config decode req (((validateJwt config decode req).run o []).2.take i)
      (((validateJwt config decode req).run o []).2.get i).call :=
  run_guard_get o validateJwt_guard i

/-! ### The arguments of each call -/

section
variable {config : Config} {decode : String → Except PyExc Claims} {req : Request}

/-- A justified call is allowed: `Justified` is `Allowed` with the history that makes the call. -/
theorem Justified.allowed {t : Trace} {q : Call} (h : Justified config decode req t q) :
    Allowed config decode req q := by
  cases q with
  | getJwtHeader => exact h.1
  | getPublicKeyForToken tok ar c => exact ⟨h.1, h.2.1.tokenFor, h.2.2⟩
  | validateJwt b =>
    exact h.imp (·.1) fun ⟨_, a, _, p, aud, u, ha, _, hu, hp, hl, hb⟩ =>
      ⟨a, p, aud, u, ha.1, hl, hu, hp, hb⟩
  | isBlacklisted j => exact h.elim fun _ ⟨_, _, hB⟩ => hB.1
  | wrapped as kw => exact h.elim

/-- The arguments lines 84-113 return are those of the primary verifier call. -/
theorem verifierArgs_primaryArgs {o : Oracle Call Call.Ret} {a : VerifyArgs} {h1 : Trace}
    (ha : (verifierArgs config decode req).run o [] = (.ok a, h1)) : PrimaryArgs config decode req a := by
  obtain ⟨-, -, -, hP⟩ := run_guard o (@verifierArgs_guard config decode req)
  exact (hP a (by rw [ha])).1

end

/-- Every call of every run of `validate_jwt` carries the arguments the request allows. -/
theorem validateJwt_calls_allowed (config : Config) (decode : String → Except PyExc Claims)
    (req : Request) (o : Oracle Call Call.Ret) :
    ∀ ev ∈ ((validateJwt config decode req).run o []).2, Allowed config decode req ev.call := by
  intro ev hev
  obtain ⟨i, rfl⟩ := List.get_of_mem hev
  exact (run_guard_get o validateJwt_guard i).allowed

theorem validateJwt_legacy_retry_allowed :
    Allowed sampleConfig (decodesTo legacyRefreshClaims) { encodedToken := some "token" }
      (((validateJwt sampleConfig (decodesTo legacyRefreshClaims) { encodedToken := some "token" }).run
        (issuedFor legacyRefreshClaims "openid").oracle []).2.get ⟨2, by decide⟩).call :=
  validateJwt_calls_allowed _ _ _ _ _ (List.get_mem _ _ _)

/-! ### The blacklist's answers -/

section
variable {config : Config} {decode : String → Except PyExc Claims} {req : Request}
  {o : Oracle Call Call.Ret}

/-- In a run of `validate_jwt` that returns claims, each blacklist call answered `False`: lines
84-177 make none, and lines 178-189 return only after a `False`. -/
theorem validateJwt_blacklist_answer {C : Claims} {t : Trace}
    (hr : (validateJwt config decode req).run o [] = (.ok C, t)) {j : Value} {r : Except PyExc Bool}
    (hev : ⟨.isBlacklisted j, r⟩ ∈ t) : r = .ok false := by
  obtain ⟨a, h1, C0, h2, h1r, h2r, hr2⟩ := validateJwtWith_ok hr
  obtain ⟨tA, hA, hsA⟩ := run_within o (verifierArgs_within config decode req) []
  have hvw : (verify (legacyPatch decode) a).Within Call.collaborator ([.verifier] ++ [.verifier]) :=
    pyTry_within (authutilsValidateJwt_within a) (legacyPatch_within decode a)
  obtain ⟨tV, hV, hsV⟩ := run_within o hvw h1
  rw [h1r] at hA
  rw [h2r] at hV
  obtain ⟨-, -, -, hbl⟩ := checkClaims_ok hr2
  have hm : ⟨.isBlacklisted j, r⟩ ∉ [] ++ tA ++ tV := fun hm => by
    have := (hsA.append hsV).subset (by rw [← List.map_append]; exact List.mem_map_of_mem _ hm)
    simp [Call.collaborator] at this
  subst hA hV
  rcases hbl with ⟨-, rfl⟩ | ⟨-, jti, -, rfl⟩
  · exact absurd hev hm
  · rcases List.mem_append.mp hev with hev | hev
    · exact absurd hev hm
    · cases List.mem_singleton.mp hev
      rfl

end

/-- Revoking more never widens acceptance: if `validate_jwt` returns claims against the
collaborators `o'`, it runs alike against collaborators `o` that answer every other call as `o'`
does and answer `False` to `is_blacklisted` wherever `o'` does. -/
theorem validateJwt_revocation_monotone (config : Config) (decode : String → Except PyExc Claims)
    (req : Request) (o o' : Oracle Call Call.Ret) {C : Claims}
    (hsame : ∀ t q, (∀ j, q ≠ .isBlacklisted j) → o t q = o' t q)
    (hbl : ∀ t j, o' t (.isBlacklisted j) = .ok false → o t (.isBlacklisted j) = .ok false)
    (hacc : ((validateJwt config decode req).run o' []).1 = .ok C) :
    (validateJwt config decode req).run o [] = (validateJwt config decode req).run o' [] := by
  obtain ⟨t, ht, hA⟩ := run_answers o' (validateJwt config decode req) []
  refine run_congr o' fun t₁ ev t₂ he => ?_
  rw [ht, List.nil_append, List.nil_append] at he
  have hans := hA t₁ ev t₂ he
  obtain ⟨c, r⟩ := ev
  cases c with
  | isBlacklisted j =>
    have hmem : ⟨.isBlacklisted j, r⟩ ∈ ((validateJwt config decode req).run o' []).2 := by
      rw [ht, he]
      simp
    have hr : r = .ok false := validateJwt_blacklist_answer (Prod.ext hacc rfl) hmem
    exact (hbl _ _ (hans.trans hr)).trans hr.symm
  | _ => exact (hsame _ _ fun _ h => by cases h).trans hans

/-- The sample deployment of `issuedFor`, where the token with `jti` `j9` is revoked. -/
def revokedJ9 (claims : Claims) (aud : String) : Stateless :=
  { issuedFor claims aud with blacklisted := fun j => .ok (j.eqStr "j9") }

theorem validateJwt_legacy_refresh_unaffected_by_revocation :
    (validateJwt sampleConfig (decodesTo legacyRefreshClaims) { encodedToken := some "token" }).run
        (issuedFor legacyRefreshClaims "openid").oracle [] =
      (validateJwt sampleConfig (decodesTo legacyRefreshClaims) { encodedToken := some "token" }).run
        (revokedJ9 legacyRefreshClaims "openid").oracle [] :=
  validateJwt_revocation_monotone _ _ _ _ _
    (fun _ q hq => by cases q <;> first | rfl | exact absurd rfl (hq _)) (fun _ _ _ => rfl) (by rfl)

end Fence.Jwt
