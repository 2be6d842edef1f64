import Fence.Jwt.Errors
import Fence.Jwt.Protocol

/-!
# The verifier round of `validate_jwt`

Lines 115-177 call the verifier with the primary arguments and, for an old-style refresh token or
API key, call it again. `verify_legacyPatch_round` says what a run of these lines does, whatever
the verifier answers: the primary call ends the round unless it failed on the audience of a token
that claims `refresh` or `api_key`, and then the round is the retry. `run_retryLegacy` says what the
retry does: one verifier call, each of its exceptions turned into the `NameError` of the unbound
`Error`.

`validateJwt_verifier_round` lifts this to every run of `validate_jwt`. Its verifier calls are

* none, and the run raises (lines 84-113 raised);
* the primary call alone, whose answer is not an audience error on a token claiming `refresh` or
  `api_key`: such an error always brings the retry;
* the primary call failing on that audience, then the retry with the legacy audience, no scope and
  the claimed purpose. When the retry raises, whatever it raises, the run raises `NameError`: the
  messages `Invalid refresh token: ...` and `Invalid API key: ...` of lines 153 and 170 are never
  raised.

When the primary call alone failed with an authutils `JWTError`, lines 173-177 report an invalid
token, and line 175 adds the hint `; was OIDC client configured with scopes?` when
`"" in unverified_claims["scope"]`. That test holds for every string, so a token that carries its
scopes as one space-separated string always gets the hint (`validateJwt_string_scope_hint`).
-/

namespace Fence.Jwt

open Prog

/-- A history whose calls go to the collaborators `w` has no verifier call when `w` has none. -/
theorem verifications_eq_nil_of_sublist {t : Trace} {w : List Collaborator}
    (ht : List.Sublist (t.map fun ev => ev.call.collaborator) w) (hw : .verifier ∉ w) :
    verifications t = [] :=
  List.filterMap_eq_nil_iff.mpr fun ⟨c, r⟩ hev => by
    cases c with
    | validateJwt b => exact absurd (ht.subset (List.mem_map_of_mem _ hev)) hw
    | _ => rfl

section
variable {config : Config} {decode : String → Except PyExc Claims} {req : Request}
  {o : Oracle Call Call.Ret}

theorem verifierArgs_run_verifications (h : Trace) :
    verifications ((verifierArgs config decode req).run o h).2 = verifications h := by
  obtain ⟨t, ht, hsub⟩ := run_within o (verifierArgs_within config decode req) h
  rw [ht, verifications_append, verifications_eq_nil_of_sublist hsub (by decide), List.append_nil]

theorem checkClaims_run_verifications (rp : Bool) (pur : Option String) (C : Claims) (h : Trace) :
    verifications ((checkClaims rp pur C).run o h).2 = verifications h := by
  obtain ⟨t, ht, hsub⟩ := run_within o (checkClaims_within rp pur C) h
  rw [ht, verifications_append, verifications_eq_nil_of_sublist hsub (by decide), List.append_nil]

/-- A run of `validate_jwt`, phase by phase: lines 84-113 raise; or they return `a`, and lines
115-177 raise; or those return `C`, and the run ends as lines 178-189 do. -/
theorem run_validateJwt_cases :
    (∃ e t, (verifierArgs config decode req).run o [] = (.error e, t) ∧
      (validateJwt config decode req).run o [] = (.error e, t)) ∨
    ∃ a h1, (verifierArgs config decode req).run o [] = (.ok a, h1) ∧
      ((∃ e t, (verify (legacyPatch decode) a).run o h1 = (.error e, t) ∧
          (validateJwt config decode req).run o [] = (.error e, t)) ∨
        ∃ C h2, (verify (legacyPatch decode) a).run o h1 = (.ok C, h2) ∧
          (validateJwt config decode req).run o [] =
            (checkClaims req.requirePurpose req.purpose C).run o h2) := by
  rcases run_bind_cases o (verifierArgs config decode req)
    (fun a => verify (legacyPatch decode) a >>= checkClaims req.requirePurpose req.purpose) []
    with ⟨e, t, hA, hr⟩ | ⟨a, h1, hA, hr⟩
  · exact .inl ⟨e, t, hA, hr⟩
  · refine .inr ⟨a, h1, hA, ?_⟩
    rcases run_bind_cases o (verify (legacyPatch decode) a) (checkClaims req.requirePurpose req.purpose) h1
      with ⟨e, t, hV, hr'⟩ | ⟨C, h2, hV, hr'⟩
    exacts [.inl ⟨e, t, hV, hr.trans hr'⟩, .inr ⟨C, h2, hV, hr.trans hr'⟩]

/-- Lines 141-153 and 158-170: one verifier call, each of its exceptions turned into the
`NameError` of the unbound `Error`. -/
theorem run_retryLegacy (a : VerifyArgs) (aud p label : String) (h : Trace) :
    (retryLegacy a aud p label).run o h =
      ((o h (.validateJwt { a with aud := aud, scope := .none, purpose := some p })).mapError
          fun _ => errorUnbound,
        h ++ [⟨.validateJwt { a with aud := aud, scope := .none, purpose := some p },
          o h (.validateJwt { a with aud := aud, scope := .none, purpose := some p })⟩]) := by
  unfold retryLegacy
  rw [run_pyTry, run_authutilsValidateJwt]
  cases o h (.validateJwt { a with aud := aud, scope := .none, purpose := some p }) <;> rfl

/-- Lines 115-177, whatever the verifier answers: the primary call ends the round, unless it
failed on the audience of a token claiming `refresh` or `api_key`; then the round is the retry. -/
theorem verify_legacyPatch_round {a : VerifyArgs} {u : Claims} (hu : decode a.encodedToken = .ok u)
    (h : Trace) :
    ((∀ m p, o h (.validateJwt a) = .error (.authutilsJWTAudienceError m) → u.get "pur" = .str p →
        legacyAudience p = none) ∧
      ((verify (legacyPatch decode) a).run o h).2 = h ++ [⟨.validateJwt a, o h (.validateJwt a)⟩]) ∨
    ∃ m p aud label, o h (.validateJwt a) = .error (.authutilsJWTAudienceError m) ∧
      legacyAudience p = some aud ∧ u.get "pur" = .str p ∧
      (verify (legacyPatch decode) a).run o h =
        (retryLegacy a aud p label).run o
          (h ++ [⟨.validateJwt a, .error (.authutilsJWTAudienceError m)⟩]) := by
  cases hv : o h (.validateJwt a) with
  | ok C => exact .inl ⟨fun _ _ he => (by cases he), by rw [run_verify_of_ok hv]⟩
  | error e =>
    rw [run_verify_of_error hv]
    by_cases hi : e.isInstance .authutilsJWTError = true
    · rw [if_pos hi]
      rcases legacyPatch_cases hu e with ⟨m, p, aud, label, rfl, hp, hl, heq⟩ | ⟨hno, heq⟩ <;>
        rw [heq]
      · exact .inr ⟨m, p, aud, label, rfl, hl, hp, rfl⟩
      · refine .inl ⟨fun m p he => hno m p (Except.error.inj he), ?_⟩
        obtain ⟨e', he'⟩ := invalidToken_raises decode a e o (h ++ [⟨.validateJwt a, .error e⟩])
        rw [he']
    · rw [if_neg hi]
      refine .inl ⟨fun m p he => ?_, rfl⟩
      cases he
      exact absurd rfl hi


/-- A run of `validate_jwt` raises before any verifier call, or reaches lines 115-177 with the
primary arguments `a` after a history `h1` without verifier calls; then its verifier calls are those
of lines 115-177, and it raises what they raise. -/
theorem run_validateJwt_round :
    (verifications ((validateJwt config decode req).run o []).2 = [] ∧
      ∃ e, ((validateJwt config decode req).run o []).1 = .error e) ∨
    ∃ a u h1, PrimaryArgs config decode req a ∧ decode a.encodedToken = .ok u ∧
      verifications h1 = [] ∧
      verifications ((validateJwt config decode req).run o []).2 =
        verifications ((verify (legacyPatch decode) a).run o h1).2 ∧
      ∀ e, ((verify (legacyPatch decode) a).run o h1).1 = .error e →
        ((validateJwt config decode req).run o []).1 = .error e := by
  rcases @run_validateJwt_cases config decode req o with ⟨e, t, hA, hr⟩ | ⟨a, h1, hA, hV⟩
  · have h := @verifierArgs_run_verifications config decode req o []
    rw [hA] at h
    exact .inl ⟨by rw [hr]; exact h, e, by rw [hr]⟩
  obtain ⟨u, hu, -, -, -, -, -, -, -, tH, tK, rfl, htok, hkey⟩ := verifierArgs_ok hA
  refine .inr ⟨a, u, [] ++ tH ++ tK, verifierArgs_primaryArgs hA, hu,
    by simp [htok.verifications_eq_nil, hkey.verifications_eq_nil], ?_, fun e he => ?_⟩
  · rcases hV with ⟨e, t, hv, hr⟩ | ⟨C, h2, hv, hr⟩
    · rw [hr, hv]
    · rw [hr, checkClaims_run_verifications, hv]
  · rcases hV with ⟨e', t, hv, hr⟩ | ⟨C, h2, hv, -⟩ <;> rw [hv] at he
    · rw [hr]
      exact he
    · cases he

theorem run_invalidToken {a : VerifyArgs} {u : Claims} {e : PyExc} {b : Bool}
    (hu : decode a.encodedToken = .ok u) (hb : missingScopeHint u = .ok b) (h : Trace) :
    (invalidToken decode a e).run o h =
      (.error (.fenceJWTError (if b then "Invalid token : " ++ e.message ++
        "; was OIDC client configured with scopes?" else "Invalid token : " ++ e.message)), h) := by
  unfold invalidToken
  simp [run_bind, hu, hb]

end

/-- The verifier calls of every run of `validate_jwt`: none, and the run raises; the primary call
alone, unless it failed on the audience of a token claiming `refresh` or `api_key`; or that
failure, then the legacy retry, whose every exception ends the run with `NameError`. -/
theorem validateJwt_verifier_round (config : Config) (decode : String → Except PyExc Claims)
    (req : Request) (o : Oracle Call Call.Ret) :
    (verifications ((validateJwt config decode req).run o []).2 = [] ∧
      ∃ e, ((validateJwt config decode req).run o []).1 = .error e) ∨
    ∃ a u, PrimaryArgs config decode req a ∧ decode a.encodedToken = .ok u ∧
      ((∃ r, verifications ((validateJwt config decode req).run o []).2 = [(a, r)] ∧
          ∀ m p, r = .error (.authutilsJWTAudienceError m) → u.get "pur" = .str p →
            legacyAudience p = none) ∨
        ∃ m p aud r, legacyAudience p = some aud ∧ u.get "pur" = .str p ∧
          verifications ((validateJwt config decode req).run o []).2 =
            [(a, .error (.authutilsJWTAudienceError m)),
              ({ a with aud := aud, scope := .none, purpose := some p }, r)] ∧
          ∀ e, r = .error e → ((validateJwt config decode req).run o []).1 = .error errorUnbound) := by
  rcases @run_validateJwt_round config decode req o with h | ⟨a, u, h1, hP, hu, h0, hrun, hout⟩
  · exact .inl h
  refine .inr ⟨a, u, hP, hu, ?_⟩
  rw [hrun]
  rcases verify_legacyPatch_round hu h1 with ⟨hno, ht⟩ | ⟨m, p, aud, label, -, haud, hp, hr⟩
  · exact .inl ⟨_, by rw [ht, verifications_append, h0]; rfl, hno⟩
  refine .inr ⟨m, p, aud, _, haud, hp,
    by rw [hr, run_retryLegacy, verifications_append, verifications_append, h0]; rfl, fun e he => hout _ ?_⟩
  rw [hr, run_retryLegacy, he]
  rfl

/-! ### The invalid-token message -/

/-- Line 175's test holds for every string `scope` claim: `""` is a substring of every string. -/
theorem missingScopeHint_str {u : Claims} {s : String} (hs : u.get "scope" = .str s) :
    missingScopeHint u = .ok true := by
  unfold missingScopeHint
  split
  · rfl
  · have hl : u.lookup "scope" = some (.str s) := by
      unfold Claims.get at hs
      cases h : u.lookup "scope" <;> simp_all
    simp [Claims.getItem, hl, Value.pyContains, Except.bind]

/-- A token whose unverified `scope` claim is a string, rejected because its primary verification
raised an authutils `JWTError` alone (no legacy retry), gets the OIDC hint, whatever the string. -/
theorem validateJwt_string_scope_hint (config : Config) (decode : String → Except PyExc Claims)
    (req : Request) (o : Oracle Call Call.Ret) {a : VerifyArgs} {e : PyExc} {u : Claims} {s : String}
    (hv : verifications ((validateJwt config decode req).run o []).2 = [(a, .error e)])
    (hi : e.isInstance .authutilsJWTError = true) (hu : decode a.encodedToken = .ok u)
    (hs : u.get "scope" = .str s) :
    ((validateJwt config decode req).run o []).1 =
      .error (.fenceJWTError ("Invalid token : " ++ e.message ++
        "; was OIDC client configured with scopes?")) := by
  rcases @run_validateJwt_round config decode req o with ⟨h0, -⟩ | ⟨a', u', h1, -, hu', h0, hrun, hout⟩
  · rw [h0] at hv
    cases hv
  rw [hrun] at hv
  rcases verify_legacyPatch_round hu' h1 with ⟨hno, ht⟩ | ⟨m, p, aud, label, -, -, -, hr⟩
  · rw [ht, verifications_append, h0] at hv
    obtain ⟨rfl, hve⟩ : a' = a ∧ o h1 (.validateJwt a') = .error e := by
      simpa [verifications] using hv
    obtain rfl : u' = u := Except.ok.inj (hu'.symm.trans hu)
    apply hout
    rw [run_verify_of_error hve, if_pos hi,
      legacyPatch_run_eq_invalidToken hu (fun m p he => hno m p (hve.trans (he ▸ rfl))),
      run_invalidToken hu (missingScopeHint_str hs)]
    rfl
  · rw [hr, run_retryLegacy, verifications_append, verifications_append, h0] at hv
    cases hv

/-- A token of an OIDC client, whose `scope` claim is the space-separated string `openid user`. -/
def oidcClaims : Claims :=
  [("iss", .str "https://fence"), ("pur", .str "access"), ("scope", .str "openid user")]

theorem validateJwt_hints_oidc_token :
    ((validateJwt sampleConfig (decodesTo oidcClaims) { encodedToken := some "token" }).run
      (issuedFor oidcClaims "https://elsewhere").oracle []).1 =
      .error (.fenceJWTError ("Invalid token : " ++ "invalid audience" ++
        "; was OIDC client configured with scopes?")) :=
  @validateJwt_string_scope_hint sampleConfig (decodesTo oidcClaims) { encodedToken := some "token" }
    (issuedFor oidcClaims "https://elsewhere").oracle _ (.authutilsJWTAudienceError "invalid audience")
    oidcClaims "openid user" (by rfl) rfl rfl rfl

end Fence.Jwt
