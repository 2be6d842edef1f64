import Fence.Jwt.Phases

/-!
# In which order `validate_jwt` calls

Every run of `validate_jwt`, whatever its collaborators answer and whether it returns or raises,
calls the header, the key resolver, the verifier, the verifier again and the blacklist, in that
order and each at most once (`validateJwt_call_order`). So the key is resolved before any
verification, the blacklist is consulted only after it, the legacy fallback adds at most one
verifier call, and the view is never called. Each phase has a `_within` lemma (`Prog.Within`), and
the theorem composes them; `Fence.Jwt.Protocol` says with which arguments each call is made.
-/

namespace Fence.Jwt

open Prog

/-- The collaborator a call goes to. -/
inductive Collaborator where
  | header
  | keyResolver
  | verifier
  | blacklist
  | view
  deriving DecidableEq, Repr

/-- The collaborator of a call. -/
def Call.collaborator : Call → Collaborator
  | .getJwtHeader => .header
  | .getPublicKeyForToken .. => .keyResolver
  | .validateJwt _ => .verifier
  | .isBlacklisted _ => .blacklist
  | .wrapped .. => .view

/-! ### Order -/

theorem getJwtHeader_within : getJwtHeader.Within Call.collaborator [.header] := within_invoke _

theorem getPublicKeyForToken_within (tok : String) (ar : Bool) (c : Value) :
    (getPublicKeyForToken tok ar c).Within Call.collaborator [.keyResolver] := within_invoke _

theorem authutilsValidateJwt_within (a : VerifyArgs) :
    (authutilsValidateJwt a).Within Call.collaborator [.verifier] := within_invoke _

theorem isBlacklisted_within (j : Value) :
    (isBlacklisted j).Within Call.collaborator [.blacklist] := within_invoke _

section
variable {α : Type} {K : Type} {κ : Call → K}

theorem pyTry_within {body : PyM α} {name : String} {handler : PyExc → PyM α} {w₁ w₂ : List K}
    (hb : body.Within κ w₁) (hh : ∀ e, (handler e).Within κ w₂) :
    (pyTry body name handler).Within κ (w₁ ++ w₂) :=
  within_tryCatch hb fun e => by
    split
    · split
      exacts [hh e, trivial]
    · trivial

end

section
variable (config : Config) (decode : String → Except PyExc Claims)

theorem resolveToken_within (x : Option String) :
    (resolveToken x).Within Call.collaborator [.header] := by
  cases x with
  | some t => trivial
  | none =>
    unfold resolveToken
    exact pyTry_within getJwtHeader_within fun _ => within_raise [] _

theorem checkScope_within (s : Scope) : (checkScope s).Within Call.collaborator [] := by
  unfold checkScope
  split <;> trivial

theorem resolvePublicKey_within (pk : Option String) (tok : String) (ar : Bool) (c : Value) :
    (resolvePublicKey pk tok ar c).Within Call.collaborator [.keyResolver] := by
  unfold resolvePublicKey
  split
  · trivial
  · exact getPublicKeyForToken_within _ _ _

theorem verifierArgs_within (req : Request) :
    (verifierArgs config decode req).Within Call.collaborator [.header, .keyResolver] :=
  within_bind (resolveToken_within _) fun _ => within_bind (checkScope_within _) fun _ =>
    within_bind (pyTry_within (within_ofExcept [] _) fun _ => within_raise [] _) fun _ =>
      within_bind (resolvePublicKey_within _ _ _ _) fun _ => within_pure [] _

theorem invalidToken_within (args : VerifyArgs) (e : PyExc) :
    (invalidToken decode args e).Within Call.collaborator [] :=
  within_bind (within_ofExcept [] _) fun _ => within_bind (within_ofExcept [] _) fun _ =>
    within_raise [] _

theorem retryLegacy_within (args : VerifyArgs) (aud pur label : String) :
    (retryLegacy args aud pur label).Within Call.collaborator [.verifier] :=
  pyTry_within (authutilsValidateJwt_within _) fun _ => within_raise [] _

theorem legacyPatch_within (args : VerifyArgs) (e : PyExc) :
    (legacyPatch decode args e).Within Call.collaborator [.verifier] := by
  refine within_nil_bind (within_ofExcept [] _) fun _ => ?_
  split
  · exact retryLegacy_within _ _ _ _
  · split
    · exact retryLegacy_within _ _ _ _
    · exact within_mono (invalidToken_within decode _ _) List.nil_suffix

theorem validatePurpose_within (C : Claims) (p : String) :
    (validatePurpose C p).Within Call.collaborator [] := by
  unfold validatePurpose
  dsimp only
  split <;> refine within_nil_bind ?_ fun _ => within_nil_bind (within_ofExcept [] _) fun _ => ?_
  all_goals first | trivial | split <;> trivial

theorem checkPurpose_within (pur : Option String) (C : Claims) :
    (checkPurpose pur C).Within Call.collaborator [] := by
  unfold checkPurpose
  split
  exacts [validatePurpose_within _ _, trivial]

theorem checkPurposePresent_within (rp : Bool) (C : Claims) :
    (checkPurposePresent rp C).Within Call.collaborator [] := by
  unfold checkPurposePresent
  split
  exacts [within_nil_bind (within_ofExcept [] _) fun _ => within_raise [] _, trivial]

theorem checkClaims_within (rp : Bool) (pur : Option String) (C : Claims) :
    (checkClaims rp pur C).Within Call.collaborator [.blacklist] := by
  have hbl : (checkBlacklist rp C).Within Call.collaborator [.blacklist] := by
    unfold checkBlacklist
    split
    · refine within_nil_bind (within_ofExcept [] _) fun _ => ?_
      split
      · exact within_nil_bind (within_ofExcept [] _) fun _ =>
          within_bind (isBlacklisted_within _) fun _ => by split <;> trivial
      · trivial
    · trivial
  exact within_nil_bind (checkPurpose_within _ _) fun _ =>
    within_nil_bind (checkPurposePresent_within _ _) fun _ => within_bind hbl fun _ => within_pure [] _

theorem validateJwt_within (req : Request) :
    (validateJwt config decode req).Within Call.collaborator
      [.header, .keyResolver, .verifier, .verifier, .blacklist] :=
  within_bind (verifierArgs_within config decode req) fun a =>
    within_bind (pyTry_within (authutilsValidateJwt_within a) (legacyPatch_within decode a)) fun _ =>
      checkClaims_within _ _ _

theorem validateJwt_call_order (req : Request) (o : Oracle Call Call.Ret) :
    List.Sublist (((validateJwt config decode req).run o []).2.map fun ev => ev.call.collaborator)
      [.header, .keyResolver, .verifier, .verifier, .blacklist] := by
  obtain ⟨t, ht, hsub⟩ := run_within o (validateJwt_within config decode req) []
  rwa [ht, List.nil_append]

end

end Fence.Jwt
