import Mathlib.Data.List.Infix
import Mathlib.Data.String.Basic

/-!
# Python values and exceptions

The Python objects `fence/jwt/validate.py` handles: the JSON values of a token's claims, the
positional and keyword arguments `require_jwt` forwards, and the exceptions the module raises,
catches or lets through. The operations the module applies to them are truthiness (`if x`,
`not x`), `x in v`, `==` against a string, `str(v)` inside `format`, and the lookups `d.get(k)`,
`d[k]` and `k in d` on a dictionary.

A dictionary is its list of entries; a lookup takes the first entry with the key, so a list with a
repeated key reads as the dictionary it would build.
-/

namespace Fence

/-- A Python value: a JSON value, or a tuple. Dictionary keys are strings. A float is its `repr`,
the shortest decimal that reads back as it (`1.5`, `1e+16`, `-0.0`, `inf`), so the string determines
the float. -/
inductive Value where
  | none
  | bool (b : Bool)
  | int (n : Int)
  | float (r : String)
  | str (s : String)
  | list (vs : List Value)
  | tuple (vs : List Value)
  | dict (kvs : List (String × Value))
  deriving Repr, Inhabited

namespace Value

/-- `bool(v)`. -/
def truthy : Value → Bool
  | .none => false
  | .bool b => b
  | .int n => n != 0
  | .float r => !(r == "0.0" || r == "-0.0")
  | .str s => !s.isEmpty
  | .list vs | .tuple vs => !vs.isEmpty
  | .dict kvs => !kvs.isEmpty

/-- `v == s` for a string `s`: no value but that string is equal to it. -/
def eqStr : Value → String → Bool
  | .str t, s => t == s
  | _, _ => false

/-- `type(v).__name__`. -/
def typeName : Value → String
  | .none => "NoneType"
  | .bool _ => "bool"
  | .int _ => "int"
  | .float _ => "float"
  | .str _ => "str"
  | .list _ => "list"
  | .tuple _ => "tuple"
  | .dict _ => "dict"

@[simp] theorem eqStr_iff {v : Value} {s : String} : v.eqStr s = true ↔ v = .str s := by
  cases v <;> simp [eqStr]

end Value

/-- A lowercase two-digit hexadecimal code, as in `\x1b`. -/
def hex2 (n : Nat) : String :=
  let d := Nat.toDigits 16 n
  String.mk (if d.length < 2 then '0' :: d else d)

/-- One character of `repr(s)` quoted with `q`: the quote and the backslash escaped, `\t`, `\n`
and `\r` by name, and the characters up to `U+00FF` that are not printable (the controls, `U+007F`
to `U+00A0` and the soft hyphen `U+00AD`) as `\xhh`. -/
def escapeChar (q c : Char) : String :=
  if c = q ∨ c = '\\' then "\\" ++ c.toString
  else if c = '\n' then "\\n"
  else if c = '\r' then "\\r"
  else if c = '\t' then "\\t"
  else if c.toNat < 32 ∨ (127 ≤ c.toNat ∧ c.toNat ≤ 160) ∨ c.toNat = 173 then "\\x" ++ hex2 c.toNat
  else c.toString

/-- `repr(s)` of a string: quoted with a single quote unless it holds one and no double quote,
each character as `escapeChar` writes it. Above `U+00FF` Python also escapes the characters
`str.isprintable` rejects (Unicode categories `C` and `Z` but the space, such as `U+2028`), which
needs the Unicode tables; here they are written as they are, so `reprStr` is `repr` on strings with
no such character. -/
def reprStr (s : String) : String :=
  let single := Char.ofNat 39
  let q := if s.toList.contains single && !s.toList.contains '"' then '"' else single
  q.toString ++ String.join (s.toList.map (escapeChar q)) ++ q.toString

example : reprStr "a\u00a0" = "'a\\xa0'" := by decide

namespace Value

mutual
/-- `repr(v)`. -/
def pyRepr : Value → String
  | .none => "None"
  | .bool b => if b then "True" else "False"
  | .int n => toString n
  | .float r => r
  | .str s => reprStr s
  | .list vs => "[" ++ reprItems vs ++ "]"
  | .tuple [v] => "(" ++ pyRepr v ++ ",)"
  | .tuple vs => "(" ++ reprItems vs ++ ")"
  | .dict kvs => "\x7b" ++ reprEntries kvs ++ "\x7d"

/-- The items of a list or tuple display. -/
def reprItems : List Value → String
  | [] => ""
  | [v] => pyRepr v
  | v :: vs => pyRepr v ++ ", " ++ reprItems vs

/-- The entries of a dictionary display. -/
def reprEntries : List (String × Value) → String
  | [] => ""
  | [(k, v)] => reprStr k ++ ": " ++ pyRepr v
  | (k, v) :: kvs => reprStr k ++ ": " ++ pyRepr v ++ ", " ++ reprEntries kvs
end

/-- `str(v)`: a string is itself, anything else its `repr`. -/
def pyStr : Value → String
  | .str s => s
  | v => v.pyRepr

example : (Value.list [.int 1, .str "a", .tuple [.none]]).pyStr = "[1, 'a', (None,)]" := by decide

end Value

/-- An optional string as `if x:` sees it: the string, when it is neither `None` nor empty. -/
def truthy (x : Option String) : Option String := x.filter (!·.isEmpty)

@[simp] theorem truthy_none : truthy none = none := rfl

theorem truthy_some {s : String} (hs : s ≠ "") : truthy (some s) = some s := by
  simp [truthy, Option.filter, String.isEmpty_iff, hs]

/-- A dictionary with string keys, such as the claims of a token. -/
abbrev Claims := List (String × Value)

/-- The exceptions the module raises, catches or lets through. -/
inductive PyExc where
  /-- `fence.jwt.errors.JWTError`. -/
  | fenceJWTError (message : String)
  /-- `fence.jwt.errors.JWTPurposeError`, a subclass of `fence.jwt.errors.JWTError`. -/
  | fenceJWTPurposeError (message : String)
  /-- `authutils.errors.JWTError`, or a subclass of it other than `JWTAudienceError`. -/
  | authutilsJWTError (message : String)
  /-- `authutils.errors.JWTAudienceError`, a subclass of `authutils.errors.JWTError`. -/
  | authutilsJWTAudienceError (message : String)
  /-- `jwt.InvalidTokenError` and its subclasses. -/
  | invalidTokenError (message : String)
  /-- `fence.errors.Unauthorized`. -/
  | unauthorized (message : String)
  | assertionError (message : String)
  | nameError (message : String)
  | keyError (key : String)
  | typeError (message : String)
  /-- Any other exception, by class name. -/
  | other (cls message : String)
  deriving DecidableEq, Repr

/-- The classes `validate.py` tests exceptions against, in `except` clauses and `isinstance`. -/
inductive ExcClass where
  | fenceJWTError
  | authutilsJWTError
  | authutilsJWTAudienceError
  | invalidTokenError
  | unauthorized
  deriving DecidableEq, Repr

namespace PyExc

/-- `isinstance(e, c)`. -/
def isInstance : PyExc → ExcClass → Bool
  | .fenceJWTError _, .fenceJWTError => true
  | .fenceJWTPurposeError _, .fenceJWTError => true
  | .authutilsJWTError _, .authutilsJWTError => true
  | .authutilsJWTAudienceError _, .authutilsJWTError => true
  | .authutilsJWTAudienceError _, .authutilsJWTAudienceError => true
  | .invalidTokenError _, .invalidTokenError => true
  | .unauthorized _, .unauthorized => true
  | _, _ => false

/-- `str(e)`, also the `message` attribute of fence's and authutils' errors. -/
def message : PyExc → String
  | .fenceJWTError m | .fenceJWTPurposeError m | .authutilsJWTError m
  | .authutilsJWTAudienceError m | .invalidTokenError m | .unauthorized m
  | .assertionError m | .nameError m | .typeError m | .other _ m => m
  | .keyError k => reprStr k

theorem isInstance_audience {e : PyExc} :
    e.isInstance .authutilsJWTAudienceError = true ↔ ∃ m, e = .authutilsJWTAudienceError m := by
  cases e <;> simp [isInstance]

/-- An instance of `fence.jwt.errors.JWTError`: the one exception `validate_jwt` documents. -/
def IsFenceJWTError (e : PyExc) : Prop := e.isInstance .fenceJWTError = true

@[simp] theorem isFenceJWTError_fenceJWTError (m : String) : (fenceJWTError m).IsFenceJWTError := rfl

@[simp] theorem isFenceJWTError_fenceJWTPurposeError (m : String) :
    (fenceJWTPurposeError m).IsFenceJWTError := rfl

end PyExc

namespace Value

/-- `x in v` for a string `x`: a substring of a string, an item of a list or tuple, a key of a
dictionary; `TypeError` for a value that is not iterable. -/
def pyContains (v : Value) (x : String) : Except PyExc Bool :=
  match v with
  | .str s => .ok (decide (x.toList <:+: s.toList))
  | .list vs | .tuple vs => .ok (vs.any (·.eqStr x))
  | .dict kvs => .ok (kvs.any (·.1 == x))
  | v => .error (.typeError ("argument of type " ++ reprStr v.typeName ++ " is not iterable"))

end Value

namespace Claims

/-- `d.get(k)`: `None` when the key is absent. -/
def get (d : Claims) (k : String) : Value := (d.lookup k).getD .none

/-- `k in d`. -/
def contains (d : Claims) (k : String) : Bool := (d.lookup k).isSome

/-- `d[k]`: `KeyError` when the key is absent. -/
def getItem (d : Claims) (k : String) : Except PyExc Value :=
  match d.lookup k with
  | some v => .ok v
  | none => .error (.keyError k)

@[simp] theorem getItem_eq_ok {d : Claims} {k : String} {v : Value} :
    d.getItem k = .ok v ↔ d.lookup k = some v := by
  unfold getItem
  cases d.lookup k <;> simp

end Claims

end Fence
