/-
JSON Web Tokens.

A token carries claims, signed with a secret.  `Library` is what a program sees of the
library that signs and verifies tokens, and `Faithful` what it may rely on: the claims of a
token come back as they were signed, until the token expires.  Of what else the library
verifies nothing is assumed.
-/
import Mathlib

namespace JWT

/-- The value of a claim. -/
inductive Claim where
  | text (value : String)
  | number (value : Int)
  deriving DecidableEq

abbrev Claims : Type := List (String × Claim)

/-- The time from which on the claims are no longer good, in seconds since the Unix epoch. -/
def expiry (claims : Claims) : Option Int :=
  match claims.lookup "exp" with
  | some (.number seconds) => some seconds
  | _ => none

/-- Whether the claims are past their expiry, at a time in nanoseconds. -/
def expired (claims : Claims) (now : Int) : Bool :=
  (expiry claims).any fun seconds => seconds * 10 ^ 9 ≤ now

structure Library where
  /-- `SignedString` with a secret. -/
  sign : String → Claims → Option String
  /-- The claims of a token that is signed with the secret and good at a time. -/
  verify : String → Int → String → Option Claims

/-- What is relied on. -/
structure Library.Faithful (jwt : Library) : Prop where
  verify_signed : ∀ {secret claims token}, jwt.sign secret claims = some token → ∀ now,
    jwt.verify secret now token = if expired claims now then none else some claims
  signed_ne_empty : ∀ {secret claims token}, jwt.sign secret claims = some token → token ≠ ""

variable {jwt : Library} {secret token : String} {claims : Claims} {now : Int}

theorem Library.Faithful.verify_eq_some_iff (hjwt : jwt.Faithful)
    (hsigned : jwt.sign secret claims = some token) {found : Claims} :
    jwt.verify secret now token = some found ↔ expired claims now = false ∧ claims = found := by
  rw [hjwt.verify_signed hsigned]
  cases expired claims now <;> simp

/-! ### A library without secrecy -/

instance charEncodable : Encodable Char := Encodable.ofLeftInverse Char.toNat Char.ofNat Char.ofNat_toNat

instance stringEncodable : Encodable String :=
  Encodable.ofLeftInverse String.toList String.ofList fun _ => String.ofList_toList

/-- A claim as one of two kinds of values. -/
def Claim.kind : Claim → String ⊕ Int
  | .text value => .inl value
  | .number value => .inr value

def Claim.ofKind : String ⊕ Int → Claim
  | .inl value => .text value
  | .inr value => .number value

instance claimEncodable : Encodable Claim :=
  Encodable.ofLeftInverse Claim.kind Claim.ofKind fun claim => by cases claim <;> rfl

/-- Tokens that tell their secret and claims by their length. -/
def tally : Library where
  sign := fun secret claims =>
    some (String.ofList (List.replicate (Encodable.encode (secret, claims) + 1) '.'))
  verify := fun secret now token =>
    match Encodable.decode (α := String × Claims) (token.length - 1) with
    | some (signed, claims) =>
      if signed = secret ∧ expired claims now = false then some claims else none
    | none => none

theorem tally_faithful : tally.Faithful where
  verify_signed := by
    intro secret claims token hsigned now
    obtain rfl := Option.some.inj hsigned
    have hlength : (String.ofList (List.replicate (Encodable.encode (secret, claims) + 1)
        '.')).length - 1 = Encodable.encode (secret, claims) := by simp
    unfold tally
    simp only [hlength, Encodable.encodek]
    cases expired claims now <;> simp
  signed_ne_empty := by
    intro secret claims token hsigned
    obtain rfl := Option.some.inj hsigned
    simp [List.replicate_succ, ← String.toList_inj]

end JWT
