/-
Whether access and refresh tokens can be told apart.

A token of either kind verifies under the one secret, and no claim names its kind.  The
middleware and the WebSocket take a refresh token for an access token without a name and a
role, and the refresh handler asks of a token nothing but its `user_id`.  What separates the
two kinds is expiry alone (`separate_iff_lapsed`).
-/
import RudraNetra.Api.Tokens
import RudraNetra.Proofs.Statements

namespace RudraNetra.API

open SQL Effect JWT

variable {service : AuthService} {s : Server} {user : User} {issued now : Int} {token : String}

/-! ### What a token says -/

/-- A token that was issued with this lifetime has expired. -/
def Lapsed (issued ttl now : Int) : Prop := expiryOf issued ttl * 10 ^ 9 ≤ now

@[simp] theorem expired_accessClaims (cfg : JWTConfig) (user : User) :
    expired (accessClaims cfg issued user) now = true ↔ Lapsed issued cfg.accessTokenTTL now := by
  simp [expired, expiry, accessClaims, List.lookup, Lapsed]

@[simp] theorem expired_refreshClaims (cfg : JWTConfig) (user : User) :
    expired (refreshClaims cfg issued user) now = true ↔ Lapsed issued cfg.refreshTokenTTL now := by
  simp [expired, expiry, refreshClaims, List.lookup, Lapsed]

theorem decodeClaims_accessClaims (cfg : JWTConfig) :
    decodeClaims (accessClaims cfg issued user) =
      some ⟨user.id, user.companyID, user.username, user.role⟩ := by
  simp [decodeClaims, accessClaims, intClaim, textClaim, List.lookup]

/-- A refresh token decodes too, without a name and a role. -/
theorem decodeClaims_refreshClaims (cfg : JWTConfig) :
    decodeClaims (refreshClaims cfg issued user) = some ⟨user.id, user.companyID, "", ""⟩ := by
  simp [decodeClaims, refreshClaims, intClaim, textClaim, List.lookup]

theorem subject_accessClaims (cfg : JWTConfig) :
    subject (accessClaims cfg issued user) = Go.int64 (Go.float64 user.id) := by
  simp [subject, accessClaims, List.lookup]

theorem generateTokenPair_eq_some {tokens : TokenPair} :
    service.generateTokenPair issued user = some tokens ↔
      service.jwt.sign service.cfg.secret (accessClaims service.cfg issued user) =
        some tokens.accessToken ∧
      service.jwt.sign service.cfg.secret (refreshClaims service.cfg issued user) =
        some tokens.refreshToken ∧
      tokens.expiresAt = expiryOf issued service.cfg.accessTokenTTL := by
  obtain ⟨accessToken, refreshToken, expiresAt⟩ := tokens
  simp only [AuthService.generateTokenPair, bind, pure, Option.bind_eq_some_iff, Option.some.injEq,
    TokenPair.mk.injEq]
  constructor
  · rintro ⟨access, haccess, refresh, hrefresh, rfl, rfl, rfl⟩
    exact ⟨haccess, hrefresh, rfl⟩
  · rintro ⟨haccess, hrefresh, rfl⟩
    exact ⟨accessToken, haccess, refreshToken, hrefresh, rfl, rfl, rfl⟩

/-! ### Who takes a token -/

theorem bearerToken_bearer (token : String) : bearerToken ("Bearer " ++ token) = some token := by
  have hspan : ("Bearer " ++ token).toList.span (· ≠ ' ') =
      ("Bearer".toList, ' ' :: token.toList) := by
    simp [List.span_eq_takeWhile_dropWhile]
  rw [bearerToken, hspan]
  simp

theorem bearerToken_empty : bearerToken "" = none := by decide

/-- The middleware takes a token. -/
def AuthAccepts (service : AuthService) (now : Int) (token : String) : Prop :=
  ∃ authHeader session, bearerToken authHeader = some token ∧
    auth service now authHeader = .ok session

theorem authAccepts_iff :
    AuthAccepts service now token ↔ (service.parseWithClaims now token).isSome := by
  constructor
  · rintro ⟨authHeader, session, hbearer, hauth⟩
    cases hclaims : service.parseWithClaims now token with
    | some claims => rfl
    | none =>
        have hne : authHeader ≠ "" := by
          rintro rfl
          simp [bearerToken_empty] at hbearer
        simp [auth, hne, hbearer, hclaims] at hauth
  · intro hsome
    obtain ⟨claims, hclaims⟩ := Option.isSome_iff_exists.mp hsome
    refine ⟨"Bearer " ++ token, ⟨claims.userID, claims.companyID, claims.username, claims.role⟩,
      bearerToken_bearer token, ?_⟩
    have hne : "Bearer " ++ token ≠ "" := by simp
    rw [auth, if_neg hne, bearerToken_bearer]
    simp only [hclaims]

theorem wsTrackingHandler_eq_ok {companyID : Int}
    (h : wsTrackingHandler service now token = .ok companyID) :
    (service.parseWithClaims now token).isSome := by
  unfold wsTrackingHandler at h
  cases hclaims : service.parseWithClaims now token with
  | some claims => rfl
  | none => split at h <;> simp [hclaims] at h

/-- The user that `getByID` finds. -/
def userOf (s : Server) (id : Int) : Option User :=
  if s.tx = some true ∨ s.faults.head? = some true then none
  else ((s.db.tables .users).find? (Condition.selects [("id", .int id)])).bind scanUser

theorem outcome_getByID (s : Server) (id : Int) :
    ∃ s', outcome (getByID id) s = (.ok (userOf s id), s') ∧ s'.db = s.db ∧ s'.now = s.now := by
  rw [getByID, outcome_bind, selectFirst, outcome_ofOutcome, userOf]
  by_cases hfault : s.tx = some true ∨ s.faults.head? = some true
  · exact ⟨s.fail, by simp [hfault], rfl, rfl⟩
  · exact ⟨{ s with faults := s.faults.tail }, by simp [hfault], rfl, rfl⟩

/-- Tokens are to be had for the user with this id, who is active. -/
structure Renews (service : AuthService) (s : Server) (userID : Int) (user : User) : Prop where
  available : s.pool = true
  known : 0 < userID
  found : userOf s userID = some user
  active : user.isActive = true
  signed : (service.generateTokenPair s.now user).isSome

/-- **What the refresh handler asks for**: any token that verifies, and an active user. -/
def Refreshes (service : AuthService) (s : Server) (token : String) (user : User) : Prop :=
  token ≠ "" ∧ ∃ claims, service.jwt.verify service.cfg.secret s.now token = some claims ∧
    Renews service s (subject claims) user

theorem refresh_eq_ok {s' : Server} {tokens : TokenPair}
    (hout : outcome (refresh service token) s = (.ok (tokens, user), s')) :
    Refreshes service s token user ∧ service.generateTokenPair s.now user = some tokens ∧
      s'.db = s.db ∧ s'.now = s.now := by
  simp only [refresh, outcome_bind, outcome_get] at hout
  split at hout
  · simp at hout
  split at hout
  · simp at hout
  rename_i hpool hne
  cases hverify : service.jwt.verify service.cfg.secret s.now token with
  | none => simp [hverify] at hout
  | some claims =>
      simp only [hverify] at hout
      split at hout
      · simp at hout
      rename_i hknown
      obtain ⟨mid, hget, hdb, hnow⟩ := outcome_getByID s (subject claims)
      rw [outcome_bind_of_ok hget] at hout
      cases hfound : userOf s (subject claims) with
      | none => simp [hfound] at hout
      | some found =>
          simp only [hfound] at hout
          split at hout
          · simp at hout
          rename_i hactive
          cases hsigned : service.generateTokenPair s.now found with
          | none => simp [hsigned] at hout
          | some pair =>
              obtain ⟨⟨rfl, rfl⟩, rfl⟩ : (pair = tokens ∧ found = user) ∧ mid = s' := by
                simpa [hsigned] using hout
              exact ⟨⟨hne, claims, hverify, by simpa using hpool, by omega, hfound,
                by simpa using hactive, by simp [hsigned]⟩, hsigned, hdb, hnow⟩

theorem refresh_of_refreshes (h : Refreshes service s token user) :
    ∃ tokens s', outcome (refresh service token) s = (.ok (tokens, user), s') := by
  obtain ⟨hne, claims, hverify, hrenews⟩ := h
  obtain ⟨tokens, hsigned⟩ := Option.isSome_iff_exists.mp hrenews.signed
  obtain ⟨mid, hget, -⟩ := outcome_getByID s (subject claims)
  have hknown : ¬subject claims ≤ 0 := not_le.mpr hrenews.known
  refine ⟨tokens, mid, ?_⟩
  simp [refresh, outcome_bind, hrenews.available, hne, hverify, hknown, hget, hrenews.found,
    hrenews.active, hsigned]

/-- The refresh handler takes a token. -/
def RefreshAccepts (service : AuthService) (s : Server) (token : String) : Prop :=
  ∃ response s', outcome (refreshTokenHandler service token) s = (.ok response, s')

theorem refreshAccepts_of_refresh {tokens : TokenPair} {s' : Server}
    (h : outcome (refresh service token) s = (.ok (tokens, user), s')) :
    RefreshAccepts service s token :=
  ⟨_, s', outcome_bind_of_ok h _⟩

theorem refreshAccepts_iff :
    RefreshAccepts service s token ↔ ∃ user, Refreshes service s token user := by
  constructor
  · rintro ⟨response, after, hout⟩
    rw [refreshTokenHandler, outcome_bind] at hout
    rcases hrefresh : outcome (refresh service token) s with ⟨e | ⟨tokens, user⟩, s'⟩
    · simp [hrefresh] at hout
    · exact ⟨user, (refresh_eq_ok hrefresh).1⟩
  · rintro ⟨user, hrefreshes⟩
    obtain ⟨tokens, s', hout⟩ := refresh_of_refreshes hrefreshes
    exact refreshAccepts_of_refresh hout

/-! ### Telling the kinds apart -/

/-- The tokens that come of a token presented to the refresh handler. -/
def Yields (service : AuthService) (s : Server) (token fresh : String) : Prop :=
  fresh = token ∨ ∃ tokens user s', outcome (refresh service token) s = (.ok (tokens, user), s') ∧
    (fresh = tokens.accessToken ∨ fresh = tokens.refreshToken)

/-- No token of a pair is taken for the other kind on a server as it stands, and whoever has but
the access token has nothing once it has expired. -/
structure Separate (service : AuthService) (tokens : TokenPair) (s : Server) : Prop where
  auth : ¬AuthAccepts service s.now tokens.refreshToken
  tracking : ∀ companyID, wsTrackingHandler service s.now tokens.refreshToken ≠ .ok companyID
  refresh : ¬RefreshAccepts service s tokens.accessToken
  stolen : ∀ fresh, Yields service s tokens.accessToken fresh → ∀ later,
    tokens.expiresAt * 10 ^ 9 ≤ later → ¬AuthAccepts service later fresh ∧
      ∀ companyID, wsTrackingHandler service later fresh ≠ .ok companyID

section

variable {tokens : TokenPair} (hjwt : service.jwt.Faithful)
  (hissued : service.generateTokenPair issued user = some tokens)
include hjwt hissued

/-- The middleware's parser takes both kinds, until they expire. -/
theorem parse_accessToken : (service.parseWithClaims now tokens.accessToken).isSome ↔
    ¬Lapsed issued service.cfg.accessTokenTTL now := by
  obtain ⟨hsigned, -⟩ := generateTokenPair_eq_some.mp hissued
  rw [AuthService.parseWithClaims, hjwt.verify_signed hsigned]
  by_cases hlapsed : Lapsed issued service.cfg.accessTokenTTL now
  · simp [hlapsed]
  · simp [hlapsed, decodeClaims_accessClaims]

theorem parse_refreshToken_eq : service.parseWithClaims now tokens.refreshToken =
    if expired (refreshClaims service.cfg issued user) now then none
    else some ⟨user.id, user.companyID, "", ""⟩ := by
  obtain ⟨-, hsigned, -⟩ := generateTokenPair_eq_some.mp hissued
  rw [AuthService.parseWithClaims, hjwt.verify_signed hsigned]
  split
  · rfl
  · rw [Option.bind_some, decodeClaims_refreshClaims]

theorem parse_refreshToken : (service.parseWithClaims now tokens.refreshToken).isSome ↔
    ¬Lapsed issued service.cfg.refreshTokenTTL now := by
  rw [parse_refreshToken_eq hjwt hissued, ← expired_refreshClaims service.cfg user]
  cases expired (refreshClaims service.cfg issued user) now <;> simp

/-- An access token renews itself while it lasts. -/
theorem refreshAccepts_accessToken : RefreshAccepts service s tokens.accessToken ↔
    ¬Lapsed issued service.cfg.accessTokenTTL s.now ∧
      ∃ found, Renews service s (Go.int64 (Go.float64 user.id)) found := by
  obtain ⟨hsigned, -⟩ := generateTokenPair_eq_some.mp hissued
  have hne := hjwt.signed_ne_empty hsigned
  rw [refreshAccepts_iff]
  simp only [Refreshes, hjwt.verify_eq_some_iff hsigned]
  constructor
  · rintro ⟨found, -, claims, ⟨hexpired, rfl⟩, hrenews⟩
    rw [subject_accessClaims] at hrenews
    refine ⟨fun hlapsed => ?_, found, hrenews⟩
    rw [← expired_accessClaims service.cfg user, hexpired] at hlapsed
    simp at hlapsed
  · rintro ⟨hlapsed, found, hrenews⟩
    refine ⟨found, hne, _, ⟨?_, rfl⟩, ?_⟩
    · rwa [← expired_accessClaims service.cfg user, Bool.not_eq_true] at hlapsed
    · rwa [subject_accessClaims]

end

/-- **When the kinds are told apart**: once the refresh token has expired, and if the access token
has too or is not good for a new pair. -/
theorem separate_iff_lapsed {tokens : TokenPair} (hjwt : service.jwt.Faithful)
    (hissued : service.generateTokenPair issued user = some tokens) (s : Server) :
    Separate service tokens s ↔ Lapsed issued service.cfg.refreshTokenTTL s.now ∧
      (Lapsed issued service.cfg.accessTokenTTL s.now ∨
        ∀ found, ¬Renews service s (Go.int64 (Go.float64 user.id)) found) := by
  constructor
  · intro hseparate
    constructor
    · have hauth := hseparate.auth
      rwa [authAccepts_iff, parse_refreshToken hjwt hissued, not_not] at hauth
    · have hrefresh := hseparate.refresh
      rw [refreshAccepts_accessToken hjwt hissued] at hrefresh
      by_contra hneither
      push Not at hneither
      exact hrefresh hneither
  · rintro ⟨hlapsed, haccess⟩
    have hparse : ¬(service.parseWithClaims s.now tokens.refreshToken).isSome := by
      rwa [parse_refreshToken hjwt hissued, not_not]
    have hrefresh : ¬RefreshAccepts service s tokens.accessToken := by
      rw [refreshAccepts_accessToken hjwt hissued]
      rintro ⟨hnot, found, hrenews⟩
      exact haccess.elim hnot fun hnone => hnone found hrenews
    refine ⟨fun hauth => hparse (authAccepts_iff.mp hauth),
      fun companyID hok => hparse (wsTrackingHandler_eq_ok hok), hrefresh, ?_⟩
    -- What the access token yields is itself.
    rintro fresh (rfl | ⟨pair, found, s', hout, -⟩) later hlater
    · rw [(generateTokenPair_eq_some.mp hissued).2.2] at hlater
      have hparse : ¬(service.parseWithClaims later tokens.accessToken).isSome := by
        rwa [parse_accessToken hjwt hissued, not_not]
      exact ⟨fun hauth => hparse (authAccepts_iff.mp hauth),
        fun companyID hok => hparse (wsTrackingHandler_eq_ok hok)⟩
    · exact absurd (refreshAccepts_of_refresh hout) hrefresh

/-! ### One user's tokens -/

/-- The configuration of `config.yaml`. -/
def fleetAuth : AuthService where
  jwt := JWT.tally
  cfg := ⟨"change-me-in-production", 15 * Go.minute, 720 * 60 * Go.minute⟩

def guest : User where
  id := 9
  companyID := 1
  username := "guest"
  passwordHash := ""
  fullName := ""
  email := ""
  phone := ""
  role := "viewer"
  permissions := "\x7b\x7d"
  isActive := true
  lastLoginAt := none
  expiresAt := none
  createdAt := 0

/-- Company 1 has a user. -/
def oneUser : SQL.Database schema Datum where
  tables
    | .companies => [Table.row .companies 0 [("id", some (.int 1))]]
    | .users =>
      [Table.row .users 0 [("id", some (.int 9)), ("company_id", some (.int 1)),
        ("username", some (.text "guest")), ("password_hash", some (.text ""))]]
    | _ => []
  valid := by decide

def oneUserAt (now : Int) : Server := { calm oneUser .lenient [] with now := now }

theorem fleetAuth_issues (now : Int) (user : User) :
    ∃ tokens, fleetAuth.generateTokenPair now user = some tokens :=
  ⟨_, rfl⟩

theorem guest_separate_later : ∃ tokens, fleetAuth.generateTokenPair 0 guest = some tokens ∧
    Separate fleetAuth tokens (oneUserAt (721 * 60 * Go.minute)) := by
  obtain ⟨tokens, hissued⟩ := fleetAuth_issues 0 guest
  refine ⟨tokens, hissued, (separate_iff_lapsed JWT.tally_faithful hissued _).mpr ⟨?_, .inl ?_⟩⟩
  · simp [Lapsed, expiryOf, Go.unix, fleetAuth, oneUserAt, Go.minute]
  · simp [Lapsed, expiryOf, Go.unix, fleetAuth, oneUserAt, Go.minute]

/-- **Each kind is taken for the other**, a minute after they were issued. -/
theorem guest_not_separate : ∃ tokens, fleetAuth.generateTokenPair 0 guest = some tokens ∧
    AuthAccepts fleetAuth Go.minute tokens.refreshToken ∧
    wsTrackingHandler fleetAuth Go.minute tokens.refreshToken = .ok 1 ∧
    RefreshAccepts fleetAuth (oneUserAt Go.minute) tokens.accessToken ∧
    (∃ fresh, Yields fleetAuth (oneUserAt Go.minute) tokens.accessToken fresh ∧
      AuthAccepts fleetAuth (60 * Go.minute) fresh) ∧
    ¬Separate fleetAuth tokens (oneUserAt Go.minute) := by
  obtain ⟨tokens, hissued⟩ := fleetAuth_issues 0 guest
  have hparse : fleetAuth.parseWithClaims Go.minute tokens.refreshToken = some ⟨9, 1, "", ""⟩ := by
    rw [parse_refreshToken_eq JWT.tally_faithful hissued, if_neg]
    · rfl
    · decide
  have hauth : AuthAccepts fleetAuth Go.minute tokens.refreshToken := by
    rw [authAccepts_iff, hparse]
    rfl
  have hne : tokens.refreshToken ≠ "" :=
    JWT.tally_faithful.signed_ne_empty (generateTokenPair_eq_some.mp hissued).2.1
  have hrefresh : RefreshAccepts fleetAuth (oneUserAt Go.minute) tokens.accessToken := by
    rw [refreshAccepts_accessToken JWT.tally_faithful hissued]
    refine ⟨?_, guest, rfl, by decide, rfl, rfl, rfl⟩
    simp [Lapsed, expiryOf, Go.unix, fleetAuth, oneUserAt, Go.minute]
  obtain ⟨found, hrefreshes⟩ := refreshAccepts_iff.mp hrefresh
  obtain ⟨fresh, s', hout⟩ := refresh_of_refreshes hrefreshes
  obtain ⟨-, hfresh, -⟩ := refresh_eq_ok hout
  -- The new refresh token goes on where the access token ends.
  have hlater : AuthAccepts fleetAuth (60 * Go.minute) fresh.refreshToken := by
    rw [authAccepts_iff, parse_refreshToken JWT.tally_faithful hfresh]
    simp [Lapsed, expiryOf, Go.unix, fleetAuth, oneUserAt, Go.minute]
  refine ⟨tokens, hissued, hauth, ?_, hrefresh, ⟨fresh.refreshToken, ?_, hlater⟩,
    fun hseparate => hseparate.refresh hrefresh⟩
  · simp [wsTrackingHandler, hne, hparse]
  · exact .inr ⟨fresh, found, s', hout, .inr rfl⟩

end RudraNetra.API
