/-
Whether tokens are issued for accounts that are dead.

Tokens are issued at three places.  Logging in checks that the user is active and not past
`expires_at`, and a user who signs up is both.  The refresh handler checks the first and not
the second, so a temporary account goes on from one refresh token to the next
(`live_iff_unexpired`).
-/
import RudraNetra.Api.Accounts
import RudraNetra.Api.Routes
import RudraNetra.Lib.Machine
import RudraNetra.Proofs.Tokens

namespace RudraNetra.API

open SQL Effect

/-- The user with this id is active and not past the expiry of the account. -/
def Server.Live (s : Server) (userID : Int) : Prop :=
  ∃ row ∈ s.db.tables .users, ∃ user, scanUser row = some user ∧ user.id = userID ∧
    user.isActive = true ∧ user.expired s.now = false

/-! ### Runs -/

/-- Tokens that were issued, and the server then. -/
structure Issue where
  userID : Int
  server : Server

/-- A server, and the tokens it has issued. -/
structure Accounts where
  server : Server
  issued : List Issue

/-- The handlers that change users. -/
inductive UserChange where
  | adminCreateUser
  | adminUpdateUser
  | changePassword
  deriving DecidableEq

def UserChange.handler : UserChange → Handler
  | .adminCreateUser => adminRoute adminCreateUserHandler
  | .adminUpdateUser => adminRoute adminUpdateUserHandler
  | .changePassword => changePasswordHandler

/-- What happens to accounts. -/
inductive AccountEvent where
  | login (body : Except String Fields)
  | signup (body : Except String Fields)
  | refresh (refreshToken : String)
  | change (handler : UserChange) (r : Request)
  /-- Whatever else is done to the tables. -/
  | edit (db : SQL.Database schema Datum)

/-- An event, and the server as it is found but for the database. -/
structure AccountCall where
  event : AccountEvent
  circumstances : Server

def AccountCall.finds (call : AccountCall) (s : Server) : Server :=
  { call.circumstances with db := s.db }

/-- After a request for tokens. -/
def Accounts.issue (a : Accounts) : Except Response (TokenPair × User) × Server → Accounts
  | (.ok (_, user), s) => ⟨s, a.issued ++ [⟨user.id, s⟩]⟩
  | (.error _, s) => { a with server := s }

def Accounts.after (a : Accounts) (service : AuthService) (s : Server) : AccountEvent → Accounts
  | .login body => a.issue (outcome (login service body) s)
  | .signup body => a.issue (outcome (signup service body) s)
  | .refresh refreshToken => a.issue (outcome (refresh service refreshToken) s)
  | .change change r => { a with server := (outcome (change.handler.serve r) s).2 }
  | .edit db => { a with server := { s with db } }

/-- Events one after the other, while time passes. -/
def accounts (service : AuthService) (s₀ : Server) : Machine Accounts AccountCall where
  init := ⟨s₀, []⟩
  step a call :=
    if a.server.now ≤ call.circumstances.now then
      some (a.after service (call.finds a.server) call.event)
    else none

theorem step_accounts {service : AuthService} (s₀ : Server) (a : Accounts) {call : AccountCall}
    (h : a.server.now ≤ call.circumstances.now) : (accounts service s₀).step a call =
      some (a.after service (call.finds a.server) call.event) := by
  simp [accounts, h]

/-- Every token pair was issued for a live account. -/
def Accounts.AllLive (a : Accounts) : Prop := ∀ issue ∈ a.issued, issue.server.Live issue.userID

/-! ### Logging in and signing up -/

section

variable {service : AuthService} {s s' : Server} {user : User} {tokens : TokenPair}

/-- The time of the last login is no matter of whether an account is live. -/
theorem scanUser_lastLogin (row : Row Datum) (t : Int) :
    scanUser (Assignments.apply [setTo "last_login_at" (some (.instant t))] row) =
      (scanUser row).map fun user => { user with lastLoginAt := some t } := by
  have hsame : ∀ c, c ≠ "last_login_at" →
      Assignments.apply [setTo "last_login_at" (some (.instant t))] row c = row c := by
    intro c hc
    exact Assignments.apply_of_lookup (lookup_eq_none (by simpa [setTo] using hc)) row
  have hset : Assignments.apply [setTo "last_login_at" (some (.instant t))] row "last_login_at" =
      some (.instant t) := by
    simp [Assignments.apply, setTo]
  simp [scanUser, intOf, textOf, boolOf, instantOf, jsonOf, hsame, hset, Option.map_bind]

theorem liveAfter_updateLastLogin {row : Row Datum} (hrow : row ∈ s.db.tables .users)
    (hscan : scanUser row = some user) (hactive : user.isActive = true)
    (hunexpired : user.expired s.now = false) (id : Int) :
    (outcome (attempt (updateLastLogin id)) s).2.Live user.id := by
  have hlive : s.fail.Live user.id := ⟨row, hrow, user, hscan, rfl, hactive, hunexpired⟩
  rw [attempt_snd, updateLastLogin, outcome_bind, outcome_now]
  dsimp only
  rw [outcome_bind]
  rcases outcome_exec_cases s (.update .users
    [setTo "last_login_at" (some (.instant s.now))] [("id", .int id)]) with
    ⟨db, n, -, hexec, hout⟩ | ⟨hout, -⟩
  · rw [hout]
    by_cases hselects : Condition.selects [("id", .int id)] row = true
    · exact ⟨_, (Database.mem_update_iff hexec).mpr ⟨row, hrow, if_pos hselects⟩,
        { user with lastLoginAt := some s.now }, by rw [scanUser_lastLogin, hscan]; rfl, rfl,
        hactive, hunexpired⟩
    · exact ⟨_, (Database.mem_update_iff hexec).mpr ⟨row, hrow, if_neg hselects⟩,
        user, hscan, rfl, hactive, hunexpired⟩
  · rw [hout]
    exact hlive

theorem outcome_getByUsername (s : Server) (username : String) :
    ∃ found s', outcome (getByUsername username) s = (.ok found, s') ∧ s'.db = s.db ∧
      s'.now = s.now ∧
      ∀ user, found = some user → ∃ row ∈ s.db.tables .users, scanUser row = some user := by
  obtain ⟨found, s', hout, hdb, hnow, hmem⟩ := outcome_selectFirst_cases s .users
    (Condition.selects [("username", .text username)])
  refine ⟨found.bind scanUser, s', by rw [getByUsername, outcome_bind_of_ok hout]; rfl, hdb, hnow,
    fun user hfound => ?_⟩
  obtain ⟨row, hrow, hscan⟩ := Option.bind_eq_some_iff.mp hfound
  exact ⟨row, hmem row hrow, hscan⟩

/-- **Whoever logs in is live.** -/
theorem authenticate_live {username password : String}
    (h : outcome (service.authenticate username password) s = (.ok (.ok (tokens, user)), s')) :
    s'.Live user.id := by
  obtain ⟨found, mid, hout, hdb, -, hrow⟩ := outcome_getByUsername s username
  rw [AuthService.authenticate, outcome_bind_of_ok hout] at h
  cases found with
  | none => simp at h
  | some known =>
      obtain ⟨row, hmem, hscan⟩ := hrow known rfl
      simp only [outcome_bind, outcome_get] at h
      split at h
      · simp at h
      split at h
      · simp at h
      split at h
      · simp at h
      rename_i hactive hunexpired _
      cases hsigned : service.generateTokenPair mid.now known with
      | none => simp [hsigned] at h
      | some pair =>
          have hlive : (outcome (attempt (updateLastLogin known.id)) mid).2.Live known.id :=
            liveAfter_updateLastLogin (hdb ▸ hmem) hscan (by simpa using hactive)
              (by simpa using hunexpired) known.id
          simp only [hsigned, outcome_bind] at h
          rcases hupdate : outcome (attempt (updateLastLogin known.id)) mid with ⟨e | _, after⟩
          · simp [hupdate] at h
          · obtain ⟨⟨-, rfl⟩, rfl⟩ : (pair = tokens ∧ known = user) ∧ after = s' := by
              simpa [hupdate] using h
            simpa [hupdate] using hlive

theorem login_live {body : Except String Fields}
    (h : outcome (login service body) s = (.ok (tokens, user), s')) : s'.Live user.id := by
  simp only [login, outcome_bind, outcome_get] at h
  split at h
  · simp at h
  rcases body with e | req
  · simp at h
  · dsimp only at h
    split at h
    · simp at h
    rw [outcome_bind] at h
    rcases hout : outcome (service.authenticate (req.text "username") (req.text "password")) s with
      ⟨e | (e | issued), after⟩
    · simp [hout] at h
    · simp [hout] at h
    · obtain ⟨rfl, rfl⟩ : issued = (tokens, user) ∧ after = s' := by simpa [hout] using h
      exact authenticate_live hout

/-- The row of a new user. -/
theorem scanUser_create (now id : Int) (user : User) :
    ∃ scanned, scanUser (Table.row .users now [("id", some (.int id)),
        ("company_id", some (.int user.companyID)), ("username", some (.text user.username)),
        ("password_hash", some (.text user.passwordHash)), ("full_name", some (.text user.fullName)),
        ("email", some (.text user.email)), ("phone", some (.text user.phone)),
        ("role", some (.text user.role)), ("is_active", some (.bool user.isActive))]) =
          some scanned ∧
      scanned.id = id ∧ scanned.isActive = user.isActive ∧ scanned.expiresAt = none :=
  ⟨_, rfl, rfl, rfl, rfl⟩

/-- A user who is created active is live. -/
theorem create_live {new created : User} (hactive : new.isActive = true)
    (h : outcome (create new) s = (.ok created, s')) : s'.Live created.id := by
  rw [create, outcome_bind] at h
  split at h
  · rename_i id mid hinsert
    rw [outcome_bind, outcome_now] at h
    obtain ⟨rfl, rfl⟩ : { new with id, createdAt := mid.now } = created ∧ mid = s' := by
      simpa using h
    obtain ⟨-, n, hexec⟩ := insertReturning_eq_ok hinsert
    obtain ⟨scanned, hscan, hid, hscanned, hnever⟩ := scanUser_create s.now id new
    exact ⟨_, by simp [Database.insert_tables hexec], scanned, hscan, hid, hscanned.trans hactive,
      by simp [User.expired, hnever]⟩
  · simp at h

theorem register_live {req : Fields}
    (h : outcome (service.register req) s = (.ok (.ok (tokens, user)), s')) : s'.Live user.id := by
  obtain ⟨found, mid, hout, -, -, -⟩ := outcome_getByUsername s (req.text "username")
  rw [AuthService.register, outcome_bind_of_ok hout] at h
  cases found with
  | some existing => simp at h
  | none =>
      simp only [outcome_bind, outcome_get] at h
      cases hhash : mid.bcrypt.hash (req.text "password") with
      | none => simp [hhash] at h
      | some hash =>
          simp only [hhash, outcome_bind, outcome_attempt] at h
          rcases hcreate : outcome (create (newUser req hash)) mid with ⟨e | created, after⟩
          · simp [hcreate] at h
          · simp only [hcreate, outcome_bind, outcome_now] at h
            cases hsigned : service.generateTokenPair after.now created with
            | none => simp [hsigned] at h
            | some pair =>
                obtain ⟨⟨-, rfl⟩, rfl⟩ : (pair = tokens ∧ created = user) ∧ after = s' := by
                  simpa [hsigned] using h
                exact create_live rfl hcreate

theorem signup_live {body : Except String Fields}
    (h : outcome (signup service body) s = (.ok (tokens, user), s')) : s'.Live user.id := by
  simp only [signup, outcome_bind, outcome_get] at h
  split at h
  · simp at h
  rcases body with e | req
  · simp at h
  · dsimp only at h
    split at h
    · simp at h
    split at h
    · simp at h
    rw [outcome_bind] at h
    rcases hname : outcome (companyName (req.int "company_id")) s with ⟨e | (_ | name), mid⟩
    · simp [hname] at h
    · simp [hname] at h
    · simp only [hname, outcome_bind] at h
      rcases hout : outcome (service.register req) mid with ⟨e | (e | issued), after⟩
      · simp [hout] at h
      · simp [hout] at h
      · obtain ⟨rfl, rfl⟩ : issued = (tokens, user) ∧ after = s' := by simpa [hout] using h
        exact register_live hout

end

/-! ### Refreshing -/

/-- A refresh is for a live account exactly if the account has not expired. -/
theorem refresh_live_iff {service : AuthService} {s s' : Server} {refreshToken : String}
    {tokens : TokenPair} {user : User}
    (h : outcome (refresh service refreshToken) s = (.ok (tokens, user), s')) :
    s'.Live user.id ↔ user.expired s.now = false := by
  obtain ⟨⟨-, claims, -, hrenews⟩, -, hdb, hnow⟩ := refresh_eq_ok h
  have hfound := hrenews.found
  unfold userOf at hfound
  split at hfound
  · simp at hfound
  obtain ⟨row, hfind, hscan⟩ := Option.bind_eq_some_iff.mp hfound
  have hmem := List.mem_of_find?_eq_some hfind
  rw [Server.Live, hdb, hnow]
  constructor
  · rintro ⟨other, hother, found, hfoundScan, hid, -, hunexpired⟩
    -- The row with the user's id is the row that was found.
    have hotherID := eq_of_intOf (scanUser_eq_some hfoundScan).1
    have hrowID := eq_of_intOf (scanUser_eq_some hscan).1
    have hagree : Agree ["id"] other row := by simp [Agree, hotherID, hrowID, hid]
    obtain rfl := s.db.valid.eq_of_agree (u := (.users, ["id"])) (by simp [schema, serialTables])
      hother hmem hagree
    obtain rfl : found = user := Option.some.inj (hfoundScan.symm.trans hscan)
    exact hunexpired
  · exact fun hunexpired => ⟨row, hmem, user, hscan, rfl, hrenews.active, hunexpired⟩

/-- No account is past its expiry when the refresh handler lets it have new tokens. -/
def Unexpired (service : AuthService) (s : Server) : AccountEvent → Prop
  | .refresh refreshToken =>
    ∀ user, Refreshes service s refreshToken user → user.expired s.now = false
  | _ => True

theorem allLive_issue {a : Accounts} (h : a.AllLive)
    {result : Except Response (TokenPair × User)} {s' : Server}
    (hlive : ∀ tokens user, result = .ok (tokens, user) → s'.Live user.id) :
    (a.issue (result, s')).AllLive := by
  rcases result with e | ⟨tokens, user⟩
  · exact h
  · intro issue hissue
    rcases List.mem_append.mp hissue with hold | hnew
    · exact h issue hold
    · rw [List.mem_singleton.mp hnew]
      exact hlive tokens user rfl

/-- An event keeps tokens to live accounts exactly if it refreshes no expired one. -/
theorem allLive_after_iff {service : AuthService} {a : Accounts} (h : a.AllLive) (s : Server)
    (event : AccountEvent) : (a.after service s event).AllLive ↔ Unexpired service s event := by
  cases event with
  | login body =>
      refine iff_of_true (allLive_issue h fun tokens user hresult => ?_) trivial
      exact login_live (Prod.ext hresult rfl)
  | signup body =>
      refine iff_of_true (allLive_issue h fun tokens user hresult => ?_) trivial
      exact signup_live (Prod.ext hresult rfl)
  | change change r => exact iff_of_true h trivial
  | edit db => exact iff_of_true h trivial
  | refresh refreshToken =>
      constructor
      · intro hall user hrefreshes
        obtain ⟨tokens, s', hout⟩ := refresh_of_refreshes hrefreshes
        rw [Accounts.after, hout] at hall
        exact (refresh_live_iff hout).mp (hall ⟨user.id, s'⟩ (by simp [Accounts.issue]))
      · intro hunexpired
        refine allLive_issue h fun tokens user hresult => ?_
        have hout : outcome (refresh service refreshToken) s = (.ok (tokens, user), _) :=
          Prod.ext hresult rfl
        exact (refresh_live_iff hout).mpr (hunexpired user (refresh_eq_ok hout).1)

/-- **Tokens are for live accounts, exactly if no expired account is refreshed.** -/
theorem live_iff_unexpired (service : AuthService) (s₀ : Server) (calls : List AccountCall) :
    (accounts service s₀).AllStates Accounts.AllLive ⟨s₀, []⟩ calls ↔
      (accounts service s₀).AllSteps
        (fun a call => Unexpired service (call.finds a.server) call.event) ⟨s₀, []⟩ calls := by
  have hinit : Accounts.AllLive ⟨s₀, []⟩ := by
    intro issue hissue
    simp at hissue
  refine Machine.allStates_iff_allSteps (I := fun _ => True) (fun _ _ _ _ _ => trivial) ?_ calls
    (⟨s₀, []⟩ : Accounts) trivial hinit
  intro a call a' _ hlive hstep
  simp only [accounts, Option.ite_none_right_eq_some, Option.some.injEq] at hstep
  obtain ⟨-, rfl⟩ := hstep
  exact allLive_after_iff hlive (call.finds a.server) call.event

/-! ### A guest who stays -/

/-- The guest of company 1 has an account for one hour. -/
def oneHour : SQL.Database schema Datum where
  tables
    | .companies => [Table.row .companies 0 [("id", some (.int 1))]]
    | .users =>
      [Table.row .users 0 [("id", some (.int 9)), ("company_id", some (.int 1)),
        ("username", some (.text "guest")), ("password_hash", some (.text "")),
        ("expires_at", some (.instant (60 * Go.minute)))]]
    | _ => []
  valid := by decide

def oneHourAt (now : Int) : Server := { calm oneHour .lenient [] with now := now }

/-- The guest logs in, two minutes after the account was made. -/
def guestLogin : AccountCall where
  event := .login (.ok { Fields.empty with
    text := fun field => if field = "username" then "guest" else "secret" })
  circumstances := oneHourAt (2 * Go.minute)

/-- The refresh token of that login. -/
def guestToken : String :=
  ((fleetAuth.generateTokenPair (2 * Go.minute) guest).map (·.refreshToken)).getD ""

/-- An hour later the guest asks for new tokens. -/
def guestRefresh : AccountCall where
  event := .refresh guestToken
  circumstances := oneHourAt (62 * Go.minute)

/-- The server after the login. -/
def afterLogin : Accounts := Accounts.after ⟨oneHourAt 0, []⟩ fleetAuth
  (guestLogin.finds (oneHourAt 0)) guestLogin.event

theorem afterLogin_user : userOf (guestRefresh.finds afterLogin.server) 9 =
    some { guest with lastLoginAt := some (2 * Go.minute), expiresAt := some (60 * Go.minute) } := by
  rfl

theorem guestToken_eq {tokens : TokenPair}
    (hissued : fleetAuth.generateTokenPair (2 * Go.minute) guest = some tokens) :
    guestToken = tokens.refreshToken := by
  simp [guestToken, hissued]

/-- The guest's token is good for new ones. -/
theorem guest_refreshes : ∃ user, Refreshes fleetAuth (guestRefresh.finds afterLogin.server)
    guestToken user ∧ user.expired (62 * Go.minute) = true := by
  obtain ⟨tokens, hissued⟩ := fleetAuth_issues (2 * Go.minute) guest
  have hfaithful : fleetAuth.jwt.Faithful := JWT.tally_faithful
  have hsigned := (generateTokenPair_eq_some.mp hissued).2.1
  rw [← guestToken_eq hissued] at hsigned
  have hnow : (guestRefresh.finds afterLogin.server).now = 62 * Go.minute := rfl
  have hverify : fleetAuth.jwt.verify fleetAuth.cfg.secret
      (guestRefresh.finds afterLogin.server).now guestToken =
        some (refreshClaims fleetAuth.cfg (2 * Go.minute) guest) := by
    rw [hnow, hfaithful.verify_eq_some_iff hsigned]
    exact ⟨by decide, rfl⟩
  have hsubject : subject (refreshClaims fleetAuth.cfg (2 * Go.minute) guest) = 9 := by decide
  have hrenews : Renews fleetAuth (guestRefresh.finds afterLogin.server) 9 _ :=
    ⟨rfl, by decide, afterLogin_user, rfl, rfl⟩
  rw [← hsubject] at hrenews
  exact ⟨_, ⟨hfaithful.signed_ne_empty hsigned, _, hverify, hrenews⟩, by decide⟩

/-- **A run in which an expired account has new tokens.** -/
theorem guestRefresh_not_live : ¬(accounts fleetAuth (oneHourAt 0)).AllStates Accounts.AllLive
    ⟨oneHourAt 0, []⟩ [guestLogin, guestRefresh] := by
  intro hstates
  have hlogin : (accounts fleetAuth (oneHourAt 0)).step ⟨oneHourAt 0, []⟩ guestLogin =
      some afterLogin :=
    step_accounts _ _ (by decide)
  have hrefresh : (accounts fleetAuth (oneHourAt 0)).step afterLogin guestRefresh =
      some (afterLogin.after fleetAuth (guestRefresh.finds afterLogin.server) guestRefresh.event) :=
    step_accounts _ _ (by decide)
  have hmid := hstates.2 _ hlogin
  have hafter : Accounts.AllLive _ := hmid.2 _ hrefresh
  obtain ⟨user, hrefreshes, hexpired⟩ := guest_refreshes
  have hunexpired := (allLive_after_iff hmid.1 _ guestRefresh.event).mp hafter user hrefreshes
  exact absurd (hunexpired.symm.trans hexpired) (by decide)

end RudraNetra.API
