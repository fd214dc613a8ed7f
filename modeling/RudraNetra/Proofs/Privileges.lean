/-
Nobody gains privileges.

The superadmin's routes ask for the role that a token was issued with, and a role comes from
the row of a user.  Whoever signs up is a viewer, and outside of those routes no handler
writes a role.  So as long as no superadmin logs in, the accounts keep their roles, companies
and states, and the superadmin's routes stay closed (`unprivileged_of_unassuming`).

A token is renewed for the user with its id, as a `float64` has it: from `2 ^ 53` on that is
another user's.
-/
import RudraNetra.Proofs.Accounts
import RudraNetra.Proofs.Records

namespace RudraNetra.API

open SQL Effect JWT

/-! ### Accounts -/

/-- The rows are of one account: all but the password and the last login are the same. -/
def SameAccount (row row' : Row Datum) : Prop :=
  ∀ c ∉ ["password_hash", "last_login_at"], row' c = row c

theorem SameAccount.refl (row : Row Datum) : SameAccount row row := fun _ _ => rfl

theorem SameAccount.trans {row row' row'' : Row Datum} (h : SameAccount row row')
    (h' : SameAccount row' row'') : SameAccount row row'' :=
  fun c hc => (h' c hc).trans (h c hc)

/-- All accounts are still there, and those that are new are of viewers. -/
structure Settled (db db' : SQL.Database schema Datum) : Prop where
  stays : ∀ row ∈ db.tables .users, ∃ row' ∈ db'.tables .users, SameAccount row row'
  descends : ∀ row' ∈ db'.tables .users,
    (∃ row ∈ db.tables .users, SameAccount row row') ∨ row' "role" = some (.text "viewer")

instance : Std.Refl Settled :=
  ⟨fun _ => ⟨fun row hrow => ⟨row, hrow, .refl row⟩, fun row hrow => .inl ⟨row, hrow, .refl row⟩⟩⟩

instance : IsTrans (SQL.Database schema Datum) Settled where
  trans := by
    intro db db' db'' h h'
    refine ⟨fun row hrow => ?_, fun row'' hrow'' => ?_⟩
    · obtain ⟨row', hrow', hsame⟩ := h.stays row hrow
      obtain ⟨row'', hrow'', hsame'⟩ := h'.stays row' hrow'
      exact ⟨row'', hrow'', hsame.trans hsame'⟩
    · rcases h'.descends row'' hrow'' with ⟨row', hrow', hlater⟩ | hviewer
      · rcases h.descends row' hrow' with ⟨row, hrow, hsame⟩ | hviewer
        · exact .inl ⟨row, hrow, hsame.trans hlater⟩
        · exact .inr ((hlater "role" (by decide)).trans hviewer)
      · exact .inr hviewer

section

variable {service : AuthService} {s s' : Server} {writes : List (Write Table)} {user : User}
  {tokens : TokenPair}

/-- No account goes, nor do the companies along with which one would. -/
theorem settled_of_grows (h : s.Grows writes s') (hinsert : .insert .users ∉ writes)
    (hdelete : ∀ t, .delete t ∈ writes → t ≠ .users ∧ t ≠ .companies)
    (hupdate : ∀ columns, .update .users columns ∈ writes →
      columns ⊆ ["password_hash", "last_login_at"]) : Settled s.db s'.db := by
  have hloses : ¬Loses schema writes .users := by
    intro hloses
    exact (hloses.of_closed (P := fun t => t ≠ .users ∧ t ≠ .companies) hdelete (by decide)).1 rfl
  have hsame : ∀ {row row'}, SameRow schema writes .users row row' → SameAccount row row' := by
    intro row row' hsame c hc
    refine hsame c fun hchanges => ?_
    generalize ht : Table.users = t at hchanges
    cases hchanges with
    | update h hcolumn _ => exact hc (hupdate _ (ht ▸ h) hcolumn)
    | setNull hfk haction h hid =>
        have hnone : ∀ fk ∈ schema.foreignKeys, fk.onDelete = .setNull → fk.child ≠ .users := by
          decide
        exact hnone _ hfk haction ht.symm
  refine ⟨fun row hrow => ?_, fun row' hrow' => ?_⟩
  · obtain ⟨row', hrow', h⟩ := h.evolves.survives .users hloses row hrow
    exact ⟨row', hrow', hsame h⟩
  · rcases h.evolves.descends .users row' hrow' with ⟨row, hrow, h⟩ | ⟨h, -⟩
    · exact .inl ⟨row, hrow, hsame h⟩
    · exact absurd h hinsert

/-- Of what a protected request may write to accounts. -/
def SparesAccounts : Write Table → Bool
  | .insert t => t ≠ .users
  | .update t columns => t ≠ .users || columns = ["password_hash"]
  | .delete t => t ≠ .users ∧ t ≠ .companies

theorem Endpoint.sparesAccounts (e : Endpoint) : ∀ w ∈ e.writes, SparesAccounts w = true := by
  cases e <;> decide

theorem login_settled (body : Except String Fields) :
    Keeps (OnDatabase Settled) (login service body) := by
  intro s
  have hgrows : s.Grows [.update .users ["last_login_at"]] (outcome (login service body) s).2 :=
    login_grows body (.head _) s
  refine settled_of_grows hgrows (by decide) (fun t h => by simp at h) ?_
  intro columns hmem
  obtain rfl : columns = ["last_login_at"] := by simpa using hmem
  decide

theorem refresh_settled (refreshToken : String) :
    Keeps (OnDatabase Settled) (refresh service refreshToken) := by
  intro s
  have hgrows : s.Grows [] (outcome (refresh service refreshToken) s).2 :=
    refresh_grows refreshToken s
  exact settled_of_grows hgrows List.not_mem_nil (fun _ h => absurd h List.not_mem_nil)
    fun _ h => absurd h List.not_mem_nil

theorem request_settled (e : Endpoint) (authHeader : String) (r : Request) :
    Keeps (OnDatabase Settled) (served service e.handler authHeader r) := by
  intro s
  refine settled_of_grows (grows_served (fun r c id req => work_grows e) s) ?_ ?_ ?_
  · intro hmem
    exact absurd (e.sparesAccounts _ hmem) (by decide)
  · intro t hmem
    simpa [SparesAccounts] using e.sparesAccounts _ hmem
  · intro columns hmem
    obtain rfl : columns = ["password_hash"] := by
      simpa [SparesAccounts] using e.sparesAccounts _ hmem
    decide

/-! ### Signing up -/

/-- A new account is a viewer's, if the user is one. -/
theorem create_settled {new : User} (hviewer : new.role = "viewer") :
    Keeps (OnDatabase Settled) (create new) := by
  refine Keeps.bind (fun s => insertReturning_related fun db n hexec => ?_) fun _ =>
    keeps_now.bind fun _ => keeps_pure _
  have hrows := Database.insert_tables hexec .users
  rw [if_pos rfl] at hrows
  refine ⟨fun row hrow => ⟨row, hrows ▸ List.mem_append_left _ hrow, .refl row⟩,
    fun row' hrow' => ?_⟩
  rcases List.mem_append.mp (hrows ▸ hrow') with hold | hlast
  · exact .inl ⟨row', hold, .refl row'⟩
  · obtain rfl := List.mem_singleton.mp hlast
    rw [← hviewer]
    exact .inr rfl

theorem keeps_register {R : SQL.Database schema Datum → SQL.Database schema Datum → Prop}
    [Std.Refl R] [IsTrans _ R] (req : Fields)
    (hcreate : ∀ hash, Keeps (OnDatabase R) (create (newUser req hash))) :
    Keeps (OnDatabase R) (service.register req) := by
  have hget : Keeps (OnDatabase R) (getByUsername (req.text "username")) :=
    (keeps_selectFirst _ _).bind fun _ => keeps_pure _
  refine hget.bind fun found => ?_
  cases found with
  | some user => exact keeps_pure _
  | none =>
      refine keeps_get.bind fun s => ?_
      cases s.bcrypt.hash (req.text "password") with
      | none => exact keeps_pure _
      | some hash =>
          refine (hcreate hash).attempt.bind fun created => ?_
          cases created with
          | none => exact keeps_pure _
          | some created =>
              refine keeps_now.bind fun now => ?_
              cases service.generateTokenPair now created with
              | none => exact keeps_pure _
              | some tokens => exact keeps_pure _

/-- All that signing up writes is a new user. -/
theorem keeps_signup {R : SQL.Database schema Datum → SQL.Database schema Datum → Prop}
    [Std.Refl R] [IsTrans _ R] (body : Except String Fields)
    (hcreate : ∀ req hash, Keeps (OnDatabase R) (create (newUser req hash))) :
    Keeps (OnDatabase R) (signup service body) := by
  refine keeps_get.bind fun s => .ite (keeps_throw _) ?_
  cases body with
  | error message => exact keeps_throw _
  | ok req =>
      refine .ite (keeps_throw _) (.ite (keeps_throw _) ?_)
      have hcompany : Keeps (OnDatabase R) (companyName (req.int "company_id")) :=
        (keeps_selectFirst _ _).bind fun _ => keeps_pure _
      refine hcompany.bind fun name => ?_
      cases name with
      | none => exact keeps_throw _
      | some name =>
          refine (keeps_register req (hcreate req)).bind fun result => ?_
          cases result with
          | error message => exact keeps_throw _
          | ok issued => exact keeps_pure _

theorem signup_settled (body : Except String Fields) :
    Keeps (OnDatabase Settled) (signup service body) :=
  keeps_signup body fun _ _ => create_settled rfl

/-! ### Tokens -/

/-- Which roles users may have, and in which companies. -/
abbrev Scope : Type := String → Int → Prop

/-- The role and the company that the row gives its user. -/
def Scope.Has (P : Scope) (row : Row Datum) : Prop :=
  ∀ role, row "role" = some (.text role) → P role ((intOf row "company_id").getD 0)

/-- The user is within the scope, and so is the user's account. -/
structure Within (P : Scope) (db : SQL.Database schema Datum) (user : User) : Prop where
  scope : P user.role user.companyID
  account : ∃ row ∈ db.tables .users, row "id" = some (.int user.id) ∧ P.Has row

variable {P : Scope}

theorem Within.settled {db db' : SQL.Database schema Datum} (h : Within P db user)
    (hsettled : Settled db db') : Within P db' user := by
  obtain ⟨row, hrow, hid, hscope⟩ := h.account
  obtain ⟨row', hrow', hsame⟩ := hsettled.stays row hrow
  refine ⟨h.scope, row', hrow', (hsame "id" (by decide)).trans hid, fun role hrole => ?_⟩
  have hcompany : intOf row' "company_id" = intOf row "company_id" := by
    rw [intOf, hsame "company_id" (by decide), intOf]
  rw [hcompany]
  exact hscope role ((hsame "role" (by decide)).symm.trans hrole)

theorem scanUser_scope {row : Row Datum} (h : scanUser row = some user) :
    row "role" = some (.text user.role) ∧ user.companyID = (intOf row "company_id").getD 0 := by
  simp only [scanUser, bind, Option.bind_eq_some_iff] at h
  obtain ⟨id, -, username, -, passwordHash, -, role, hrole, isActive, -, createdAt, -, h⟩ := h
  obtain rfl := Option.some.inj h
  exact ⟨eq_of_textOf hrole, rfl⟩

theorem within_of_scan {db : SQL.Database schema Datum} {row : Row Datum}
    (hrow : row ∈ db.tables .users) (hscan : scanUser row = some user)
    (hscope : P user.role user.companyID) : Within P db user := by
  obtain ⟨hrole, hcompany⟩ := scanUser_scope hscan
  refine ⟨hscope, row, hrow, eq_of_intOf (scanUser_eq_some hscan).1, fun role hrole' => ?_⟩
  obtain rfl : user.role = role := by simpa using hrole.symm.trans hrole'
  exact hcompany ▸ hscope

theorem create_eq_ok {new created : User} (h : outcome (create new) s = (.ok created, s')) :
    created.role = new.role ∧
      (P created.role created.companyID → Within P s'.db created) := by
  rw [create, outcome_bind] at h
  split at h
  · rename_i id mid hinsert
    rw [outcome_bind, outcome_now] at h
    obtain ⟨rfl, rfl⟩ : { new with id, createdAt := mid.now } = created ∧ mid = s' := by
      simpa using h
    obtain ⟨-, n, hexec⟩ := insertReturning_eq_ok hinsert
    have hrows := Database.insert_tables hexec .users
    rw [if_pos rfl] at hrows
    refine ⟨rfl, fun hscope => ⟨hscope, _, hrows ▸ List.mem_append_right _
      (List.mem_singleton_self _), row_id _ _, fun role hrole => ?_⟩⟩
    obtain rfl : new.role = role := by
      have hnew : some (Datum.text new.role) = some (.text role) := hrole
      simpa using hnew
    exact hscope
  · simp at h

/-- The token is one that the user has been given. -/
def IssuedTo (service : AuthService) (user : User) (token : String) : Prop :=
  ∃ now, service.jwt.sign service.cfg.secret (accessClaims service.cfg now user) = some token ∨
    service.jwt.sign service.cfg.secret (refreshClaims service.cfg now user) = some token

theorem issuedTo_of_pair {now : Int} (h : service.generateTokenPair now user = some tokens) :
    IssuedTo service user tokens.accessToken ∧ IssuedTo service user tokens.refreshToken := by
  obtain ⟨haccess, hrefresh, -⟩ := generateTokenPair_eq_some.mp h
  exact ⟨⟨now, .inl haccess⟩, now, .inr hrefresh⟩

/-- A token says who it was issued to, and in what role or none. -/
theorem IssuedTo.claims (hjwt : service.jwt.Faithful) {token : String} {now : Int}
    {claims : Claims} (h : IssuedTo service user token)
    (hverify : service.jwt.verify service.cfg.secret now token = some claims) :
    subject claims = Go.int64 (Go.float64 user.id) ∧
      ∃ decoded, decodeClaims claims = some decoded ∧ decoded.companyID = user.companyID ∧
        (decoded.role = user.role ∨ decoded.role = "") := by
  obtain ⟨issued, hsigned | hsigned⟩ := h
  · obtain ⟨-, rfl⟩ := (hjwt.verify_eq_some_iff hsigned).mp hverify
    exact ⟨subject_accessClaims service.cfg, _, decodeClaims_accessClaims service.cfg, rfl,
      .inl rfl⟩
  · obtain ⟨-, rfl⟩ := (hjwt.verify_eq_some_iff hsigned).mp hverify
    refine ⟨?_, _, decodeClaims_refreshClaims service.cfg, rfl, .inr rfl⟩
    simp [subject, refreshClaims, List.lookup]

/-- Every token is of a user within the scope. -/
def Gateway.Confined (P : Scope) (service : AuthService) (g : Gateway) : Prop :=
  ∀ token ∈ g.tokens, ∃ user, IssuedTo service user token ∧ Within P g.server.db user

variable {g : Gateway}

theorem Gateway.Confined.settled (h : g.Confined P service) (hsettled : Settled g.server.db s'.db) :
    ({ g with server := s' } : Gateway).Confined P service := by
  intro token htoken
  obtain ⟨user, hissued, hwithin⟩ := h token htoken
  exact ⟨user, hissued, hwithin.settled hsettled⟩

theorem Gateway.Confined.issue {result : Except Response (TokenPair × User)}
    (h : g.Confined P service) (hsettled : Settled g.server.db s'.db)
    (hnew : ∀ tokens user, result = .ok (tokens, user) → Within P s'.db user ∧
      ∃ now, service.generateTokenPair now user = some tokens) :
    (g.issue (result, s')).Confined P service := by
  have hold := h.settled hsettled
  rcases result with e | ⟨tokens, user⟩
  · exact hold
  · obtain ⟨hwithin, now, hpair⟩ := hnew tokens user rfl
    obtain ⟨haccess, hrefresh⟩ := issuedTo_of_pair hpair
    intro token htoken
    rcases List.mem_append.mp htoken with hmem | hlast
    · exact hold token hmem
    · obtain rfl | rfl : token = tokens.accessToken ∨ token = tokens.refreshToken := by
        simpa using hlast
      · exact ⟨user, haccess, hwithin⟩
      · exact ⟨user, hrefresh, hwithin⟩

/-! ### Where tokens come from -/

/-- A password is of a user with an account, where the login is noted, or nothing changes. -/
theorem authenticate_cases (service : AuthService) (username password : String) (s : Server) :
    ∃ mid, mid.db = s.db ∧
    ((∃ message, outcome (service.authenticate username password) s =
        (.ok (.error message), mid)) ∨
      ∃ tokens user, outcome (service.authenticate username password) s =
          (.ok (.ok (tokens, user)), (outcome (attempt (updateLastLogin user.id)) mid).2) ∧
        (∃ row ∈ s.db.tables .users, scanUser row = some user) ∧
        ∃ now, service.generateTokenPair now user = some tokens) := by
  obtain ⟨found, mid, hout, hdb, -, hrow⟩ := outcome_getByUsername s username
  refine ⟨mid, hdb, ?_⟩
  rw [AuthService.authenticate, outcome_bind_of_ok hout]
  cases found with
  | none => exact .inl ⟨_, rfl⟩
  | some user =>
      simp only [outcome_bind, outcome_get]
      split
      · exact .inl ⟨_, rfl⟩
      split
      · exact .inl ⟨_, rfl⟩
      split
      · exact .inl ⟨_, rfl⟩
      cases hsigned : service.generateTokenPair mid.now user with
      | none => exact .inl ⟨_, rfl⟩
      | some tokens =>
          refine .inr ⟨tokens, user, ?_, hrow user rfl, mid.now, hsigned⟩
          simp only [outcome_bind]
          rcases hupdate : outcome (attempt (updateLastLogin user.id)) mid with ⟨e | _, last⟩
          · rw [outcome_attempt] at hupdate
            rcases hinner : outcome (updateLastLogin user.id) mid with ⟨e' | _, after⟩ <;>
              simp [hinner] at hupdate
          · rfl

/-- What a login comes to. -/
theorem login_cases {body : Except String Fields} {result : Except Response (TokenPair × User)}
    (h : outcome (login service body) s = (result, s')) :
    (∃ error, result = .error error) ∧ s'.db = s.db ∨
    ∃ tokens user mid, result = .ok (tokens, user) ∧
      s' = (outcome (attempt (updateLastLogin user.id)) mid).2 ∧ mid.db = s.db ∧
      (∃ row ∈ s.db.tables .users, scanUser row = some user) ∧
      ∃ now, service.generateTokenPair now user = some tokens := by
  simp only [login, outcome_bind, outcome_get] at h
  split at h
  · obtain ⟨rfl, rfl⟩ := Prod.mk.inj h
    exact .inl ⟨⟨_, rfl⟩, rfl⟩
  rcases body with e | req
  · obtain ⟨rfl, rfl⟩ := Prod.mk.inj h
    exact .inl ⟨⟨_, rfl⟩, rfl⟩
  dsimp only at h
  split at h
  · obtain ⟨rfl, rfl⟩ := Prod.mk.inj h
    exact .inl ⟨⟨_, rfl⟩, rfl⟩
  obtain ⟨mid, hdb, ⟨message, hout⟩ | ⟨tokens, user, hout, haccount, hpair⟩⟩ :=
    authenticate_cases service (req.text "username") (req.text "password") s
  · rw [outcome_bind_of_ok hout] at h
    obtain ⟨rfl, rfl⟩ := Prod.mk.inj h
    exact .inl ⟨⟨_, rfl⟩, hdb⟩
  · rw [outcome_bind_of_ok hout] at h
    obtain ⟨rfl, rfl⟩ := Prod.mk.inj h
    exact .inr ⟨tokens, user, mid, rfl, rfl, hdb, haccount, hpair⟩

theorem login_account {body : Except String Fields}
    (h : (outcome (login service body) s).1 = .ok (tokens, user)) :
    (∃ row ∈ s.db.tables .users, scanUser row = some user) ∧
      ∃ now, service.generateTokenPair now user = some tokens := by
  rcases login_cases (Prod.ext h rfl : outcome (login service body) s = (.ok (tokens, user), _)) with
    ⟨⟨error, herror⟩, -⟩ | ⟨tokens', user', mid, hissued, -, -, haccount⟩
  · cases herror
  · obtain ⟨rfl, rfl⟩ : tokens = tokens' ∧ user = user' := by simpa using hissued
    exact haccount

/-- Whoever signs up has an account then, as a viewer. -/
theorem signup_eq_ok {body : Except String Fields}
    (h : outcome (signup service body) s = (.ok (tokens, user), s')) :
    user.role = "viewer" ∧ (P user.role user.companyID → Within P s'.db user) ∧
      ∃ now, service.generateTokenPair now user = some tokens := by
  simp only [signup, outcome_bind, outcome_get] at h
  split at h
  · simp at h
  rcases body with e | req
  · simp at h
  dsimp only at h
  split at h
  · simp at h
  split at h
  · simp at h
  rw [outcome_bind] at h
  rcases hname : outcome (companyName (req.int "company_id")) s with ⟨e | (_ | name), mid⟩
  · simp [hname] at h
  · simp [hname] at h
  simp only [hname, outcome_bind] at h
  rcases hregister : outcome (service.register req) mid with ⟨e | (e | issued), after⟩
  · simp [hregister] at h
  · simp [hregister] at h
  obtain ⟨rfl, rfl⟩ : issued = (tokens, user) ∧ after = s' := by simpa [hregister] using h
  obtain ⟨found, mid', hout, -, -, -⟩ := outcome_getByUsername mid (req.text "username")
  rw [AuthService.register, outcome_bind_of_ok hout] at hregister
  cases found with
  | some existing => simp at hregister
  | none =>
      simp only [outcome_bind, outcome_get] at hregister
      cases hhash : mid'.bcrypt.hash (req.text "password") with
      | none => simp [hhash] at hregister
      | some hash =>
          simp only [hhash, outcome_bind, outcome_attempt] at hregister
          rcases hcreate : outcome (create (newUser req hash)) mid' with ⟨e | created, last⟩
          · simp [hcreate] at hregister
          simp only [hcreate, outcome_bind, outcome_now] at hregister
          cases hsigned : service.generateTokenPair last.now created with
          | none => simp [hsigned] at hregister
          | some pair =>
              obtain ⟨⟨rfl, rfl⟩, rfl⟩ : (pair = tokens ∧ created = user) ∧ last = after := by
                simpa [hsigned] using hregister
              obtain ⟨hviewer, hwithin⟩ := create_eq_ok hcreate
              exact ⟨hviewer, hwithin, last.now, hsigned⟩

/-- Whoever has new tokens for an old one is the user of that, by its id as a `float64`. -/
theorem refresh_within (hjwt : service.jwt.Faithful) (hconfined : g.Confined P service)
    {refreshToken : String} (hdb : s.db = g.server.db)
    (hforged : g.forged service s.now refreshToken = false)
    (hexact : ∀ row ∈ s.db.tables .users, ∀ id, row "id" = some (.int id) → id.natAbs < 2 ^ 53)
    (h : outcome (refresh service refreshToken) s = (.ok (tokens, user), s')) :
    Within P s'.db user ∧ ∃ now, service.generateTokenPair now user = some tokens := by
  obtain ⟨⟨-, claims, hverify, hrenews⟩, hpair, hdb', -⟩ := refresh_eq_ok h
  have hmem : refreshToken ∈ g.tokens := by
    simpa [Gateway.forged, hverify] using hforged
  obtain ⟨holder, hissued, hwithin⟩ := hconfined refreshToken hmem
  obtain ⟨row, hrow, hid, hscope⟩ := hwithin.account
  rw [← hdb] at hrow
  have hlt := hexact row hrow holder.id hid
  have hsubject : subject claims = holder.id := by
    rw [(hissued.claims hjwt hverify).1, Go.float64_of_lt hlt, Go.int64_of_lt hlt]
  have hfound := hrenews.found
  unfold userOf at hfound
  split at hfound
  · cases hfound
  rw [hsubject, find_by_id s.db (by decide) hrow hid, Option.bind_some] at hfound
  obtain ⟨hrole, hcompany⟩ := scanUser_scope hfound
  refine ⟨?_, s.now, hpair⟩
  rw [hdb']
  exact within_of_scan hrow hfound (hcompany ▸ hscope _ hrole)

/-! ### The superadmin's routes -/

theorem auth_eq_ok {now : Int} {authHeader : String} {session : Session}
    (h : auth service now authHeader = .ok session) :
    ∃ token claims, bearerToken authHeader = some token ∧
      service.parseWithClaims now token = some claims ∧ session.companyID = claims.companyID ∧
        session.role = claims.role := by
  unfold auth at h
  split at h
  · cases h
  cases htoken : bearerToken authHeader with
  | none => simp [htoken] at h
  | some token =>
      cases hclaims : service.parseWithClaims now token with
      | none => simp [htoken, hclaims] at h
      | some claims =>
          simp only [htoken, hclaims, Except.ok.injEq] at h
          subst h
          exact ⟨token, claims, rfl, hclaims, rfl, rfl⟩

theorem auth_status {now : Int} {authHeader : String} {error : Response}
    (h : auth service now authHeader = .error error) : error.status = 401 := by
  unfold auth at h
  split at h
  · obtain rfl := Except.error.inj h
    rfl
  split at h
  · obtain rfl := Except.error.inj h
    rfl
  split at h
  · obtain rfl := Except.error.inj h
    rfl
  · cases h

/-- The header has no token, or one that was handed out or does not verify. -/
def Gateway.Genuine (g : Gateway) (service : AuthService) (now : Int) (authHeader : String) :
    Prop :=
  ∀ token, bearerToken authHeader = some token → g.forged service now token = false

/-- A session is that of a user within the scope, whose role a refresh token leaves out. -/
theorem Gateway.Confined.session (hjwt : service.jwt.Faithful) (h : g.Confined P service) {now : Int}
    {authHeader : String} {session : Session} (hgenuine : g.Genuine service now authHeader)
    (hauth : auth service now authHeader = .ok session) :
    ∃ role, P role session.companyID ∧ (session.role = role ∨ session.role = "") := by
  obtain ⟨token, claims, hbearer, hparse, hcompany, hrole⟩ := auth_eq_ok hauth
  obtain ⟨verified, hverify, hdecode⟩ := Option.bind_eq_some_iff.mp hparse
  have hmem : token ∈ g.tokens := by
    simpa [Gateway.forged, hverify] using hgenuine token hbearer
  obtain ⟨user, hissued, hwithin⟩ := h token hmem
  obtain ⟨-, decoded, hdecoded, hsame, hroles⟩ := hissued.claims hjwt hverify
  obtain rfl : decoded = claims := Option.some.inj (hdecoded.symm.trans hdecode)
  rw [hcompany, hsame, hrole]
  exact ⟨user.role, hwithin.scope, hroles⟩

/-- Nobody within the scope is a superadmin. -/
def Scope.Common (P : Scope) : Prop := ∀ role companyID, P role companyID → role ≠ "superadmin"

theorem Gateway.Confined.session_role (hjwt : service.jwt.Faithful) (hP : P.Common)
    (h : g.Confined P service) {now : Int} {authHeader : String} {session : Session}
    (hgenuine : g.Genuine service now authHeader)
    (hauth : auth service now authHeader = .ok session) : session.role ≠ "superadmin" := by
  obtain ⟨role, hscope, hsame | hnone⟩ := h.session hjwt hgenuine hauth
  · exact hsame ▸ hP role _ hscope
  · rw [hnone]
    decide

/-- A request to the superadmin's routes is refused, and changes nothing. -/
def Gateway.Closed (service : AuthService) (g : Gateway) : Prop :=
  ∀ (e : AdminEndpoint) authHeader r (s : Server), g.Genuine service s.now authHeader →
    ∃ error, outcome (served service e.handler authHeader r) s = (.error error, s) ∧
      error.status ∈ [401, 403, 503]

theorem Gateway.Confined.closed (hjwt : service.jwt.Faithful) (hP : P.Common)
    (h : g.Confined P service) : g.Closed service := by
  intro e authHeader r s hgenuine
  rw [served, outcome_bind, outcome_get]
  dsimp only
  cases hauth : auth service s.now authHeader with
  | error error => exact ⟨error, rfl, by simp [auth_status hauth]⟩
  | ok session =>
      have hrole := h.session_role hjwt hP hgenuine hauth
      have hrefuses : e.handler.refuses { r with session } =
          some (.failure 403 "insufficient permissions") := by
        simp [AdminEndpoint.handler, adminRoute, Handler.refuses, requireRole, hrole]
      rcases outcome_serve_cases e.handler { r with session } s with
        ⟨error, hout, ⟨-, rfl⟩ | hrefused⟩ | ⟨-, hnone, -⟩
      · exact ⟨_, hout, by decide⟩
      · obtain rfl := Option.some.inj (hrefuses.symm.trans hrefused)
        exact ⟨_, hout, by decide⟩
      · rw [hrefuses] at hnone
        cases hnone

/-! ### Runs -/

/-- The ids of all users are such that a `float64` has them. -/
def Server.ExactIDs (s : Server) : Prop :=
  ∀ row ∈ s.db.tables .users, ∀ id, row "id" = some (.int id) → id.natAbs < 2 ^ 53

/-- Whoever logs in or signs up is within the scope, and ids are exact when tokens are renewed. -/
def Admits (P : Scope) (service : AuthService) (g : Gateway) (a : ApiStep) : Prop :=
  match a.call with
  | .login body => ∀ tokens user, (outcome (login service body) (a.finds g.server)).1 =
      .ok (tokens, user) → P user.role user.companyID
  | .signup body => ∀ tokens user, (outcome (signup service body) (a.finds g.server)).1 =
      .ok (tokens, user) → P user.role user.companyID
  | .refresh _ => g.server.ExactIDs
  | _ => True

/-- What one request does to the accounts and the tokens. -/
theorem confined_after (hjwt : service.jwt.Faithful) (hP : P.Common)
    (hconfined : g.Confined P service) {a : ApiStep} (hadmits : Admits P service g a)
    (hforged : a.call.token.any (g.forged service a.circumstances.now) = false) :
    Settled g.server.db (g.after service (a.finds g.server) a.call).server.db ∧
      (g.after service (a.finds g.server) a.call).Confined P service := by
  obtain ⟨call, found⟩ := a
  cases call with
  | login body =>
      have hsettled : Settled g.server.db (outcome (login service body)
          (ApiStep.finds ⟨.login body, found⟩ g.server)).2.db :=
        login_settled body (ApiStep.finds ⟨.login body, found⟩ g.server)
      rw [Gateway.after, Gateway.issue_server]
      refine ⟨hsettled, hconfined.issue hsettled fun tokens user hresult => ?_⟩
      obtain ⟨⟨row, hrow, hscan⟩, hpair⟩ := login_account hresult
      exact ⟨(within_of_scan hrow hscan (hadmits tokens user hresult)).settled hsettled, hpair⟩
  | signup body =>
      have hsettled : Settled g.server.db (outcome (signup service body)
          (ApiStep.finds ⟨.signup body, found⟩ g.server)).2.db :=
        signup_settled body (ApiStep.finds ⟨.signup body, found⟩ g.server)
      rw [Gateway.after, Gateway.issue_server]
      refine ⟨hsettled, hconfined.issue hsettled fun tokens user hresult => ?_⟩
      have hout : outcome (signup service body) (ApiStep.finds ⟨.signup body, found⟩ g.server) =
          (.ok (tokens, user), _) := Prod.ext hresult rfl
      obtain ⟨-, hwithin, hpair⟩ := signup_eq_ok hout
      exact ⟨hwithin (hadmits tokens user hresult), hpair⟩
  | refresh refreshToken =>
      have hsettled : Settled g.server.db (outcome (refresh service refreshToken)
          (ApiStep.finds ⟨.refresh refreshToken, found⟩ g.server)).2.db :=
        refresh_settled refreshToken (ApiStep.finds ⟨.refresh refreshToken, found⟩ g.server)
      rw [Gateway.after, Gateway.issue_server]
      refine ⟨hsettled, hconfined.issue hsettled fun tokens user hresult => ?_⟩
      have hout : outcome (refresh service refreshToken)
          (ApiStep.finds ⟨.refresh refreshToken, found⟩ g.server) = (.ok (tokens, user), _) :=
        Prod.ext hresult rfl
      have hgenuine : g.forged service found.now refreshToken = false := by
        simpa [ApiCall.token] using hforged
      exact refresh_within (s := ApiStep.finds ⟨.refresh refreshToken, found⟩ g.server) hjwt
        hconfined rfl hgenuine hadmits hout
  | request endpoint authHeader r =>
      have hsettled : Settled g.server.db (outcome (served service endpoint.handler authHeader r)
          (ApiStep.finds ⟨.request endpoint authHeader r, found⟩ g.server)).2.db :=
        request_settled endpoint authHeader r
          (ApiStep.finds ⟨.request endpoint authHeader r, found⟩ g.server)
      exact ⟨hsettled, hconfined.settled hsettled⟩
  | admin endpoint authHeader r =>
      have hgenuine : g.Genuine service found.now authHeader := by
        intro token htoken
        simpa [ApiCall.token, htoken] using hforged
      obtain ⟨error, hout, -⟩ := hconfined.closed hjwt hP endpoint authHeader r
        (ApiStep.finds ⟨.admin endpoint authHeader r, found⟩ g.server) hgenuine
      have hsettled : Settled g.server.db g.server.db := refl_of Settled g.server.db
      rw [Gateway.after, hout]
      exact ⟨hsettled, hconfined.settled hsettled⟩

/-- No superadmin logs in, and ids are exact when tokens are renewed. -/
def Unassuming (service : AuthService) (g : Gateway) (a : ApiStep) : Prop :=
  match a.call with
  | .login body => ∀ tokens user, (outcome (login service body) (a.finds g.server)).1 =
      .ok (tokens, user) → user.role ≠ "superadmin"
  | .refresh _ => g.server.ExactIDs
  | _ => True

/-- Whoever signs up is a viewer. -/
theorem admits_of_unassuming {a : ApiStep} (h : Unassuming service g a) :
    Admits (fun role _ => role ≠ "superadmin") service g a := by
  obtain ⟨call, found⟩ := a
  cases call with
  | signup body =>
      intro tokens user hresult
      have hout : outcome (signup service body) (ApiStep.finds ⟨.signup body, found⟩ g.server) =
          (.ok (tokens, user), _) := Prod.ext hresult rfl
      rw [(signup_eq_ok (P := fun _ _ => True) hout).1]
      decide
  | login body => exact h
  | refresh refreshToken => exact h
  | request endpoint authHeader r => exact h
  | admin endpoint authHeader r => exact h

/-- The accounts are those at the beginning, and viewers, and the superadmin's routes are closed. -/
structure Gateway.Unprivileged (service : AuthService) (s₀ : Server) (g : Gateway) : Prop where
  accounts : Settled s₀.db g.server.db
  closed : g.Closed service

/-- **Nobody gains privileges**: whatever is requested by whomever, unless a superadmin logs in,
the accounts keep their roles and the superadmin's routes are closed. -/
theorem unprivileged_of_unassuming (hjwt : service.jwt.Faithful) {s₀ : Server}
    {steps : List ApiStep}
    (hsteps : (gateway service s₀).AllSteps (Unassuming service) ⟨s₀, []⟩ steps) :
    (gateway service s₀).AllStates (Gateway.Unprivileged service s₀) ⟨s₀, []⟩ steps := by
  have hP : Scope.Common fun role _ => role ≠ "superadmin" := fun _ _ h => h
  refine Machine.allStates_of_allSteps (I := fun g : Gateway =>
      Settled s₀.db g.server.db ∧ g.Confined (fun role _ => role ≠ "superadmin") service) ?_
    (fun g hinv => ⟨hinv.1, hinv.2.closed hjwt hP⟩) steps _
    ⟨refl_of Settled s₀.db, fun token htoken => absurd htoken List.not_mem_nil⟩ hsteps
  intro g a g' hinv hunassuming hstep
  simp only [gateway, Option.ite_none_left_eq_some, Option.some.injEq] at hstep
  obtain ⟨hforged, rfl⟩ := hstep
  obtain ⟨hsettled, hconfined⟩ := confined_after hjwt hP hinv.2
    (admits_of_unassuming hunassuming) (Bool.eq_false_iff.mpr hforged)
  exact ⟨trans_of Settled hinv.1 hsettled, hconfined⟩

/-- A viewer logs in. -/
theorem userLogin_unprivileged : (gateway fleetAuth (oneUserAt 0)).AllStates
    (Gateway.Unprivileged fleetAuth (oneUserAt 0)) ⟨oneUserAt 0, []⟩ [userLogin] := by
  refine unprivileged_of_unassuming JWT.tally_faithful fun g' _ => ⟨?_, trivial⟩
  intro tokens user hresult
  obtain ⟨⟨row, hrow, hscan⟩, -⟩ := login_account hresult
  obtain rfl := List.mem_singleton.mp hrow
  obtain rfl := Option.some.inj hscan
  decide

end

end RudraNetra.API
