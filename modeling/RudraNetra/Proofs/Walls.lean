/-
Walls between tenants, over whole runs of the API.

`Proofs/Isolation.lean` is about one request of a session that is given.  A session is that
of a token, and tokens are for the companies of the accounts they are issued to, which no
request moves; so if nobody of a company logs in, nor a superadmin, then whatever the others
request leaves every row of that company as it is, as long as it is harmless
(`untouched_of_abroad`).
-/
import RudraNetra.Proofs.Isolation
import RudraNetra.Proofs.Privileges

namespace RudraNetra.API

open SQL Effect JWT

/-- The row is company `d`'s. -/
def Belongs (d : Int) (tables : Tables Table Datum) : Table → Row Datum → Prop
  | .companies, row => row "id" = some (.int d)
  | .vehicleGroupMembers, row =>
    ∃ group ∈ tables .vehicleGroups, group "id" = row "group_id" ∧
      group "company_id" = some (.int d)
  | _, row => row "company_id" = some (.int d)

/-- The company's rows are still there. -/
def Untouched (d : Int) (db db' : SQL.Database schema Datum) : Prop :=
  ∀ t, ∀ row ∈ db.tables t, Belongs d db.tables t row → row ∈ db'.tables t

section

variable {c d : Int} {t : Table} {row : Row Datum}

theorem Belongs.foreign {tables : Tables Table Datum} (h : Belongs d tables t row) (hne : c ≠ d) :
    Foreign c tables t row := by
  have hother : some (Datum.int d) ≠ some (.int c) := by simpa using hne.symm
  cases t with
  | vehicleGroupMembers =>
      obtain ⟨group, hgroup, hid, hcompany⟩ := h
      exact ⟨group, hgroup, hid, hcompany ▸ hother⟩
  | _ =>
      intro hrow
      exact hother (Eq.symm h |>.trans hrow)

theorem Belongs.untouched {db db' : SQL.Database schema Datum} (h : Belongs d db.tables t row)
    (huntouched : Untouched d db db') : Belongs d db'.tables t row := by
  cases t with
  | vehicleGroupMembers =>
      obtain ⟨group, hgroup, hid, hcompany⟩ := h
      exact ⟨group, huntouched .vehicleGroups group hgroup hcompany, hid, hcompany⟩
  | _ => exact h

instance : Std.Refl (Untouched d) := ⟨fun _ _ _ hrow _ => hrow⟩

instance : IsTrans (SQL.Database schema Datum) (Untouched d) where
  trans := by
    intro db db' db'' h h' t row hrow hbelongs
    exact h' t row (h t row hrow hbelongs) (hbelongs.untouched h)

end

section

variable {service : AuthService} {s : Server} {g : Gateway} {d : Int}

/-! ### One request -/

theorem updateLastLogin_untouched {row : Row Datum} {id : Int} (hrow : row ∈ s.db.tables .users)
    (hid : row "id" = some (.int id)) (hcompany : row "company_id" ≠ some (.int d)) :
    OnDatabase (Untouched d) s (outcome (attempt (updateLastLogin id)) s).2 := by
  rw [attempt_snd, updateLastLogin, outcome_bind, outcome_now]
  dsimp only
  rw [outcome_bind]
  rcases outcome_exec_cases s (.update .users
    [setTo "last_login_at" (some (.instant s.now))] [("id", .int id)]) with
    ⟨db, n, -, hexec, hout⟩ | ⟨hout, -⟩
  · rw [hout]
    intro t own hown hbelongs
    refine retains_update hexec (fun hu hselects => ?_) hown
    subst hu
    -- the only row with this id is another company's
    have hownid : own "id" = some (.int id) := by simpa using hselects
    have hagree : Agree ["id"] own row := by simp [Agree, hownid, hid]
    obtain rfl := s.db.valid.eq_of_agree (u := (.users, ["id"])) (by decide) hown hrow hagree
    exact absurd hbelongs hcompany
  · rw [hout]
    exact refl_of (Untouched d) s.db

theorem login_untouched {body : Except String Fields}
    (hadmits : ∀ tokens user, (outcome (login service body) s).1 = .ok (tokens, user) →
      user.companyID ≠ d) :
    OnDatabase (Untouched d) s (outcome (login service body) s).2 := by
  rcases hout : outcome (login service body) s with ⟨result, s'⟩
  rw [hout] at hadmits
  rcases login_cases hout with ⟨-, hdb⟩ | ⟨tokens, user, mid, hissued, hs', hmid, haccount, -⟩
  · show Untouched d s.db s'.db
    rw [hdb]
    exact refl_of (Untouched d) s.db
  · obtain ⟨row, hrow, hscan⟩ := haccount
    have hcompany : row "company_id" ≠ some (.int d) := by
      intro hrowd
      refine hadmits tokens user hissued ?_
      rw [(scanUser_scope hscan).2, intOf, hrowd]
      rfl
    have hid := eq_of_intOf (scanUser_eq_some hscan).1
    show Untouched d s.db s'.db
    rw [hs', ← hmid]
    exact updateLastLogin_untouched (hmid ▸ hrow) hid hcompany

theorem signup_untouched (body : Except String Fields) :
    OnDatabase (Untouched d) s (outcome (signup service body) s).2 := by
  intro t row hrow _
  refine keeps_signup (R := Retains t row) body (fun req hash => ?_) s hrow
  exact keeps_create.bind fun _ => keeps_now.bind fun _ => keeps_pure _

theorem refresh_untouched (refreshToken : String) :
    OnDatabase (Untouched d) s (outcome (refresh service refreshToken) s).2 := by
  intro t row hrow _
  have hgrows : s.Grows [] (outcome (refresh service refreshToken) s).2 :=
    refresh_grows refreshToken s
  obtain ⟨row', hrow', hsame⟩ := hgrows.evolves.survives t not_loses_nil row hrow
  obtain rfl : row' = row := funext fun c => hsame c not_changes_nil
  exact hrow'

/-- The users of other companies, but for superadmins. -/
def abroad (d : Int) : Scope := fun role companyID =>
  role ≠ "superadmin" ∧ companyID ≠ 0 ∧ companyID ≠ d

theorem abroad_common : (abroad d).Common := fun _ _ h => h.1

theorem request_untouched (hjwt : service.jwt.Faithful) (hconfined : g.Confined (abroad d) service)
    {e : Endpoint} {authHeader : String} {r : Request}
    (hgenuine : g.Genuine service s.now authHeader)
    (hharmless : ∀ session, auth service s.now authHeader = .ok session →
      e.handler.refuses { r with session } = none →
        Harmless session.companyID s.db.tables { r with session } e) :
    OnDatabase (Untouched d) s (outcome (served service e.handler authHeader r) s).2 := by
  rw [served, outcome_bind, outcome_get]
  dsimp only
  cases hauth : auth service s.now authHeader with
  | error error => exact refl_of (Untouched d) s.db
  | ok session =>
      obtain ⟨role, ⟨-, hzero, hne⟩, -⟩ := hconfined.session hjwt hgenuine hauth
      have hrole := hconfined.session_role hjwt abroad_common hgenuine hauth
      have hcompany : getEffectiveCompanyID { r with session } = session.companyID := by
        unfold getEffectiveCompanyID
        split
        · rw [if_neg]
          rintro ⟨hadmin | hnone, -⟩
          · exact hrole hadmin
          · exact hzero hnone
        · rfl
      intro t row hrow hbelongs
      dsimp only
      rcases outcome_serve_cases e.handler { r with session } s with
        ⟨error, hout, -⟩ | ⟨-, hrefuses, hout⟩
      · rw [hout]
        exact hrow
      · rw [hout, hcompany]
        exact work_stays e hrow (hbelongs.foreign hne) (hharmless session hauth hrefuses) hrow

/-! ### Runs -/

/-- Nobody of the company logs in or signs up, nor a superadmin, and requests are harmless. -/
def Abroad (d : Int) (service : AuthService) (g : Gateway) (a : ApiStep) : Prop :=
  Admits (abroad d) service g a ∧
    ∀ e authHeader r session, a.call = .request e authHeader r →
      auth service a.circumstances.now authHeader = .ok session →
        e.handler.refuses { r with session } = none →
          Harmless session.companyID g.server.db.tables { r with session } e

theorem untouched_after (hjwt : service.jwt.Faithful) (hconfined : g.Confined (abroad d) service)
    {a : ApiStep} (habroad : Abroad d service g a)
    (hforged : a.call.token.any (g.forged service a.circumstances.now) = false) :
    Untouched d g.server.db (g.after service (a.finds g.server) a.call).server.db := by
  obtain ⟨hadmits, hharmless⟩ := habroad
  obtain ⟨call, found⟩ := a
  cases call with
  | login body =>
      rw [Gateway.after, Gateway.issue_server]
      exact login_untouched fun tokens user hresult => (hadmits tokens user hresult).2.2
  | signup body =>
      rw [Gateway.after, Gateway.issue_server]
      exact signup_untouched (s := ApiStep.finds ⟨.signup body, found⟩ g.server) body
  | refresh refreshToken =>
      rw [Gateway.after, Gateway.issue_server]
      exact refresh_untouched (s := ApiStep.finds ⟨.refresh refreshToken, found⟩ g.server)
        refreshToken
  | request e authHeader r =>
      have hgenuine : g.Genuine service found.now authHeader := by
        intro token htoken
        simpa [ApiCall.token, htoken] using hforged
      exact request_untouched
        (s := ApiStep.finds ⟨.request e authHeader r, found⟩ g.server) hjwt hconfined hgenuine
        fun session hauth hrefuses => hharmless e authHeader r session rfl hauth hrefuses
  | admin e authHeader r =>
      have hgenuine : g.Genuine service found.now authHeader := by
        intro token htoken
        simpa [ApiCall.token, htoken] using hforged
      obtain ⟨error, hout, -⟩ := hconfined.closed hjwt abroad_common e authHeader r
        (ApiStep.finds ⟨.admin e authHeader r, found⟩ g.server) hgenuine
      rw [Gateway.after, hout]
      exact refl_of (Untouched d) g.server.db

end

/-! ### Two companies -/

/-- Company 1 has a user, and company 2 a place. -/
def neighbours : SQL.Database schema Datum where
  tables
    | .companies => [1, 2].map fun id => Table.row .companies 0 [("id", some (.int id))]
    | .users =>
      [Table.row .users 0 [("id", some (.int 9)), ("company_id", some (.int 1)),
        ("username", some (.text "guest")), ("password_hash", some (.text ""))]]
    | .poi => [Table.row .poi 0 [("id", some (.int 5)), ("company_id", some (.int 2))]]
    | _ => []
  valid := by decide

/-- The user asks for the place to be deleted, with the token of a login a minute ago. -/
def placeDeletion : ApiStep where
  call := .request .deletePOI
    ("Bearer " ++ ((fleetAuth.generateTokenPair Go.minute guest).map (·.accessToken)).getD "")
    ⟨⟨0, 0, "", ""⟩, some 5, "", none, .ok Fields.empty⟩
  circumstances := oneUserAt (2 * Go.minute)

end RudraNetra.API
