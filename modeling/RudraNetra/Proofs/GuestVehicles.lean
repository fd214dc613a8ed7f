/-
The vehicles of a guest link.

They are stored as a JSON text of quoted names, and read by splitting at every comma.  A name
that holds a comma comes back in parts, and a list of other names comes back as it was
(`parseVehicleIDs_iff`).
-/
import RudraNetra.Api.Office
import RudraNetra.Proofs.Statements

namespace RudraNetra.API

open SQL Effect

/-! ### The text -/

def quote (v : String) : String := "\"" ++ v ++ "\""

/-- A name that can be written without loss: it is there, and has no quote. -/
def Plain (v : String) : Prop := v ≠ "" ∧ '"' ∉ v.toList
deriving Decidable

theorem replace_quote {v : String} (h : '"' ∉ v.toList) : v.replace "\"" "" = v := by
  refine Go.replace_eq_self "" (by decide) fun before after hsplit => h ?_
  simp [hsplit]

/-- Names without quotes are written between quotes, and commas between them. -/
theorem vehicleListJSON_eq {vehicles : List String} (h : ∀ v ∈ vehicles, '"' ∉ v.toList) :
    vehicleListJSON vehicles = "[" ++ ",".intercalate (vehicles.map quote) ++ "]" := by
  rw [vehicleListJSON]
  congr 3
  refine List.map_congr_left fun v hv => ?_
  rw [replace_quote (h v hv)]
  rfl

/-- The brackets are taken off again. -/
theorem trim_brackets (inner : String) :
    Go.trimSuffix (Go.trimPrefix (Go.trim isSpace ("[" ++ inner ++ "]")) "[") "]" = inner := by
  rw [Go.trim_eq_self, String.append_assoc, Go.trimPrefix_append, Go.trimSuffix_append]
  · simp [isSpace]
  · simp [isSpace, List.getLast?_cons]
  · simp

theorem trim_quote {v : String} (h : Plain v) : Go.trim (· = '"') (Go.trim isSpace (quote v)) = v := by
  have hspace : Go.trim isSpace (quote v) = quote v := by
    refine Go.trim_eq_self ?_ ?_ ?_ <;> simp [quote, isSpace, List.getLast?_cons]
  rw [hspace]
  refine Go.trim_surround (by simp) (by simp) (fun c hc => ?_) (fun c hc => ?_) h.1
  · have hne : c ≠ '"' := fun hquote => h.2 (hquote ▸ List.mem_of_mem_head? hc)
    simpa using hne
  · have hne : c ≠ '"' := fun hquote => h.2 (hquote ▸ List.mem_of_mem_getLast? hc)
    simpa using hne

/-- No name that is read has a comma. -/
theorem not_mem_of_mem_parseVehicleIDs {raw v : String} (h : v ∈ parseVehicleIDs raw) :
    ',' ∉ v.toList := by
  unfold parseVehicleIDs at h
  dsimp only at h
  split at h
  · simp at h
  · obtain ⟨part, hpart, rfl⟩ := List.mem_map.mp (List.mem_of_mem_filter h)
    exact fun hcomma =>
      Go.not_mem_of_mem_split hpart (Go.mem_of_mem_trim (Go.mem_of_mem_trim hcomma))

/-- Names without commas are read as they were written. -/
theorem parse_plain {vehicles : List String} (hplain : ∀ v ∈ vehicles, Plain v)
    (hcomma : ∀ v ∈ vehicles, ',' ∉ v.toList) :
    parseVehicleIDs (vehicleListJSON vehicles) = vehicles := by
  rw [vehicleListJSON_eq fun v hv => (hplain v hv).2, parseVehicleIDs, trim_brackets]
  by_cases hnone : vehicles = []
  · subst hnone
    rfl
  · have hfilled : isBlank (",".intercalate (vehicles.map quote)) = false := by
      obtain ⟨v, rest, rfl⟩ := List.exists_cons_of_ne_nil hnone
      have hquote : '"' ∈ (",".intercalate ((v :: rest).map quote)).toList := by
        rw [String.toList_intercalate]
        cases rest <;> simp [quote]
      rw [isBlank, List.all_eq_false]
      exact ⟨'"', hquote, by decide⟩
    have hseparate : ∀ part ∈ vehicles.map quote, ',' ∉ part.toList := by
      simpa [quote] using hcomma
    have hparts : Go.split (",".intercalate (vehicles.map quote)) ',' = vehicles.map quote :=
      Go.split_intercalate hseparate (by simpa using hnone)
    rw [if_neg (by simp [hfilled]), hparts, List.map_map]
    have hread : vehicles.map ((fun part => Go.trim (· = '"') (Go.trim isSpace part)) ∘ quote) =
        vehicles := by
      conv_rhs => rw [← List.map_id vehicles]
      exact List.map_congr_left fun v hv => trim_quote (hplain v hv)
    rw [hread, List.filter_eq_self]
    exact fun v hv => by simpa using (hplain v hv).1

/-- **Names are read as they were written exactly if none has a comma.** -/
theorem parseVehicleIDs_iff {vehicles : List String} (h : ∀ v ∈ vehicles, Plain v) :
    parseVehicleIDs (vehicleListJSON vehicles) = vehicles ↔
      ∀ v ∈ vehicles, ',' ∉ v.toList := by
  refine ⟨fun hsame v hv => ?_, parse_plain h⟩
  exact not_mem_of_mem_parseVehicleIDs (hsame.symm ▸ hv)

/-! ### The link -/

/-- The row of a guest link, but for the defaults of its table. -/
def tempUserColumns (s : Server) (companyID : Int) (req : Fields) : Columns :=
  [("company_id", some (.int companyID)),
    ("guest_name", some (.text (req.text "guestName"))),
    ("access_token", some (.text ("gst_" ++ s.random))),
    ("vehicle_ids", some (.text (vehicleListJSON (req.texts "vehicleIds")))),
    ("expires_at", some (.instant (s.now + req.int "durationHours" * (3600 * 10 ^ 9))))]

/-- A guest link that is made is one more row, with the vehicles of its request. -/
theorem tempUser_row {s s' : Server} {r : Request} {answer : Response}
    (hserve : outcome (createTempUserHandler.serve r) s = (.ok answer, s')) :
    ∃ row, s'.db.tables .tempUsers = s.db.tables .tempUsers ++ [row] ∧
      textOf row "vehicle_ids" = some (vehicleListJSON (r.fields.texts "vehicleIds")) := by
  obtain ⟨respond, hphases⟩ : ∃ respond : Int → Response,
      outcome (createTempUserHandler.work r (getEffectiveCompanyID r) (r.id.getD 0) r.fields) s =
        outcome (insertReturning .tempUsers (tempUserColumns s (getEffectiveCompanyID r) r.fields) >>=
          fun id => pure (respond id)) s := ⟨_, rfl⟩
  have hwork := (serve_eq_ok hserve).2
  rw [hphases] at hwork
  exact ⟨_, insertReturning_answer hwork, rfl⟩

/-- **A guest link lists the vehicles it was made for exactly if none of them has a comma.** -/
theorem guestVehicles_iff {s s' : Server} {r : Request} {answer : Response}
    (hserve : outcome (createTempUserHandler.serve r) s = (.ok answer, s'))
    (hplain : ∀ v ∈ r.fields.texts "vehicleIds", Plain v) :
    ∃ row, s'.db.tables .tempUsers = s.db.tables .tempUsers ++ [row] ∧
      (listedVehicleIDs row = r.fields.texts "vehicleIds" ↔
        ∀ v ∈ r.fields.texts "vehicleIds", ',' ∉ v.toList) := by
  obtain ⟨row, hrow, htext⟩ := tempUser_row hserve
  refine ⟨row, hrow, ?_⟩
  rw [listedVehicleIDs, htext, Option.getD_some, parseVehicleIDs_iff hplain]

/-- A request for a guest link. -/
def guestRequest (vehicles : List String) : Request where
  session := ⟨1, 1, "owner", "admin"⟩
  id := none
  type := ""
  companyID := none
  body := .ok { Fields.empty with
    text := fun field => if field = "guestName" then "Asha" else ""
    int := fun _ => 4
    texts := fun _ => vehicles }

/-- The outcome of that request in a new company. -/
def linked (vehicles : List String) : Except Response Response × Server :=
  outcome (createTempUserHandler.serve (guestRequest vehicles)) (calm newCompany .lenient [])

/-- A name with a comma is listed as two. -/
theorem commaVehicle_split : ∃ answer s', linked ["KA 01, spare"] = (.ok answer, s') ∧
    ∃ row ∈ s'.db.tables .tempUsers, listedVehicleIDs row = ["KA 01", "spare"] := by
  have hok : (linked ["KA 01, spare"]).1.isOk = true := by decide +kernel
  rcases hout : linked ["KA 01, spare"] with ⟨error | answer, s'⟩
  · rw [hout] at hok
    cases hok
  · obtain ⟨row, hrow, htext⟩ := tempUser_row hout
    refine ⟨answer, s', rfl, row, by simp [hrow], ?_⟩
    rw [listedVehicleIDs, htext, Option.getD_some]
    show parseVehicleIDs (vehicleListJSON ["KA 01, spare"]) = _
    rw [vehicleListJSON_eq (by decide)]
    decide +kernel

/-- Names with brackets, blanks and a backslash are listed as they were sent. -/
theorem plainVehicles_kept : (linked ["[KA 01]", " MH\\02 "]).1.isOk = true ∧
    ∃ row ∈ (linked ["[KA 01]", " MH\\02 "]).2.db.tables .tempUsers,
      listedVehicleIDs row = ["[KA 01]", " MH\\02 "] := by
  have hok : (linked ["[KA 01]", " MH\\02 "]).1.isOk = true := by decide +kernel
  refine ⟨hok, ?_⟩
  rcases hout : linked ["[KA 01]", " MH\\02 "] with ⟨error | answer, s'⟩
  · rw [hout] at hok
    cases hok
  · obtain ⟨row, hrow, hlisted⟩ := guestVehicles_iff hout (by decide)
    exact ⟨row, by simp [hrow], hlisted.mpr (by decide)⟩

end RudraNetra.API
