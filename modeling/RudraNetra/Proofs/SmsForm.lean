/-
The form of the SMS gateway, saved as it was read.

The key is shown as asterisks and its last four bytes, and saved unless the text holds four
asterisks together.  A mask of fewer asterisks is therefore saved as the key, unless it is the
key; a key with four asterisks is never saved; and a form that was read in vain switches the
gateway off (`smsForm_iff`).
-/
import RudraNetra.Api.Office
import RudraNetra.Lib.GoText
import RudraNetra.Proofs.Statements

namespace RudraNetra.API

open SQL Effect

/-! ### Masks -/

/-- Four asterisks together, as `LIKE '%****%'` asks for them. -/
def Starred (text : String) : Prop := List.replicate 4 '*' <:+: text.toList

/-- A window of equal elements, at the end of more of them. -/
theorem replicate_infix_iff {α : Type} {a : α} {l : List α} {k n : Nat} (hk : k ≤ n)
    (hl : l.length ≤ n) :
    List.replicate n a <:+: List.replicate k a ++ l ↔
      l.take (n - k) = List.replicate (n - k) a := by
  constructor
  · rintro ⟨before, after, hsplit⟩
    have hlength := congrArg List.length hsplit
    simp only [List.length_append, List.length_replicate] at hlength
    have hrest := congrArg (List.drop before.length) hsplit
    rw [List.append_assoc, List.drop_left, List.drop_append_of_le_length (by simp; omega),
      List.drop_replicate] at hrest
    have hwindow : List.replicate n a = List.replicate (k - before.length) a ++
        List.replicate (n - (k - before.length)) a := by
      rw [← List.replicate_add]
      congr 1
      omega
    rw [hwindow, List.append_assoc] at hrest
    rw [← List.append_cancel_left hrest, List.take_append_of_le_length (by simp; omega),
      List.take_replicate]
    congr 1
    omega
  · intro htake
    refine ⟨[], l.drop (n - k), ?_⟩
    have hwindow : List.replicate n a = List.replicate k a ++ l.take (n - k) := by
      rw [htake, ← List.replicate_add]
      congr 1
      omega
    rw [List.nil_append, hwindow, List.append_assoc, List.take_append_drop]

theorem toLower_eq_star {c : Char} (h : '*'.toLower = c.toLower) : c = '*' := by
  have hstar : '*'.toLower = '*' := by decide
  rw [hstar, Char.toLower] at h
  split at h
  · rename_i hupper
    have hval := congrArg (·.val.toNat) h
    obtain ⟨hlow, hhigh⟩ := hupper
    rw [ge_iff_le, UInt32.le_iff_toNat_le] at hlow
    rw [UInt32.le_iff_toNat_le] at hhigh
    have hfirst : 'A'.val.toNat = 65 := rfl
    have hlast : 'Z'.val.toNat = 90 := rfl
    have hgap : ('a'.val - 'A'.val).toNat = 32 := rfl
    have hasterisk : '*'.val.toNat = 42 := rfl
    rw [UInt32.toNat_add, hgap, hasterisk] at hval
    omega
  · exact h.symm

theorem ilike_star_iff {pattern text : List Char} :
    ilike ('*' :: pattern) text = true ↔ ∃ rest, text = '*' :: rest ∧ ilike pattern rest = true := by
  cases text with
  | nil => simp [ilike]
  | cons c text =>
    rw [ilike, Bool.and_eq_true, decide_eq_true_eq]
    · constructor
      · rintro ⟨hsame, hrest⟩
        exact ⟨text, by rw [toLower_eq_star hsame], hrest⟩
      · rintro ⟨rest, hcons, hrest⟩
        obtain ⟨rfl, rfl⟩ := List.cons.inj hcons
        exact ⟨rfl, hrest⟩
    all_goals simp

theorem ilike_percent_iff {pattern text : List Char} : ilike ('%' :: pattern) text = true ↔
    ∃ before rest, text = before ++ rest ∧ ilike pattern rest = true := by
  rw [ilike, List.any_eq_true]
  simp only [List.mem_tails, List.IsSuffix]
  constructor
  · rintro ⟨rest, ⟨before, rfl⟩, hrest⟩
    exact ⟨before, rest, rfl, hrest⟩
  · rintro ⟨before, rest, rfl, hrest⟩
    exact ⟨rest, ⟨before, rfl⟩, hrest⟩

/-- The pattern of the update finds four asterisks together. -/
theorem like_iff {text : String} : ilike "%****%".toList text.toList = true ↔ Starred text := by
  have hpattern : "%****%".toList = ['%', '*', '*', '*', '*', '%'] := by decide
  have hall : ∀ rest, ilike ['%'] rest = true :=
    fun rest => ilike_percent_iff.mpr ⟨rest, [], by simp, rfl⟩
  rw [hpattern, ilike_percent_iff]
  simp only [ilike_star_iff, hall, and_true]
  constructor
  · rintro ⟨before, _, htext, _, rfl, _, rfl, _, rfl, rest, rfl⟩
    exact ⟨before, rest, by rw [htext, List.append_assoc]; rfl⟩
  · rintro ⟨before, rest, htext⟩
    exact ⟨before, '*' :: '*' :: '*' :: '*' :: rest, by rw [← htext, List.append_assoc]; rfl,
      _, rfl, _, rfl, _, rfl, rest, rfl⟩

theorem newKey_iff {key : String} : newKey key = true ↔ key ≠ "" ∧ ¬Starred key := by
  rw [newKey, decide_eq_true_eq, Bool.not_eq_true', ← Bool.not_eq_true, like_iff]

/-! ### The mask of a key -/

/-- The asterisk is one byte. -/
theorem encode_star : String.utf8EncodeChar '*' = [0x2A] := by decide

/-- The key ends in enough asterisks for its mask, or is its mask. -/
def MaskHolds (bytes : List UInt8) : Prop :=
  bytes.take (bytes.length - 4) = List.replicate (bytes.length - 4) 0x2A ∨
    (bytes.drop (bytes.length - 4)).take (8 - bytes.length) =
      List.replicate (8 - bytes.length) 0x2A

/-- The text of a mask. -/
theorem textOf_maskedKey {bytes : List UInt8} (h : 4 < bytes.length) :
    (Go.textOf (maskedKey bytes)).toList = List.replicate (bytes.length - 4) '*' ++
      Go.decodeText 4 (bytes.drop (bytes.length - 4)) := by
  have hfour : (List.replicate (bytes.length - 4) 0x2A ++ bytes.drop (bytes.length - 4)).length =
      bytes.length - 4 + 4 := by
    simp
    omega
  rw [maskedKey, if_pos h, Go.textOf, String.toList_ofList, hfour, Go.decodeText_replicate encode_star]

/-- A mask is recognised exactly if the key ends in enough asterisks. -/
theorem starred_maskedKey_iff {bytes : List UInt8} (h : 4 < bytes.length) :
    Starred (Go.textOf (maskedKey bytes)) ↔ (bytes.drop (bytes.length - 4)).take (8 - bytes.length) =
      List.replicate (8 - bytes.length) 0x2A := by
  have htail : (bytes.drop (bytes.length - 4)).length ≤ 4 := by
    rw [List.length_drop]
    omega
  rw [Starred, textOf_maskedKey h]
  by_cases hlong : 8 ≤ bytes.length
  · refine iff_of_true ?_ ?_
    · refine ⟨[], List.replicate (bytes.length - 8) '*' ++
      Go.decodeText 4 (bytes.drop (bytes.length - 4)), ?_⟩
      rw [List.nil_append, ← List.append_assoc, ← List.replicate_add]
      congr 2
      omega
    · rw [Nat.sub_eq_zero_of_le hlong]
      rfl
  · rw [replicate_infix_iff (by omega) (Go.length_decodeText_le 4 _),
      show 4 - (bytes.length - 4) = 8 - bytes.length by omega,
      Go.decodeText_take_iff encode_star _ 4 _ htail]

theorem maskedKey_ne_empty {bytes : List UInt8} (h : 4 < bytes.length) :
    Go.textOf (maskedKey bytes) ≠ "" := by
  intro hempty
  have hlength := congrArg (·.toList.length) hempty
  rw [textOf_maskedKey h] at hlength
  simp at hlength
  omega

/-- A mask is the key exactly if the key begins with the asterisks. -/
theorem maskedKey_eq_iff {key : String} (h : 4 < (Go.bytesOf key).length) :
    Go.textOf (maskedKey (Go.bytesOf key)) = key ↔
      (Go.bytesOf key).take ((Go.bytesOf key).length - 4) =
        List.replicate ((Go.bytesOf key).length - 4) 0x2A := by
  constructor
  · intro hsame
    have hbytes := Go.bytesOf_eq (Go.textOf (maskedKey (Go.bytesOf key)))
    rw [textOf_maskedKey h, List.flatMap_append, List.flatMap_replicate, encode_star,
      List.flatten_replicate_singleton, hsame] at hbytes
    have hprefix : List.replicate ((Go.bytesOf key).length - 4) 0x2A <+: Go.bytesOf key :=
      ⟨_, hbytes.symm⟩
    rw [List.prefix_iff_eq_take, List.length_replicate] at hprefix
    exact hprefix.symm
  · intro hstars
    rw [maskedKey, if_pos h, ← hstars, List.take_append_drop, Go.textOf_bytesOf]

/-- **A key outlives its mask exactly if the mask is recognised, or is the key.** -/
theorem mask_iff (key : String) :
    (newKey (Go.textOf (maskedKey (Go.bytesOf key))) = false ∨
      Go.textOf (maskedKey (Go.bytesOf key)) = key) ↔ MaskHolds (Go.bytesOf key) := by
  by_cases h : 4 < (Go.bytesOf key).length
  · have hnew : newKey (Go.textOf (maskedKey (Go.bytesOf key))) = false ↔
        Starred (Go.textOf (maskedKey (Go.bytesOf key))) := by
      rw [← Bool.not_eq_true, newKey_iff, and_iff_right (maskedKey_ne_empty h), not_not]
    rw [hnew, starred_maskedKey_iff h, maskedKey_eq_iff h, or_comm]
    rfl
  · have hnone : maskedKey (Go.bytesOf key) = [] := if_neg h
    refine iff_of_true (.inl ?_) (.inl ?_)
    · rw [hnone]
      decide
    · rw [Nat.sub_eq_zero_of_le (Nat.le_of_not_lt h)]
      rfl

/-! ### The row -/

/-- What the form shows of a row. -/
def formOf (row : Row Datum) : Option Datum × Option Datum × Option Datum × Option Datum :=
  (row "provider", row "sender_id", row "api_key", row "enabled")

/-- What a form sets in the row of its company. -/
def smsAssignments (now : Int) (req : Fields) : List Assignment :=
  [keepText "provider" (req.text "provider"),
    keepText "sender_id" (req.text "senderId"),
    keepUnless "api_key"
      (if newKey (req.text "apiKey") then some (.text (req.text "apiKey")) else none),
    keepUnless "enabled" ((req.flag "enabled").map .bool),
    touch now]

theorem smsAssignments_free (now : Int) (req : Fields) :
    schema.Free .smsConfig (smsAssignments now req) :=
  .of_columns ["provider", "sender_id", "api_key", "enabled", "updated_at"] rfl (by decide)
    (by decide) (by decide)

/-- The row after a form is saved. -/
def savedRow (s : Server) (req : Fields) (row : Row Datum) : Row Datum :=
  Assignments.apply (smsAssignments s.now req) row

section

variable {s : Server} {c : Int} {req : Fields} {row : Row Datum}

/-- A form is saved in the row of its company, or nothing changes. -/
theorem save_cases (r : Request) (id : Int) (req : Fields) (hrow : row ∈ s.db.tables .smsConfig)
    (hcompany : row "company_id" = some (.int c)) :
    (s.Clear ∧ savedRow s req row ∈
      (outcome (updateSmsConfigHandler.work r c id req) s).2.db.tables .smsConfig) ∨
    ¬s.Clear ∧ (outcome (updateSmsConfigHandler.work r c id req) s).2.db = s.db := by
  let fresh := Table.row .smsConfig s.now
    [("company_id", some (.int c)),
      ("provider", nonEmpty (req.text "provider")),
      ("sender_id", nonEmpty (req.text "senderId")),
      ("api_key", nonEmpty (req.text "apiKey")),
      ("enabled", coalesce ((req.flag "enabled").map .bool) (.bool false)),
      ("updated_at", some (.instant s.now))]
  have hfresh : fresh "company_id" = some (.int c) := rfl
  obtain ⟨db, hupdate⟩ :=
    s.db.exec_update (smsAssignments_free s.now req) [("company_id", Datum.int c)]
  obtain ⟨n, hsave⟩ := Database.insertOrUpdate_of_update hfresh hrow hcompany hupdate
  have hwork : outcome (updateSmsConfigHandler.work r c id req) s =
      outcome (exec (.insertOrUpdate .smsConfig fresh ["company_id"] (smsAssignments s.now req)) >>=
        fun _ => pure (Response.ok "SMS gateway configuration updated")) s := rfl
  rw [hwork]
  rcases outcome_exec_cases s
    (.insertOrUpdate .smsConfig fresh ["company_id"] (smsAssignments s.now req)) with
    ⟨db', m, hclear, hexec, hout⟩ | ⟨hout, hrefused⟩
  · rw [outcome_bind_of_ok hout]
    obtain ⟨rfl, -⟩ := Prod.mk.inj (Option.some.inj (hexec.symm.trans hsave))
    refine .inl ⟨hclear, (Database.mem_update_iff hupdate).mpr ⟨row, hrow, if_pos ?_⟩⟩
    simpa using hcompany
  · rw [outcome_bind_of_error hout]
    refine .inr ⟨fun hclear => ?_, rfl⟩
    exact absurd (hsave.symm.trans (hrefused hclear)) (by simp)

/-- The text of a column, as it is shown. -/
def shownText (row : Row Datum) (column : String) : String := (textOf row column).getD ""

/-- A text that is sent back as it was shown, or empty, changes nothing. -/
theorem keep_shown {column text : String} (h : text = shownText row column ∨ text = "") :
    (nonEmpty text).or (row column) = row column := by
  unfold nonEmpty
  split
  · rfl
  · rename_i hsome
    have hshown := h.resolve_right hsome
    unfold shownText at hshown
    cases htext : textOf row column with
    | none =>
      rw [htext] at hshown
      exact absurd hshown hsome
    | some shown =>
      rw [htext] at hshown
      rw [Option.some_or, eq_of_textOf htext, hshown]
      rfl

/-- A key that is sent leaves the stored one if it is not new, or is the one. -/
theorem keep_key_iff {key : String} :
    (if newKey key then some (.text key) else none : Option Datum).or (row "api_key") =
      row "api_key" ↔ newKey key = false ∨ key = shownText row "api_key" := by
  cases hnew : newKey key with
  | false => simp
  | true =>
    have hsome : key ≠ "" := (newKey_iff.mp hnew).1
    simp only [if_true, Option.some_or, Bool.true_eq_false, false_or, shownText]
    constructor
    · intro hsame
      simp [textOf, ← hsame]
    · intro hshown
      cases htext : textOf row "api_key" with
      | none =>
        rw [htext] at hshown
        exact absurd hshown hsome
      | some shown =>
        rw [htext] at hshown
        rw [eq_of_textOf htext, hshown]
        rfl

/-- **What a form keeps**, that has the other texts as they were shown. -/
theorem formOf_savedRow_iff {enabled : Bool}
    (hprovider : req.text "provider" = shownText row "provider" ∨ req.text "provider" = "")
    (hsender : req.text "senderId" = shownText row "sender_id" ∨ req.text "senderId" = "")
    (henabled : req.flag "enabled" = some enabled) :
    formOf (savedRow s req row) = formOf row ↔
      (newKey (req.text "apiKey") = false ∨ req.text "apiKey" = shownText row "api_key") ∧
        row "enabled" = some (.bool enabled) := by
  have hforms : formOf (savedRow s req row) =
      ((nonEmpty (req.text "provider")).or (row "provider"),
        (nonEmpty (req.text "senderId")).or (row "sender_id"),
        (if newKey (req.text "apiKey") then some (.text (req.text "apiKey")) else none :
          Option Datum).or (row "api_key"),
        ((req.flag "enabled").map .bool).or (row "enabled")) := rfl
  rw [hforms, keep_shown hprovider, keep_shown hsender, henabled]
  simp only [formOf, Prod.mk.injEq, true_and, keep_key_iff, Option.map_some, Option.some_or]
  exact and_congr_right fun _ => eq_comm

end

/-! ### The form -/

/-- The company's row shows what a row showed. -/
def FormKept (db : SQL.Database schema Datum) (row : Row Datum) : Prop :=
  ∃ row' ∈ db.tables .smsConfig, row' "company_id" = row "company_id" ∧ formOf row' = formOf row

/-- A request that sends back what was read. -/
structure Echoes (config : SmsConfig) (req : Fields) : Prop where
  provider : req.text "provider" = config.provider
  senderID : req.text "senderId" = config.senderID
  apiKey : req.text "apiKey" = Go.textOf config.apiKey
  enabled : req.flag "enabled" = some config.enabled

/-- The gateway of a row. -/
def configOf (row : Row Datum) : SmsConfig where
  provider := shownText row "provider"
  senderID := shownText row "sender_id"
  apiKey := maskedKey (Go.bytesOf (shownText row "api_key"))
  enabled := (boolOf row "enabled").getD false

section

variable {s s₁ : Server} {r : Request} {config : SmsConfig} {row : Row Datum}

theorem getSms_eq_ok (h : outcome (getSmsConfigHandler r) s = (.ok config, s₁)) :
    companyScope r = none ∧ s₁.db = s.db ∧ config = ((s.first .smsConfig
      (Condition.selects [("company_id", .int (getEffectiveCompanyID r))])).map configOf).getD
        ⟨"", "", [], false⟩ := by
  unfold getSmsConfigHandler at h
  cases hpool : s.pool with
  | false => simp [outcome_bind, hpool] at h
  | true =>
    cases hscope : companyScope r with
    | some error => simp [outcome_bind, hpool, hscope] at h
    | none =>
      have hdb : s.asked.db = s.db := by
        unfold Server.asked
        split <;> rfl
      refine ⟨rfl, ?_⟩
      simp only [outcome_bind, outcome_get, hpool, hscope, Bool.not_true, Bool.false_eq_true,
        if_false] at h
      rw [outcome_selectFirst_eq] at h
      cases hfirst : s.first .smsConfig
          (Condition.selects [("company_id", .int (getEffectiveCompanyID r))]) with
      | none =>
        rw [hfirst] at h
        cases h
        exact ⟨hdb, rfl⟩
      | some row =>
        rw [hfirst] at h
        cases h
        exact ⟨hdb, rfl⟩

/-- The form of a row, if the query for it does not fail. -/
theorem getSms_config (h : outcome (getSmsConfigHandler r) s = (.ok config, s₁))
    (hrow : row ∈ s.db.tables .smsConfig)
    (hcompany : row "company_id" = some (.int (getEffectiveCompanyID r))) :
    config = if s.tx = some true ∨ s.faults.head? = some true then ⟨"", "", [], false⟩
      else configOf row := by
  obtain ⟨-, -, rfl⟩ := getSms_eq_ok h
  rw [Server.first, find_by_key s.db (by decide) hrow hcompany]
  split <;> rfl

/-- Saving the form of a company, for the checks. -/
theorem updateSms_serve {req : Fields} (hscope : companyScope r = none) (hbody : r.body = .ok req) :
    s.pool = true ∧ outcome (updateSmsConfigHandler.serve r) s =
        outcome (updateSmsConfigHandler.work r (getEffectiveCompanyID r) (r.id.getD 0) req) s ∨
      s.pool = false ∧ (outcome (updateSmsConfigHandler.serve r) s).2 = s := by
  have hrefuses : updateSmsConfigHandler.refuses r = none := by
    simp [updateSmsConfigHandler, Handler.refuses, hscope, bindJSON, hbody]
  have hfields : r.fields = req := by
    simp [Request.fields, hbody, Except.toOption]
  cases hpool : s.pool with
  | false => exact .inr ⟨rfl, by simp [Handler.serve, outcome_bind, hpool]⟩
  | true => exact .inl ⟨rfl, by rw [outcome_serve hpool hrefuses, hfields]⟩

/-- What a company's row is like is seen from the one row it has. -/
theorem companyRow_iff {db : SQL.Database schema Datum} {saved : Row Datum} {c : Int}
    (hsaved : saved ∈ db.tables .smsConfig) (hcompany : saved "company_id" = some (.int c))
    (hrow : row "company_id" = some (.int c)) (P : Row Datum → Prop) :
    (∃ row' ∈ db.tables .smsConfig, row' "company_id" = row "company_id" ∧ P row') ↔ P saved := by
  constructor
  · rintro ⟨row', hrow', hcompany', hP⟩
    have hagree : Agree ["company_id"] row' saved := by
      simp [Agree, hcompany', hrow, hcompany]
    obtain rfl := db.valid.eq_of_agree (u := (.smsConfig, ["company_id"])) (by decide) hrow' hsaved
      hagree
    exact hP
  · exact fun hP => ⟨saved, hsaved, hcompany.trans hrow.symm, hP⟩

/-- Another key is saved exactly if it has no four asterisks together. -/
theorem savedRow_key_iff {req : Fields} (hsome : req.text "apiKey" ≠ "")
    (hother : row "api_key" ≠ some (.text (req.text "apiKey"))) :
    savedRow s req row "api_key" = some (.text (req.text "apiKey")) ↔
      ¬Starred (req.text "apiKey") := by
  have hnew : newKey (req.text "apiKey") = true ↔ ¬Starred (req.text "apiKey") := by
    rw [newKey_iff, and_iff_right hsome]
  show (if newKey (req.text "apiKey") then some (.text (req.text "apiKey")) else none :
    Option Datum).or (row "api_key") = _ ↔ _
  rw [← hnew]
  split
  · rename_i hkey
    exact iff_of_true rfl hkey
  · rename_i hold
    exact iff_of_false hother hold

/-- The stored row is one that the form saves as it is. -/
def SavesItself (s : Server) (row : Row Datum) : Prop :=
  if s.tx = some true ∨ s.faults.head? = some true then row "enabled" = some (.bool false)
  else (∃ enabled, row "enabled" = some (.bool enabled)) ∧
    MaskHolds (Go.bytesOf (shownText row "api_key"))

theorem echo_iff {s₂ : Server} {req : Fields}
    (hget : outcome (getSmsConfigHandler r) s = (.ok config, s₁))
    (hrow : row ∈ s.db.tables .smsConfig)
    (hcompany : row "company_id" = some (.int (getEffectiveCompanyID r)))
    (hechoes : Echoes config req) :
    formOf (savedRow s₂ req row) = formOf row ↔ SavesItself s row := by
  have hconfig := getSms_config hget hrow hcompany
  unfold SavesItself
  split
  · rename_i hfault
    rw [if_pos hfault] at hconfig
    subst hconfig
    rw [formOf_savedRow_iff (.inr hechoes.provider) (.inr hechoes.senderID) hechoes.enabled,
      and_iff_right]
    rw [hechoes.apiKey]
    exact .inl (by decide)
  · rename_i hclear
    rw [if_neg hclear] at hconfig
    subst hconfig
    rw [formOf_savedRow_iff (.inl hechoes.provider) (.inl hechoes.senderID) hechoes.enabled,
      hechoes.apiKey, and_comm]
    refine and_congr ?_ (mask_iff _)
    show row "enabled" = some (.bool ((boolOf row "enabled").getD false)) ↔ _
    constructor
    · exact fun henabled => ⟨_, henabled⟩
    · rintro ⟨enabled, henabled⟩
      simp [boolOf, henabled]

end

/-- **When the form keeps the secret.**  A form that is sent back as it was read leaves the row as
it was exactly if it is not saved or saves itself, and another key is stored exactly if it has no
four asterisks together. -/
theorem smsForm_iff {s s₁ s₂ : Server} {r r₂ : Request} {config : SmsConfig} {row : Row Datum}
    {req : Fields} (hget : outcome (getSmsConfigHandler r) s = (.ok config, s₁))
    (hrow : row ∈ s.db.tables .smsConfig)
    (hcompany : row "company_id" = some (.int (getEffectiveCompanyID r))) (hdb : s₂.db = s₁.db)
    (hscope : getEffectiveCompanyID r₂ = getEffectiveCompanyID r) (hbody : r₂.body = .ok req) :
    (Echoes config req →
      (FormKept (outcome (updateSmsConfigHandler.serve r₂) s₂).2.db row ↔
        (s₂.pool = true → s₂.Clear → SavesItself s row))) ∧
    (req.text "apiKey" ≠ "" → row "api_key" ≠ some (.text (req.text "apiKey")) →
      s₂.pool = true → s₂.Clear →
      ((∃ row' ∈ (outcome (updateSmsConfigHandler.serve r₂) s₂).2.db.tables .smsConfig,
        row' "company_id" = row "company_id" ∧
          row' "api_key" = some (.text (req.text "apiKey"))) ↔ ¬Starred (req.text "apiKey"))) := by
  obtain ⟨hchecked, hread, -⟩ := getSms_eq_ok hget
  have hrow₂ : row ∈ s₂.db.tables .smsConfig := by rwa [hdb, hread]
  have hcompany₂ : row "company_id" = some (.int (getEffectiveCompanyID r₂)) := by rwa [hscope]
  have hchecked₂ : companyScope r₂ = none := by
    unfold companyScope at hchecked ⊢
    rwa [hscope]
  have hkept : ∀ db : SQL.Database schema Datum, row ∈ db.tables .smsConfig → FormKept db row :=
    fun db hmem => ⟨row, hmem, rfl, rfl⟩
  constructor
  · intro hechoes
    rcases updateSms_serve (s := s₂) hchecked₂ hbody with ⟨hpool, hserve⟩ | ⟨hpool, hserve⟩
    · rw [hserve]
      rcases save_cases r₂ (r₂.id.getD 0) req hrow₂ hcompany₂ with
        ⟨hclear, hsaved⟩ | ⟨hfault, hsame⟩
      · rw [FormKept, companyRow_iff hsaved hcompany₂ hcompany₂ fun row' => formOf row' = formOf row,
          echo_iff hget hrow hcompany hechoes]
        exact ⟨fun hsaves _ _ => hsaves, fun hsaves => hsaves hpool hclear⟩
      · rw [hsame]
        exact iff_of_true (hkept _ hrow₂) fun _ hclear => absurd hclear hfault
    · rw [hserve]
      exact iff_of_true (hkept _ hrow₂) fun hpool' => absurd hpool' (by simp [hpool])
  · intro hsome hother hpool hclear
    obtain ⟨-, hserve⟩ := (updateSms_serve (s := s₂) hchecked₂ hbody).resolve_right
      fun hnone => by simp [hpool] at hnone
    obtain ⟨-, hsaved⟩ := (save_cases r₂ (r₂.id.getD 0) req hrow₂ hcompany₂).resolve_right
      fun hfault => hfault.1 hclear
    rw [hserve, companyRow_iff hsaved hcompany₂ hcompany₂ fun row' =>
      row' "api_key" = some (.text (req.text "apiKey"))]
    exact savedRow_key_iff hsome hother

/-! ### Two keys -/

/-- A company with a gateway. -/
def gatewayRow (key : String) : Row Datum :=
  Table.row .smsConfig 0
    [("company_id", some (.int 1)), ("provider", some (.text "msg91")),
      ("sender_id", some (.text "FLEET")), ("api_key", some (.text key)),
      ("enabled", some (.bool true))]

def gatewayTables (key : String) : SQL.Tables Table Datum
  | .companies => [Table.row .companies 0 [("id", some (.int 1))]]
  | .smsConfig => [gatewayRow key]
  | _ => []

/-- A gateway with a key of six bytes. -/
def shortGateway : SQL.Database schema Datum := ⟨gatewayTables "k3yABC", by decide⟩

/-- A gateway with a key of eight bytes. -/
def longGateway : SQL.Database schema Datum := ⟨gatewayTables "k3yABCDE", by decide⟩

/-- The body that sends back what was read. -/
def echoFields (config : SmsConfig) : Fields :=
  { Fields.empty with
    text := fun field =>
      if field = "provider" then config.provider
      else if field = "senderId" then config.senderID
      else Go.textOf config.apiKey
    flag := fun _ => some config.enabled }

theorem echoFields_echoes (config : SmsConfig) : Echoes config (echoFields config) :=
  ⟨rfl, rfl, rfl, rfl⟩

/-- A request for the gateway of company 1. -/
def gatewayRequest (body : Fields) : Request := ⟨⟨9, 1, "office", "admin"⟩, none, "", none, .ok body⟩

/-- The gateway is read and saved. -/
def resaved (db : SQL.Database schema Datum) : SQL.Database schema Datum :=
  match outcome (getSmsConfigHandler (gatewayRequest .empty)) (calm db .lenient []) with
  | (.ok config, s) =>
    (outcome (updateSmsConfigHandler.serve (gatewayRequest (echoFields config))) s).2.db
  | (.error _, s) => s.db

/-- **A key of six bytes is lost: its mask becomes the key.** -/
theorem shortKey_lost :
    (shortGateway.tables .smsConfig).map (· "api_key") = [some (.text "k3yABC")] ∧
      ((resaved shortGateway).tables .smsConfig).map (· "api_key") = [some (.text "**yABC")] := by
  decide +kernel

theorem longKey_kept : FormKept (resaved longGateway) (gatewayRow "k3yABCDE") := by
  let config := configOf (gatewayRow "k3yABCDE")
  have hget : outcome (getSmsConfigHandler (gatewayRequest .empty)) (calm longGateway .lenient []) =
      (.ok config, calm longGateway .lenient []) := rfl
  have hscope : getEffectiveCompanyID (gatewayRequest (echoFields config)) =
      getEffectiveCompanyID (gatewayRequest .empty) := rfl
  refine ((smsForm_iff hget (List.mem_singleton_self _) rfl rfl hscope rfl).1
    (echoFields_echoes config)).mpr fun _ _ => ?_
  rw [SavesItself, if_neg (by decide)]
  refine ⟨⟨true, rfl⟩, .inr ?_⟩
  decide +kernel

end RudraNetra.API
