/-
A reader finds its way through the PDF of an invoice.

It begins at the end, where the position of the cross-reference table stands, goes from the
table to the objects, and takes the content stream by its length.  `Readable` says that each
of these steps arrives; the strings of the stream are the lines again (`literals_content`).

The offsets are right because each is the length of the text before its object, and text
that is written later moves nothing (`writeObjects_spec`).
-/
import RudraNetra.Api.InvoicePDF

namespace RudraNetra.API

open PDF Wire

/-! ### The content stream -/

/-- The operators behind a string, and those around all of them, begin no string. -/
theorem between_operators : Between (ascii " Tj T*\n") ∧
    Between (ascii "BT\n/F1 12 Tf\n50 780 Td\n14 TL\n") ∧ Between (ascii "ET\n") := by
  simp [Between, ascii, opening, percent]

/-- A line of the stream is read as one string more. -/
theorem read_line {line : List UInt8} (h : carriageReturn ∉ line) (strings : List (List UInt8)) :
    (ascii "(" ++ (escape line ++ ascii ") Tj T*\n")).foldl Reading.step
      ⟨.outside, [], strings⟩ = ⟨.outside, [], strings ++ [line]⟩ := by
  have hopen : (ascii "(").foldl Reading.step ⟨.outside, [], strings⟩ =
      ⟨.string 0, [], strings⟩ := rfl
  have hclose : ascii ") Tj T*\n" = closing :: ascii " Tj T*\n" := rfl
  have hend : Reading.step ⟨.string 0, line, strings⟩ closing =
      ⟨.outside, [], strings ++ [line]⟩ := rfl
  rw [List.foldl_append, hopen, List.foldl_append, read_escaped h, List.nil_append, hclose,
    List.foldl_cons, hend]
  exact read_between between_operators.1 _ _

theorem read_lines {lines : List (List UInt8)} (h : ∀ line ∈ lines, carriageReturn ∉ line)
    (strings : List (List UInt8)) :
    (lines.flatMap fun line => ascii "(" ++ (escape line ++ ascii ") Tj T*\n")).foldl Reading.step
      ⟨.outside, [], strings⟩ = ⟨.outside, [], strings ++ lines⟩ := by
  induction lines generalizing strings with
  | nil => simp
  | cons line lines ih =>
      rw [List.flatMap_cons, List.foldl_append, read_line (h line List.mem_cons_self),
        ih fun l hl => h l (List.mem_cons_of_mem line hl)]
      simp

/-- **The strings of the stream are the lines.** -/
theorem literals_content {lines : List (List UInt8)} (h : ∀ line ∈ lines, carriageReturn ∉ line) :
    literals (contentStream lines) = some lines := by
  obtain ⟨-, hfront, hback⟩ := between_operators
  unfold literals contentStream
  rw [List.foldl_append, read_between hfront, List.foldl_append, read_lines h, List.nil_append,
    read_between hback]

/-! ### The objects -/

/-- The loop over the objects keeps the text before it, and each offset is that of its object. -/
theorem writeObjects_spec (objs : List (List UInt8)) : ∀ (i : Nat) (out : List UInt8)
    (offsets : List Nat), ∃ body news,
      writeObjects objs i out offsets = (out ++ body, offsets ++ news) ∧
        news.length = objs.length ∧ ∀ k obj, objs[k]? = some obj →
          ∃ offset, news[k]? = some offset ∧ At (out ++ body) offset (pdfObject (i + k + 1) obj) := by
  induction objs with
  | nil => exact fun i out offsets => ⟨[], [], by simp [writeObjects], rfl, fun _ _ h => nomatch h⟩
  | cons first objs ih =>
      intro i out offsets
      obtain ⟨body, news, hwrite, hlen, hat⟩ :=
        ih (i + 1) (out ++ pdfObject (i + 1) first) (offsets ++ [out.length])
      refine ⟨pdfObject (i + 1) first ++ body, out.length :: news, ?_, by simp [hlen], ?_⟩
      · rw [writeObjects, hwrite, List.append_assoc, List.append_assoc, List.singleton_append]
      · intro k obj hobj
        obtain _ | k := k
        · obtain rfl : first = obj := by simpa using hobj
          exact ⟨out.length, rfl, ⟨out, body, by simp, rfl⟩⟩
        · obtain ⟨offset, hoffset, hobject⟩ := hat k obj hobj
          refine ⟨offset, hoffset, ?_⟩
          rw [← List.append_assoc, show i + (k + 1) + 1 = i + 1 + k + 1 by omega]
          exact hobject

/-! ### The file -/

theorem table_header : ascii "xref\n0 6\n0000000000 65535 f \n" =
    ascii "xref\n0 " ++ (decimal 6 ++ (ascii "\n" ++ ascii "0000000000 65535 f \n")) := by
  decide

theorem table_trailer : ascii "trailer\n<< /Size 6 /Root 1 0 R >>\nstartxref\n" =
    ascii "trailer\n<< /Size " ++ (decimal 6 ++ ascii " /Root 1 0 R >>\nstartxref\n") := by
  decide

/-- The file is the text of the objects, the table of their offsets and the trailer. -/
theorem renderSimplePDF_layout (lines : List (List UInt8)) :
    ∃ (text : List UInt8) (offsets : List Nat),
      renderSimplePDF lines = text ++ (ascii "xref\n0 6\n0000000000 65535 f \n" ++
        (offsets.flatMap entry ++ (ascii "trailer\n<< /Size 6 /Root 1 0 R >>\nstartxref\n" ++
          (decimal text.length ++ ascii "\n%%EOF\n")))) ∧
      offsets.length = (pdfObjects (contentStream lines)).length ∧
      ∀ k obj, (pdfObjects (contentStream lines))[k]? = some obj →
        ∃ offset, offsets[k]? = some offset ∧ At text offset (pdfObject (k + 1) obj) := by
  obtain ⟨body, offsets, hwrite, hcount, hat⟩ :=
    writeObjects_spec (pdfObjects (contentStream lines)) 0 (ascii "%PDF-1.4\n") []
  rw [List.nil_append] at hwrite
  refine ⟨ascii "%PDF-1.4\n" ++ body, offsets, ?_, hcount, fun k obj hobj => ?_⟩
  · simp only [renderSimplePDF, hwrite, table_header, table_trailer, List.append_assoc]
    rfl
  · obtain ⟨offset, hoffset, hobject⟩ := hat k obj hobj
    rw [Nat.zero_add] at hobject
    exact ⟨offset, hoffset, hobject⟩

/-- A reader that begins at the end comes to the lines. -/
def Readable (file : List UInt8) (lines : List (List UInt8)) : Prop :=
  ∃ (xref : Nat) (offset : Nat → Nat) (stream : List UInt8),
    (∃ front, file = front ++ (ascii "trailer\n<< /Size 6 /Root 1 0 R >>\nstartxref\n" ++
      (decimal xref ++ ascii "\n%%EOF\n"))) ∧
    At file xref (ascii "xref\n0 6\n0000000000 65535 f \n") ∧
    (∀ k, 1 ≤ k → k ≤ 5 →
      (∃ line, At file (xref + 9 + 20 * k) line ∧ offsetOf line = some (offset k)) ∧
        At file (offset k) (decimal k ++ ascii " 0 obj\n")) ∧
    At file (offset 4) (ascii "4 0 obj\n<< /Length " ++ (decimal stream.length ++
      (ascii " >>\nstream\n" ++ (stream ++ ascii "endstream\nendobj\n")))) ∧
    literals stream = some lines

/--
**The PDF is structurally correct.**  Each entry of the table has twenty bytes, and its ten digits
are the position of its object; `startxref` is the position of the table; the length of the
stream is that of the bytes up to `endstream`; and its strings are the lines.
-/
theorem renderSimplePDF_readable (lines : List (List UInt8))
    (h : ∀ line ∈ lines, carriageReturn ∉ line)
    (hshort : (renderSimplePDF lines).length < 10 ^ 10) :
    Readable (renderSimplePDF lines) lines := by
  obtain ⟨text, offsets, hfile, hcount, hat⟩ := renderSimplePDF_layout lines
  have hsmall : ∀ k obj offset, At text offset (pdfObject k obj) → offset < 10 ^ 10 := by
    intro k obj offset hobject
    have hle := hobject.le
    rw [hfile, List.length_append] at hshort
    omega
  have hten : ∀ offset ∈ offsets, (entry offset).length = 20 := by
    intro offset hmem
    obtain ⟨k, hk⟩ := List.mem_iff_getElem?.mp hmem
    have hlt : k < (pdfObjects (contentStream lines)).length :=
      hcount ▸ (List.getElem?_eq_some_iff.mp hk).1
    obtain ⟨offset', hoffset, hobject⟩ := hat k _ (List.getElem?_eq_getElem hlt)
    obtain rfl := Option.some.inj (hoffset.symm.trans hk)
    exact entry_length (hsmall _ _ _ hobject)
  -- object `k + 1` begins where entry `k + 1` says
  have hobjects : ∀ k obj, (pdfObjects (contentStream lines))[k]? = some obj →
      (∃ line, At (renderSimplePDF lines) (text.length + 9 + 20 * (k + 1)) line ∧
        offsetOf line = some (offsets.getD k 0)) ∧
      At (renderSimplePDF lines) (offsets.getD k 0) (pdfObject (k + 1) obj) := by
    intro k obj hobj
    obtain ⟨offset, hoffset, hobject⟩ := hat k obj hobj
    have hentry : At (renderSimplePDF lines) (text.length + (29 + 20 * k)) (entry offset) := by
      rw [hfile]
      refine At.shift (At.shift ?_ (ascii "xref\n0 6\n0000000000 65535 f \n")) text
      exact (At.flatMap hten hoffset).extend _
    have hget : offsets.getD k 0 = offset := by rw [List.getD_eq_getElem?_getD, hoffset]; rfl
    rw [hget]
    refine ⟨⟨entry offset, ?_, offsetOf_entry (hsmall _ _ _ hobject)⟩, ?_⟩
    · rw [show text.length + 9 + 20 * (k + 1) = text.length + (29 + 20 * k) by omega]
      exact hentry
    · rw [hfile]
      exact hobject.extend _
  refine ⟨text.length, fun k => offsets.getD (k - 1) 0, contentStream lines, ?_, ?_, ?_, ?_,
    literals_content h⟩
  · exact ⟨text ++ (ascii "xref\n0 6\n0000000000 65535 f \n" ++ offsets.flatMap entry),
      by rw [hfile]; simp only [List.append_assoc]⟩
  · rw [hfile]
    exact (At.start _ _).shift text
  · intro k hpos hle
    obtain ⟨k, rfl⟩ : ∃ n, k = n + 1 := ⟨k - 1, by omega⟩
    obtain ⟨hentry, hobject⟩ := hobjects k _ (List.getElem?_eq_getElem hle)
    refine ⟨hentry, ?_⟩
    rw [pdfObject, ← List.append_assoc] at hobject
    exact hobject.left
  · obtain ⟨-, hobject⟩ := hobjects 3 _ rfl
    have hfour : ascii "4 0 obj\n<< /Length " = decimal 4 ++ (ascii " 0 obj\n" ++
        ascii "<< /Length ") := by
      decide
    have hend : ascii "endstream\nendobj\n" = ascii "endstream" ++ ascii "\nendobj\n" := by
      decide
    rw [hfour, hend]
    simpa only [pdfObject, List.append_assoc] using hobject

/-- A name with parentheses and a backslash. -/
theorem bracketed_readable :
    let lines := [ascii "Tax Invoice INV-7", ascii "Organization: Al Noor (Dubai) \\ West"]
    Readable (renderSimplePDF lines) lines :=
  renderSimplePDF_readable _ (by simp [ascii, carriageReturn]) (by decide +kernel)

end RudraNetra.API
