/-
The PDF of an invoice: `renderSimplePDF` of `internal/handler/handlers_admin.go`.

The text grows while it is written, and its length is read off as it does: the offset of
each object, the position of the cross-reference table, and the length of the content
stream.  Lines are byte strings, as Go strings are.
-/
import RudraNetra.Lib.PDF

namespace RudraNetra.API

open PDF

/-- The content stream. -/
def contentStream (lines : List (List UInt8)) : List UInt8 :=
  ascii "BT\n/F1 12 Tf\n50 780 Td\n14 TL\n" ++
    (lines.flatMap (fun line => ascii "(" ++ (escape line ++ ascii ") Tj T*\n")) ++ ascii "ET\n")

/-- The bodies of the five objects. -/
def pdfObjects (stream : List UInt8) : List (List UInt8) :=
  [ascii "<< /Type /Catalog /Pages 2 0 R >>",
    ascii "<< /Type /Pages /Kids [3 0 R] /Count 1 >>",
    ascii ("<< /Type /Page /Parent 2 0 R /MediaBox [0 0 595 842] /Contents 4 0 R " ++
      "/Resources << /Font << /F1 5 0 R >> >> >>"),
    ascii "<< /Length " ++ (decimal stream.length ++ (ascii " >>\nstream\n" ++
      (stream ++ ascii "endstream"))),
    ascii "<< /Type /Font /Subtype /Type1 /BaseFont /Helvetica >>"]

/-- Object `k`. -/
def pdfObject (k : Nat) (body : List UInt8) : List UInt8 :=
  decimal k ++ (ascii " 0 obj\n" ++ (body ++ ascii "\nendobj\n"))

/-- Writes the objects from index `i` on: the text, and the offset of each. -/
def writeObjects : List (List UInt8) → Nat → List UInt8 → List Nat → List UInt8 × List Nat
  | [], _, out, offsets => (out, offsets)
  | obj :: objs, i, out, offsets =>
    writeObjects objs (i + 1) (out ++ pdfObject (i + 1) obj) (offsets ++ [out.length])

/-- A PDF of one page with these lines. -/
def renderSimplePDF (lines : List (List UInt8)) : List UInt8 :=
  let objs := pdfObjects (contentStream lines)
  let (out, offsets) := writeObjects objs 0 (ascii "%PDF-1.4\n") []
  let xrefPos := out.length
  out ++ (ascii "xref\n0 " ++ (decimal (objs.length + 1) ++ (ascii "\n" ++
    (ascii "0000000000 65535 f \n" ++ (offsets.flatMap entry ++
      (ascii "trailer\n<< /Size " ++ (decimal (objs.length + 1) ++
        (ascii " /Root 1 0 R >>\nstartxref\n" ++ (decimal xrefPos ++ ascii "\n%%EOF\n")))))))))

end RudraNetra.API
