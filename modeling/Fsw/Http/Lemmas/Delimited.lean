import Fsw.Http.Lemmas.Capacity
import Fsw.Lib.Http1

namespace Fsw
namespace Http

open Buffer (str)

-- A call of `end` whose response fits into the write buffer
structure Ended where
  ctx : Ctx
  body : Option Buffer
  status_mem : ctx.response.status = 200 ∨ ∃ m ∈ statusMessages, m.1 = ctx.response.status
  header_lines : ∀ h ∈ ctx.response.header, (13 ∉ h.1 ∧ 10 ∉ h.1) ∧ (13 ∉ h.2 ∧ 10 ∉ h.2)
  header_names : ∀ h ∈ ctx.response.header,
    h.1.map Http1.lower ≠ str "content-length" ∧ h.1.map Http1.lower ≠ str "connection"
  size_writeBuf : ctx.writeBuf.size = WRITE_BUF_MAX_SIZE
  fits : (responseText ctx.response.status ctx.response.header ctx.keepAlive
    (body.map Buffer.contents) 0).length
    ≤ WRITE_BUF_MAX_SIZE

namespace Ended

def bytes (r : Ended) : Bytes :=
  (r.ctx.endResponse r.body 0).outputs.flatMap Output.data

def bodyBytes (r : Ended) : Bytes :=
  (r.body.map Buffer.contents).getD []

def fields (r : Ended) : List (Bytes × Bytes) :=
  r.ctx.response.header
    ++ [(str "Connection", if r.ctx.keepAlive then str "Keep-Alive" else str "Close"),
      (str "Content-Length", Decimal.ofNat r.bodyBytes.length)]

def message (r : Ended) : Http1.Message where
  status := r.ctx.response.status.toNat
  fields := r.fields
  body := r.bodyBytes

def ReadsBack (r : Ended) : Prop :=
  Http1.read r.bytes = some (r.message, [])

instance {r : Ended} : Decidable r.ReadsBack :=
  inferInstanceAs (Decidable (_ = _))

def Parsable (r : Ended) : Prop :=
  r.body = none ∧ ∀ h ∈ r.ctx.response.header, Http1.IsToken h.1 ∧ Http1.IsFieldValue h.2

def statusLine (r : Ended) : Bytes :=
  str "HTTP/1.1 " ++ getStatusMessage r.ctx.response.status

def trailer (r : Ended) : Bytes :=
  match r.body with
  | none => []
  | some _ => Http1.crlf

variable {r : Ended}

theorem bytes_eq_text
    : r.bytes = responseText r.ctx.response.status r.ctx.response.header r.ctx.keepAlive
        (r.body.map Buffer.contents) 0 := by
  have hmax : WRITE_BUF_MAX_SIZE < 2 ^ 64 := by decide
  have hsize : r.body = none → 0 < 2 ^ 31 := fun _ => by decide
  have hfits := (Ctx.text_fits_iff r.ctx hsize).mp r.fits
  rcases Ctx.endResponse_ok (by rw [r.size_writeBuf]; exact hmax) (r.size_writeBuf ▸ hfits) with
    ⟨buf, _, heq⟩
  rw [bytes, heq, Ctx.rendered_eq_of_fits hsize hfits]
  simp [Output.data]

theorem bytes_eq : r.bytes = Http1.render r.statusLine r.fields ++ (r.bodyBytes ++ r.trailer) := by
  have hcrlf : str "\r\n" = Http1.crlf := by decide
  have hcolon : str ": " = Http1.colon := by decide
  have hlength : str "Content-Length: " = str "Content-Length" ++ Http1.colon := by decide
  have hconnection
    : (if r.ctx.keepAlive then str "Connection: Keep-Alive\r\n" else str "Connection: Close\r\n")
      = str "Connection" ++ Http1.colon
        ++ (if r.ctx.keepAlive then str "Keep-Alive" else str "Close")
        ++ Http1.crlf := by
    cases r.ctx.keepAlive <;> decide
  rw [bytes_eq_text]
  unfold responseText responseHead
  rw [hconnection, hcrlf, hcolon, hlength]
  unfold Http1.render Http1.fieldLines Http1.fieldLine fields statusLine bodyBytes trailer
  cases r.body with
  | none => simp [contentLength]
  | some b => simp [contentLength]

theorem readStatus_statusLine
    : Http1.readStatus r.statusLine = some r.ctx.response.status.toNat ∧ 13 ∉ r.statusLine := by
  have htable : ∀ m ∈ statusMessages, Http1.readStatus (str "HTTP/1.1 " ++ str m.2) = some m.1.toNat
      ∧ 13 ∉ str "HTTP/1.1 " ++ str m.2 := by
    decide +kernel
  unfold statusLine getStatusMessage
  cases hfind : statusMessages.find? (·.1 = r.ctx.response.status) with
  | some m =>
    have hm : m.1 = r.ctx.response.status := by
      simpa using List.find?_some hfind
    rw [← hm]
    apply htable m (List.mem_of_find?_eq_some hfind)
  | none =>
    rcases r.status_mem with h200 | ⟨m, hmem, hm⟩
    . rw [h200]
      decide +kernel
    . have hnone := List.find?_eq_none.mp hfind m hmem
      simp [hm] at hnone

theorem fieldLine_fields : ∀ f ∈ r.fields, 13 ∉ Http1.fieldLine f := by
  have hnot {name value : Bytes} (h₁ : 13 ∉ name) (h₂ : 13 ∉ value)
    : 13 ∉ Http1.fieldLine (name, value) := by
    simp [Http1.fieldLine, Http1.colon, h₁, h₂]
  unfold fields
  rw [List.forall_mem_append]
  constructor
  . intro h hmem
    have hlines := r.header_lines h hmem
    apply hnot hlines.1.1 hlines.2.1
  . simp only [List.forall_mem_cons]
    refine ⟨?_, ?_, List.forall_mem_nil _⟩
    . apply hnot (by decide)
      cases r.ctx.keepAlive <;> decide
    . apply hnot (by decide)
      intro hmem
      exact absurd (Decimal.digit_of_mem_ofNat hmem).1 (by decide)

theorem contentLength_fields : Http1.contentLength r.fields = some r.bodyBytes.length := by
  have hheader : List.find? (fun f => f.1.map Http1.lower = Http1.contentLengthName)
    r.ctx.response.header
      = none := by
    rw [List.find?_eq_none]
    intro h hmem
    have hname := (r.header_names h hmem).1
    have heq : str "content-length" = Http1.contentLengthName := by decide
    rw [heq] at hname
    simpa using hname
  have hlength : (str "Content-Length").map Http1.lower = Http1.contentLengthName := by decide
  have hconnection : (str "Connection").map Http1.lower ≠ Http1.contentLengthName := by decide
  unfold Http1.contentLength fields
  rw [List.find?_append, hheader, Option.none_or, List.find?_cons_of_neg, List.find?_cons_of_pos,
    Option.bind_some, Decimal.read?_ofNat]
  . exact decide_eq_true hlength
  . rw [decide_eq_true_iff]
    exact hconnection

theorem readField_fields
    (h : ∀ h ∈ r.ctx.response.header, Http1.IsToken h.1 ∧ Http1.IsFieldValue h.2)
    : ∀ f ∈ r.fields, Http1.readField (Http1.fieldLine f) = some f := by
  unfold fields
  rw [List.forall_mem_append]
  constructor
  . intro f hmem
    apply Http1.readField_iff.mpr (h f hmem)
  . simp only [List.forall_mem_cons]
    refine ⟨?_, ?_, List.forall_mem_nil _⟩
    . apply Http1.readField_iff.mpr
      cases r.ctx.keepAlive <;> decide +kernel
    . apply Http1.readField_iff.mpr
      exact ⟨by decide +kernel, Http1.isFieldValue_ofNat⟩

theorem read_bytes (h : ∀ h ∈ r.ctx.response.header, Http1.IsToken h.1 ∧ Http1.IsFieldValue h.2)
    (rest : Bytes)
    : Http1.read (r.bytes ++ rest) = some (r.message, r.trailer ++ rest) := by
  have hstatus := readStatus_statusLine (r := r)
  rw [bytes_eq, List.append_assoc,
    Http1.read_render hstatus.2 hstatus.1 fieldLine_fields (readField_fields h)
    contentLength_fields]
  . rw [List.append_assoc, List.take_left, List.drop_left]
    rfl
  . rw [List.append_assoc, List.length_append]
    omega

theorem Parsable.read (h : r.Parsable) (rest : Bytes)
    : Http1.read (r.bytes ++ rest) = some (r.message, rest) := by
  have htrailer : r.trailer = [] := by
    unfold trailer
    rw [h.1]
  rw [read_bytes h.2, htrailer, List.nil_append]

theorem bytes_ne_nil : r.bytes ≠ [] := by
  rw [bytes_eq]
  simp [Http1.render, Http1.crlf]

theorem ReadsBack.parsable (h : r.ReadsBack) : r.Parsable := by
  unfold ReadsBack at h
  have hfields : ∀ f ∈ r.fields, Http1.readField (Http1.fieldLine f) = some f := by
    rw [bytes_eq] at h
    apply Http1.readField_of_read readStatus_statusLine.2 fieldLine_fields h rfl
  have hheader : ∀ h ∈ r.ctx.response.header, Http1.IsToken h.1 ∧ Http1.IsFieldValue h.2 := by
    intro f hmem
    apply Http1.readField_iff.mp
    apply hfields
    apply List.mem_append_left _ hmem
  refine ⟨?_, hheader⟩
  have hleft := read_bytes hheader []
  rw [List.append_nil, h, List.append_nil] at hleft
  injection hleft with hleft
  injection hleft with _ htrailer
  unfold trailer at htrailer
  cases hbody : r.body with
  | none => rfl
  | some b =>
    rw [hbody] at htrailer
    cases htrailer

theorem readsBack_iff (rs : List Ended)
    : (∀ r ∈ rs, r.ReadsBack) ∧ Http1.readAll (rs.flatMap bytes) = some (rs.map message)
        ↔ ∀ r ∈ rs, r.Parsable := by
  constructor
  . rintro ⟨hrs, _⟩ r hr
    apply (hrs r hr).parsable
  . intro hrs
    constructor
    . intro r hr
      have hread := (hrs r hr).read []
      rw [List.append_nil] at hread
      exact hread
    . apply Http1.readMany_flatMap (fun r _ => bytes_ne_nil) (fun r hr => (hrs r hr).read)
        (Nat.le_refl _)

def greeting : Ended where
  ctx := .new ⟨0, 0, 0, ⟨0, 0⟩, true⟩
  body := some ⟨1, 1, [97, 0], rfl, Nat.le_refl 1⟩
  status_mem := .inl rfl
  header_lines := List.forall_mem_nil _
  header_names := List.forall_mem_nil _
  size_writeBuf := rfl
  fits := by decide +kernel

theorem greeting_not_readsBack
    : Http1.read greeting.bytes = some (greeting.message, str "\r\n") ∧ ¬greeting.ReadsBack
        ∧ Http1.readAll (greeting.bytes ++ greeting.bytes) = none := by
  decide +kernel

end Ended

end Http
end Fsw
