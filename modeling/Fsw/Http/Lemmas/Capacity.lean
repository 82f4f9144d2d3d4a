import Mathlib.Algebra.Group.Int.Defs
import Fsw.Http.Lemmas.Response
import Fsw.Lib.Decimal

namespace Fsw
namespace Http

open Buffer (str str_toString_ofNat str_toString_negSucc)

section ToInt

variable {n : Nat}

theorem toInt_eq (h : n < 2 ^ 31) : toInt n = n := by
  unfold toInt
  rw [Int.bmod_eq_of_le]
  . omega
  . omega

theorem toInt_bounds : -2 ^ 31 ≤ toInt n ∧ toInt n < 2 ^ 31 := by
  unfold toInt Int.bmod
  dsimp only
  split
  . omega
  . omega

theorem toInt_eq_iff : toInt n = n ↔ n < 2 ^ 31 := by
  have := toInt_bounds (n := n)
  constructor
  . intro heq
    omega
  . apply toInt_eq

theorem length_toInt : (str (toString (toInt n))).length ≤ 11 := by
  have hbounds := toInt_bounds (n := n)
  apply Buffer.length_str_toString
  . exact hbounds.1
  . exact hbounds.2

-- A wrong number is never written like the right one.
theorem str_toInt_iff : str (toString (toInt n)) = Decimal.ofNat n ↔ n < 2 ^ 31 := by
  constructor
  . intro heq
    have hread := congrArg Decimal.read? heq
    rw [Decimal.read?_ofNat] at hread
    cases h : toInt n with
    | ofNat m =>
      rw [h, Int.ofNat_eq_natCast, str_toString_ofNat, Decimal.read?_ofNat] at hread
      injection hread with hread
      rw [← toInt_eq_iff, h, hread]
      rfl
    | negSucc m =>
      have hminus : Decimal.read? (45 :: Decimal.ofNat (m + 1)) = none := by
        rw [Decimal.read?, if_neg (List.cons_ne_nil _ _), Decimal.digits?]
        rfl
      rw [h, str_toString_negSucc, hminus] at hread
      cases hread
  . intro h
    rw [toInt_eq h, str_toString_ofNat]

end ToInt

-- No object in memory is larger than that.
def Addressable (bs : Bytes) : Prop :=
  bs.length < 2 ^ 63

def contentLength (body : Option Bytes) (size : Nat) : Nat :=
  match body with
  | some body => body.length
  | none => size

def responseHead (status : Int) (header : SortedMap Bytes Bytes) (keepAlive : Bool) : Bytes :=
  str "HTTP/1.1 " ++ getStatusMessage status ++ str "\r\n"
    ++ header.flatMap (fun h => h.1 ++ str ": " ++ h.2 ++ str "\r\n")
    ++ if keepAlive then str "Connection: Keep-Alive\r\n" else str "Connection: Close\r\n"

def responseText (status : Int) (header : SortedMap Bytes Bytes) (keepAlive : Bool)
    (body : Option Bytes) (size : Nat)
    : Bytes :=
  responseHead status header keepAlive
    ++ str "Content-Length: " ++ Decimal.ofNat (contentLength body size) ++ str "\r\n"
    ++ str "\r\n"
    ++ match body with
      | some body => body ++ str "\r\n"
      | none => []

namespace Ctx

variable {ctx : Ctx} {body : Option Buffer} {size : Nat}

structure Addressable (ctx : Ctx) (body : Option Buffer) : Prop where
  header : ∀ h ∈ ctx.response.header, Http.Addressable h.1 ∧ Http.Addressable h.2
  body : ∀ b, body = some b → Http.Addressable b.contents

theorem bodyLength_eq : bodyLength body size = contentLength (body.map Buffer.contents) size := by
  cases body with
  | none => rfl
  | some body =>
    dsimp only [Option.map, contentLength, bodyLength]
    rw [Buffer.length_contents]

theorem rendered_eq_head
    : ctx.rendered body size
        = responseHead ctx.response.status ctx.response.header ctx.keepAlive
          ++ str "Content-Length: " ++ str (toString (toInt (bodyLength body size)))
          ++ str "\r\n" ++ str "\r\n"
          ++ (bodyLines body).flatten := by
  have hlines (header : SortedMap Bytes Bytes)
      : (header.flatMap fun h => [h.1, str ": ", h.2, str "\r\n"]).flatten
          = header.flatMap fun h => h.1 ++ str ": " ++ h.2 ++ str "\r\n" := by
    induction header with
    | nil => rfl
    | cons h header ih =>
      rw [List.flatMap_cons, List.flatten_append, ih, List.flatMap_cons]
      simp
  unfold rendered responseLines statusLines headerLines responseHead
  simp only [List.flatten_append, hlines]
  simp

theorem rendered_eq_text (h : bodyLength body size < 2 ^ 31)
    : ctx.rendered body size
        = responseText ctx.response.status ctx.response.header ctx.keepAlive
          (body.map Buffer.contents) size := by
  rw [rendered_eq_head, str_toInt_iff.mpr h, bodyLength_eq]
  cases body with
  | none => rfl
  | some body => simp [responseText, bodyLines]

theorem length_getStatusMessage (status : Int) : (getStatusMessage status).length ≤ 64 := by
  have htable : ∀ m ∈ statusMessages, (str m.2).length ≤ 64 := by decide +kernel
  unfold getStatusMessage
  split
  . next hfind => apply htable _ (List.mem_of_find?_eq_some hfind)
  . decide

theorem length_responseLines (haddr : ctx.Addressable body)
    : ∀ bs ∈ ctx.responseLines body size, bs.length < 2 ^ 63 := by
  have hstatus := length_getStatusMessage ctx.response.status
  have hint := length_toInt (n := bodyLength body size)
  have hshort (bs : Bytes) (h : bs.length ≤ 64) : bs.length < 2 ^ 63 := by omega
  have hname (h : Bytes × Bytes) (hmem : h ∈ ctx.response.header)
      : ∀ bs ∈ [h.1, str ": ", h.2, str "\r\n"], bs.length < 2 ^ 63 := by
    simp only [List.forall_mem_cons]
    exact ⟨(haddr.header h hmem).1, hshort _ (by decide), (haddr.header h hmem).2,
      hshort _ (by decide), List.forall_mem_nil _⟩
  simp only [responseLines, statusLines, headerLines, List.forall_mem_append, List.forall_mem_cons]
  refine ⟨⟨⟨hshort _ (by decide), hshort _ hstatus, hshort _ (by decide), List.forall_mem_nil _⟩,
    ?_, ?_⟩, ?_⟩
  . intro bs hbs
    rcases List.mem_flatMap.mp hbs with ⟨h, hmem, hbs⟩
    apply hname h hmem bs hbs
  . refine ⟨?_, hshort _ (by decide), hshort _ (by omega), hshort _ (by decide),
      hshort _ (by decide), List.forall_mem_nil _⟩
    split
    . apply hshort _ (by decide)
    . apply hshort _ (by decide)
  . cases body with
    | none => apply List.forall_mem_nil
    | some b =>
      simp only [bodyLines, List.forall_mem_cons]
      exact ⟨haddr.body b rfl, hshort _ (by decide), List.forall_mem_nil _⟩

theorem length_le_of_body (ctx : Ctx) (b : Buffer) (size : Nat)
    : b.length ≤ (ctx.rendered (some b) size).length
        ∧ b.length
          ≤ (responseText ctx.response.status ctx.response.header ctx.keepAlive (some b.contents)
            size).length := by
  have hcontents := Buffer.length_contents (b := b)
  rw [rendered_eq_head]
  simp only [responseText, bodyLines, List.length_append, List.flatten_cons]
  omega

-- A body that is too long for the number is too long for the write buffer as well.
theorem text_fits_iff (ctx : Ctx) (hsize : body = none → size < 2 ^ 31)
    : (responseText ctx.response.status ctx.response.header ctx.keepAlive (body.map Buffer.contents)
        size).length ≤ WRITE_BUF_MAX_SIZE
        ↔ (ctx.rendered body size).length ≤ WRITE_BUF_MAX_SIZE := by
  by_cases hlength : bodyLength body size < 2 ^ 31
  . rw [rendered_eq_text hlength]
  . cases body with
    | none => exact absurd (hsize rfl) hlength
    | some b =>
      have hlarge : ¬b.length < 2 ^ 31 := hlength
      have hle := length_le_of_body ctx b size
      unfold WRITE_BUF_MAX_SIZE
      simp only [Option.map]
      omega

theorem rendered_eq_of_fits (hsize : body = none → size < 2 ^ 31)
    (h : (ctx.rendered body size).length ≤ WRITE_BUF_MAX_SIZE)
    : ctx.rendered body size
        = responseText ctx.response.status ctx.response.header ctx.keepAlive
          (body.map Buffer.contents) size := by
  apply rendered_eq_text
  cases body with
  | none => exact hsize rfl
  | some b =>
    have hle := (length_le_of_body ctx b size).1
    unfold WRITE_BUF_MAX_SIZE at h
    show b.length < 2 ^ 31
    omega

theorem endResponse_exit_iff (ctx : Ctx) (body : Option Buffer) (size : Nat)
    (hbuf : ctx.writeBuf.size = WRITE_BUF_MAX_SIZE) (haddr : ctx.Addressable body)
    (hsize : body = none → size < 2 ^ 31)
    : let text :=
        responseText ctx.response.status ctx.response.header ctx.keepAlive
          (body.map Buffer.contents) size
      ((ctx.endResponse body size).result = .error .exit ↔ WRITE_BUF_MAX_SIZE < text.length)
        ∧ (WRITE_BUF_MAX_SIZE < text.length → (ctx.endResponse body size).outputs = [])
        ∧ (text.length ≤ WRITE_BUF_MAX_SIZE →
            (ctx.endResponse body size).outputs = [.send text]
              ∧ (ctx.endResponse body size).result.isOk) := by
  intro text
  have hmax : WRITE_BUF_MAX_SIZE < 2 ^ 63 := by decide
  have hfits := text_fits_iff ctx hsize
  by_cases h : (ctx.rendered body size).length ≤ WRITE_BUF_MAX_SIZE
  . rcases endResponse_ok (by omega) (hbuf ▸ h) with ⟨buf, _, heq⟩
    have htext : ctx.rendered body size = text := rendered_eq_of_fits hsize h
    have hle : text.length ≤ WRITE_BUF_MAX_SIZE := hfits.mpr h
    rw [heq, htext]
    refine ⟨?_, ?_, fun _ => ⟨rfl, rfl⟩⟩
    . constructor
      . intro hexit
        cases hexit
      . omega
    . omega
  . have hlt : WRITE_BUF_MAX_SIZE < text.length := by
      have : ¬text.length ≤ WRITE_BUF_MAX_SIZE := fun hle => h (hfits.mp hle)
      omega
    have heq := endResponse_exit (by omega) (length_responseLines haddr) (hbuf ▸ Nat.lt_of_not_le h)
    rw [heq]
    refine ⟨?_, fun _ => rfl, ?_⟩
    . constructor
      . exact fun _ => hlt
      . exact fun _ => rfl
    . omega

theorem endResponse_exit_iff_hello
    : let hello : Buffer := ⟨5, 5, [104, 101, 108, 108, 111, 0], rfl, Nat.le_refl 5⟩
      (endResponse (.new ⟨0, 0, 0, ⟨0, 0⟩, true⟩) (some hello) 0).outputs
        = [.send (responseText 200 [] true (some hello.contents) 0)] := by
  intro hello
  have haddr : (new ⟨0, 0, 0, ⟨0, 0⟩, true⟩).Addressable (some hello) := by
    refine ⟨List.forall_mem_nil _, ?_⟩
    intro b hb
    cases hb
    show 5 < 2 ^ 63
    decide
  exact ((endResponse_exit_iff (.new ⟨0, 0, 0, ⟨0, 0⟩, true⟩) (some hello) 0
    rfl haddr (fun h => nomatch h)).2.2
    (by decide +kernel)).1

theorem outputs_endResponse_none (hbuf : ctx.writeBuf.size = WRITE_BUF_MAX_SIZE)
    (hfits : (ctx.rendered none size).length ≤ WRITE_BUF_MAX_SIZE)
    : (ctx.endResponse none size).outputs
        = [.send (responseHead ctx.response.status ctx.response.header ctx.keepAlive
          ++ str "Content-Length: "
            ++ str (toString (toInt size)) ++ str "\r\n" ++ str "\r\n")] := by
  have hmax : WRITE_BUF_MAX_SIZE < 2 ^ 64 := by decide
  rcases endResponse_ok (by omega) (hbuf ▸ hfits) with ⟨buf, _, heq⟩
  rw [heq, rendered_eq_head]
  simp [bodyLines, bodyLength]

theorem contentLength_iff (ctx : Ctx) (n : Nat) (hbuf : ctx.writeBuf.size = WRITE_BUF_MAX_SIZE)
    (hfits : (ctx.rendered none n).length ≤ WRITE_BUF_MAX_SIZE)
    : (ctx.endResponse none n).outputs
          = [.send (responseHead ctx.response.status ctx.response.header ctx.keepAlive
            ++ str "Content-Length: "
              ++ Decimal.ofNat n ++ str "\r\n" ++ str "\r\n")]
        ↔ n < 2 ^ 31 := by
  rw [outputs_endResponse_none hbuf hfits, ← str_toInt_iff]
  simp

theorem contentLength_iff_large
    : (endResponse (.new ⟨0, 0, 0, ⟨0, 0⟩, true⟩) none (2 ^ 31 - 1)).outputs
        = [.send (responseHead 200 [] true ++ str "Content-Length: " ++ Decimal.ofNat (2 ^ 31 - 1)
            ++ str "\r\n" ++ str "\r\n")] := by
  apply (contentLength_iff (.new ⟨0, 0, 0, ⟨0, 0⟩, true⟩) (2 ^ 31 - 1) rfl (by decide +kernel)).mpr
  decide

theorem contentLength_wraps
    : (endResponse (.new ⟨0, 0, 0, ⟨0, 0⟩, true⟩) none (2 ^ 32 + 5)).outputs
          = [.send (responseHead 200 [] true ++ str "Content-Length: 5\r\n\r\n")]
        ∧ (endResponse (.new ⟨0, 0, 0, ⟨0, 0⟩, true⟩) none (2 ^ 32 + 5)).outputs
          ≠ [.send (responseHead 200 [] true ++ str "Content-Length: " ++ Decimal.ofNat (2 ^ 32 + 5)
              ++ str "\r\n" ++ str "\r\n")] := by
  decide +kernel

end Ctx

end Http
end Fsw
