import Fsw.Http.Lemmas.Capacity
import Fsw.Http.Lemmas.Server
import Fsw.Lib.Http1

namespace Fsw
namespace Http

open Buffer (str)

-- The elements of a comma-separated list, in lower case
def tokens (value : Bytes) : List Bytes :=
  (value.splitOn 44).map fun s => (Http1.trim s).map Http1.lower

def Request.HasToken (r : Request) (headerName token : Bytes) : Prop :=
  ∃ value, r.header.find? headerName = some value ∧ token ∈ tokens value

def Request.IsToken (r : Request) (headerName token : Bytes) : Prop :=
  ∃ value, r.header.find? headerName = some value ∧ value.map Http1.lower = token

structure Request.Offers (r : Request) : Prop where
  method : r.method = str "GET"
  connection : r.HasToken (str "connection") (str "upgrade")
  upgrade : r.HasToken (str "upgrade") (str "websocket")
  version : r.header.find? (str "sec-websocket-version") = some (str "13")
  key : ∃ value, r.header.find? (str "sec-websocket-key") = some value ∧ value ≠ []

def badRequestLine : Bytes := str "HTTP/1.1 400 Bad Request\r\n"

-- The answer is the right one, and a refusal is one response after which nothing follows.
def Ctx.Handshakes (sha1 : Bytes → Bytes) (ctx : Ctx) : Prop :=
  let check := ctx.checkWebsocketUpgrade (ctx.request.getHeader (str "sec-websocket-key"))
  ∃ ok ctx', check.result = .ok (ok, ctx') ∧ (ok = true ↔ ctx.request.Offers)
    ∧ (ok = false →
        (∃ text, check.outputs = [.send (badRequestLine ++ text)])
          ∧ (ctx.upgrade sha1).outputs = check.outputs)

section Tokens

variable {value token : Bytes}

theorem lower_of_blank {b : UInt8} (h : Http1.blank b = true) : Http1.lower b = b := by
  simp only [Http1.blank, Bool.or_eq_true, decide_eq_true_eq] at h
  rcases h with rfl | rfl
  . rfl
  . rfl

theorem tokens_eq_singleton (h : value.map Http1.lower = token) (hcomma : 44 ∉ token)
    (hblank : ∀ b ∈ token, Http1.blank b = false)
    : tokens value = [token] := by
  have hsplit : value.splitOn 44 = [value] := by
    apply List.splitOn_eq_singleton
    intro hmem
    apply hcomma
    rw [← h]
    exact List.mem_map_of_mem (f := Http1.lower) hmem
  have htrim : Http1.trim value = value := by
    apply Http1.trim_eq_self
    intro b hb
    cases hblank' : Http1.blank b with
    | false => rfl
    | true =>
      have hmem : b ∈ token := by
        rw [← h, ← lower_of_blank hblank']
        exact List.mem_map_of_mem hb
      rw [hblank b hmem] at hblank'
      contradiction
  unfold tokens
  rw [hsplit, List.map_singleton, htrim, h]

theorem Request.IsToken.hasToken {r : Request} {headerName : Bytes} (h : r.IsToken headerName token)
    (hcomma : 44 ∉ token) (hblank : ∀ b ∈ token, Http1.blank b = false)
    : r.HasToken headerName token := by
  rcases h with ⟨value, hfind, hvalue⟩
  refine ⟨value, hfind, ?_⟩
  rw [tokens_eq_singleton hvalue hcomma hblank]
  apply List.mem_singleton_self

theorem headerContainValue_iff {r : Request} {headerName : Bytes}
    : r.headerContainValue headerName token = true ↔ r.IsToken headerName token := by
  have hlower : tolower = Http1.lower := rfl
  unfold Request.headerContainValue Request.IsToken
  rw [hlower]
  cases r.header.find? headerName with
  | none => simp
  | some value => simp

theorem lower_eq_thirteen : value.map Http1.lower = str "13" ↔ value = str "13" := by
  have hlower (b : UInt8) (c : UInt8) (hc : c ≤ 57) (h : Http1.lower b = c) : b = c := by
    unfold Http1.lower at h
    split at h
    . next hb =>
      exfalso
      rw [← h, UInt8.le_iff_toNat_le, UInt8.toNat_add] at hc
      rw [UInt8.le_iff_toNat_le, UInt8.le_iff_toNat_le] at hb
      simp at hb hc
      omega
    . exact h
  have hstr : str "13" = [49, 51] := by decide
  rw [hstr]
  constructor
  . intro h
    match value with
    | [] => cases h
    | [_] => simp at h
    | [a, b] =>
      simp only [List.map_cons, List.map_nil, List.cons.injEq, and_true] at h
      rw [hlower a 49 (by decide) h.1, hlower b 51 (by decide) h.2]
    | _ :: _ :: _ :: _ => simp at h
  . rintro rfl
    decide

end Tokens

namespace Ctx

variable {ctx : Ctx}

theorem handshakeError_eq_none_iff {r : Request}
    : handshakeError r (r.getHeader (str "sec-websocket-key")) = none
        ↔ r.Offers ∧ r.IsToken (str "connection") (str "upgrade")
          ∧ r.IsToken (str "upgrade") (str "websocket") := by
  have hversion : r.IsToken (str "sec-websocket-version") (str "13")
      ↔ r.header.find? (str "sec-websocket-version") = some (str "13") := by
    unfold Request.IsToken
    constructor
    . rintro ⟨value, hfind, hvalue⟩
      rw [hfind, lower_eq_thirteen.mp hvalue]
    . intro hfind
      exact ⟨_, hfind, lower_eq_thirteen.mpr rfl⟩
  have hkey : (r.getHeader (str "sec-websocket-key")).isEmpty = false
      ↔ ∃ value, r.header.find? (str "sec-websocket-key") = some value ∧ value ≠ [] := by
    unfold Request.getHeader
    cases r.header.find? (str "sec-websocket-key") with
    | none => simp
    | some value => simp
  unfold handshakeError
  constructor
  . intro h
    split at h
    . contradiction
    . next hmethod =>
      split at h
      . contradiction
      . next hconnection =>
        split at h
        . contradiction
        . next hupgrade =>
          split at h
          . contradiction
          . next hversion' =>
            split at h
            . contradiction
            . next hkey' =>
              simp only [Bool.not_eq_true', Bool.not_eq_false] at hconnection hupgrade hversion'
              rw [headerContainValue_iff] at hconnection hupgrade hversion'
              refine ⟨⟨not_not.mp hmethod, hconnection.hasToken (by decide) (by decide +kernel),
                hupgrade.hasToken (by decide) (by decide +kernel), hversion.mp hversion',
                hkey.mp ?_⟩, hconnection, hupgrade⟩
              simpa using hkey'
  . rintro ⟨hoffers, hconnection, hupgrade⟩
    have hmethod := hoffers.method
    have hversion' := headerContainValue_iff.mpr (hversion.mpr hoffers.version)
    have hkey' := hkey.mpr hoffers.key
    rw [← headerContainValue_iff] at hconnection hupgrade
    rw [if_neg (not_not.mpr hmethod), hconnection, hupgrade, hversion', hkey']
    rfl

theorem length_handshakeError {r : Request} {key body : Bytes}
    (h : handshakeError r key = some body)
    : body.length ≤ 200 := by
  have hlength : ∀ body ∈ [badHandshake ++ str "request method is not GET",
      badHandshake ++ str "'upgrade' token not found in 'Connection' header",
      badHandshake ++ str "'websocket' token not found in 'Upgrade' header",
      badHandshake
        ++ str "websocket: unsupported version: 13 not found in 'Sec-Websocket-Version' header",
      badHandshake ++ str "'Sec-WebSocket-Key' header is missing or blank"], body.length ≤ 200 := by
    decide +kernel
  apply hlength
  unfold handshakeError at h
  simp only [List.mem_cons, List.not_mem_nil, or_false]
  split at h
  . injection h with h
    exact .inl h.symm
  . split at h
    . injection h with h
      exact .inr (.inl h.symm)
    . split at h
      . injection h with h
        exact .inr (.inr (.inl h.symm))
      . split at h
        . injection h with h
          exact .inr (.inr (.inr (.inl h.symm)))
        . split at h
          . injection h with h
            exact .inr (.inr (.inr (.inr h.symm)))
          . contradiction

theorem sendBadRequestResponse_ok {body : Bytes} (hbuf : ctx.writeBuf.size = WRITE_BUF_MAX_SIZE)
    (hheader : ctx.response.header = []) (hbody : body.length ≤ 200)
    : ∃ text ctx', ctx.sendBadRequestResponse body
        = ⟨[.send (badRequestLine ++ text)], .ok ctx'⟩ := by
  have hmax : WRITE_BUF_MAX_SIZE < 2 ^ 64 := by decide
  rcases Buffer.append_eq_ok (b := .new body.length) (Nat.le_of_eq (Nat.zero_add _))
    (by show body.length < 2 ^ 64; omega)
    with ⟨b, hb, hcontents, _, _⟩
  have hhead (keepAlive : Bool) : (responseHead 400 [] keepAlive).length ≤ 60 := by
    cases keepAlive <;> decide +kernel
  have hline (keepAlive : Bool) : ∃ text, responseHead 400 [] keepAlive
    = badRequestLine ++ text := by
    cases keepAlive with
    | false => exact ⟨str "Connection: Close\r\n", by decide +kernel⟩
    | true => exact ⟨str "Connection: Keep-Alive\r\n", by decide +kernel⟩
  rw [Buffer.contents_new, List.nil_append] at hcontents
  have hrendered : (ctx.setStatus 400).rendered (some b) 0
      = responseHead 400 [] ctx.keepAlive ++ str "Content-Length: "
        ++ str (toString (toInt (bodyLength (some b) 0))) ++ str "\r\n" ++ str "\r\n"
        ++ (bodyLines (some b)).flatten := by
    rw [rendered_eq_head]
    unfold setStatus
    dsimp only
    rw [hheader]
  have hfits : ((ctx.setStatus 400).rendered (some b) 0).length ≤ WRITE_BUF_MAX_SIZE := by
    have hint := length_toInt (n := bodyLength (some b) 0)
    have hkeepAlive := hhead ctx.keepAlive
    have hlength : (str "Content-Length: ").length = 16 := by decide
    have hcrlf : (str "\r\n").length = 2 := by decide
    rw [hrendered]
    simp only [bodyLines, List.length_append, List.flatten_cons, List.flatten_nil,
      List.length_nil, hcontents, hlength, hcrlf]
    unfold WRITE_BUF_MAX_SIZE
    omega
  rcases hline ctx.keepAlive with ⟨text, htext⟩
  have hsize : (ctx.setStatus 400).writeBuf.size = WRITE_BUF_MAX_SIZE := hbuf
  rcases endResponse_ok (by rw [hsize]; exact hmax) (hsize ▸ hfits) with ⟨buf, _, heq⟩
  rw [htext] at hrendered
  simp only [List.append_assoc] at hrendered
  have hcall : ctx.sendBadRequestResponse body = (ctx.setStatus 400).endResponse (some b) 0 := by
    unfold sendBadRequestResponse
    rw [hb]
    rfl
  rw [hcall, heq, hrendered]
  exact ⟨_, _, rfl⟩

theorem handshakes_iff (sha1 : Bytes → Bytes) (ctx : Ctx)
    (hbuf : ctx.writeBuf.size = WRITE_BUF_MAX_SIZE) (hheader : ctx.response.header = [])
    : ctx.Handshakes sha1
        ↔ (ctx.request.Offers →
            ctx.request.IsToken (str "connection") (str "upgrade")
              ∧ ctx.request.IsToken (str "upgrade") (str "websocket")) := by
  have hnone := handshakeError_eq_none_iff (r := ctx.request)
  unfold Handshakes
  rw [checkWebsocketUpgrade_eq]
  cases herror : handshakeError ctx.request (ctx.request.getHeader (str "sec-websocket-key")) with
  | none =>
    have haccepted := hnone.mp herror
    constructor
    . intro _ _
      exact haccepted.2
    . intro _
      refine ⟨true, ctx, rfl, ?_, ?_⟩
      . simp [haccepted.1]
      . intro h
        contradiction
  | some body =>
    have hrejected : ¬(ctx.request.Offers ∧ ctx.request.IsToken (str "connection") (str "upgrade")
        ∧ ctx.request.IsToken (str "upgrade") (str "websocket")) := by
      rw [← hnone, herror]
      simp
    rcases sendBadRequestResponse_ok hbuf hheader (length_handshakeError herror) with
      ⟨text, ctx', hsend⟩
    have hreply : ctx.handshakeReply (some body)
      = ⟨[.send (badRequestLine ++ text)], .ok (false, ctx')⟩ := by
      unfold handshakeReply
      dsimp only
      rw [hsend]
      rfl
    have hupgrade : (ctx.upgrade sha1).outputs = [.send (badRequestLine ++ text)] := by
      unfold upgrade
      dsimp only
      rw [checkWebsocketUpgrade_eq, herror, hreply]
      rfl
    rw [hreply]
    constructor
    . rintro ⟨ok, ctx'', hresult, hok, _⟩ hoffers
      injection hresult with hresult
      injection hresult with hfalse _
      rw [← hfalse] at hok
      exact absurd (hok.mpr hoffers) Bool.false_ne_true
    . intro hsingle
      refine ⟨false, ctx', rfl, ?_, fun _ => ⟨⟨text, rfl⟩, hupgrade⟩⟩
      simp only [Bool.false_eq_true, false_iff]
      intro hoffers
      exact hrejected ⟨hoffers, hsingle hoffers⟩

-- What `SHA1` returns for the key of the example in RFC 6455 and the GUID
def sampleSha1 (_ : Bytes) : Bytes :=
  [0xb3, 0x7a, 0x4f, 0x2c, 0xc0, 0x62, 0x4f, 0x16, 0x90, 0xf6, 0x46, 0x06, 0xcf, 0x38,
    0x59, 0x45, 0xb2, 0xbe, 0xc4, 0xea]

def upgrading (connection : Bytes) : Ctx :=
  { new ⟨0, 0, 0, ⟨0, 0⟩, true⟩ with
    request :=
      { Request.new ⟨0, 0, 0, ⟨0, 0⟩, true⟩ with
        method := str "GET"
        header := [(str "connection", connection),
          (str "sec-websocket-key", str "dGhlIHNhbXBsZSBub25jZQ=="),
          (str "sec-websocket-version", str "13"), (str "upgrade", str "websocket")] } }

theorem handshakes_upgrade : (upgrading (str "Upgrade")).Handshakes sampleSha1 := by
  apply (handshakes_iff sampleSha1 (upgrading (str "Upgrade")) rfl rfl).mpr
  intro _
  exact ⟨⟨str "Upgrade", rfl, by decide⟩, ⟨str "websocket", by decide, by decide⟩⟩

theorem offers_upgrading : (upgrading (str "keep-alive, Upgrade")).request.Offers where
  method := rfl
  connection := ⟨_, rfl, by decide +kernel⟩
  upgrade := ⟨str "websocket", by decide, by decide +kernel⟩
  version := by decide
  key := ⟨str "dGhlIHNhbXBsZSBub25jZQ==", by decide, by decide⟩

theorem not_handshakes_keepAlive
    : (upgrading (str "keep-alive, Upgrade")).request.Offers
        ∧ ¬(upgrading (str "keep-alive, Upgrade")).Handshakes sampleSha1 := by
  refine ⟨offers_upgrading, ?_⟩
  rintro ⟨ok, ctx', hresult, hok, _⟩
  have hrefused : ((upgrading (str "keep-alive, Upgrade")).checkWebsocketUpgrade
      ((upgrading (str "keep-alive, Upgrade")).request.getHeader
        (str "sec-websocket-key"))).result.map Prod.fst
        = .ok false := by
    rfl
  rw [hresult, hok.mpr offers_upgrading] at hrefused
  simp [Except.map] at hrefused

end Ctx

end Http
end Fsw
