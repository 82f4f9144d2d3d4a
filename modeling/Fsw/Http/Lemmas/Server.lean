import Fsw.Http.Impl.Server
import Fsw.Http.Lemmas.Isolation
import Fsw.Http.Lemmas.Response

namespace Fsw
namespace Http

open Buffer (str)

namespace Ctx

def handshakeError (r : Request) (secWebsocketKey : Bytes) : Option Bytes :=
  if r.method ≠ str "GET" then
    some (badHandshake ++ str "request method is not GET")
  else if !r.headerContainValue (str "connection") (str "upgrade") then
    some (badHandshake ++ str "'upgrade' token not found in 'Connection' header")
  else if !r.headerContainValue (str "upgrade") (str "websocket") then
    some (badHandshake ++ str "'websocket' token not found in 'Upgrade' header")
  else if !r.headerContainValue (str "sec-websocket-version") (str "13") then
    some (badHandshake
      ++ str "websocket: unsupported version: 13 not found in 'Sec-Websocket-Version' header")
  else if secWebsocketKey.isEmpty then
    some (badHandshake ++ str "'Sec-WebSocket-Key' header is missing or blank")
  else
    none

def handshakeReply (ctx : Ctx) : Option Bytes → Reply (Bool × Ctx)
  | none => return (true, ctx)
  | some body => do
    let ctx ← ctx.sendBadRequestResponse body
    return (false, ctx)

theorem checkWebsocketUpgrade_eq {ctx : Ctx} {key : Bytes}
    : ctx.checkWebsocketUpgrade key = ctx.handshakeReply (handshakeError ctx.request key) := by
  unfold checkWebsocketUpgrade handshakeError
  split
  . rfl
  . split
    . rfl
    . split
      . rfl
      . split
        . rfl
        . split
          . rfl
          . rfl

/--
Two contexts that handle the same request and differ in the status of their responses at most.
-/
structure Alike (r : Request) (keepAlive : Bool) (c₁ c₂ : Ctx) : Prop where
  request : c₁.request = r ∧ c₂.request = r
  keepAlive : c₁.keepAlive = keepAlive ∧ c₂.keepAlive = keepAlive
  header : c₁.response.header = c₂.response.header
  size : c₁.writeBuf.size = WRITE_BUF_MAX_SIZE ∧ c₂.writeBuf.size = WRITE_BUF_MAX_SIZE

def SameStatus (c₁ c₂ : Ctx) : Prop :=
  getStatusMessage c₁.response.status = getStatusMessage c₂.response.status

section Alike

variable {r : Request} {keepAlive : Bool} {c₁ c₂ : Ctx}

theorem Alike.setStatus (h : Alike r keepAlive c₁ c₂) (status : Int)
    : Alike r keepAlive (c₁.setStatus status) (c₂.setStatus status) := by
  exact ⟨h.request, h.keepAlive, h.header, h.size⟩

theorem Alike.setHeader (h : Alike r keepAlive c₁ c₂) (name value : Bytes)
    : Alike r keepAlive (c₁.setHeader name value) (c₂.setHeader name value) := by
  refine ⟨h.request, h.keepAlive, ?_, h.size⟩
  unfold Ctx.setHeader
  dsimp only
  rw [h.header]

theorem Alike.tail_eq (h : Alike r keepAlive c₁ c₂) {body : Option Buffer} {size : Nat}
    : c₁.tail body size = c₂.tail body size := by
  unfold tail
  rw [h.header, h.keepAlive.1, h.keepAlive.2]

theorem Alike.endResponse (h : Alike r keepAlive c₁ c₂) (hstatus : SameStatus c₁ c₂)
    (body : Option Buffer) (size : Nat)
    : Emit.Rel (fun a b => Alike r keepAlive a b ∧ SameStatus a b) (c₁.endResponse body size)
        (c₂.endResponse body size) := by
  have hrendered : c₁.rendered body size = c₂.rendered body size := by
    rw [rendered_eq, rendered_eq, hstatus, h.tail_eq]
  have hmax : WRITE_BUF_MAX_SIZE < 2 ^ 64 := by decide
  by_cases hfits : (c₁.rendered body size).length ≤ WRITE_BUF_MAX_SIZE
  . rcases endResponse_ok (h.size.1 ▸ hmax) (h.size.1 ▸ hfits) with ⟨buf₁, hbuf₁, heq₁⟩
    rcases endResponse_ok (h.size.2 ▸ hmax) (h.size.2 ▸ hrendered ▸ hfits) with ⟨buf₂, hbuf₂, heq₂⟩
    rw [heq₁, heq₂, hrendered]
    refine Emit.Rel.ok ⟨?_, hstatus⟩
    exact ⟨h.request, h.keepAlive, h.header, hbuf₁.trans h.size.1, hbuf₂.trans h.size.2⟩
  . have hlarge := Nat.lt_of_not_le hfits
    rcases endResponse_error (h.size.1 ▸ hlarge) with ⟨e₁, heq₁⟩
    rcases endResponse_error (h.size.2 ▸ hrendered ▸ hlarge) with ⟨e₂, heq₂⟩
    rw [heq₁, heq₂]
    apply Emit.Rel.error

theorem Alike.sendBadRequestResponse (h : Alike r keepAlive c₁ c₂) (body : Bytes)
    : Emit.Rel (Alike r keepAlive) (c₁.sendBadRequestResponse body)
        (c₂.sendBadRequestResponse body) := by
  unfold Ctx.sendBadRequestResponse
  cases (Buffer.new (List.length body)).append body with
  | error e => apply Emit.Rel.error
  | ok badBody =>
    apply ((h.setStatus 400).endResponse rfl (some badBody) 0).mono
    intro a b hab
    apply hab.1

theorem Alike.sendNotFoundResponse (h : Alike r keepAlive c₁ c₂)
    : Emit.Rel (Alike r keepAlive) c₁.sendNotFoundResponse c₂.sendNotFoundResponse := by
  apply ((h.setStatus 404).endResponse rfl none 0).mono
  intro a b hab
  apply hab.1

theorem Alike.upgrade (h : Alike r keepAlive c₁ c₂) (sha1 : Bytes → Bytes)
    : Emit.Rel (fun a b => a.1 = b.1 ∧ Alike r keepAlive a.2 b.2 ∧ (a.1 → SameStatus a.2 b.2))
        (c₁.upgrade sha1) (c₂.upgrade sha1) := by
  unfold Ctx.upgrade
  simp only [checkWebsocketUpgrade_eq, h.request.1, h.request.2]
  cases handshakeError r (r.getHeader (str "sec-websocket-key")) with
  | none =>
    have hset := (((h.setStatus 101).setHeader (str "Upgrade") (str "websocket")).setHeader
      (str "Connection") (str "Upgrade")).setHeader (str "Sec-WebSocket-Accept")
      (computeAcceptKey sha1 (r.getHeader (str "sec-websocket-key")))
    apply (hset.endResponse rfl none 0).bind
    intro a b hab
    exact Emit.Rel.pure ⟨rfl, hab.1, fun _ => hab.2⟩
  | some body =>
    have hreply : Emit.Rel (fun a b => a.1 = false ∧ b.1 = false ∧ Alike r keepAlive a.2 b.2)
        (c₁.handshakeReply (some body)) (c₂.handshakeReply (some body)) := by
      apply (h.sendBadRequestResponse body).bind
      intro a b hab
      exact Emit.Rel.pure ⟨rfl, rfl, hab⟩
    apply hreply.bind
    intro a b hab
    rcases a with ⟨ok₁, a⟩
    rcases b with ⟨ok₂, b⟩
    rcases hab with ⟨hok₁, hok₂, halike⟩
    dsimp only at hok₁ hok₂ halike ⊢
    subst hok₁ hok₂
    refine Emit.Rel.pure ⟨rfl, halike, ?_⟩
    intro hfalse
    contradiction

end Alike

end Ctx

-- What the first response has after its status, if this is the one that has been there before
def statusTail (ctx : Ctx) : List Action → Option Bytes
  | [] => none
  | .setStatus _ :: _ => none
  | .setHeader name value :: actions => statusTail (ctx.setHeader name value) actions
  | .endResponse body size :: _ => some (ctx.tail body size)

/--
The same for any request: it is answered with a file, or by a handler for http that does not set the
status first. All other answers have a status of their own.
-/
def Server.statusTail (server : Server) (ctx : Ctx) (path : Bytes) : Option Bytes :=
  if !(server.getDocumentAbsolutePath path).isEmpty then
    some (ctx.tail none (server.fs.size (cStr (server.getDocumentAbsolutePath path))))
  else
    match server.getHttpHandler path with
    | some handler =>
      if ctx.request.hasSecWebsocketKey then none else Http.statusTail ctx (handler ctx.request)
    | none => none

def TooLarge (status : Int) (tail : Bytes) : Prop :=
  WRITE_BUF_MAX_SIZE < (str "HTTP/1.1 " ++ getStatusMessage status ++ tail).length

section Dispatch

variable {r : Request} {keepAlive : Bool} {c₁ c₂ : Ctx}

theorem runActions_rel (h : Ctx.Alike r keepAlive c₁ c₂) {actions : List Action}
    (hstatus : Ctx.SameStatus c₁ c₂ ∨ statusTail c₁ actions = none)
    : Emit.Rel (Ctx.Alike r keepAlive) (runActions c₁ actions) (runActions c₂ actions) := by
  induction actions generalizing c₁ c₂ with
  | nil => apply Emit.Rel.pure h
  | cons action actions ih =>
    cases action with
    | setStatus status => apply ih (h.setStatus status) (Or.inl rfl)
    | setHeader name value => apply ih (h.setHeader name value) hstatus
    | endResponse body size =>
      rcases hstatus with hsame | hfirst
      . apply (h.endResponse hsame body size).bind
        intro a b hab
        apply ih hab.1 (Or.inl hab.2)
      . contradiction

theorem callHttpHandler_rel (h : Ctx.Alike r keepAlive c₁ c₂) {handler : Handler}
    (hstatus : Ctx.SameStatus c₁ c₂ ∨ r.hasSecWebsocketKey ∨ statusTail c₁ (handler r) = none)
    : Emit.Rel (fun a b => a.1 = b.1 ∧ Ctx.Alike r keepAlive a.2 b.2) (callHttpHandler handler c₁)
        (callHttpHandler handler c₂) := by
  unfold callHttpHandler
  rw [h.request.1, h.request.2]
  split
  . apply (h.sendBadRequestResponse _).bind
    intro a b hab
    exact Emit.Rel.pure ⟨rfl, hab⟩
  . next hkey =>
    have hrun : Ctx.SameStatus c₁ c₂ ∨ statusTail c₁ (handler r) = none := by
      rcases hstatus with hsame | hkey' | hfirst
      . apply Or.inl hsame
      . contradiction
      . apply Or.inr hfirst
    apply (runActions_rel h hrun).bind
    intro a b hab
    exact Emit.Rel.pure ⟨rfl, hab⟩

theorem callWebsocketHandler_rel (h : Ctx.Alike r keepAlive c₁ c₂) {sha1 : Bytes → Bytes}
    {handler : Handler}
    : Emit.Rel (fun a b => a.1 = b.1 ∧ Ctx.Alike r keepAlive a.2 b.2)
        (callWebsocketHandler sha1 handler c₁) (callWebsocketHandler sha1 handler c₂) := by
  unfold callWebsocketHandler
  apply (h.upgrade sha1).bind
  intro a b hab
  rcases a with ⟨ok₁, a⟩
  rcases b with ⟨ok₂, b⟩
  rcases hab with ⟨hok, halike, hsame⟩
  dsimp only at hok halike hsame ⊢
  subst hok
  cases ok₁ with
  | false => exact Emit.Rel.pure ⟨rfl, halike⟩
  | true =>
    rw [halike.request.1, halike.request.2]
    apply (runActions_rel halike (Or.inl (hsame rfl))).bind
    intro a b hab
    exact Emit.Rel.pure ⟨rfl, hab⟩

theorem dispatch_rel {server : Server} {path : Bytes} (h : Ctx.Alike r keepAlive c₁ c₂)
    (hstatus : Ctx.SameStatus c₁ c₂ ∨ server.statusTail c₁ path = none)
    : Emit.Rel (fun a b => a.1 = b.1 ∧ Ctx.Alike r keepAlive a.2 b.2) (server.dispatch c₁ path)
        (server.dispatch c₂ path) := by
  unfold Server.statusTail at hstatus
  unfold Server.dispatch
  dsimp only
  split
  . next hfile =>
    rw [if_pos hfile] at hstatus
    rcases hstatus with hsame | hnone
    . apply (h.endResponse hsame none _).bind
      intro a b hab
      apply Emit.Rel.emit.bind
      intro _ _ _
      exact Emit.Rel.pure ⟨rfl, hab.1⟩
    . contradiction
  . next hfile =>
    rw [if_neg hfile] at hstatus
    cases hhandler : server.getHttpHandler path with
    | some handler =>
      rw [hhandler] at hstatus
      apply callHttpHandler_rel h
      rcases hstatus with hsame | hnone
      . apply Or.inl hsame
      . dsimp only at hnone
        rw [h.request.1] at hnone
        split at hnone
        . next hkey => exact Or.inr (Or.inl hkey)
        . apply Or.inr (Or.inr hnone)
    | none =>
      cases server.getWebsocketHandler path with
      | some handler => apply callWebsocketHandler_rel h
      | none =>
        apply h.sendNotFoundResponse.bind
        intro a b hab
        exact Emit.Rel.pure ⟨rfl, hab⟩

theorem statusTail_eq (h : Ctx.Alike r keepAlive c₁ c₂) {actions : List Action}
    : statusTail c₁ actions = statusTail c₂ actions := by
  induction actions generalizing c₁ c₂ with
  | nil => rfl
  | cons action actions ih =>
    cases action with
    | setStatus status => rfl
    | setHeader name value => apply ih (h.setHeader name value)
    | endResponse body size =>
      unfold statusTail
      rw [h.tail_eq]

theorem Server.statusTail_eq {server : Server} {path : Bytes} (h : Ctx.Alike r keepAlive c₁ c₂)
    : server.statusTail c₁ path = server.statusTail c₂ path := by
  unfold Server.statusTail
  rw [h.tail_eq, h.request.1, h.request.2]
  cases server.getHttpHandler path with
  | none => rfl
  | some handler =>
    dsimp only
    rw [Http.statusTail_eq h]

end Dispatch

section Head

variable {c : Ctx}

def firstSend (status : Int) (tail : Bytes) : Option Output :=
  let data := str "HTTP/1.1 " ++ getStatusMessage status ++ tail
  if data.length ≤ WRITE_BUF_MAX_SIZE then some (.send data) else none

theorem firstSend_eq_none {status : Int} {tail : Bytes}
    : firstSend status tail = none ↔ TooLarge status tail := by
  unfold firstSend TooLarge
  simp

theorem firstSend_inj {status status' : Int} {tail : Bytes} {o : Output}
    (h : firstSend status tail = some o) (h' : firstSend status' tail = some o)
    : getStatusMessage status = getStatusMessage status' := by
  unfold firstSend at h h'
  dsimp only at h h'
  split at h
  . split at h'
    . injection h with h
      injection h' with h'
      rw [← h'] at h
      injection h with h
      rw [List.append_cancel_right_eq, List.append_cancel_left_eq] at h
      exact h
    . contradiction
  . contradiction

theorem endResponse_head? (hsize : c.writeBuf.size = WRITE_BUF_MAX_SIZE)
    {body : Option Buffer} {size : Nat} {α : Type} (f : Ctx → Reply α)
    : (c.endResponse body size >>= f).outputs.head?
        = firstSend c.response.status (c.tail body size) := by
  have hmax : WRITE_BUF_MAX_SIZE < 2 ^ 64 := by decide
  unfold firstSend
  dsimp only
  rw [← Ctx.rendered_eq]
  split
  . next hfits =>
    rcases Ctx.endResponse_ok (hsize ▸ hmax) (hsize ▸ hfits) with ⟨buf, _, heq⟩
    rw [heq]
    rfl
  . next hlarge =>
    rcases Ctx.endResponse_error (hsize ▸ Nat.lt_of_not_le hlarge) with ⟨e, heq⟩
    rw [heq]
    rfl

theorem runActions_head? (hsize : c.writeBuf.size = WRITE_BUF_MAX_SIZE)
    {actions : List Action} {tail : Bytes} (h : statusTail c actions = some tail)
    : (runActions c actions).outputs.head? = firstSend c.response.status tail := by
  induction actions generalizing c with
  | nil => contradiction
  | cons action actions ih =>
    cases action with
    | setStatus status => contradiction
    | setHeader name value => apply ih (c := c.setHeader name value) hsize h
    | endResponse body size =>
      injection h with h
      subst h
      apply endResponse_head? hsize _

theorem dispatch_head? {server : Server} {path tail : Bytes}
    (hsize : c.writeBuf.size = WRITE_BUF_MAX_SIZE) (h : server.statusTail c path = some tail)
    : (server.dispatch c path).outputs.head? = firstSend c.response.status tail := by
  unfold Server.statusTail at h
  unfold Server.dispatch
  dsimp only
  split at h
  . next hfile =>
    rw [if_pos hfile]
    injection h with h
    subst h
    apply endResponse_head? hsize _
  . next hfile =>
    rw [if_neg hfile]
    cases hhandler : server.getHttpHandler path with
    | none =>
      rw [hhandler] at h
      contradiction
    | some handler =>
      rw [hhandler] at h
      dsimp only at h ⊢
      split at h
      . contradiction
      . next hkey =>
        unfold callHttpHandler
        rw [if_neg hkey, Emit.outputs_bind_pure]
        apply runActions_head? hsize h

end Head

/--
With the same request the same is sent if and only if the status has the same message, or is not
sent.
-/
theorem dispatch_outputs_eq_iff {server : Server} {path : Bytes} {r : Request} {keepAlive : Bool}
    {c₁ c₂ : Ctx} (h : Ctx.Alike r keepAlive c₁ c₂)
    : (server.dispatch c₁ path).outputs = (server.dispatch c₂ path).outputs
      ↔ Ctx.SameStatus c₁ c₂
        ∨ ∀ tail ∈ server.statusTail c₁ path,
            TooLarge c₁.response.status tail ∧ TooLarge c₂.response.status tail := by
  cases htail : server.statusTail c₁ path with
  | none =>
    have := (dispatch_rel h (Or.inr htail)).outputs_eq
    simp [this]
  | some tail =>
    have h₁ := dispatch_head? h.size.1 htail
    have h₂ := dispatch_head? h.size.2 ((Server.statusTail_eq h).symm.trans htail)
    constructor
    . intro heq
      rw [heq, h₂] at h₁
      cases hfirst : firstSend c₁.response.status tail with
      | none =>
        rw [hfirst] at h₁
        right
        intro tail' htail'
        injection htail' with htail'
        subst htail'
        exact ⟨firstSend_eq_none.mp hfirst, firstSend_eq_none.mp h₁⟩
      | some o =>
        rw [hfirst] at h₁
        left
        apply firstSend_inj hfirst h₁
    . intro hstatus
      rcases hstatus with hsame | hlarge
      . apply (dispatch_rel h (Or.inl hsame)).outputs_eq
      . rcases hlarge tail rfl with ⟨hlarge₁, hlarge₂⟩
        rw [firstSend_eq_none.mpr hlarge₁, List.head?_eq_none_iff] at h₁
        rw [firstSend_eq_none.mpr hlarge₂, List.head?_eq_none_iff] at h₂
        rw [h₁, h₂]

namespace Ctx

structure Cleared (ctx : Ctx) : Prop where
  path : ctx.request.path = none
  body : ctx.request.body = none
  header : ctx.request.header = []
  responseHeader : ctx.response.header = []
  size : ctx.writeBuf.size = WRITE_BUF_MAX_SIZE

theorem cleared_new {u : Uninit} : (new u).Cleared := by
  exact ⟨rfl, rfl, rfl, rfl, rfl⟩

theorem Cleared.dispatch {ctx c : Ctx} {r : Read} {server : Server} {path : Bytes} {go : Bool}
    (h : ctx.Cleared) (hresult : (server.dispatch (ctx.read r) path).result = .ok (go, c))
    : c.clear.Cleared ∧ c.keepAlive = (ctx.read r).keepAlive := by
  have hsize : (ctx.read r).writeBuf.size = WRITE_BUF_MAX_SIZE := by
    rw [read_response.2, h.size]
  have hself : Alike (ctx.read r).request (ctx.read r).keepAlive (ctx.read r) (ctx.read r) := by
    exact ⟨⟨rfl, rfl⟩, ⟨rfl, rfl⟩, rfl, hsize, hsize⟩
  rcases (dispatch_rel hself (Or.inl rfl)).result_ok hresult with ⟨_, _, hab⟩
  exact ⟨⟨rfl, rfl, rfl, rfl, hab.2.size.1⟩, hab.2.keepAlive.1⟩

end Ctx

namespace Server

variable {server : Server} {ctx : Ctx}

theorem turn_of_path_eq_none {r : Read} (hpath : (ctx.read r).request.path = none)
    : server.turn ctx r = (none, .trap .nullDeref) := by
  unfold Ctx.read at hpath
  unfold turn
  dsimp only
  simp only [hpath]

theorem turn_of_path {r : Read} {path : Bytes} (hpath : (ctx.read r).request.path = some path)
    : server.turn ctx r
        = (some ⟨ctx.read r, (server.dispatch (ctx.read r) (cStr path)).outputs⟩,
            match (server.dispatch (ctx.read r) (cStr path)).result with
            | .error trap => .trap trap
            | .ok (go, c) => if go ∧ c.keepAlive then .next c.clear else .done) := by
  unfold Ctx.read at hpath ⊢
  unfold turn
  dsimp only
  simp only [hpath]
  cases (server.dispatch ((ctx.recv r.data).parse r.callbacks) (cStr path)).result with
  | error trap => rfl
  | ok a => rfl

theorem serve_of_path_eq_none {r : Read} {rs : List Read} (hpath : (ctx.read r).request.path = none)
    : server.serve ctx (r :: rs) = ⟨[], some .nullDeref⟩ := by
  rw [serve, turn_of_path_eq_none hpath]
  rfl

theorem serve_of_result {r : Read} {path : Bytes} {c : Ctx} (rs : List Read)
    (hpath : (ctx.read r).request.path = some path)
    (hresult : (server.dispatch (ctx.read r) (cStr path)).result = .ok (true, c))
    (hkeep : c.keepAlive = true)
    : server.serve ctx (r :: rs)
        = ⟨⟨ctx.read r, (server.dispatch (ctx.read r) (cStr path)).outputs⟩
          :: (server.serve c.clear rs).answers,
            (server.serve c.clear rs).trap⟩ := by
  rw [serve, turn_of_path hpath, hresult]
  dsimp only
  rw [if_pos ⟨rfl, hkeep⟩]
  rfl

theorem serve_cons (server : Server) {r : Read} (rs : List Read) {path : Bytes}
    (hpath : (ctx.read r).request.path = some path)
    : ∃ rest, (server.serve ctx (r :: rs)).answers
          = ⟨ctx.read r, (server.dispatch (ctx.read r) (cStr path)).outputs⟩ :: rest
        ∧ ((∃ c, (server.dispatch (ctx.read r) (cStr path)).result = .ok (true, c)
              ∧ rest = (server.serve c.clear rs).answers)
            ∨ rest = []) := by
  rw [serve, turn_of_path hpath]
  cases hresult : (server.dispatch (ctx.read r) (cStr path)).result with
  | error trap => exact ⟨[], rfl, .inr rfl⟩
  | ok a =>
    rcases a with ⟨go, c⟩
    dsimp only
    by_cases hgo : go = true ∧ c.keepAlive = true
    . rw [if_pos hgo]
      refine ⟨_, rfl, .inl ⟨c, ?_, rfl⟩⟩
      rw [hgo.1]
    . rw [if_neg hgo]
      exact ⟨[], rfl, .inr rfl⟩

end Server

structure Packet extends Message where
  read : Read
  reads_eq : reads = [read]

namespace Ctx

theorem read_eq_readAll {ctx : Ctx} {m : Packet} : ctx.read m.read = ctx.readAll m.reads := by
  rw [m.reads_eq]
  rfl

theorem Cleared.alike {c₁ c₂ : Ctx} {m : Message} (h₁ : c₁.Cleared) (h₂ : c₂.Cleared)
    (hrequest : (c₁.readAll m.reads).request = (c₂.readAll m.reads).request)
    : Alike (c₁.readAll m.reads).request m.info.keepAlive (c₁.readAll m.reads)
        (c₂.readAll m.reads) := by
  constructor
  . exact ⟨rfl, hrequest.symm⟩
  . exact ⟨readAll_keepAlive_eq, readAll_keepAlive_eq⟩
  . rw [readAll_response.1, readAll_response.1, h₁.responseHeader, h₂.responseHeader]
  . rw [readAll_response.2, readAll_response.2]
    exact ⟨h₁.size, h₂.size⟩

theorem readAll_path_isSome (ctx : Ctx) (m : Message)
    : ∃ path, (ctx.readAll m.reads).request.path = some path := by
  rw [readAll_path m.inRange]
  cases hurl : (m.reads.flatMap Read.urls).getLast? with
  | none =>
    rw [List.getLast?_eq_none_iff] at hurl
    apply absurd hurl m.urls
  | some url => exact ⟨url, rfl⟩

end Ctx

namespace Server

variable {server : Server}

/--
The status that is left in the context by the requests before does not show in the answer: it has
the message of the one of a new response, or the answer sets another one, or is too large to be sent
with either.
-/
def StatusUnaffected (server : Server) (ctx : Ctx) : Prop :=
  getStatusMessage ctx.response.status = getStatusMessage 200
    ∨ ∀ path ∈ ctx.request.path, ∀ tail ∈ server.statusTail ctx (cStr path),
        TooLarge ctx.response.status tail ∧ TooLarge 200 tail

theorem serve_head_isolated {ctx : Ctx} {u : Uninit} {m : Packet}
    {path : Bytes} (hctx : ctx.Cleared) (hpath : (ctx.readAll m.reads).request.path = some path)
    (hmethod : m.info.GetOrPost ∨ (ctx.readAll m.reads).request.method = [])
    (hlength : m.HasBody ∨ (ctx.readAll m.reads).request.bodyLength = u.bodyLength)
    : ∃ fresh, (server.onAccept u [m.read]).answers = [fresh]
        ∧ ((server.dispatch (ctx.readAll m.reads) (cStr path)).outputs = fresh.outputs
          ↔ server.StatusUnaffected (ctx.readAll m.reads)) := by
  have hrequest : (ctx.readAll m.reads).request = ((Ctx.new u).readAll m.reads).request := by
    rw [Ctx.readAll_request_eq_iff hctx.body hctx.header]
    constructor
    . by_cases hm : m.info.GetOrPost
      . apply Or.inl hm
      . rw [Ctx.readAll_method_eq hm] at hmethod
        exact hmethod
    . by_cases hm : m.HasBody
      . apply Or.inl hm
      . rw [Ctx.readAll_bodyLength_eq hm] at hlength
        exact hlength
  have hfresh : ((Ctx.new u).read m.read).request.path = some path := by
    rw [Ctx.read_eq_readAll, ← hrequest, hpath]
  have hstatus : ((Ctx.new u).readAll m.reads).response.status = 200 := by
    rw [Ctx.readAll_response.1]
    rfl
  rcases serve_cons server [] hfresh with ⟨rest, hanswers, hrest⟩
  rw [Ctx.read_eq_readAll] at hanswers
  refine ⟨⟨(Ctx.new u).readAll m.reads,
    (server.dispatch ((Ctx.new u).readAll m.reads) (cStr path)).outputs⟩, ?_, ?_⟩
  . rcases hrest with ⟨c, _, hnil⟩ | hnil
    . rw [hnil] at hanswers
      exact hanswers
    . rw [hnil] at hanswers
      exact hanswers
  . dsimp only
    rw [dispatch_outputs_eq_iff (hctx.alike Ctx.cleared_new hrequest)]
    unfold StatusUnaffected Ctx.SameStatus
    rw [hstatus, hpath]
    simp

/--
On a connection on which a request looks as it does on a new one, the answer to it is the one on the
new connection if and only if it is not affected by the status that is left there.
-/
theorem onAccept_isolated (u₀ u : Uninit) (ms : List Packet) (k : Nat)
    (m : Packet) (answer : Answer) (hm : ms[k]? = some m)
    (hanswer : (server.onAccept u₀ (ms.map (·.read))).answers[k]? = some answer)
    (hmethod : m.info.GetOrPost ∨ answer.ctx.request.method = [])
    (hlength : m.HasBody ∨ answer.ctx.request.bodyLength = u.bodyLength)
    : ∃ fresh, (server.onAccept u [m.read]).answers = [fresh]
        ∧ (answer.outputs = fresh.outputs ↔ server.StatusUnaffected answer.ctx) := by
  unfold onAccept at hanswer
  have hctx : (Ctx.new u₀).Cleared := Ctx.cleared_new
  generalize Ctx.new u₀ = ctx at hanswer hctx
  induction ms generalizing ctx k with
  | nil => contradiction
  | cons m' ms ih =>
    rcases Ctx.readAll_path_isSome ctx m'.toMessage with ⟨path, hpath⟩
    rw [← Ctx.read_eq_readAll] at hpath
    rcases serve_cons server (ms.map (·.read)) hpath with ⟨rest, hanswers, hrest⟩
    rw [List.map_cons, hanswers] at hanswer
    cases k with
    | zero =>
      injection hm with hm
      injection hanswer with hanswer
      subst hm hanswer
      rw [Ctx.read_eq_readAll] at hpath hmethod hlength ⊢
      apply serve_head_isolated hctx hpath hmethod hlength
    | succ k =>
      rw [List.getElem?_cons_succ] at hm hanswer
      rcases hrest with ⟨c, hresult, hserve⟩ | hnil
      . rw [hserve] at hanswer
        apply ih k hm _ hanswer (hctx.dispatch hresult).1
      . rw [hnil] at hanswer
        contradiction

end Server

def getRead (path : Bytes) : Read where
  data := str "GET " ++ path ++ str " HTTP/1.1\r\n\r\n"
  callbacks :=
    [.messageBegin, .url ⟨4, path.length⟩, .headersComplete ⟨.get, 1, 1, true⟩, .messageComplete]

def getA : Packet where
  reads := [getRead (str "/a")]
  read := getRead (str "/a")
  info := ⟨.get, 1, 1, true⟩
  inRange := by decide
  parsers := by decide
  urls := by decide
  fieldFirst := by decide
  reads_eq := rfl

def getB : Packet where
  reads := [getRead (str "/b")]
  read := getRead (str "/b")
  info := ⟨.get, 1, 1, true⟩
  inRange := by decide
  parsers := by decide
  urls := by decide
  fieldFirst := by decide
  reads_eq := rfl

-- There is a handler for `/a` that does not set a status, and nothing else.
def serverA : Server where
  settings := []
  httpHandlers := [(str "/a", fun _ => [.endResponse none 0])]
  websocketHandlers := []
  fs := ⟨fun _ => false, fun _ => 0, fun _ => []⟩
  sha1 := fun _ => []

theorem onAccept_isolated_not_found
    : ∃ answer fresh, (serverA.onAccept .zero ([getB, getB].map (·.read))).answers[1]? = some answer
        ∧ (serverA.onAccept .zero [getB.read]).answers = [fresh]
        ∧ (answer.outputs = fresh.outputs ↔ serverA.StatusUnaffected answer.ctx) := by
  have hctx : (serverA.onAccept .zero ([getB, getB].map (·.read))).answers[1]?.map
      (·.ctx.request.bodyLength) = some 0 := by
    decide +kernel
  rcases Option.map_eq_some_iff.mp hctx with ⟨answer, hanswer, hlength⟩
  have hget : getB.info.GetOrPost := by decide
  rcases Server.onAccept_isolated .zero .zero [getB, getB] 1 getB answer rfl hanswer (Or.inl hget)
    (Or.inr hlength) with ⟨fresh, hfresh, hiff⟩
  exact ⟨answer, fresh, hanswer, hfresh, hiff⟩

theorem found_after_not_found
    : (serverA.onAccept .zero [getB.read, getA.read]).answers.map Answer.outputs
        = [[.send
          (str "HTTP/1.1 404 Not Found\r\nConnection: Keep-Alive\r\nContent-Length: 0\r\n\r\n")],
          [.send
            (str "HTTP/1.1 404 Not Found\r\nConnection: Keep-Alive\r\nContent-Length: 0\r\n\r\n")]]
      ∧ (serverA.onAccept .zero [getA.read]).answers.map Answer.outputs
        = [[.send (str "HTTP/1.1 200 OK\r\nConnection: Keep-Alive\r\nContent-Length: 0\r\n\r\n")]]
      ∧ (serverA.onAccept .zero [getB.read, getA.read]).answers[1]?.map Answer.outputs
        ≠ (serverA.onAccept .zero [getA.read]).answers[0]?.map Answer.outputs := by
  decide +kernel

end Http
end Fsw
