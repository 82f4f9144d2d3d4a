import Fsw.Http.Lemmas.Server

namespace Fsw
namespace Http

open Buffer (str)

section Actions

-- The responses that the actions of a handler end
def responses (ctx : Ctx) : List Action → List Bytes
  | [] => []
  | .setStatus status :: actions => responses (ctx.setStatus status) actions
  | .setHeader name value :: actions => responses (ctx.setHeader name value) actions
  | .endResponse body size :: actions => ctx.rendered body size :: responses ctx actions

variable {ctx : Ctx}

theorem responses_writeBuf (buf : Buffer) (actions : List Action)
    : responses { ctx with writeBuf := buf } actions = responses ctx actions := by
  induction actions generalizing ctx with
  | nil => rfl
  | cons action actions ih =>
    cases action with
    | setStatus status => exact @ih (ctx.setStatus status)
    | setHeader name value => exact @ih (ctx.setHeader name value)
    | endResponse body size =>
      rw [responses, responses, ih]
      rfl

theorem endResponse_cases (hsize : ctx.writeBuf.size = WRITE_BUF_MAX_SIZE) (body : Option Buffer)
    (size : Nat)
    : (∃ buf : Buffer, buf.size = WRITE_BUF_MAX_SIZE
          ∧ (ctx.rendered body size).length ≤ WRITE_BUF_MAX_SIZE
          ∧ ctx.endResponse body size
            = ⟨[.send (ctx.rendered body size)], .ok { ctx with writeBuf := buf }⟩)
        ∨ WRITE_BUF_MAX_SIZE < (ctx.rendered body size).length
          ∧ ∃ e, ctx.endResponse body size = ⟨[], .error e⟩ := by
  have hmax : WRITE_BUF_MAX_SIZE < 2 ^ 64 := by decide
  by_cases hfits : (ctx.rendered body size).length ≤ WRITE_BUF_MAX_SIZE
  . rcases Ctx.endResponse_ok (hsize ▸ hmax) (hsize ▸ hfits) with ⟨buf, hbuf, heq⟩
    exact .inl ⟨buf, hbuf.trans hsize, hfits, heq⟩
  . have hlarge := Nat.lt_of_not_le hfits
    exact .inr ⟨hlarge, Ctx.endResponse_error (hsize ▸ hlarge)⟩

theorem runActions_ok (hsize : ctx.writeBuf.size = WRITE_BUF_MAX_SIZE) {actions : List Action}
    (h : ∀ data ∈ responses ctx actions, data.length ≤ WRITE_BUF_MAX_SIZE)
    : ∃ c, runActions ctx actions = ⟨(responses ctx actions).map .send, .ok c⟩ := by
  induction actions generalizing ctx with
  | nil => exact ⟨ctx, rfl⟩
  | cons action actions ih =>
    cases action with
    | setStatus status => exact @ih (ctx.setStatus status) hsize h
    | setHeader name value => exact @ih (ctx.setHeader name value) hsize h
    | endResponse body size =>
      rw [responses, List.forall_mem_cons] at h
      rcases endResponse_cases hsize body size with ⟨buf, hbuf, _, heq⟩ | ⟨hlarge, _⟩
      . have hrest := h.2
        rw [← responses_writeBuf buf] at hrest
        rcases @ih { ctx with writeBuf := buf } hbuf hrest with ⟨c, hc⟩
        refine ⟨c, ?_⟩
        rw [runActions, heq, Emit.bind_ok, hc, responses, responses_writeBuf]
        rfl
      . omega

theorem fits_of_runActions (hsize : ctx.writeBuf.size = WRITE_BUF_MAX_SIZE) {actions : List Action}
    (h : (runActions ctx actions).outputs = (responses ctx actions).map .send)
    : ∀ data ∈ responses ctx actions, data.length ≤ WRITE_BUF_MAX_SIZE := by
  induction actions generalizing ctx with
  | nil => apply List.forall_mem_nil
  | cons action actions ih =>
    cases action with
    | setStatus status => exact @ih (ctx.setStatus status) hsize h
    | setHeader name value => exact @ih (ctx.setHeader name value) hsize h
    | endResponse body size =>
      rw [runActions, responses] at h
      rcases endResponse_cases hsize body size with ⟨buf, hbuf, hfits, heq⟩ | ⟨_, e, heq⟩
      . rw [heq, Emit.bind_ok, List.map_cons, List.singleton_append] at h
        injection h with _ h
        have hrest := @ih { ctx with writeBuf := buf } hbuf
        rw [responses_writeBuf] at hrest
        rw [responses, List.forall_mem_cons]
        exact ⟨hfits, hrest h⟩
      . rw [heq, Emit.bind_error] at h
        contradiction

end Actions

inductive Route where
  | file (path : Bytes)
  | http (handler : Handler)
  | websocket (handler : Handler)
  | notFound

def Ctx.upgraded (sha1 : Bytes → Bytes) (ctx : Ctx) : Ctx :=
  (((ctx.setStatus 101).setHeader (str "Upgrade") (str "websocket")).setHeader
    (str "Connection") (str "Upgrade")).setHeader (str "Sec-WebSocket-Accept")
      (computeAcceptKey sha1 (ctx.request.getHeader (str "sec-websocket-key")))

namespace Server

def route (server : Server) (path : Bytes) : Route :=
  let staticFile := server.getDocumentAbsolutePath path
  if !staticFile.isEmpty then
    .file staticFile
  else
    match server.getHttpHandler path, server.getWebsocketHandler path with
    | some handler, _ => .http handler
    | none, some handler => .websocket handler
    | none, none => .notFound

/--
All that is sent if the file, the responses of the handler or the 404 are sent to the end. There is
nothing of the kind for a request that is refused before a handler is called.
-/
def reply (server : Server) (ctx : Ctx) (path : Bytes) : Option (List Output) :=
  match server.route path with
  | .file file =>
    some [.send (ctx.rendered none (server.fs.size (cStr file))),
      .sendfile (server.fs.sendfile (cStr file))]
  | .http handler =>
    if ctx.request.hasSecWebsocketKey then
      none
    else
      some ((responses ctx (handler ctx.request)).map .send)
  | .websocket handler =>
    if (Ctx.handshakeError ctx.request
      (ctx.request.getHeader (str "sec-websocket-key"))).isSome then
      none
    else
      let ctx := ctx.upgraded server.sha1
      some ((ctx.rendered none 0 :: responses ctx (handler ctx.request)).map .send)
  | .notFound => some [.send ((ctx.setStatus 404).rendered none 0)]

/--
The request is not refused, and no response to it is larger than the write buffer.
-/
def Replies (server : Server) (ctx : Ctx) (path : Bytes) : Prop :=
  ∃ outputs, server.reply ctx path = some outputs
    ∧ ∀ data, .send data ∈ outputs → data.length ≤ WRITE_BUF_MAX_SIZE

variable {server : Server} {ctx : Ctx} {path : Bytes}

theorem dispatch_eq
    : server.dispatch ctx path
        = match server.route path with
          | .file file => do
            let ctx ← ctx.endResponse none (server.fs.size (cStr file))
            Emit.emit (.sendfile (server.fs.sendfile (cStr file)))
            return (true, ctx)
          | .http handler => callHttpHandler handler ctx
          | .websocket handler => callWebsocketHandler server.sha1 handler ctx
          | .notFound => do
            let ctx ← ctx.sendNotFoundResponse
            return (true, ctx) := by
  unfold dispatch route
  dsimp only
  split
  . rfl
  . cases server.getHttpHandler path with
    | some handler => rfl
    | none => cases server.getWebsocketHandler path <;> rfl

end Server

section Replied

variable {server : Server} {ctx : Ctx} {path : Bytes} {x : Reply (Bool × Ctx)}
  {outputs : List Output}

-- `x` sends `outputs` to the end if and only if all of them fit.
structure Replied (outputs : List Output) (x : Reply (Bool × Ctx)) : Prop where
  ok : (∀ data, .send data ∈ outputs → data.length ≤ WRITE_BUF_MAX_SIZE) →
    x.outputs = outputs ∧ ∃ c, x.result = .ok (true, c)
  fits : x.outputs = outputs → ∀ data, .send data ∈ outputs → data.length ≤ WRITE_BUF_MAX_SIZE

theorem fits_map_send {l : List Bytes}
    : (∀ data, .send data ∈ l.map Output.send → data.length ≤ WRITE_BUF_MAX_SIZE)
        ↔ ∀ data ∈ l, data.length ≤ WRITE_BUF_MAX_SIZE := by
  simp

theorem replied_actions (hsize : ctx.writeBuf.size = WRITE_BUF_MAX_SIZE) (actions : List Action)
    : Replied ((responses ctx actions).map .send)
        (runActions ctx actions >>= fun ctx => pure (true, ctx)) := by
  constructor
  . intro h
    rcases runActions_ok hsize (fits_map_send.mp h) with ⟨c, hc⟩
    rw [Emit.outputs_bind_pure, hc]
    exact ⟨rfl, c, rfl⟩
  . intro h
    rw [Emit.outputs_bind_pure] at h
    exact fits_map_send.mpr (fits_of_runActions hsize h)

theorem replied_endResponse (hsize : ctx.writeBuf.size = WRITE_BUF_MAX_SIZE) {body : Option Buffer}
    {size : Nat} {f : Ctx → Reply (Bool × Ctx)}
    (hf : ∀ buf : Buffer, buf.size = WRITE_BUF_MAX_SIZE
      → Replied outputs (f { ctx with writeBuf := buf }))
    : Replied (.send (ctx.rendered body size) :: outputs) (ctx.endResponse body size >>= f) := by
  rcases endResponse_cases hsize body size with ⟨buf, hbuf, hfits, heq⟩ | ⟨hlarge, e, heq⟩
  . rw [heq, Emit.bind_ok]
    constructor
    . intro h
      rcases (hf buf hbuf).ok fun data hdata => h data (List.mem_cons_of_mem _ hdata) with
        ⟨houtputs, hresult⟩
      exact ⟨congrArg _ houtputs, hresult⟩
    . intro h data hdata
      injection h with _ h
      rcases List.mem_cons.mp hdata with hdata | hdata
      . injection hdata with hdata
        rw [hdata]
        exact hfits
      . exact (hf buf hbuf).fits h data hdata
  . rw [heq, Emit.bind_error]
    constructor
    . intro h
      have := h _ List.mem_cons_self
      omega
    . intro h
      contradiction

theorem replied_file (hsize : ctx.writeBuf.size = WRITE_BUF_MAX_SIZE) (size : Nat) (data : Bytes)
    : Replied [.send (ctx.rendered none size), .sendfile data]
        (ctx.endResponse none size >>= fun ctx =>
          Emit.emit (.sendfile data) >>= fun _ => pure (true, ctx)) := by
  apply replied_endResponse hsize
  intro buf _
  constructor
  . intro _
    exact ⟨rfl, _, rfl⟩
  . simp

theorem replied_pure (c : Ctx) : Replied [] (pure (true, c)) := by
  constructor
  . intro _
    exact ⟨rfl, c, rfl⟩
  . simp

theorem upgrade_eq {sha1 : Bytes → Bytes}
    (h : Ctx.handshakeError ctx.request (ctx.request.getHeader (str "sec-websocket-key")) = none)
    : ctx.upgrade sha1 = (ctx.upgraded sha1).endResponse none 0 >>= fun ctx =>
        pure (true, ctx) := by
  unfold Ctx.upgrade
  dsimp only
  rw [Ctx.checkWebsocketUpgrade_eq, h]
  rfl

theorem callWebsocketHandler_eq {sha1 : Bytes → Bytes} {handler : Handler}
    (h : Ctx.handshakeError ctx.request (ctx.request.getHeader (str "sec-websocket-key")) = none)
    : callWebsocketHandler sha1 handler ctx
        = (ctx.upgraded sha1).endResponse none 0 >>= fun ctx =>
            runActions ctx (handler ctx.request) >>= fun ctx => pure (true, ctx) := by
  unfold callWebsocketHandler
  rw [upgrade_eq h]
  rcases (ctx.upgraded sha1).endResponse none 0 with ⟨outputs, e | c⟩
  . rfl
  . simp [Emit.bind_ok, Emit.pure_eq]

theorem replied_dispatch (hsize : ctx.writeBuf.size = WRITE_BUF_MAX_SIZE)
    (h : server.reply ctx path = some outputs)
    : Replied outputs (server.dispatch ctx path) := by
  rw [Server.dispatch_eq]
  unfold Server.reply at h
  cases hroute : server.route path with
  | file file =>
    rw [hroute] at h
    injection h with h
    rw [← h]
    exact replied_file hsize _ _
  | http handler =>
    rw [hroute] at h
    dsimp only at h ⊢
    split at h
    . contradiction
    . next hkey =>
      injection h with h
      unfold callHttpHandler
      rw [← h, if_neg hkey]
      exact replied_actions hsize _
  | websocket handler =>
    rw [hroute] at h
    dsimp only at h ⊢
    split at h
    . contradiction
    . next herror =>
      injection h with h
      rw [Bool.not_eq_true, Option.isSome_eq_false_iff, Option.isNone_iff_eq_none] at herror
      rw [← h, callWebsocketHandler_eq herror, List.map_cons]
      have hupgraded : (ctx.upgraded server.sha1).writeBuf.size = WRITE_BUF_MAX_SIZE := hsize
      apply replied_endResponse hupgraded
      intro buf hbuf
      have hactions := @replied_actions { ctx.upgraded server.sha1 with writeBuf := buf } hbuf
        (handler ctx.request)
      rw [responses_writeBuf] at hactions
      exact hactions
  | notFound =>
    rw [hroute] at h
    injection h with h
    rw [← h]
    have hstatus : (ctx.setStatus 404).writeBuf.size = WRITE_BUF_MAX_SIZE := hsize
    apply replied_endResponse hstatus
    intro buf _
    apply replied_pure

theorem replies_iff (hsize : ctx.writeBuf.size = WRITE_BUF_MAX_SIZE)
    : server.Replies ctx path
        ↔ server.reply ctx path = some (server.dispatch ctx path).outputs := by
  constructor
  . rintro ⟨outputs, hreply, hfits⟩
    rw [((replied_dispatch hsize hreply).ok hfits).1, hreply]
  . intro hreply
    exact ⟨_, hreply, (replied_dispatch hsize hreply).fits rfl⟩

theorem Server.Replies.result (h : server.Replies ctx path)
    (hsize : ctx.writeBuf.size = WRITE_BUF_MAX_SIZE)
    : ∃ c, (server.dispatch ctx path).result = .ok (true, c) := by
  rcases h with ⟨outputs, hreply, hfits⟩
  exact ((replied_dispatch hsize hreply).ok hfits).2

end Replied
end Http
end Fsw
