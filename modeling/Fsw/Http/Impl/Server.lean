import Fsw.Http.Impl.Response

/-!
This module contains the server of `server.cc` and `coroutine_http_server.h`. A handler is modelled
by what it does to the response, given a request. The file system and `SHA1` are parameters.
-/

namespace Fsw
namespace Http

open Buffer (str)

inductive Action where
  | setStatus (status : Int)
  | setHeader (name value : Bytes)
  | endResponse (body : Option Buffer) (size : Nat)
  deriving DecidableEq, Repr

abbrev Handler := Request → List Action

/--
`size` is the `st_size` of what is opened, and `sendfile` as many bytes of it as there are. What
`stat` finds is taken to be opened and sent, at any time in the same way.
-/
structure FileSystem where
  stat : Bytes → Bool
  size : Bytes → Nat
  sendfile : Bytes → Bytes

structure Server where
  settings : SortedMap Bytes Bytes
  httpHandlers : SortedMap Bytes Handler
  websocketHandlers : SortedMap Bytes Handler
  fs : FileSystem
  sha1 : Bytes → Bytes

-- What `on_accept` has sent in answer to the data of one `recv`, and the context with which it has
-- done so
structure Answer where
  ctx : Ctx
  outputs : List Output

structure Served where
  answers : List Answer
  trap : Option Trap

inductive Turn where
  | next (ctx : Ctx)
  | done
  | trap (trap : Trap)

-- A string that is read up to its `\0`
def cStr (s : Bytes) : Bytes :=
  s.takeWhile (· ≠ 0)

def strncasecmp : Bytes → Bytes → Nat → Int
  | _, _, 0 => 0
  | s₁, s₂, n + 1 =>
    let c₁ := s₁.headD 0
    let c₂ := s₂.headD 0
    if tolower c₁ ≠ tolower c₂ then
      (tolower c₁).toNat - (tolower c₂).toNat
    else if c₁ = 0 then
      0
    else
      strncasecmp s₁.tail s₂.tail n

def runActions (ctx : Ctx) : List Action → Reply Ctx
  | [] => return ctx
  | .setStatus status :: actions => runActions (ctx.setStatus status) actions
  | .setHeader name value :: actions => runActions (ctx.setHeader name value) actions
  | .endResponse body size :: actions => do
    let ctx ← ctx.endResponse body size
    runActions ctx actions

def callHttpHandler (handler : Handler) (ctx : Ctx) : Reply (Bool × Ctx) := do
  if ctx.request.hasSecWebsocketKey then
    let ctx ← ctx.sendBadRequestResponse (str "no support websocket")
    return (false, ctx)
  let ctx ← runActions ctx (handler ctx.request)
  return (true, ctx)

def callWebsocketHandler (sha1 : Bytes → Bytes) (handler : Handler) (ctx : Ctx)
    : Reply (Bool × Ctx) := do
  let (ok, ctx) ← ctx.upgrade sha1
  if !ok then
    return (false, ctx)
  let ctx ← runActions ctx (handler ctx.request)
  return (true, ctx)

namespace Server

def setHandler (pattern : Bytes) (fn : Handler) (handlers : SortedMap Bytes Handler)
    : SortedMap Bytes Handler :=
  handlers.insert pattern fn

def setHttpHandler (server : Server) (pattern : Bytes) (fn : Handler) : Server :=
  { server with httpHandlers := setHandler pattern fn server.httpHandlers }

def setWebsocketHandler (server : Server) (pattern : Bytes) (fn : Handler) : Server :=
  { server with websocketHandlers := setHandler pattern fn server.websocketHandlers }

def getHandler (pattern : Bytes) (handlers : SortedMap Bytes Handler) : Option Handler :=
  (List.find? (fun i => strncasecmp i.1 pattern i.1.length = 0 ∧ i.1.length = pattern.length)
    handlers).map Prod.snd

def getHttpHandler (server : Server) (pattern : Bytes) : Option Handler :=
  getHandler pattern server.httpHandlers

def getWebsocketHandler (server : Server) (pattern : Bytes) : Option Handler :=
  getHandler pattern server.websocketHandlers

def getDocumentAbsolutePath (server : Server) (relativePath : Bytes) : Bytes :=
  match server.settings.find? (str "document_root") with
  | none => []
  | some root =>
    let absolutePath := root ++ relativePath
    if !server.fs.stat (cStr absolutePath) then [] else absolutePath

def dispatch (server : Server) (ctx : Ctx) (path : Bytes) : Reply (Bool × Ctx) :=
  let staticFile := server.getDocumentAbsolutePath path
  if !staticFile.isEmpty then do
    let ctx ← ctx.endResponse none (server.fs.size (cStr staticFile))
    Emit.emit (.sendfile (server.fs.sendfile (cStr staticFile)))
    return (true, ctx)
  else
    match server.getHttpHandler path with
    | some handler => callHttpHandler handler ctx
    | none =>
      match server.getWebsocketHandler path with
      | some handler => callWebsocketHandler server.sha1 handler ctx
      | none => do
        let ctx ← ctx.sendNotFoundResponse
        return (true, ctx)

-- The answer is missing if there is no path to look up.
def turn (server : Server) (ctx : Ctx) (r : Read) : Option Answer × Turn :=
  let ctx := (ctx.recv r.data).parse r.callbacks
  match ctx.request.path with
  | none => (none, .trap .nullDeref)
  | some path =>
    let reply := server.dispatch ctx (cStr path)
    let answer := ⟨ctx, reply.outputs⟩
    match reply.result with
    | .error trap => (some answer, .trap trap)
    | .ok (go, ctx) => (some answer, if go ∧ ctx.keepAlive then .next ctx.clear else .done)

def serve (server : Server) (ctx : Ctx) : List Read → Served
  | [] => ⟨[], none⟩
  | r :: rs =>
    let (answer, turn) := server.turn ctx r
    match turn with
    | .next ctx =>
      let served := serve server ctx rs
      ⟨answer.toList ++ served.answers, served.trap⟩
    | .done => ⟨answer.toList, none⟩
    | .trap trap => ⟨answer.toList, some trap⟩

-- `rs` is what `recv` returns until it returns 0.
def onAccept (server : Server) (u : Uninit) (rs : List Read) : Served :=
  server.serve (.new u) rs

end Server
end Http
end Fsw
