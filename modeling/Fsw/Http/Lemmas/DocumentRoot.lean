import Fsw.Lib.Path
import Fsw.Http.Lemmas.Server

namespace Fsw
namespace Http

open Buffer (str)

def Server.Opens (server : Server) (url data : Bytes) : Prop :=
  server.getDocumentAbsolutePath url ≠ []
    ∧ data = server.fs.sendfile (cStr (server.getDocumentAbsolutePath url))

def Output.Sends (P : Bytes → Prop) : Output → Prop
  | .send _ => True
  | .sendfile data => P data

section Sends

variable {P : Bytes → Prop}

theorem sends_endResponse {ctx : Ctx} {body : Option Buffer} {size : Nat}
    : Emit.Sat (Output.Sends P) (fun _ => True) (ctx.endResponse body size) := by
  rw [Ctx.endResponse_eq, Emit.sat_bind, Emit.sat_lift]
  intro ctx' _
  unfold Ctx.sendResponse
  rw [Emit.sat_bind, Emit.sat_emit, Emit.sat_pure]
  exact ⟨trivial, trivial⟩

theorem sends_pure {α : Type} {a : α}
    : Emit.Sat (Output.Sends P) (fun _ => True) (pure a : Reply α) := by
  rw [Emit.sat_pure]
  trivial

theorem sends_return {α : Type} {x : Reply Ctx} {f : Ctx → α}
    (h : Emit.Sat (Output.Sends P) (fun _ => True) x)
    : Emit.Sat (Output.Sends P) (fun _ => True) (x >>= fun ctx => pure (f ctx)) := by
  apply h.bind
  intro ctx _
  exact sends_pure

theorem sends_sendBadRequestResponse {ctx : Ctx} {body : Bytes}
    : Emit.Sat (Output.Sends P) (fun _ => True) (ctx.sendBadRequestResponse body) := by
  unfold Ctx.sendBadRequestResponse
  rw [Emit.sat_bind, Emit.sat_lift]
  intro badBody _
  exact sends_endResponse

theorem sends_runActions {ctx : Ctx} {actions : List Action}
    : Emit.Sat (Output.Sends P) (fun _ => True) (runActions ctx actions) := by
  induction actions generalizing ctx with
  | nil => exact sends_pure
  | cons action actions ih =>
    cases action with
    | setStatus status => exact ih
    | setHeader name value => exact ih
    | endResponse body size =>
      apply sends_endResponse.bind
      intro ctx' _
      exact ih

theorem sends_upgrade {sha1 : Bytes → Bytes} {ctx : Ctx}
    : Emit.Sat (Output.Sends P) (fun _ => True) (ctx.upgrade sha1) := by
  have hreply {error : Option Bytes}
    : Emit.Sat (Output.Sends P) (fun _ => True) (ctx.handshakeReply error) := by
    cases error with
    | none => exact sends_pure
    | some body => apply sends_return sends_sendBadRequestResponse
  unfold Ctx.upgrade
  dsimp only
  rw [Ctx.checkWebsocketUpgrade_eq]
  apply hreply.bind
  rintro ⟨ok, ctx'⟩ _
  dsimp only
  split
  . exact sends_pure
  . apply sends_return sends_endResponse

theorem sends_callHttpHandler {handler : Handler} {ctx : Ctx}
    : Emit.Sat (Output.Sends P) (fun _ => True) (callHttpHandler handler ctx) := by
  unfold callHttpHandler
  split
  . apply sends_return sends_sendBadRequestResponse
  . apply sends_return sends_runActions

theorem sends_callWebsocketHandler {sha1 : Bytes → Bytes} {handler : Handler} {ctx : Ctx}
    : Emit.Sat (Output.Sends P) (fun _ => True) (callWebsocketHandler sha1 handler ctx) := by
  unfold callWebsocketHandler
  apply sends_upgrade.bind
  rintro ⟨ok, ctx'⟩ _
  dsimp only
  split
  . exact sends_pure
  . apply sends_return sends_runActions

theorem sends_dispatch {server : Server} {ctx : Ctx} {path : Bytes}
    : Emit.Sat (Output.Sends (server.Opens path)) (fun _ => True) (server.dispatch ctx path) := by
  unfold Server.dispatch
  dsimp only
  split
  . next hfile =>
    rw [Bool.not_eq_true', List.isEmpty_eq_false_iff] at hfile
    apply sends_endResponse.bind
    intro ctx' _
    rw [Emit.sat_bind, Emit.sat_emit, Emit.sat_pure]
    exact ⟨⟨hfile, rfl⟩, trivial⟩
  . split
    . exact sends_callHttpHandler
    . split
      . exact sends_callWebsocketHandler
      . apply sends_return sends_endResponse

end Sends

theorem serve_opens {server : Server} {ctx : Ctx} {rs : List Read}
    : ∀ answer ∈ (server.serve ctx rs).answers, ∃ path, answer.ctx.request.path = some path
        ∧ ∀ o ∈ answer.outputs, o.Sends (server.Opens (cStr path)) := by
  induction rs generalizing ctx with
  | nil =>
    intro answer hanswer
    cases hanswer
  | cons r rs ih =>
    cases hpath : (ctx.read r).request.path with
    | none =>
      rw [Server.serve_of_path_eq_none hpath]
      intro answer hanswer
      cases hanswer
    | some path =>
      rcases Server.serve_cons server rs hpath with ⟨rest, hanswers, hrest⟩
      rw [hanswers, List.forall_mem_cons]
      refine ⟨⟨path, hpath, sends_dispatch.1⟩, ?_⟩
      rcases hrest with ⟨c, _, hserve⟩ | hnil
      . rw [hserve]
        exact ih
      . rw [hnil]
        apply List.forall_mem_nil

theorem getDocumentAbsolutePath_eq {server : Server} {root url : Bytes}
    (hroot : server.settings.find? (str "document_root") = some root)
    (hfound : server.getDocumentAbsolutePath url ≠ [])
    : server.getDocumentAbsolutePath url = root ++ url := by
  unfold Server.getDocumentAbsolutePath at hfound ⊢
  rw [hroot] at hfound ⊢
  dsimp only at hfound ⊢
  split
  . next hstat =>
    rw [if_pos hstat] at hfound
    contradiction
  . rfl

theorem documentRoot_under_iff (server : Server) (root : Bytes) (cwd : Path.Dir)
    (hroot : server.settings.find? (str "document_root") = some root)
    : (∀ url, server.getDocumentAbsolutePath url ≠ []
        → (Path.Under cwd.names root (server.getDocumentAbsolutePath url)
          ↔ Path.Returns cwd.names root url))
        ∧ ∀ u rs, ∀ answer ∈ (server.onAccept u rs).answers, ∃ path,
          answer.ctx.request.path = some path
          ∧ ∀ o ∈ answer.outputs, o.Sends (server.Opens (cStr path)) := by
  constructor
  . intro url hfound
    rw [getDocumentAbsolutePath_eq hroot hfound]
    exact Path.under_append_iff cwd.proper
  . intro u rs
    exact serve_opens

def htmlServer : Server where
  settings := [(str "document_root", str "/var/www/html")]
  httpHandlers := []
  websocketHandlers := []
  fs := ⟨fun _ => true, fun _ => 3, fun _ => str "abc"⟩
  sha1 := fun _ => []

theorem documentRoot_under_html
    : Path.Under [] (str "/var/www/html")
        (htmlServer.getDocumentAbsolutePath (str "/css/../../html/a.css")) := by
  apply ((documentRoot_under_iff htmlServer (str "/var/www/html") ⟨[], by decide⟩
    (by decide +kernel)).1 _ _).mpr
  . decide +kernel
  . decide +kernel

theorem documentRoot_not_under_passwd
    : htmlServer.getDocumentAbsolutePath (str "/../../../etc/passwd")
        = str "/var/www/html/../../../etc/passwd"
        ∧ Path.resolve [] (str "/var/www/html/../../../etc/passwd") = [str "etc", str "passwd"]
        ∧ ¬Path.Under [] (str "/var/www/html")
          (htmlServer.getDocumentAbsolutePath (str "/../../../etc/passwd"))
        ∧ (htmlServer.onAccept .zero [getRead (str "/../../../etc/passwd")]).answers.map
          Answer.outputs
          = [[.send (str "HTTP/1.1 200 OK\r\nConnection: Keep-Alive\r\nContent-Length: 3\r\n\r\n"),
            .sendfile (str "abc")]] := by
  decide +kernel

end Http
end Fsw
