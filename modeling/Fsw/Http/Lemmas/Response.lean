import Fsw.Buffer.Lemmas.Buffer
import Fsw.Http.Impl.Response

namespace Fsw
namespace Http

open Buffer (str)

def Output.data : Output → Bytes
  | send data => data
  | sendfile data => data

def statusLines (status : Int) : List Bytes :=
  [str "HTTP/1.1 ", getStatusMessage status, str "\r\n"]

def headerLines (header : SortedMap Bytes Bytes) (keepAlive : Bool) (bodyLength : Int)
    : List Bytes :=
  header.flatMap (fun h => [h.1, str ": ", h.2, str "\r\n"])
    ++ [if keepAlive then str "Connection: Keep-Alive\r\n" else str "Connection: Close\r\n",
      str "Content-Length: ", str (toString bodyLength), str "\r\n", str "\r\n"]

def bodyLines : Option Buffer → List Bytes
  | none => []
  | some body => [body.contents, str "\r\n"]

namespace Ctx

variable {ctx : Ctx}

def appendLines (ctx : Ctx) (l : List Bytes) : Except Trap Ctx := do
  let buf ← ctx.writeBuf.appendAll l
  return { ctx with writeBuf := buf }

theorem appendLines_bind {l : List Bytes} {h : Ctx → List Bytes}
    (hh : ∀ buf, h { ctx with writeBuf := buf } = h ctx)
    : (ctx.appendLines l >>= fun c => c.appendLines (h c)) = ctx.appendLines (l ++ h ctx) := by
  unfold appendLines
  rw [Buffer.appendAll_append]
  cases ctx.writeBuf.appendAll l with
  | error e => rfl
  | ok buf =>
    simp only [hh, bind, Except.bind, pure, Except.pure]

theorem buildHttpStatusLine_eq
    : ctx.buildHttpStatusLine = ctx.appendLines (statusLines ctx.response.status) := by
  simp [buildHttpStatusLine, appendLines, statusLines, Buffer.appendAll]

theorem foldlM_buildHeaderLine {header : SortedMap Bytes Bytes} {buf : Buffer}
    : header.foldlM buildHeaderLine buf
        = buf.appendAll (header.flatMap fun h => [h.1, str ": ", h.2, str "\r\n"]) := by
  induction header generalizing buf with
  | nil => rfl
  | cons h header ih =>
    have hline : buildHeaderLine buf h = buf.appendAll [h.1, str ": ", h.2, str "\r\n"] := by
      simp [buildHeaderLine, Buffer.appendAll]
    rw [List.foldlM_cons, List.flatMap_cons, Buffer.appendAll_append, hline]
    congr 1
    funext buf
    exact ih

theorem buildHttpHeader_eq {n : Int}
    : ctx.buildHttpHeader n
        = ctx.appendLines (headerLines ctx.response.header ctx.keepAlive n) := by
  unfold buildHttpHeader appendLines headerLines
  rw [foldlM_buildHeaderLine, Buffer.appendAll_append, bind_assoc]
  congr 1
  funext buf
  cases ctx.keepAlive <;> simp [Buffer.appendAll, Buffer.appendInt]

theorem buildHttpBody_eq {body : Option Buffer}
    : ctx.buildHttpBody body = ctx.appendLines (bodyLines body) := by
  cases body with
  | none => rfl
  | some body => simp [buildHttpBody, appendLines, bodyLines, Buffer.appendAll, Buffer.appendBuffer]

def responseLines (ctx : Ctx) (body : Option Buffer) (size : Nat) : List Bytes :=
  statusLines ctx.response.status
    ++ headerLines ctx.response.header ctx.keepAlive (toInt (bodyLength body size))
    ++ bodyLines body

def rendered (ctx : Ctx) (body : Option Buffer) (size : Nat) : Bytes :=
  (ctx.responseLines body size).flatten

def tail (ctx : Ctx) (body : Option Buffer) (size : Nat) : Bytes :=
  str "\r\n"
    ++ (headerLines ctx.response.header ctx.keepAlive (toInt (bodyLength body size))).flatten
    ++ (bodyLines body).flatten

theorem rendered_eq {body : Option Buffer} {size : Nat}
    : ctx.rendered body size
        = str "HTTP/1.1 " ++ getStatusMessage ctx.response.status ++ ctx.tail body size := by
  simp [rendered, responseLines, statusLines, tail]

theorem endResponse_eq {body : Option Buffer} {size : Nat}
    : ctx.endResponse body size
        = ((liftM (ctx.clearWriteBuf.appendLines (ctx.responseLines body size)) : Reply Ctx)
          >>= fun ctx => do
            ctx.sendResponse
            return ctx) := by
  unfold endResponse responseLines
  simp only [buildHttpStatusLine_eq, buildHttpHeader_eq, buildHttpBody_eq]
  rw [Emit.lift_bind, Emit.lift_bind, appendLines_bind, appendLines_bind]
  . rfl
  . intro buf
    rfl
  . intro buf
    rfl

theorem endResponse_ok {body : Option Buffer} {size : Nat} (hsize : ctx.writeBuf.size < 2 ^ 64)
    (h : (ctx.rendered body size).length ≤ ctx.writeBuf.size)
    : ∃ buf : Buffer, buf.size = ctx.writeBuf.size
        ∧ ctx.endResponse body size
            = ⟨[.send (ctx.rendered body size)], .ok { ctx with writeBuf := buf }⟩ := by
  have hfits : ctx.writeBuf.clear.length + (ctx.responseLines body size).flatten.length
      ≤ ctx.writeBuf.clear.size := by
    unfold rendered at h
    simp only [Buffer.clear]
    omega
  rcases Buffer.appendAll_eq_ok hfits hsize with ⟨buf, hbuf, hcontents, hbufSize⟩
  refine ⟨buf, hbufSize, ?_⟩
  have happend : ctx.clearWriteBuf.appendLines (ctx.responseLines body size)
      = .ok { ctx with writeBuf := buf } := by
    unfold appendLines clearWriteBuf
    dsimp only
    rw [hbuf]
    rfl
  rw [Buffer.contents_clear, List.nil_append] at hcontents
  unfold rendered
  rw [endResponse_eq, happend, ← hcontents]
  rfl

theorem endResponse_error {body : Option Buffer} {size : Nat}
    (h : ctx.writeBuf.size < (ctx.rendered body size).length)
    : ∃ e, ctx.endResponse body size = ⟨[], .error e⟩ := by
  have hfits : ctx.writeBuf.clear.size
      < ctx.writeBuf.clear.length + (ctx.responseLines body size).flatten.length := by
    unfold rendered at h
    simp only [Buffer.clear]
    omega
  rcases Buffer.appendAll_error hfits with ⟨e, he⟩
  have happend : ctx.clearWriteBuf.appendLines (ctx.responseLines body size) = .error e := by
    unfold appendLines clearWriteBuf
    dsimp only
    rw [he]
    rfl
  refine ⟨e, ?_⟩
  rw [endResponse_eq, happend]
  rfl

theorem endResponse_exit {body : Option Buffer} {size : Nat} (hsize : ctx.writeBuf.size < 2 ^ 63)
    (hlines : ∀ bs ∈ ctx.responseLines body size, bs.length < 2 ^ 63)
    (h : ctx.writeBuf.size < (ctx.rendered body size).length)
    : ctx.endResponse body size = ⟨[], .error .exit⟩ := by
  have hfits : ctx.writeBuf.clear.size
      < ctx.writeBuf.clear.length + (ctx.responseLines body size).flatten.length := by
    unfold rendered at h
    simp only [Buffer.clear]
    omega
  have happend : ctx.clearWriteBuf.appendLines (ctx.responseLines body size) = .error .exit := by
    unfold appendLines clearWriteBuf
    dsimp only
    rw [Buffer.appendAll_exit (b := ctx.writeBuf.clear) hsize hlines hfits]
    rfl
  rw [endResponse_eq, happend]
  rfl

end Ctx
end Http
end Fsw
