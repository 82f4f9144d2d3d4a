import Fsw.Buffer.Impl.Buffer
import Fsw.Lib.SortedMap

/-!
This module contains the requests and contexts of `coroutine_http.h` and the callbacks of `http.cc`
with which `http_parser` fills them in.

What `http_parser` does is not modelled, a `Read` is the data that `recv` delivers together with the
callbacks that `http_parser_execute` then makes. A `Slice` is the `const char *at, size_t length` of
such a callback, as an offset into the read buffer of the connection. `current_header_name` is an
offset into it as well: the buffer is reused for the next data, the pointer is not reset.

Members that no constructor initializes start out with whatever an `Uninit` says.
-/

namespace Fsw
namespace Http

def READ_BUF_MAX_SIZE : Nat := 1024
def WRITE_BUF_MAX_SIZE : Nat := 1024

inductive Method where
  | delete | get | head | post | put
  | connect | options | trace
  | copy | lock | mkcol | move | propfind | proppatch | search | unlock
      | bind | rebind | unbind | acl
  | report | mkactivity | checkout | merge
  | msearch | notify | subscribe | unsubscribe
  | patch | purge
  | mkcalendar
  | link | unlink
  | source
  deriving DecidableEq, Repr

-- `keepAlive` is what `http_should_keep_alive` returns.
structure Parser where
  method : Method
  httpMajor : Nat
  httpMinor : Nat
  keepAlive : Bool
  deriving DecidableEq, Repr

structure Slice where
  pos : Nat
  length : Nat
  deriving DecidableEq, Repr

inductive Callback where
  | messageBegin
  | url (s : Slice)
  | headerField (s : Slice)
  | headerValue (s : Slice)
  | headersComplete (parser : Parser)
  | body (s : Slice)
  | messageComplete
  deriving DecidableEq, Repr

structure Read where
  data : Bytes
  callbacks : List Callback
  deriving DecidableEq, Repr

structure Request where
  method : Bytes
  version : Nat
  path : Option Bytes
  pathLen : Nat
  body : Option Bytes
  bodyLength : Nat
  header : SortedMap Bytes Bytes
  deriving DecidableEq, Repr

structure Response where
  status : Int
  header : SortedMap Bytes Bytes
  deriving DecidableEq, Repr

structure Ctx where
  readBuf : Bytes
  writeBuf : Buffer
  request : Request
  response : Response
  currentHeaderName : Slice
  keepAlive : Bool
  deriving DecidableEq, Repr

structure Uninit where
  version : Nat
  pathLen : Nat
  bodyLength : Nat
  currentHeaderName : Slice
  keepAlive : Bool
  deriving DecidableEq, Repr

def Slice.of (s : Slice) (mem : Bytes) : Bytes :=
  (mem.drop s.pos).take s.length

def tolower (b : UInt8) : UInt8 :=
  if 65 ≤ b ∧ b ≤ 90 then b + 32 else b

def Request.new (u : Uninit) : Request where
  method := []
  version := u.version
  path := none
  pathLen := u.pathLen
  body := none
  bodyLength := u.bodyLength
  header := []

def Request.clear (r : Request) : Request :=
  { r with path := none, pathLen := 0, header := [], body := none, bodyLength := 0 }

def Response.new : Response where
  status := 200
  header := []

def Response.clearHeader (r : Response) : Response :=
  { r with header := [] }

namespace Ctx

def new (u : Uninit) : Ctx where
  readBuf := List.replicate (READ_BUF_MAX_SIZE + 1) 0
  writeBuf := .new WRITE_BUF_MAX_SIZE
  request := .new u
  response := .new
  currentHeaderName := u.currentHeaderName
  keepAlive := u.keepAlive

def setHttpVersion (ctx : Ctx) (parser : Parser) : Ctx :=
  { ctx with request.version := parser.httpMajor * 100 + parser.httpMinor }

def setHttpMethod (ctx : Ctx) (parser : Parser) : Ctx :=
  match parser.method with
  | .get => { ctx with request.method := Buffer.str "GET" }
  | .post => { ctx with request.method := Buffer.str "POST" }
  | _ => ctx

def httpRequestOnUrl (ctx : Ctx) (s : Slice) : Ctx :=
  { ctx with
    request.path := some (s.of ctx.readBuf)
    request.pathLen := s.length % 2 ^ 32 }

def httpRequestOnHeaderField (ctx : Ctx) (s : Slice) : Ctx :=
  { ctx with currentHeaderName := s }

def httpRequestOnHeaderValue (ctx : Ctx) (s : Slice) : Ctx :=
  let headerName := (ctx.currentHeaderName.of ctx.readBuf).map tolower
  let headerValue := s.of ctx.readBuf
  { ctx with request.header := ctx.request.header.insert headerName headerValue }

def httpRequestOnHeadersComplete (ctx : Ctx) (parser : Parser) : Ctx :=
  let ctx := ctx.setHttpVersion parser
  let ctx := ctx.setHttpMethod parser
  { ctx with keepAlive := parser.keepAlive }

def httpRequestOnBody (ctx : Ctx) (s : Slice) : Ctx :=
  { ctx with
    request.body := some (s.of ctx.readBuf)
    request.bodyLength := s.length }

def callback (ctx : Ctx) (cb : Callback) : Ctx :=
  match cb with
  | .messageBegin => ctx
  | .url s => ctx.httpRequestOnUrl s
  | .headerField s => ctx.httpRequestOnHeaderField s
  | .headerValue s => ctx.httpRequestOnHeaderValue s
  | .headersComplete parser => ctx.httpRequestOnHeadersComplete parser
  | .body s => ctx.httpRequestOnBody s
  | .messageComplete => ctx

-- `recv` overwrites the front of the read buffer.
def recv (ctx : Ctx) (data : Bytes) : Ctx :=
  { ctx with readBuf := ctx.readBuf.write 0 data }

def parse (ctx : Ctx) (callbacks : List Callback) : Ctx :=
  callbacks.foldl callback ctx

def clear (ctx : Ctx) : Ctx :=
  { ctx with request := ctx.request.clear, response := ctx.response.clearHeader }

end Ctx
end Http
end Fsw
