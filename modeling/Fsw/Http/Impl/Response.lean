import Fsw.Http.Impl.Ctx
import Fsw.Lib.Emit

namespace Fsw
namespace Http

open Buffer (str)

inductive Output where
  | send (data : Bytes)
  | sendfile (data : Bytes)
  deriving DecidableEq, Repr

abbrev Reply := Emit Output Trap

def WEBSOCKET_GUID : Bytes := str "258EAFA5-E914-47DA-95CA-C5AB0DC85B11"

def base64Chars : Bytes :=
  str "ABCDEFGHIJKLMNOPQRSTUVWXYZabcdefghijklmnopqrstuvwxyz0123456789+/"

def base64Char (b : UInt8) : UInt8 :=
  base64Chars.getD b.toNat 0

def base64Encode : Bytes → Bytes
  | a :: b :: c :: rest =>
    [base64Char ((a &&& 0xfc) >>> 2), base64Char (((a &&& 0x03) <<< 4) + ((b &&& 0xf0) >>> 4)),
      base64Char (((b &&& 0x0f) <<< 2) + ((c &&& 0xc0) >>> 6)), base64Char (c &&& 0x3f)]
      ++ base64Encode rest
  | [a, b] =>
    [base64Char ((a &&& 0xfc) >>> 2), base64Char (((a &&& 0x03) <<< 4) + ((b &&& 0xf0) >>> 4)),
      base64Char ((b &&& 0x0f) <<< 2)] ++ str "="
  | [a] =>
    [base64Char ((a &&& 0xfc) >>> 2), base64Char ((a &&& 0x03) <<< 4)] ++ str "=="
  | [] => []

-- `SHA1` is part of OpenSSL.
def computeAcceptKey (sha1 : Bytes → Bytes) (secWebsocketKey : Bytes) : Bytes :=
  base64Encode (sha1 (secWebsocketKey ++ WEBSOCKET_GUID))

def statusMessages : List (Int × String) :=
  [
    (100, "100 Continue"),
    (101, "101 Switching Protocols"),
    (201, "201 Created"),
    (202, "202 Accepted"),
    (203, "203 Non-Authoritative Information"),
    (204, "204 No Content"),
    (205, "205 Reset Content"),
    (206, "206 Partial Content"),
    (207, "207 Multi-Status"),
    (208, "208 Already Reported"),
    (226, "226 IM Used"),
    (300, "300 Multiple Choices"),
    (301, "301 Moved Permanently"),
    (302, "302 Found"),
    (303, "303 See Other"),
    (304, "304 Not Modified"),
    (305, "305 Use Proxy"),
    (307, "307 Temporary Redirect"),
    (400, "400 Bad Request"),
    (401, "401 Unauthorized"),
    (402, "402 Payment Required"),
    (403, "403 Forbidden"),
    (404, "404 Not Found"),
    (405, "405 Method Not Allowed"),
    (406, "406 Not Acceptable"),
    (407, "407 Proxy Authentication Required"),
    (408, "408 Request Timeout"),
    (409, "409 Conflict"),
    (410, "410 Gone"),
    (411, "411 Length Required"),
    (412, "412 Precondition Failed"),
    (413, "413 Request Entity Too Large"),
    (414, "414 Request URI Too Long"),
    (415, "415 Unsupported Media Type"),
    (416, "416 Requested Range Not Satisfiable"),
    (417, "417 Expectation Failed"),
    (418, "418 I'm a teapot"),
    (421, "421 Misdirected Request"),
    (422, "422 Unprocessable Entity"),
    (423, "423 Locked"),
    (424, "424 Failed Dependency"),
    (426, "426 Upgrade Required"),
    (428, "428 Precondition Required"),
    (429, "429 Too Many Requests"),
    (431, "431 Request Header Fields Too Large"),
    (500, "500 Internal Server Error"),
    (501, "501 Method Not Implemented"),
    (502, "502 Bad Gateway"),
    (503, "503 Service Unavailable"),
    (504, "504 Gateway Timeout"),
    (505, "505 HTTP Version Not Supported"),
    (506, "506 Variant Also Negotiates"),
    (507, "507 Insufficient Storage"),
    (508, "508 Loop Detected"),
    (510, "510 Not Extended"),
    (511, "511 Network Authentication Required")]

def getStatusMessage (status : Int) : Bytes :=
  match statusMessages.find? (·.1 = status) with
  | some (_, message) => str message
  | none => str "200 OK"

def toInt (n : Nat) : Int :=
  (n : Int).bmod (2 ^ 32)

namespace Request

def hasHeader (r : Request) (headerName : Bytes) : Bool :=
  r.header.contains headerName

def getHeader (r : Request) (headerName : Bytes) : Bytes :=
  (r.header.find? headerName).getD []

def headerContainValue (r : Request) (headerName headerValue : Bytes) : Bool :=
  match r.header.find? headerName with
  | none => false
  | some value => value.map tolower = headerValue

def hasSecWebsocketKey (r : Request) : Bool :=
  r.hasHeader (str "sec-websocket-key")

end Request

namespace Ctx

def setStatus (ctx : Ctx) (status : Int) : Ctx :=
  { ctx with response.status := status }

def setHeader (ctx : Ctx) (name value : Bytes) : Ctx :=
  { ctx with response.header := ctx.response.header.insert name value }

def buildHttpStatusLine (ctx : Ctx) : Except Trap Ctx := do
  let buf ← ctx.writeBuf.append (str "HTTP/1.1 ")
  let buf ← buf.append (getStatusMessage ctx.response.status)
  let buf ← buf.append (str "\r\n")
  return { ctx with writeBuf := buf }

def buildHeaderLine (buf : Buffer) (h : Bytes × Bytes) : Except Trap Buffer := do
  let buf ← buf.append h.1
  let buf ← buf.append (str ": ")
  let buf ← buf.append h.2
  buf.append (str "\r\n")

def buildHttpHeader (ctx : Ctx) (bodyLength : Int) : Except Trap Ctx := do
  let buf ← ctx.response.header.foldlM buildHeaderLine ctx.writeBuf
  let buf ←
    if ctx.keepAlive then do
      let buf ← buf.append (str "Connection: Keep-Alive\r\n")
      let buf ← buf.append (str "Content-Length: ")
      let buf ← buf.appendInt bodyLength
      buf.append (str "\r\n")
    else do
      let buf ← buf.append (str "Connection: Close\r\n")
      let buf ← buf.append (str "Content-Length: ")
      let buf ← buf.appendInt bodyLength
      buf.append (str "\r\n")
  let buf ← buf.append (str "\r\n")
  return { ctx with writeBuf := buf }

def buildHttpBody (ctx : Ctx) (body : Option Buffer) : Except Trap Ctx :=
  match body with
  | none => return ctx
  | some body => do
    let buf ← ctx.writeBuf.appendBuffer body
    let buf ← buf.append (str "\r\n")
    return { ctx with writeBuf := buf }

def sendResponse (ctx : Ctx) : Reply Unit :=
  Emit.emit (.send ctx.writeBuf.contents)

def clearWriteBuf (ctx : Ctx) : Ctx :=
  { ctx with writeBuf := ctx.writeBuf.clear }

def bodyLength (body : Option Buffer) (size : Nat) : Nat :=
  match body with
  | some body => body.length
  | none => size

def endResponse (ctx : Ctx) (body : Option Buffer) (size : Nat) : Reply Ctx := do
  let ctx := ctx.clearWriteBuf
  let ctx ← ctx.buildHttpStatusLine
  let ctx ← ctx.buildHttpHeader (toInt (bodyLength body size))
  let ctx ← ctx.buildHttpBody body
  ctx.sendResponse
  return ctx

def sendNotFoundResponse (ctx : Ctx) : Reply Ctx :=
  (ctx.setStatus 404).endResponse none 0

def sendBadRequestResponse (ctx : Ctx) (body : Bytes) : Reply Ctx := do
  let badBody ← (Buffer.new body.length).append body
  (ctx.setStatus 400).endResponse (some badBody) 0

def badHandshake : Bytes := str "websocket handshake error: "

def checkWebsocketUpgrade (ctx : Ctx) (secWebsocketKey : Bytes) : Reply (Bool × Ctx) := do
  if ctx.request.method ≠ str "GET" then
    let ctx ← ctx.sendBadRequestResponse (badHandshake ++ str "request method is not GET")
    return (false, ctx)
  if !ctx.request.headerContainValue (str "connection") (str "upgrade") then
    let ctx ← ctx.sendBadRequestResponse
      (badHandshake ++ str "'upgrade' token not found in 'Connection' header")
    return (false, ctx)
  if !ctx.request.headerContainValue (str "upgrade") (str "websocket") then
    let ctx ← ctx.sendBadRequestResponse
      (badHandshake ++ str "'websocket' token not found in 'Upgrade' header")
    return (false, ctx)
  if !ctx.request.headerContainValue (str "sec-websocket-version") (str "13") then
    let ctx ← ctx.sendBadRequestResponse
      (badHandshake
        ++ str "websocket: unsupported version: 13 not found in 'Sec-Websocket-Version' header")
    return (false, ctx)
  if secWebsocketKey.isEmpty then
    let ctx ← ctx.sendBadRequestResponse
      (badHandshake ++ str "'Sec-WebSocket-Key' header is missing or blank")
    return (false, ctx)
  return (true, ctx)

def upgrade (sha1 : Bytes → Bytes) (ctx : Ctx) : Reply (Bool × Ctx) := do
  let secWebsocketKey := ctx.request.getHeader (str "sec-websocket-key")
  let (ok, ctx) ← ctx.checkWebsocketUpgrade secWebsocketKey
  if !ok then
    return (false, ctx)
  let ctx := ctx.setStatus 101
  let ctx := ctx.setHeader (str "Upgrade") (str "websocket")
  let ctx := ctx.setHeader (str "Connection") (str "Upgrade")
  let acceptKey := computeAcceptKey sha1 secWebsocketKey
  let ctx := ctx.setHeader (str "Sec-WebSocket-Accept") acceptKey
  let ctx ← ctx.endResponse none 0
  return (true, ctx)

end Ctx
end Http
end Fsw
