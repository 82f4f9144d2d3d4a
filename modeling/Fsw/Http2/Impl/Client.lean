import Mathlib.Logic.Function.Basic
import Fsw.Http.Impl.Ctx
import Fsw.Http2.Impl.Frame

/-!
This module contains the HTTP/2 client of `client.cc`. Header blocks are compressed by a library,
which is a parameter.

What the kernel decides is an argument: how much a `recv` gets at most, and how much of what is to
be sent `send_all` gets through. What is sent is kept, one entry for each call of `send_all`.
-/

namespace Fsw
namespace Http2

open Websocket (htonl htons ntohl ntohs)
open Http (READ_BUF_MAX_SIZE tolower)

def DEFAULT_HEADER_TABLE_SIZE : BitVec 32 := 1 <<< 12
def MAX_MAX_CONCURRENT_STREAMS : BitVec 32 := 128
def MAX_MAX_FRAME_SIZE : BitVec 32 := 1 <<< 14
def DEFAULT_WINDOW_SIZE : BitVec 32 := 65535
def DEFAULT_MAX_HEADER_LIST_SIZE : BitVec 32 := 1 <<< 12
def STACK_BUFFER_SIZE : Nat := 65536
def MAX_STATUS_LINE_NUM : Nat := 8
def PRI_STRING : Bytes := Buffer.str "PRI * HTTP/2.0\r\n\r\nSM\r\n\r\n"

-- What `nghttp2_hd_inflate_hd` reports if it does not fail: `nv` is there with `EMIT`.
structure InflateHd where
  processed : Nat
  nv : Option (Bytes × Bytes)
  final : Bool

/--
The functions of `nghttp2_hd.c`, where `inflateHd` is called with `in_final` set and then either
consumes some of what it is given or is at the end. A negative return value is `none`, and so is a
return value of `nghttp2_hd_deflate_change_table_size` that is not `0`.
-/
structure Nghttp2 where
  Inflater : Type
  Deflater : Type
  inflateHd : Inflater → Bytes → Inflater × Option InflateHd
  inflateEndHeaders : Inflater → Inflater
  deflateHd : Deflater → List (Bytes × Bytes) → Deflater × Option Bytes
  deflateChangeTableSize : Deflater → BitVec 32 → Option Deflater
  processed_le : ∀ inflater bs r, (inflateHd inflater bs).2 = some r → r.processed ≤ bs.length
  processed_pos : ∀ inflater bs r, (inflateHd inflater bs).2 = some r
    → r.final = false → 0 < r.processed

structure Settings where
  headerTableSize : BitVec 32
  windowSize : BitVec 32
  maxConcurrentStreams : BitVec 32
  maxFrameSize : BitVec 32
  maxHeaderListSize : BitVec 32
  deriving DecidableEq, Repr

def Settings.default : Settings where
  headerTableSize := DEFAULT_HEADER_TABLE_SIZE
  windowSize := DEFAULT_WINDOW_SIZE
  maxConcurrentStreams := MAX_MAX_CONCURRENT_STREAMS
  maxFrameSize := MAX_MAX_FRAME_SIZE
  maxHeaderListSize := DEFAULT_MAX_HEADER_LIST_SIZE

structure Response where
  body : Bytes
  statusCode : Int
  errCode : Int
  header : SortedMap Bytes Bytes
  deriving DecidableEq, Repr

structure Request where
  method : Bytes
  path : Bytes
  body : Option Bytes
  bodyLength : Nat
  pipeline : Bool
  header : SortedMap Bytes Bytes
  deriving DecidableEq, Repr

-- `index` is the number of entries.
structure Headers where
  size : Nat
  nvs : List (Bytes × Bytes)
  length_le : nvs.length ≤ size

def Headers.new (size : Nat) : Headers :=
  ⟨size, [], Nat.zero_le size⟩

def Headers.add (headers : Headers) (name value : Bytes) : Except Trap Headers :=
  if h : headers.nvs.length < headers.size then
    .ok
      { size := headers.size
        nvs := headers.nvs ++ [(name, value)]
        length_le := by
          rw [List.length_append, List.length_singleton]
          exact h }
  else
    .error .outOfBounds

namespace StreamFlag

def NORMAL : UInt8 := 0
def PIPELINE_REQUEST : UInt8 := 2
def PIPELINE_RESPONSE : UInt8 := 4

end StreamFlag

structure Stream where
  streamId : BitVec 32
  flags : UInt8
  buffer : Option Buffer
  response : Response
  remoteWindowSize : BitVec 32
  localWindowSize : BitVec 32
  deriving DecidableEq, Repr

-- What `Response` does not initialize, and what lies behind the `\0` of a `std::string`
structure Uninit where
  statusCode : Int
  errCode : Int
  behind : Bytes → Bytes
  length_behind : ∀ s, 6 ≤ s.length + (behind s).length

def Stream.new (u : Uninit) (streamId : BitVec 32) (pipeline : Bool) : Stream where
  streamId := streamId
  flags := if pipeline then StreamFlag.PIPELINE_REQUEST else StreamFlag.NORMAL
  buffer := none
  response := ⟨[], u.statusCode, u.errCode, []⟩
  remoteWindowSize := DEFAULT_WINDOW_SIZE
  localWindowSize := DEFAULT_WINDOW_SIZE

structure Client (lib : Nghttp2) where
  readBuf : Buffer
  sent : List Bytes
  localSettings : Settings
  remoteSettings : Settings
  inflater : lib.Inflater
  deflater : lib.Deflater
  streamId : BitVec 32
  lastStreamId : BitVec 32
  streams : BitVec 32 → Option Stream

inductive ReturnCode where
  | fswContinue
  | fswReady
  deriving DecidableEq, Repr

def cString (bs : Bytes) : Bytes :=
  bs.takeWhile (· ≠ 0)

def isSpace (b : UInt8) : Bool :=
  b = 32 || (9 ≤ b && b ≤ 13)

def isDigit (b : UInt8) : Bool :=
  48 ≤ b && b ≤ 57

def atoi (bs : Bytes) : Int :=
  let digits (bs : Bytes) : Int :=
    (bs.takeWhile isDigit).foldl (fun n b => 10 * n + (b.toNat - 48)) 0
  match bs.dropWhile isSpace with
  | 43 :: bs => digits bs
  | 45 :: bs => -digits bs
  | bs => digits bs

namespace Client

variable {lib : Nghttp2}

def new (lib : Nghttp2) (inflater : lib.Inflater) (deflater : lib.Deflater) : Client lib where
  readBuf := .new READ_BUF_MAX_SIZE
  sent := []
  localSettings := .default
  remoteSettings := .default
  inflater := inflater
  deflater := deflater
  streamId := 1
  lastStreamId := 0
  streams := fun _ => none

def getStream (client : Client lib) (streamId : BitVec 32) : Option Stream :=
  client.streams streamId

def setStream (client : Client lib) (streamId : BitVec 32) (stream : Stream) : Client lib :=
  { client with streams := Function.update client.streams streamId (some stream) }

/--
`Socket::recv` to `pos` in the read buffer. A `recv` of no bytes is taken to return at once, also if
nothing has arrived yet.
-/
def recv (client : Client lib) (pos len : Nat) (incoming : Bytes) (limit : Nat)
    : Except Trap (Client lib × Bytes) := do
  let bs := incoming.take (min len limit)
  let readBuf ← client.readBuf.write pos bs
  return ({ client with readBuf := readBuf }, incoming.drop bs.length)

def recvFrame (client : Client lib) (incoming : Bytes) (limits : Nat × Nat)
    : Except Trap (Client lib × Bytes × Frame) := do
  let (client, incoming) ← client.recv 0 FRAME_HEADER_SIZE incoming limits.1
  let payloadLength := getPayloadLength client.readBuf.mem
  let (client, incoming) ← client.recv FRAME_HEADER_SIZE payloadLength incoming limits.2
  return (client, incoming, frameOf client.readBuf.mem fun streamId =>
    (client.getStream streamId).isSome)

-- What successive calls yield, each with how much its calls of `recv` get at most
def recvFrames (client : Client lib) (incoming : Bytes) : List (Nat × Nat) → List Frame
  | [] => []
  | limits :: calls =>
    match client.recvFrame incoming limits with
    | .ok (client, incoming, frame) => frame :: client.recvFrames incoming calls
    | .error _ => []

def send (client : Client lib) (bs : Bytes) (n : Nat) : Client lib × Bool :=
  ({ client with sent := client.sent ++ [bs.take n] }, n = bs.length)

-- `buf` is the memory from `frame->payload - FSW_HTTP2_FRAME_HEADER_SIZE` on.
def sendFrame (client : Client lib) (buf : Bytes) (frame : Frame) (n : Nat) : Client lib × Bool :=
  client.send (buf.take (FRAME_HEADER_SIZE + frame.payloadLength)) n

section Parse

def parseHeaderStop (inflater : lib.Inflater) (final : Bool) (inlen : Nat) : Bool × lib.Inflater :=
  (final || inlen = 0, if final then lib.inflateEndHeaders inflater else inflater)

def isStatus (name : Bytes) : Bool :=
  name.headD 0 = 58 && name.length = 7 && (name.drop 1).map tolower = Buffer.str "status"

def emitHeader (response : Response) (nv : Bytes × Bytes) : Response :=
  if isStatus nv.1 then
    { response with statusCode := atoi nv.2 }
  else
    { response with header := response.header.insert (cString nv.1) (cString nv.2) }

theorem inflateHd_lt {inflater : lib.Inflater} {bs : Bytes} {final : Bool} {r : InflateHd}
    (hstop : ¬(parseHeaderStop inflater final bs.length).1)
    (hinflate : (lib.inflateHd inflater bs).2 = some r)
    : (if r.final then 0 else bs.length - r.processed + 1)
        < if final then 0 else bs.length + 1 := by
  simp only [parseHeaderStop, Bool.or_eq_true, decide_eq_true_eq, not_or, Bool.not_eq_true] at hstop
  rw [hstop.1]
  cases hfinal : r.final with
  | true => simp
  | false =>
    have hpos := lib.processed_pos _ _ _ hinflate hfinal
    simp only [Bool.false_eq_true, ↓reduceIte]
    omega

def inflateHeaders (inflater : lib.Inflater) (bs : Bytes) (final : Bool) (response : Response)
    : lib.Inflater × Response × Bool :=
  if hstop : (parseHeaderStop inflater final bs.length).1 then
    ((parseHeaderStop inflater final bs.length).2, response, true)
  else
    match hinflate : (lib.inflateHd inflater bs).2 with
    | none => ((lib.inflateHd inflater bs).1, response, false)
    | some r =>
      have := inflateHd_lt hstop hinflate
      inflateHeaders (lib.inflateHd inflater bs).1 (bs.drop r.processed) r.final
        (r.nv.elim response (emitHeader response))
  termination_by if final then 0 else bs.length + 1

-- `response` is a copy of the one of the stream.
def parseFrameHeader (client : Client lib) (frame : Frame) : Except Trap (Client lib × Bool) :=
  match frame.stream.bind client.getStream with
  | none => .error .nullDeref
  | some stream =>
    match frame.payload.read? 0 frame.payloadLength with
    | none => .error .outOfBounds
    | some bs =>
      let (inflater, _, ok) := inflateHeaders client.inflater bs false stream.response
      .ok ({ client with inflater := inflater }, ok)

def parsePayload (client : Client lib) (frame : Frame) : Except Trap (Client lib) :=
  match frame.stream, frame.stream.bind client.getStream with
  | some p, some stream => do
    let stream :=
      if frame.flags &&& FrameFlag.END_STREAM = 0 then
        { stream with flags := stream.flags ||| StreamFlag.PIPELINE_RESPONSE }
      else
        stream
    if frame.payloadLength > 0 then
      match frame.payload.read? 0 frame.payloadLength with
      | none => .error .outOfBounds
      | some bs =>
        let buffer ← (stream.buffer.getD (.new READ_BUF_MAX_SIZE)).append bs
        let stream := { stream with
          buffer := some buffer
          localWindowSize := stream.localWindowSize - BitVec.ofNat 32 frame.payloadLength }
        let windowSize := client.localSettings.windowSize - BitVec.ofNat 32 frame.payloadLength
        return { client with localSettings.windowSize := windowSize }.setStream p stream
    else
      return client.setStream p stream
  | _, _ =>
    if frame.flags &&& FrameFlag.END_STREAM = 0 || frame.payloadLength > 0 then
      .error .nullDeref
    else
      .ok client

-- One turn of the loop of `parse_setting_frame`, `false` if it ends with `FSW_ERR`
def parseSetting (client : Client lib) (id : BitVec 16) (value : BitVec 32) : Client lib × Bool :=
  if id = 0x1 then
    if value ≠ client.remoteSettings.headerTableSize then
      let client := { client with remoteSettings.headerTableSize := value }
      match lib.deflateChangeTableSize client.deflater value with
      | some deflater => ({ client with deflater := deflater }, true)
      | none => (client, false)
    else
      (client, true)
  else if id = 0x3 then
    ({ client with remoteSettings.maxConcurrentStreams := value }, true)
  else if id = 0x4 then
    ({ client with remoteSettings.windowSize := value }, true)
  else if id = 0x5 then
    ({ client with remoteSettings.maxFrameSize := value }, true)
  else if id = 0x6 then
    ({ client with remoteSettings.maxHeaderListSize := value }, true)
  else
    (client, true)

-- Without a value that has been read the value is `0`.
def parseSettings (client : Client lib) (buf : Bytes) (value : BitVec 32)
    : Nat → Except Trap (Client lib × Option (BitVec 32))
  | 0 => .ok (client, some value)
  | n + 1 =>
    match buf.read? 0 6 with
    | none => .error .outOfBounds
    | some bs =>
      let id := ntohs (BitVec.ofNat 16 (Bytes.loadLE (bs.take 2)))
      let value := ntohl (BitVec.ofNat 32 (Bytes.loadLE (bs.drop 2)))
      match client.parseSetting id value with
      | (client, false) => .ok (client, none)
      | (client, true) => parseSettings client (buf.drop 6) value n

-- `none` is `FSW_ERR`. While it is positive, 6 is taken off `payload_length`.
def parseSettingFrame (client : Client lib) (frame : Frame) (n : Nat)
    : Except Trap (Client lib × Option (BitVec 32)) := do
  match ← parseSettings client frame.payload 0 ((frame.payloadLength + 5) / 6) with
  | (client, none) => return (client, none)
  | (client, some value) =>
    let settingAckBuf :=
      setFrameHeader (List.replicate 17 0) FrameType.SETTINGS 0 FrameFlag.ACK frame.streamId
    match client.send (settingAckBuf.take FRAME_HEADER_SIZE) n with
    | (client, false) => return (client, none)
    | (client, true) => return (client, some value)

def endFrame (client : Client lib) (frame : Frame) : Except Trap (Client lib × ReturnCode) :=
  if frame.flags &&& FrameFlag.END_STREAM ≠ 0 || frame.type = FrameType.RST_STREAM
      || frame.type = FrameType.GOAWAY then
    match frame.stream, frame.stream.bind client.getStream with
    | some p, some stream =>
      let stream :=
        if frame.type = FrameType.RST_STREAM then
          { stream with response.statusCode := -3, response.errCode := 0 }
        else
          stream
      match stream.buffer with
      | none => .ok (client.setStream p stream, .fswReady)
      | some buffer =>
        if buffer.length > 0 then
          let stream :=
            { stream with response.body := buffer.contents, buffer := some buffer.clear }
          .ok (client.setStream p stream, .fswReady)
        else
          .ok (client.setStream p stream, .fswReady)
    | _, _ => .error .nullDeref
  else
    .ok (client, .fswContinue)

def parseFrame (client : Client lib) (frame : Frame) (n : Nat)
    : Except Trap (Client lib × ReturnCode) := do
  let client :=
    if client.streamId > client.lastStreamId then
      { client with lastStreamId := client.streamId }
    else
      client
  if frame.type = FrameType.SETTINGS then
    let (client, _) ← client.parseSettingFrame frame n
    return (client, .fswContinue)
  else if frame.type = FrameType.WINDOW_UPDATE || frame.type = FrameType.PING
      || frame.type = FrameType.GOAWAY || frame.type = FrameType.RST_STREAM
      || frame.type = FrameType.PUSH_PROMISE then
    return (client, .fswContinue)
  else if frame.type = FrameType.HEADERS then
    let (client, _) ← client.parseFrameHeader frame
    client.endFrame frame
  else if frame.type = FrameType.DATA then
    let client ← client.parsePayload frame
    client.endFrame frame
  else
    client.endFrame frame

end Parse

section Send

def setting (id : BitVec 16) (value : BitVec 32) : Bytes :=
  Bytes.storeLE 2 (htons id).toNat ++ Bytes.storeLE 4 (htonl value).toNat

def buildSettingFrame (client : Client lib) : Frame × Bytes :=
  let payload := setting 0x1 client.localSettings.headerTableSize
    ++ setting 0x3 client.localSettings.maxConcurrentStreams
    ++ setting 0x4 client.localSettings.windowSize
  let frame : Frame := ⟨payload, 3 * 6, FrameType.SETTINGS, 0, 0, none⟩
  (frame, buildFrameHeader (List.replicate FRAME_HEADER_SIZE 0 ++ payload) frame)

-- The first call, `connected` is what `Socket::connect` returns.
def connect (client : Client lib) (connected : Bool) (ns : Nat × Nat) : Client lib × Bool :=
  if connected then
    match client.send PRI_STRING ns.1 with
    | (client, false) => (client, false)
    | (client, true) =>
      let (frame, buf) := client.buildSettingFrame
      client.sendFrame buf frame ns.2
  else
    (client, false)

-- `FSW_STRL` of a `const char *`, whose `sizeof` is 8
def strl (u : Uninit) (s : Bytes) : Bytes :=
  (s ++ 0 :: u.behind s).take 7

def headers (u : Uninit) (req : Request) : List (Bytes × Bytes) :=
  [(Buffer.str ":method", req.method), (Buffer.str ":path", req.path),
    (Buffer.str ":scheme", Buffer.str "http"), (Buffer.str ":authority", Buffer.str "127.0.0.1")]
    ++ req.header.map fun (name, value) => (strl u name, strl u value)

-- `headers` as it is put together, in an array of a fixed size
def addHeaders (u : Uninit) (req : Request) : Except Trap Headers := do
  let headers ← (Headers.new (MAX_STATUS_LINE_NUM + req.header.length)).add
    (Buffer.str ":method") req.method
  let headers ← headers.add (Buffer.str ":path") req.path
  let headers ← headers.add (Buffer.str ":scheme") (Buffer.str "http")
  let headers ← headers.add (Buffer.str ":authority") (Buffer.str "127.0.0.1")
  req.header.foldlM (fun headers nv => headers.add (strl u nv.1) (strl u nv.2)) headers

def buildHttpHeader (client : Client lib) (u : Uninit) (req : Request)
    : Except Trap (Client lib × Bytes) :=
  match lib.deflateHd client.deflater (headers u req) with
  | (_, none) => .error .exit
  | (deflater, some bs) => .ok ({ client with deflater := deflater }, bs)

/--
`FswG.buffer_stack` with `bs` behind the room for a frame header. No other sender is taken to use it
while `send_all` waits.
-/
def stage (bs : Bytes) : Except Trap Bytes :=
  if FRAME_HEADER_SIZE + bs.length ≤ STACK_BUFFER_SIZE + 1 then
    .ok (List.replicate FRAME_HEADER_SIZE 0 ++ bs)
  else
    .error .outOfBounds

def emplace (client : Client lib) (streamId : BitVec 32) (stream : Stream) : Client lib :=
  if (client.getStream streamId).isSome then client else client.setStream streamId stream

-- `none` if it returns `false` before `frame->stream` has been set
def sendHttpHeaderFrame (client : Client lib) (u : Uninit) (req : Request) (n : Nat)
    : Except Trap (Client lib × Option (Frame × Stream)) := do
  let stream := Stream.new u client.streamId req.pipeline
  let (client, bs) ← client.buildHttpHeader u req
  let buf ← stage bs
  if bs.length = 0 then
    return (client, none)
  else
    let flags :=
      if req.body.isNone && stream.flags &&& StreamFlag.PIPELINE_REQUEST = 0 then
        FrameFlag.END_HEADERS ||| FrameFlag.END_STREAM
      else
        FrameFlag.END_HEADERS
    let frame : Frame :=
      ⟨bs, bs.length, FrameType.HEADERS, flags, client.streamId, some client.streamId⟩
    let client := client.emplace client.streamId stream
    let (client, _) := client.sendFrame (buildFrameHeader buf frame) frame n
    return (client, some (frame, stream))

def copyBody (req : Request) : Except Trap Bytes :=
  match req.body with
  | none => if req.bodyLength = 0 then .ok [] else .error .nullDeref
  | some body =>
    if req.bodyLength ≤ body.length then
      .ok (body.take req.bodyLength)
    else
      .error .outOfBounds

def sendHttpBodyFrame (client : Client lib) (frame : Frame) (stream : Stream)
    (req : Request) (n : Nat)
    : Except Trap (Client lib × Bool) := do
  let bs ← copyBody req
  let buf ← stage bs
  let flags := if stream.flags &&& StreamFlag.PIPELINE_REQUEST ≠ 0 then 0 else FrameFlag.END_STREAM
  let frame :=
    { frame with
      payload := bs, type := FrameType.DATA, payloadLength := req.bodyLength, flags := flags }
  return client.sendFrame (buildFrameHeader buf frame) frame n

def sendRequest (client : Client lib) (u : Uninit) (req : Request) (ns : Nat × Nat)
    : Except Trap (Client lib × BitVec 32) := do
  match ← client.sendHttpHeaderFrame u req ns.1 with
  | (_, none) => .error .outOfBounds
  | (client, some (frame, stream)) =>
    let (client, _) ← client.sendHttpBodyFrame frame stream req ns.2
    return ({ client with streamId := client.streamId + 2 }, stream.streamId)

def writeData (client : Client lib) (streamId : BitVec 32) (data : Bytes)
    (endStream : Bool) (n : Nat)
    : Except Trap (Client lib × BitVec 32) := do
  let flags := if endStream then FrameFlag.END_STREAM else 0
  let buf ← stage data
  let stream := (client.getStream streamId).map fun _ => streamId
  let frame : Frame := ⟨data, data.length, FrameType.DATA, flags, streamId, stream⟩
  let (client, _) := client.sendFrame (buildFrameHeader buf frame) frame n
  return (client, streamId)

end Send

def found (client : Client lib) (frame : Frame) : Frame :=
  { frame with
    stream := if (client.getStream frame.streamId).isSome then some frame.streamId else none }

-- `none` if it still waits for a frame. The `frame` it returns the response from is there as well.
def recvResponse (client : Client lib)
    : List (Frame × Nat) → Except Trap (Option (Client lib × Frame × Response))
  | [] => .ok none
  | (frame, n) :: frames => do
    let frame := client.found frame
    match ← client.parseFrame frame n with
    | (client, .fswContinue) => recvResponse client frames
    | (client, .fswReady) =>
      match frame.stream.bind client.getStream with
      | none => .error .nullDeref
      | some stream => .ok (some (client, frame, stream.response))

end Client
end Http2
end Fsw
