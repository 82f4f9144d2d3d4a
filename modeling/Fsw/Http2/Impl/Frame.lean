import Fsw.Websocket.Impl.Frame

/-!
This module contains the frames of `coroutine_http2.h` and how their headers are written into and
read from memory by `http2.cc` and `client.cc`. Lengths are of type `ssize_t` but never negative.
-/

namespace Fsw
namespace Http2

open Websocket (htonl ntohl)

def FRAME_HEADER_SIZE : Nat := 9

namespace FrameType

def DATA : UInt8 := 0
def HEADERS : UInt8 := 1
def RST_STREAM : UInt8 := 3
def SETTINGS : UInt8 := 4
def PUSH_PROMISE : UInt8 := 5
def PING : UInt8 := 6
def GOAWAY : UInt8 := 7
def WINDOW_UPDATE : UInt8 := 8

end FrameType

namespace FrameFlag

def ACK : UInt8 := 0x01
def END_STREAM : UInt8 := 0x01
def END_HEADERS : UInt8 := 0x04

end FrameFlag

-- `payload` is the memory from `payload` on, of a `Stream *` there is the key in the map of the
-- client.
structure Frame where
  payload : Bytes
  payloadLength : Nat
  type : UInt8
  flags : UInt8
  streamId : BitVec 32
  stream : Option (BitVec 32)
  deriving DecidableEq, Repr

def setFrameHeader (buffer : Bytes) (type : UInt8) (length : BitVec 32)
    (flags : UInt8) (streamId : BitVec 32)
    : Bytes :=
  buffer.write 0
  ([⟨(length >>> 16).setWidth 8⟩, ⟨(length >>> 8).setWidth 8⟩, ⟨length.setWidth 8⟩, type, flags]
    ++ Bytes.storeLE 4 (htonl streamId).toNat)

-- `buf` is the memory from `frame->payload - FSW_HTTP2_FRAME_HEADER_SIZE` on.
def buildFrameHeader (buf : Bytes) (frame : Frame) : Bytes :=
  buf.write 0 ([.ofNat (frame.payloadLength >>> 16), .ofNat (frame.payloadLength >>> 8),
    .ofNat frame.payloadLength,
    frame.type, frame.flags] ++ Bytes.storeLE 4 (htonl frame.streamId).toNat)

def getPayloadLength (buf : Bytes) : Nat :=
  ((buf.getD 0 0).toNat <<< 16) + ((buf.getD 1 0).toNat <<< 8) + (buf.getD 2 0).toNat

def getStreamId (buf : Bytes) : BitVec 32 :=
  ntohl (BitVec.ofNat 32 (Bytes.loadLE ((buf.drop 5).take 4))) &&& 0x7fffffff

-- The rest of `recv_frame` after both calls of `recv`, with `streams.find`
def frameOf (buf : Bytes) (find : BitVec 32 → Bool) : Frame where
  payload := buf.drop FRAME_HEADER_SIZE
  payloadLength := getPayloadLength buf
  type := buf.getD 3 0
  flags := buf.getD 4 0
  streamId := getStreamId buf
  stream := if find (getStreamId buf) then some (getStreamId buf) else none

end Http2
end Fsw
