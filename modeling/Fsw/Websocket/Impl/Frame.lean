import Fsw.Buffer.Impl.Buffer

/-!
This module contains the codec of WebSocket frames of `websocket_frame.cc`, on a little-endian host
on which bit-fields are allocated from the least significant bit on.
-/

namespace Fsw
namespace Websocket

def MASK_LEN : Nat := 4
def HEADER_LEN : Nat := 2

def ntohs (x : BitVec 16) : BitVec 16 :=
  BitVec.ofNat 16 (Bytes.swapLE 2 x.toNat)

def htons (x : BitVec 16) : BitVec 16 :=
  BitVec.ofNat 16 (Bytes.swapLE 2 x.toNat)

def ntohl (x : BitVec 32) : BitVec 32 :=
  BitVec.ofNat 32 (Bytes.swapLE 4 x.toNat)

def htonl (x : BitVec 32) : BitVec 32 :=
  BitVec.ofNat 32 (Bytes.swapLE 4 x.toNat)

def ntoh64 (net : BitVec 64) : BitVec 64 :=
  let low : BitVec 32 := (net &&& 0xFFFFFFFF#64).setWidth 32
  let high : BitVec 32 := (net >>> 32).setWidth 32
  let low := ntohl low
  let high := ntohl high
  (low.setWidth 64 <<< 32) ||| high.setWidth 64

def hton64 (host : BitVec 64) : BitVec 64 :=
  let low : BitVec 32 := (host &&& 0xFFFFFFFF#64).setWidth 32
  let high : BitVec 32 := ((host >>> 32) &&& 0xFFFFFFFF#64).setWidth 32
  let low := htonl low
  let high := htonl high
  (low.setWidth 64 <<< 32) ||| high.setWidth 64

def maskWords (maskKey64 : BitVec 64) : Nat → Bytes → Bytes
  | 0, _ => []
  | n + 1, data =>
    Bytes.storeLE 8 (BitVec.ofNat 64 (Bytes.loadLE (data.take 8)) ^^^ maskKey64).toNat
      ++ maskWords maskKey64 n (data.drop 8)

def mask (data maskKey : Bytes) : Bytes :=
  let n := data.length / 8
  let maskKey32 : BitVec 64 := BitVec.ofNat 64 (Bytes.loadLE (maskKey.take MASK_LEN))
  let maskKey64 := (maskKey32 <<< 32) ||| maskKey32
  maskWords maskKey64 n data
    ++ ((data.drop (n * 8)).zipIdx (n * 8)).map fun (b, i) => b ^^^ maskKey.getD (i % MASK_LEN) 0

structure FrameHeader where
  opcode : BitVec 4
  rsv3 : BitVec 1
  rsv2 : BitVec 1
  rsv1 : BitVec 1
  fin : BitVec 1
  length : BitVec 7
  mask : BitVec 1
  deriving DecidableEq, Repr

namespace FrameHeader

def toBytes (h : FrameHeader) : Bytes :=
  [⟨h.fin ++ h.rsv1 ++ h.rsv2 ++ h.rsv3 ++ h.opcode⟩, ⟨h.mask ++ h.length⟩]

def ofBytes (b0 b1 : UInt8) : FrameHeader where
  opcode := b0.toBitVec.extractLsb' 0 4
  rsv3 := b0.toBitVec.extractLsb' 4 1
  rsv2 := b0.toBitVec.extractLsb' 5 1
  rsv1 := b0.toBitVec.extractLsb' 6 1
  fin := b0.toBitVec.extractLsb' 7 1
  length := b1.toBitVec.extractLsb' 0 7
  mask := b1.toBitVec.extractLsb' 7 1

end FrameHeader

-- `payload` points into the buffer that the frame has been decoded from.
structure Frame where
  header : FrameHeader
  maskKey : Bytes
  headerLength : Nat
  payloadLength : Nat
  payload : Nat
  deriving DecidableEq, Repr

namespace Frame

def readByte (buffer : Buffer) (pos : Nat) : Except Trap UInt8 := do
  let bs ← buffer.read pos 1
  return bs.headD 0

def fetchHeader (frame : Frame) (buffer : Buffer) : Except Trap Frame := do
  let bs ← buffer.read 0 HEADER_LEN
  return { frame with header := .ofBytes (bs.getD 0 0) (bs.getD 1 0) }

-- `payload_len` and `header_len` before the masking key is taken into account.
def fetchLength (buffer : Buffer) (length : BitVec 7) : Except Trap (Nat × Nat) :=
  if length = 126 then do
    let bs ← buffer.read HEADER_LEN 2
    return ((ntohs (BitVec.ofNat 16 (Bytes.loadLE bs))).toNat, HEADER_LEN + 2)
  else if length = 127 then do
    let bs ← buffer.read HEADER_LEN 8
    return ((ntoh64 (BitVec.ofNat 64 (Bytes.loadLE bs))).toNat, HEADER_LEN + 8)
  else
    return (length.toNat, HEADER_LEN)

def fetchPayload (frame : Frame) (buffer : Buffer) : Except Trap (Frame × Buffer) := do
  let b1 ← readByte buffer 1
  let header := { frame.header with length := (b1 &&& 0x7f).toBitVec.setWidth 7 }
  let (payloadLen, headerLen) ← fetchLength buffer header.length
  if header.mask ≠ 0 then
    let maskKey ← buffer.read headerLen MASK_LEN
    let headerLen := headerLen + MASK_LEN
    let frame : Frame := ⟨header, maskKey, headerLen, payloadLen, headerLen⟩
    if payloadLen > 0 then
      let data ← buffer.read headerLen payloadLen
      let buffer ← buffer.write headerLen (mask data maskKey)
      return (frame, buffer)
    else
      return (frame, buffer)
  else
    return (⟨header, frame.maskKey, headerLen, payloadLen, headerLen⟩, buffer)

def decode (frame : Frame) (buffer : Buffer) : Except Trap (Frame × Buffer) := do
  let frame ← frame.fetchHeader buffer
  frame.fetchPayload buffer

-- The bit-field `length` and the extended length after it.
def encodeLength (length : Nat) : BitVec 7 × Bytes :=
  if length < 126 then
    (BitVec.ofNat 7 length, [])
  else if length < 65536 then
    (126, Bytes.storeLE 2 (htons (BitVec.ofNat 16 length)).toNat)
  else
    (127, Bytes.storeLE 8 (hton64 (BitVec.ofNat 64 length)).toNat)

def encode (encodeBuffer data : Buffer) (opcode finish : UInt8) : Except Trap Buffer := do
  let (length, ext) := encodeLength data.length
  let header : FrameHeader :=
    { fin := finish.toBitVec.setWidth 1
      opcode := opcode.toBitVec.setWidth 4
      rsv1 := 0
      rsv2 := 0
      rsv3 := 0
      mask := 0
      length := length }
  let encodeBuffer ← encodeBuffer.append (header.toBytes ++ ext)
  if header.mask ≠ 0 then
    let encodeBuffer ← encodeBuffer.append (Buffer.str "258E")
    if data.length > 0 then
      let offset := encodeBuffer.length
      let encodeBuffer ← encodeBuffer.appendBuffer data
      let bs ← encodeBuffer.read offset data.length
      encodeBuffer.write offset (mask bs (Buffer.str "258E"))
    else
      return encodeBuffer
  else if data.length > 0 then
    encodeBuffer.appendBuffer data
  else
    return encodeBuffer

end Frame
end Websocket
end Fsw
