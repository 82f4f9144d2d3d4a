import Fsw.Lib.Emit
import Fsw.Websocket.Lemmas.Client

/-!
This module contains which positions of the read buffer `recv_frame` looks at and writes to,
whatever a client has sent: `decodeTraced` is `decode` with every access to the buffer recorded.
-/

namespace Fsw
namespace Websocket

-- The `n` bytes from `pos` on. An access is recorded even if it is outside of what has been
-- allocated.
inductive Access where
  | read (pos n : Nat)
  | write (pos n : Nat)
  deriving DecidableEq, Repr

def Access.stop : Access → Nat
  | read pos n => pos + n
  | write pos n => pos + n

abbrev Traced := Emit Access Trap

def readTraced (buffer : Buffer) (pos n : Nat) : Traced Bytes := do
  Emit.emit (.read pos n)
  buffer.read pos n

def writeTraced (buffer : Buffer) (pos : Nat) (bs : Bytes) : Traced Buffer := do
  Emit.emit (.write pos bs.length)
  buffer.write pos bs

namespace Frame

def readByteTraced (buffer : Buffer) (pos : Nat) : Traced UInt8 := do
  let bs ← readTraced buffer pos 1
  return bs.headD 0

def fetchHeaderTraced (frame : Frame) (buffer : Buffer) : Traced Frame := do
  let bs ← readTraced buffer 0 HEADER_LEN
  return { frame with header := .ofBytes (bs.getD 0 0) (bs.getD 1 0) }

def fetchLengthTraced (buffer : Buffer) (length : BitVec 7) : Traced (Nat × Nat) :=
  if length = 126 then do
    let bs ← readTraced buffer HEADER_LEN 2
    return ((ntohs (BitVec.ofNat 16 (Bytes.loadLE bs))).toNat, HEADER_LEN + 2)
  else if length = 127 then do
    let bs ← readTraced buffer HEADER_LEN 8
    return ((ntoh64 (BitVec.ofNat 64 (Bytes.loadLE bs))).toNat, HEADER_LEN + 8)
  else
    return (length.toNat, HEADER_LEN)

def unmaskTraced (h : FrameHeader) (payloadLen headerLen : Nat) (buffer : Buffer)
    : Traced (Frame × Buffer) := do
  let maskKey ← readTraced buffer headerLen MASK_LEN
  let frame : Frame := ⟨h, maskKey, headerLen + MASK_LEN, payloadLen, headerLen + MASK_LEN⟩
  if payloadLen > 0 then
    let data ← readTraced buffer (headerLen + MASK_LEN) payloadLen
    let buffer ← writeTraced buffer (headerLen + MASK_LEN) (mask data maskKey)
    return (frame, buffer)
  else
    return (frame, buffer)

def fetchPayloadTraced (frame : Frame) (buffer : Buffer) : Traced (Frame × Buffer) := do
  let b1 ← readByteTraced buffer 1
  let header := { frame.header with length := (b1 &&& 0x7f).toBitVec.setWidth 7 }
  let (payloadLen, headerLen) ← fetchLengthTraced buffer header.length
  if header.mask ≠ 0 then
    unmaskTraced header payloadLen headerLen buffer
  else
    return (⟨header, frame.maskKey, headerLen, payloadLen, headerLen⟩, buffer)

def decodeTraced (frame : Frame) (buffer : Buffer) : Traced (Frame × Buffer) := do
  let frame ← frame.fetchHeaderTraced buffer
  frame.fetchPayloadTraced buffer

end Frame

-- The `\0` that `append` puts behind what has been received is not part of the decoding.
def recvFrameTraced (frame : Frame) (readBuf : Buffer) (bs : Bytes) : Traced (Frame × Buffer) := do
  let readBuf ← readBuf.clear.append bs
  frame.decodeTraced readBuf

section Erase

variable {frame : Frame} {b : Buffer}

theorem outputs_readTraced {pos n : Nat} : (readTraced b pos n).outputs = [.read pos n] := by
  unfold readTraced
  cases b.read pos n <;> rfl

theorem result_fetchHeaderTraced : (frame.fetchHeaderTraced b).result = frame.fetchHeader b := by
  rw [Frame.fetchHeaderTraced, Emit.result_bind]
  rfl

theorem result_readByteTraced {pos : Nat}
    : (Frame.readByteTraced b pos).result = Frame.readByte b pos := by
  rw [Frame.readByteTraced, Emit.result_bind]
  rfl

theorem result_fetchLengthTraced {length : BitVec 7}
    : (Frame.fetchLengthTraced b length).result = Frame.fetchLength b length := by
  unfold Frame.fetchLengthTraced Frame.fetchLength
  split
  . rw [Emit.result_bind]
    rfl
  . split
    . rw [Emit.result_bind]
      rfl
    . rfl

theorem result_unmaskTraced {h : FrameHeader} {payloadLen headerLen : Nat}
    : (Frame.unmaskTraced h payloadLen headerLen b).result = unmask h payloadLen headerLen b := by
  unfold Frame.unmaskTraced unmask
  rw [Emit.result_bind]
  congr 1
  funext maskKey
  dsimp only
  split
  . simp only [Emit.result_bind]
    rfl
  . rfl

theorem result_decodeTraced : (frame.decodeTraced b).result = frame.decode b := by
  unfold Frame.decodeTraced Frame.decode
  rw [Emit.result_bind, result_fetchHeaderTraced]
  congr 1
  funext frame
  unfold Frame.fetchPayloadTraced Frame.fetchPayload
  rw [Emit.result_bind, result_readByteTraced]
  congr 1
  funext b1
  dsimp only
  rw [Emit.result_bind, result_fetchLengthTraced]
  congr 1
  funext length
  rcases length with ⟨payloadLen, headerLen⟩
  dsimp only
  split
  . apply result_unmaskTraced
  . rfl

theorem result_recvFrameTraced {bs : Bytes}
    : (recvFrameTraced frame b bs).result = recvFrame frame b (some bs) := by
  unfold recvFrameTraced recvFrame
  simp only [Emit.result_bind, result_decodeTraced]
  rfl

end Erase

-- Nothing from `n` on is read or written, and a frame that is reported ends before `n`.
def Inside (n : Nat) (t : Traced (Frame × Buffer)) : Prop :=
  t.Sat (·.stop ≤ n) fun r => r.1.headerLength + r.1.payloadLength ≤ n

def maskLength (h : FrameHeader) : Nat :=
  if h.mask ≠ 0 then MASK_LEN else 0

-- All of the frame that the first two bytes begin has been received.
def Complete (bs : Bytes) : Prop :=
  let h := FrameHeader.ofBytes (bs.getD 0 0) (bs.getD 1 0)
  let ext := (bs.drop HEADER_LEN).take (extOctets h.length)
  HEADER_LEN + extOctets h.length + maskLength h + announced h.length ext ≤ bs.length

instance {bs : Bytes} : Decidable (Complete bs) :=
  inferInstanceAs (Decidable (_ ≤ _))

section Inside

variable {frame : Frame} {b : Buffer} {bs : Bytes} {h : FrameHeader} {n payloadLen headerLen : Nat}

theorem inside_unmaskTraced (hmem : headerLen + MASK_LEN ≤ b.mem.length)
    : Inside n (Frame.unmaskTraced h payloadLen headerLen b)
        ↔ headerLen + MASK_LEN + payloadLen ≤ n := by
  unfold Inside Frame.unmaskTraced
  rw [Emit.sat_bind, Emit.sat_of_result (Buffer.read_eq_mem hmem), outputs_readTraced,
    List.forall_mem_singleton]
  by_cases hpos : payloadLen > 0
  . rw [if_pos hpos, Emit.sat_bind, readTraced, Emit.sat_bind, Emit.sat_emit, Emit.sat_lift]
    constructor
    . intro hinside
      exact hinside.2.1
    . intro hle
      refine ⟨Nat.le_trans (Nat.le_add_right _ _) hle, hle, ?_⟩
      intro data hdata
      have hkey : ((b.mem.drop headerLen).take MASK_LEN).length = MASK_LEN := by
        rw [List.length_take, List.length_drop]
        omega
      have hlength : (mask data ((b.mem.drop headerLen).take MASK_LEN)).length = payloadLen := by
        rw [mask_eq hkey, length_maskOctets, Buffer.length_read hdata]
      rw [Emit.sat_bind, writeTraced, Emit.sat_bind, Emit.sat_emit, Emit.sat_lift, hlength]
      refine ⟨hle, ?_⟩
      intro b' _
      rw [Emit.sat_pure]
      exact hle
  . rw [if_neg hpos, Emit.sat_pure]
    simp only [Access.stop]
    omega

theorem outputs_fetchLengthTraced {length : BitVec 7} (hn : HEADER_LEN ≤ n)
    : (∀ a ∈ (Frame.fetchLengthTraced b length).outputs, a.stop ≤ n)
        ↔ HEADER_LEN + extOctets length ≤ n := by
  unfold Frame.fetchLengthTraced extOctets
  split
  . rw [Emit.outputs_bind_pure, outputs_readTraced, List.forall_mem_singleton]
    rfl
  . split
    . rw [Emit.outputs_bind_pure, outputs_readTraced, List.forall_mem_singleton]
      rfl
    . simp [Emit.pure_eq, hn]

theorem inside_decodeTraced
    (hmem : HEADER_LEN + extOctets (Frame.memHeader b).length + MASK_LEN ≤ b.mem.length)
    : Inside n (frame.decodeTraced b)
        ↔ HEADER_LEN + extOctets (Frame.memHeader b).length + maskLength (Frame.memHeader b)
            + announced (Frame.memHeader b).length
              ((b.mem.drop HEADER_LEN).take (extOctets (Frame.memHeader b).length)) ≤ n := by
  have hmem₁ : 1 < b.mem.length := by
    unfold HEADER_LEN at hmem
    omega
  have hheader : (frame.fetchHeaderTraced b).result
    = .ok { frame with header := Frame.memHeader b } := by
    rw [result_fetchHeaderTraced, Frame.fetchHeader_eq frame (by omega)]
  have hbyte : (Frame.readByteTraced b 1).result = .ok (b.mem.getD 1 0) := by
    rw [result_readByteTraced, Frame.readByte_eq hmem₁]
  have hlength : (Frame.fetchLengthTraced b (Frame.memHeader b).length).result
      = .ok (announced (Frame.memHeader b).length
          ((b.mem.drop HEADER_LEN).take (extOctets (Frame.memHeader b).length)),
        HEADER_LEN + extOctets (Frame.memHeader b).length) := by
    rw [result_fetchLengthTraced, Frame.fetchLength_eq (Buffer.read_eq_mem (by omega))]
  unfold Inside Frame.decodeTraced
  rw [Emit.sat_bind, Emit.sat_of_result hheader, Frame.fetchHeaderTraced, Emit.outputs_bind_pure,
    outputs_readTraced, List.forall_mem_singleton]
  unfold Frame.fetchPayloadTraced
  rw [Emit.sat_bind, Emit.sat_of_result hbyte, Frame.readByteTraced, Emit.outputs_bind_pure,
    outputs_readTraced, List.forall_mem_singleton]
  dsimp only
  rw [Frame.memHeader_length, Emit.sat_bind, Emit.sat_of_result hlength]
  by_cases hn : HEADER_LEN ≤ n
  . rw [outputs_fetchLengthTraced hn]
    dsimp only
    unfold maskLength
    split
    . rw [← Inside, inside_unmaskTraced hmem]
      simp only [Access.stop, HEADER_LEN, MASK_LEN] at hn ⊢
      omega
    . rw [Emit.sat_pure]
      simp only [Access.stop, HEADER_LEN] at hn ⊢
      omega
  . simp only [Access.stop]
    omega

theorem inside_recvFrameTraced (frame : Frame) (readBuf : Buffer) (bs : Bytes)
    (hsize : readBuf.size = Http.READ_BUF_MAX_SIZE) (hne : bs ≠ [])
    (hle : bs.length ≤ Http.READ_BUF_MAX_SIZE)
    : (recvFrameTraced frame readBuf bs).result = recvFrame frame readBuf (some bs)
        ∧ (Inside bs.length (recvFrameTraced frame readBuf bs) ↔ Complete bs) := by
  refine ⟨result_recvFrameTraced, ?_⟩
  rcases append_clear readBuf (by rw [hsize]; exact hle) hsize with ⟨b, hb, hcont, hsize', hterm⟩
  have hpos : 0 < bs.length := List.length_pos_iff.mpr hne
  have hlength : b.length = bs.length := by
    rw [← hcont, Buffer.length_contents]
  have hheader : Frame.memHeader b = FrameHeader.ofBytes (bs.getD 0 0) (bs.getD 1 0) := by
    unfold Frame.memHeader
    rw [getD_of_contents hcont hterm (by omega), getD_of_contents hcont hterm (by omega)]
  have hmem : HEADER_LEN + extOctets (Frame.memHeader b).length + MASK_LEN ≤ b.mem.length := by
    have := extOctets_le (Frame.memHeader b).length
    rw [b.length_mem, hsize', hsize, HEADER_LEN, MASK_LEN, Http.READ_BUF_MAX_SIZE]
    omega
  have hrecv : recvFrameTraced frame readBuf bs = frame.decodeTraced b := by
    unfold recvFrameTraced
    rw [hb]
    rfl
  rw [hrecv, inside_decodeTraced hmem, Complete, hheader]
  generalize FrameHeader.ofBytes (bs.getD 0 0) (bs.getD 1 0) = h
  by_cases hext : HEADER_LEN + extOctets h.length ≤ bs.length
  . have htake : (b.mem.drop HEADER_LEN).take (extOctets h.length)
        = (bs.drop HEADER_LEN).take (extOctets h.length) := by
      rw [← hcont, Buffer.contents, List.drop_take, List.take_take, Nat.min_eq_left]
      omega
    rw [htake]
  . omega

theorem inside_recvFrameTraced_hello
    : Inside 8 (recvFrameTraced ⟨.ofBytes 0 0, [], 0, 0, 0⟩ (.new 1024)
        [0x81, 0x82, 1, 2, 3, 4, 0x69, 0x6b]) := by
  apply (inside_recvFrameTraced ⟨.ofBytes 0 0, [], 0, 0, 0⟩ (.new 1024)
    [0x81, 0x82, 1, 2, 3, 4, 0x69, 0x6b] rfl
    (by decide) (by decide)).2.mpr
  decide

-- The header announces 65535 octets, none of them is there.
theorem not_inside_recvFrameTraced
    : ¬Inside 8 (recvFrameTraced ⟨.ofBytes 0 0, [], 0, 0, 0⟩ (.new 1024)
        [0x81, 0xfe, 0xff, 0xff, 1, 2, 3, 4]) := by
  intro hinside
  have haccess : 8 + 65535 ≤ 8 := hinside.1 (.read 8 65535) (by decide +kernel)
  omega

end Inside

end Websocket
end Fsw
