import Fsw.Lib.Except
import Fsw.Websocket.Impl.Connection
import Fsw.Websocket.Lemmas.Masked

namespace Fsw
namespace Websocket

def payloadLen (n : Nat) : BitVec 7 × Bytes :=
  if n ≤ 125 then
    (BitVec.ofNat 7 n, [])
  else if n ≤ 0xFFFF then
    (126, (Bytes.storeLE 2 n).reverse)
  else
    (127, (Bytes.storeLE 8 n).reverse)

def wireLength (n : Nat) : Nat :=
  Frame.rfcHeaderLength n + MASK_LEN + n

theorem length_payloadLen {n : Nat} : (payloadLen n).2.length + 2 = Frame.rfcHeaderLength n := by
  unfold payloadLen Frame.rfcHeaderLength
  split
  . rfl
  . split
    . simp
    . simp

structure ClientFrame where
  opcode : BitVec 4
  rsv3 : BitVec 1
  rsv2 : BitVec 1
  rsv1 : BitVec 1
  fin : BitVec 1
  maskKey : Bytes
  payload : Bytes
  length_maskKey : maskKey.length = MASK_LEN
  length_le : wireLength payload.length ≤ Http.READ_BUF_MAX_SIZE

namespace ClientFrame

def header (f : ClientFrame) : FrameHeader where
  opcode := f.opcode
  rsv3 := f.rsv3
  rsv2 := f.rsv2
  rsv1 := f.rsv1
  fin := f.fin
  length := (payloadLen f.payload.length).1
  mask := 1

def bytes (f : ClientFrame) : Bytes :=
  f.header.toBytes
    ++ ((payloadLen f.payload.length).2 ++ (f.maskKey ++ maskOctets f.payload f.maskKey 0))

structure Yields (f : ClientFrame) (r : Frame × Buffer) : Prop where
  header : r.1.header = f.header
  payloadLength : r.1.payloadLength = f.payload.length
  payload : r.2.read r.1.payload r.1.payloadLength = .ok f.payload

variable {f : ClientFrame}

theorem payload_le : f.payload.length ≤ 0xFFFF := by
  have := f.length_le
  unfold wireLength Http.READ_BUF_MAX_SIZE at this
  omega

theorem length_bytes : f.bytes.length = wireLength f.payload.length := by
  have hkey : f.maskKey.length = MASK_LEN := f.length_maskKey
  have hheader : f.header.toBytes.length = 2 := rfl
  have hext := length_payloadLen (n := f.payload.length)
  unfold bytes
  simp only [List.length_append, length_maskOctets, hkey, hheader, wireLength]
  omega

theorem header_mask : f.header.mask ≠ 0 := by
  have : (1 : BitVec 1) ≠ 0 := by decide
  exact this

def form (f : ClientFrame) : LengthForm :=
  if f.payload.length ≤ 125 then .seven else .sixteen

theorem fits_form : f.form.Fits f.payload.length := by
  have := payload_le (f := f)
  unfold form
  split
  . next h => exact h
  . show f.payload.length < 2 ^ 16
    omega

theorem payloadLen_eq
    : payloadLen f.payload.length
        = (f.form.bits f.payload.length, f.form.ext f.payload.length) := by
  unfold payloadLen form
  split
  . rfl
  . rw [if_pos payload_le]
    rfl

def masked (f : ClientFrame) : MaskedFrame where
  opcode := f.opcode
  rsv3 := f.rsv3
  rsv2 := f.rsv2
  rsv1 := f.rsv1
  fin := f.fin
  form := f.form
  maskKey := f.maskKey
  payload := f.payload
  length_maskKey := f.length_maskKey
  fits := fits_form

theorem masked_header : f.masked.header = f.header := by
  unfold header
  rw [payloadLen_eq]
  rfl

theorem masked_bytes : f.masked.bytes = f.bytes := by
  unfold MaskedFrame.bytes MaskedFrame.head bytes
  rw [masked_header, payloadLen_eq]
  simp only [masked, List.append_assoc]

end ClientFrame

section Decode

variable {b : Buffer} {f : ClientFrame} {rest : Bytes}

theorem decode_ok_of_bytes (frame : Frame) (hcont : b.contents = f.bytes ++ rest)
    : ∃ r, frame.decode b = .ok r ∧ f.Yields r ∧ r.2.size = b.size := by
  have hmem : b.mem = f.masked.bytes ++ (rest ++ b.mem.drop b.length) := by
    rw [f.masked_bytes, ← List.append_assoc, ← hcont, Buffer.contents, List.take_append_drop]
  rcases MaskedFrame.decode_of_mem frame hmem with ⟨b', hb', hmem', _, hsize⟩
  exact ⟨_, hb', ⟨f.masked_header, rfl, Buffer.read_eq_of_mem hmem' rfl rfl⟩, hsize⟩

theorem decode_cases {frame : Frame} {r : Frame × Buffer} (h : frame.decode b = .ok r)
    : r.1.header = .ofBytes (b.mem.getD 0 0) (b.mem.getD 1 0)
        ∧ (r.2 = b ∨ ∃ pos bs, b.write pos bs = .ok r.2) := by
  rcases bind_eq_ok h with ⟨frame₁, hframe₁, h⟩
  rcases bind_eq_ok hframe₁ with ⟨bs, hbs, heq⟩
  injection heq with heq
  subst heq
  rcases bind_eq_ok h with ⟨b1, hb1, h⟩
  rcases bind_eq_ok hb1 with ⟨bs1, hbs1, heq⟩
  injection heq with heq
  subst heq
  rcases bind_eq_ok h with ⟨⟨payloadLen, headerLen⟩, _, h⟩
  have h0 : bs.getD 0 0 = b.mem.getD 0 0 := by
    rw [Buffer.read_ok hbs]
    simp [HEADER_LEN, List.getD_eq_getElem?_getD]
  have h1 : bs.getD 1 0 = b.mem.getD 1 0 := by
    rw [Buffer.read_ok hbs]
    simp [HEADER_LEN, List.getD_eq_getElem?_getD]
  have h2 : bs1.headD 0 = b.mem.getD 1 0 := by
    rw [Buffer.read_ok hbs1, List.headD_eq_head?_getD, List.head?_take, List.head?_drop]
    rfl
  dsimp only at h
  rw [h0, h1, h2] at h
  split at h
  . rcases bind_eq_ok h with ⟨maskKey, _, h⟩
    split at h
    . rcases bind_eq_ok h with ⟨data, _, h⟩
      rcases bind_eq_ok h with ⟨b', hb', h⟩
      injection h with h
      rw [← h]
      exact ⟨ofBytes_length _ _, .inr ⟨_, _, hb'⟩⟩
    . injection h with h
      rw [← h]
      exact ⟨ofBytes_length _ _, .inl rfl⟩
  . injection h with h
    rw [← h]
    exact ⟨ofBytes_length _ _, .inl rfl⟩

theorem append_clear (readBuf : Buffer) {bs : Bytes} (h : bs.length ≤ readBuf.size)
    (hsize : readBuf.size = Http.READ_BUF_MAX_SIZE)
    : ∃ b, readBuf.clear.append bs = .ok b ∧ b.contents = bs ∧ b.size = readBuf.size
        ∧ b.mem.getD bs.length 0 = 0 := by
  have hlt : readBuf.clear.size < 2 ^ 64 := by
    have : readBuf.clear.size = 1024 := hsize
    omega
  have hle : readBuf.clear.length + bs.length ≤ readBuf.clear.size := by
    have : readBuf.clear.length = 0 := rfl
    have : readBuf.clear.size = readBuf.size := rfl
    omega
  rcases Buffer.append_eq_ok hle hlt with ⟨b, hb, hcont, hsize', hlength⟩
  have hlength' : b.length = bs.length := by
    rw [hlength]
    apply Nat.zero_add
  refine ⟨b, hb, ?_, hsize', ?_⟩
  . rw [hcont, Buffer.contents_clear, List.nil_append]
  . rw [← hlength']
    apply Buffer.append_terminated hb

theorem recvFrame_eq_decode (frame : Frame) (readBuf : Buffer) {bs : Bytes}
    (h : bs.length ≤ readBuf.size) (hsize : readBuf.size = Http.READ_BUF_MAX_SIZE)
    : ∃ b, recvFrame frame readBuf (some bs) = frame.decode b ∧ b.contents = bs
        ∧ b.size = readBuf.size
        ∧ b.mem.getD bs.length 0 = 0 := by
  rcases append_clear readBuf h hsize with ⟨b, hb, hspec⟩
  refine ⟨b, ?_, hspec⟩
  simp only [recvFrame, hb]
  rfl

theorem getD_of_contents {bs : Bytes} {i : Nat} (hcont : b.contents = bs)
    (hterm : b.mem.getD bs.length 0 = 0) (hi : i ≤ bs.length)
    : b.mem.getD i 0 = bs.getD i 0 := by
  have hlength : b.length = bs.length := by
    rw [← hcont, Buffer.length_contents]
  rcases Nat.lt_or_eq_of_le hi with hlt | heq
  . rw [← hcont, Buffer.contents, List.getD_eq_getElem?_getD, List.getD_eq_getElem?_getD,
      List.getElem?_take_of_lt (by omega)]
  . rw [heq, hterm, List.getD_eq_getElem?_getD, List.getElem?_eq_none (Nat.le_refl _)]
    rfl

-- Zeros are taken for a frame without a payload.
theorem recvFrame_zeros (frame : Frame) (readBuf : Buffer) {bs : Bytes} (hne : bs ≠ [])
    (hzeros : ∀ x ∈ bs, x = 0) (h : bs.length ≤ readBuf.size)
    (hsize : readBuf.size = Http.READ_BUF_MAX_SIZE)
    : ∃ r, recvFrame frame readBuf (some bs) = .ok r := by
  rcases recvFrame_eq_decode frame readBuf h hsize with ⟨b, hb, hcont, hsize', hterm⟩
  have hlength := List.length_pos_iff.mpr hne
  have hmem : b.mem.length = 1025 := by
    rw [b.length_mem, hsize', hsize]
    rfl
  have hzero (i : Nat) (hi : i ≤ bs.length) : b.mem.getD i 0 = 0 := by
    rw [getD_of_contents hcont hterm hi, List.getD_eq_getElem?_getD]
    cases hget : bs[i]? with
    | none => rfl
    | some x => exact hzeros x (List.mem_of_getElem? hget)
  have hheader : Frame.memHeader b = .ofBytes 0 0 := by
    unfold Frame.memHeader
    rw [hzero 0 (by omega), hzero 1 (by omega)]
  have hext : b.read HEADER_LEN (extOctets (Frame.memHeader b).length) = .ok [] := by
    rw [hheader, Buffer.read_eq_mem]
    . rfl
    . rw [hmem]
      decide
  rw [hb, Frame.decode_eq frame (by rw [hmem]; decide) hext, hheader]
  exact ⟨_, rfl⟩

end Decode

end Websocket
end Fsw
