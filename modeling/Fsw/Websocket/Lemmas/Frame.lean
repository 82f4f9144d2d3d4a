import Mathlib.Tactic.Common
import Fsw.Buffer.Lemmas.Buffer
import Fsw.Websocket.Impl.Frame

namespace Fsw
namespace Websocket

theorem ntohs_htons {x : BitVec 16} : ntohs (htons x) = x := by
  have hswap : Bytes.swapLE 2 (Bytes.swapLE 2 x.toNat) = x.toNat := Bytes.swapLE_swapLE x.isLt
  have hlt : Bytes.swapLE 2 x.toNat < 2 ^ 16 := Bytes.swapLE_lt
  apply BitVec.eq_of_toNat_eq
  rw [ntohs, htons, BitVec.toNat_ofNat, BitVec.toNat_ofNat, Nat.mod_eq_of_lt hlt, hswap]
  rw [Nat.mod_eq_of_lt x.isLt]

theorem ntohl_htonl {x : BitVec 32} : ntohl (htonl x) = x := by
  have hswap : Bytes.swapLE 4 (Bytes.swapLE 4 x.toNat) = x.toNat := Bytes.swapLE_swapLE x.isLt
  have hlt : Bytes.swapLE 4 x.toNat < 2 ^ 32 := Bytes.swapLE_lt
  apply BitVec.eq_of_toNat_eq
  rw [ntohl, htonl, BitVec.toNat_ofNat, BitVec.toNat_ofNat, Nat.mod_eq_of_lt hlt, hswap]
  rw [Nat.mod_eq_of_lt x.isLt]

section Halves

variable {x : BitVec 64} {low high : BitVec 32}

theorem setWidth_and_mask : (x &&& 0xFFFFFFFF#64).setWidth 32 = x.setWidth 32 := by
  have hmask : (0xFFFFFFFF#64).setWidth 32 = BitVec.allOnes 32 := by decide
  rw [BitVec.setWidth_and, hmask, BitVec.and_allOnes]

theorem setWidth_or_shiftLeft
    : ((high.setWidth 64 <<< 32) ||| low.setWidth 64).setWidth 32 = low := by
  ext i hi
  simp

theorem setWidth_or_shiftLeft_ushiftRight
    : (((high.setWidth 64 <<< 32) ||| low.setWidth 64) >>> 32).setWidth 32 = high := by
  ext i hi
  simp
  grind

theorem or_shiftLeft_halves
    : (((x >>> 32).setWidth 32).setWidth 64 <<< 32) ||| (x.setWidth 32).setWidth 64 = x := by
  ext i hi
  simp only [BitVec.getElem_or, BitVec.getElem_shiftLeft, BitVec.getLsbD_setWidth,
    BitVec.getElem_setWidth, BitVec.getLsbD_ushiftRight]
  by_cases h : i < 32
  . simp [h, hi]
  . have hi' : i - 32 < 32 := by omega
    have hsub : 32 + (i - 32) = i := by omega
    simp [h, hi', hsub, BitVec.getLsbD_eq_getElem hi]

theorem ntoh64_hton64 : ntoh64 (hton64 x) = x := by
  simp only [ntoh64, hton64, setWidth_and_mask, setWidth_or_shiftLeft,
    setWidth_or_shiftLeft_ushiftRight, ntohl_htonl, or_shiftLeft_halves]

end Halves

theorem FrameHeader.ofBytes_toBytes {h : FrameHeader}
    : ofBytes (h.toBytes.getD 0 0) (h.toBytes.getD 1 0) = h := by
  cases h
  simp only [toBytes, ofBytes, List.getD_cons_zero, List.getD_cons_succ, FrameHeader.mk.injEq]
  refine ⟨?_, ?_, ?_, ?_, ?_, ?_, ?_⟩
  all_goals
    ext i hi
    simp
    try grind

theorem FrameHeader.length_of_toBytes {h : FrameHeader}
    : ((h.toBytes.getD 1 0) &&& 0x7f).toBitVec.setWidth 7 = h.length := by
  have hmask : (0x7f#8).setWidth 7 = BitVec.allOnes 7 := by decide
  have hbyte : (h.mask ++ h.length : BitVec 8).setWidth 7 = h.length := by
    ext i hi
    have happend : (h.mask ++ h.length).getLsbD i = h.length.getLsbD i := by
      rw [BitVec.getLsbD_append, if_pos hi]
    rw [BitVec.getElem_setWidth, happend, BitVec.getLsbD_eq_getElem hi]
  calc
    ((h.toBytes.getD 1 0) &&& 0x7f).toBitVec.setWidth 7
    _ = ((h.mask ++ h.length : BitVec 8) &&& 0x7f#8).setWidth 7 := rfl
    _ = h.length := by rw [BitVec.setWidth_and, hmask, BitVec.and_allOnes, hbyte]

namespace Frame

def sent (length : BitVec 7) (opcode finish : UInt8) : FrameHeader where
  opcode := opcode.toBitVec.setWidth 4
  rsv3 := 0
  rsv2 := 0
  rsv1 := 0
  fin := finish.toBitVec.setWidth 1
  length := length
  mask := 0

def sentBytes (length : Nat) (opcode finish : UInt8) : Bytes :=
  (sent (encodeLength length).1 opcode finish).toBytes ++ (encodeLength length).2

theorem length_sentBytes {length : Nat} {opcode finish : UInt8}
    : (sentBytes length opcode finish).length = 2 + (encodeLength length).2.length := by
  rw [sentBytes, List.length_append]
  rfl

theorem encode_ok (e data : Buffer) (opcode finish : UInt8) (hsize : e.size < 2 ^ 64)
    (hcap : e.length + (2 + (encodeLength data.length).2.length + data.length) ≤ e.size)
    : ∃ e', encode e data opcode finish = .ok e'
        ∧ e'.contents = e.contents ++ sentBytes data.length opcode finish ++ data.contents := by
  have hhead : (sentBytes data.length opcode finish).length
      = 2 + (encodeLength data.length).2.length := length_sentBytes
  have hdata : data.contents.length = data.length := Buffer.length_contents
  have happend : ∃ e₁, e.append (sentBytes data.length opcode finish) = .ok e₁
      ∧ e₁.contents = e.contents ++ sentBytes data.length opcode finish ∧ e₁.size = e.size
      ∧ e₁.length = e.length + (sentBytes data.length opcode finish).length := by
    apply Buffer.append_eq_ok
    . omega
    . exact hsize
  rcases happend with ⟨e₁, he₁, hcont₁, hsize₁, hlen₁⟩
  have hencode : encode e data opcode finish
      = if data.length > 0 then e₁.appendBuffer data else .ok e₁ := by
    unfold sentBytes sent at he₁
    simp only [encode, he₁]
    rfl
  rw [hencode]
  split
  . have happend : ∃ e₂, e₁.append data.contents = .ok e₂
        ∧ e₂.contents = e₁.contents ++ data.contents ∧ e₂.size = e₁.size
        ∧ e₂.length = e₁.length + data.contents.length := by
      apply Buffer.append_eq_ok
      . omega
      . omega
    rcases happend with ⟨e₂, he₂, hcont₂, _, _⟩
    refine ⟨e₂, he₂, ?_⟩
    rw [hcont₂, hcont₁]
  . have hnil : data.contents = [] := by
      apply List.eq_nil_of_length_eq_zero
      omega
    refine ⟨e₁, rfl, ?_⟩
    rw [hcont₁, hnil, List.append_nil]

section Decode

variable {frame : Frame} {b : Buffer} {h : FrameHeader} {rest : Bytes}

theorem fetchHeader_ok (hcont : b.contents = h.toBytes ++ rest)
    : frame.fetchHeader b = .ok { frame with header := h } := by
  have hlen : b.length = 2 + rest.length := by
    rw [← Buffer.length_contents, hcont, List.length_append]
    rfl
  have hread : b.read 0 HEADER_LEN = .ok h.toBytes := by
    rw [Buffer.read_eq_ok, hcont]
    . rfl
    . unfold HEADER_LEN
      omega
  simp only [fetchHeader, hread, bind, Except.bind, FrameHeader.ofBytes_toBytes]
  rfl

theorem readByte_ok (hcont : b.contents = h.toBytes ++ rest)
    : readByte b 1 = .ok (h.toBytes.getD 1 0) := by
  have hlen : b.length = 2 + rest.length := by
    rw [← Buffer.length_contents, hcont, List.length_append]
    rfl
  unfold readByte
  rw [Buffer.read_eq_ok, hcont]
  . rfl
  . omega

theorem read_ext_ok {ext payload : Bytes} {n : Nat}
    (hcont : b.contents = h.toBytes ++ (ext ++ payload)) (hn : ext.length = n)
    : b.read HEADER_LEN n = .ok ext := by
  have hlen : b.length = 2 + (n + payload.length) := by
    rw [← Buffer.length_contents, hcont, List.length_append, List.length_append, hn]
    rfl
  rw [Buffer.read_eq_ok, hcont]
  . have hdrop : (h.toBytes ++ (ext ++ payload)).drop HEADER_LEN = ext ++ payload := rfl
    rw [hdrop, List.take_left' hn]
  . unfold HEADER_LEN
    omega

theorem loadLE_storeLE_toNat {w n : Nat} {x : BitVec w} (hw : 2 ^ w = 256 ^ n)
    : BitVec.ofNat w (Bytes.loadLE (Bytes.storeLE n x.toNat)) = x := by
  rw [Bytes.loadLE_storeLE, ← hw, Nat.mod_eq_of_lt x.isLt, BitVec.ofNat_toNat, BitVec.setWidth_eq]

theorem fetchLength_ok {n : Nat} (hlt : n < 2 ^ 64)
    (hcont : b.contents = h.toBytes ++ ((encodeLength n).2 ++ rest))
    : fetchLength b (encodeLength n).1 = .ok (n, 2 + (encodeLength n).2.length) := by
  unfold encodeLength at hcont ⊢
  split at hcont
  . next hlen =>
    have hnat : (BitVec.ofNat 7 n).toNat = n := by
      rw [BitVec.toNat_ofNat, Nat.mod_eq_of_lt]
      omega
    have h126 : BitVec.ofNat 7 n ≠ 126 := by
      intro heq
      rw [heq] at hnat
      simp at hnat
      omega
    have h127 : BitVec.ofNat 7 n ≠ 127 := by
      intro heq
      rw [heq] at hnat
      simp at hnat
      omega
    simp only [fetchLength, hlen, ↓reduceIte, h126, h127, hnat]
    rfl
  . split at hcont
    . next hlen hlen' =>
      have hread := read_ext_ok hcont Bytes.length_storeLE
      simp only [hlen, hlen', ↓reduceIte, fetchLength, hread, bind, Except.bind]
      rw [loadLE_storeLE_toNat rfl, ntohs_htons, BitVec.toNat_ofNat, Nat.mod_eq_of_lt hlen',
        Bytes.length_storeLE]
      rfl
    . next hlen hlen' =>
      have hread := read_ext_ok hcont Bytes.length_storeLE
      have hne : (127 : BitVec 7) ≠ 126 := by decide
      simp only [hlen, hlen', ↓reduceIte, fetchLength, hne, hread, bind, Except.bind]
      rw [loadLE_storeLE_toNat rfl, ntoh64_hton64, BitVec.toNat_ofNat, Nat.mod_eq_of_lt hlt,
        Bytes.length_storeLE]
      rfl

theorem decode_ok (frame : Frame) (payload : Bytes) {opcode finish : UInt8}
    (hlt : payload.length < 2 ^ 64)
    (hcont : b.contents = sentBytes payload.length opcode finish ++ payload)
    : frame.decode b = .ok (
        { header := sent (encodeLength payload.length).1 opcode finish
          maskKey := frame.maskKey
          headerLength := 2 + (encodeLength payload.length).2.length
          payloadLength := payload.length
          payload := 2 + (encodeLength payload.length).2.length }, b) := by
  rw [sentBytes, List.append_assoc] at hcont
  simp only [decode, fetchHeader_ok hcont, bind, Except.bind, fetchPayload, readByte_ok hcont,
    FrameHeader.length_of_toBytes]
  have hlength := fetchLength_ok hlt hcont
  rw [show (sent (encodeLength payload.length).1 opcode finish).length
    = (encodeLength payload.length).1
    from rfl, hlength]
  rfl

end Decode

-- The length of a header without a masking key according to RFC 6455.
def rfcHeaderLength (length : Nat) : Nat :=
  if length ≤ 125 then 2 else if length ≤ 0xFFFF then 4 else 10

theorem rfcHeaderLength_eq {length : Nat}
    : rfcHeaderLength length = 2 + (encodeLength length).2.length := by
  unfold rfcHeaderLength encodeLength
  by_cases h125 : length ≤ 125
  . have h126 : length < 126 := by omega
    simp [h125, h126]
  . have h126 : ¬length < 126 := by omega
    by_cases hshort : length ≤ 0xFFFF
    . have hshort' : length < 65536 := by omega
      simp [h125, h126, hshort, hshort']
    . have hshort' : ¬length < 65536 := by omega
      simp [h125, h126, hshort, hshort']

theorem decode_encode (e data : Buffer) (frame : Frame) (opcode finish : UInt8)
    (hempty : e.length = 0) (hsize : e.size < 2 ^ 64) (hlt : data.length < 2 ^ 63)
    (hcap : rfcHeaderLength data.length + data.length ≤ e.size)
    : ∃ e' f, encode e data opcode finish = .ok e' ∧ frame.decode e' = .ok (f, e')
        ∧ f.header.fin.toNat = finish.toNat % 2 ∧ f.header.opcode.toNat = opcode.toNat % 16
        ∧ f.header.rsv1 = 0 ∧ f.header.rsv2 = 0 ∧ f.header.rsv3 = 0 ∧ f.header.mask = 0
        ∧ f.payloadLength = data.length
        ∧ e'.read f.payload f.payloadLength = .ok data.contents
        ∧ f.headerLength = rfcHeaderLength data.length
        ∧ e'.length = f.headerLength + f.payloadLength := by
  have hdata : data.contents.length = data.length := Buffer.length_contents
  rw [rfcHeaderLength_eq] at hcap
  rcases encode_ok e data opcode finish hsize (by omega) with ⟨e', he', hcont⟩
  have hnil : e.contents = [] := by
    rw [Buffer.contents, hempty, List.take_zero]
  rw [hnil, List.nil_append] at hcont
  have hlen : e'.length = 2 + (encodeLength data.length).2.length + data.length := by
    rw [← Buffer.length_contents, hcont, List.length_append, length_sentBytes, hdata]
  have hdecode := decode_ok frame data.contents (by omega) (by rw [hdata]; exact hcont)
  refine ⟨e', _, he', hdecode, ?_, ?_, rfl, rfl, rfl, rfl, ?_⟩
  . simp [sent]
  . simp [sent]
  . rw [rfcHeaderLength_eq, hdata]
    refine ⟨rfl, ?_, rfl, hlen⟩
    rw [Buffer.read_eq_ok, hcont]
    . rw [List.drop_left' length_sentBytes, ← hdata, List.take_length]
    . dsimp only
      omega

theorem decode_encode_three
    : ∃ e' f data, Buffer.contents data = [1, 2, 3] ∧ encode (Buffer.new 5) data 0x81 3 = .ok e'
        ∧ decode ⟨.ofBytes 0 0, [], 0, 0, 0⟩ e' = .ok (f, e') ∧ f.header.fin.toNat = 1
        ∧ f.header.opcode.toNat = 1 ∧ f.payloadLength = 3 ∧ e'.length = 5 := by
  let data : Buffer := ⟨3, 3, [1, 2, 3, 0], rfl, Nat.le_refl 3⟩
  rcases decode_encode (Buffer.new 5) data ⟨.ofBytes 0 0, [], 0, 0, 0⟩ 0x81 3 rfl (by decide)
    (by decide) (by decide)
    with ⟨e', f, he', hf, hfin, hop, _, _, _, _, hplen, _, hhlen, hlen⟩
  refine ⟨e', f, data, rfl, he', hf, hfin, hop, hplen, ?_⟩
  rw [hlen, hhlen, hplen]
  rfl

end Frame

end Websocket
end Fsw
