import Mathlib.Tactic.Common
import Fsw.Http2.Impl.Frame
import Fsw.Websocket.Lemmas.Frame

namespace Fsw
namespace Http2

open Websocket (htonl ntohl ntohl_htonl)

def headerBytes (type : UInt8) (length : Nat) (flags : UInt8) (streamId : BitVec 32) : Bytes :=
  [.ofNat (length >>> 16), .ofNat (length >>> 8), .ofNat length, type, flags]
    ++ Bytes.storeLE 4 (htonl streamId).toNat

variable {type flags : UInt8} {length : Nat} {streamId : BitVec 32} {buf rest : Bytes}

theorem length_headerBytes : (headerBytes type length flags streamId).length = 9 := by
  rfl

theorem write_zero (bs : Bytes) : buf.write 0 bs = bs ++ buf.drop bs.length := by
  rw [Bytes.write, List.take_zero, List.nil_append, Nat.zero_add]

theorem setFrameHeader_eq (hlength : length < 2 ^ 24)
    : setFrameHeader buf type (BitVec.ofNat 32 length) flags streamId
        = buf.write 0 (headerBytes type length flags streamId) := by
  have hbyte (k : Nat) : (⟨(BitVec.ofNat 32 length >>> k).setWidth 8⟩ : UInt8)
    = .ofNat (length >>> k) := by
    rw [← UInt8.toNat_inj]
    simp only [UInt8.toNat, BitVec.toNat_setWidth, BitVec.toNat_ushiftRight,
      BitVec.toNat_ofNat, UInt8.ofNat]
    rw [Nat.mod_eq_of_lt (by omega : length < 2 ^ 32)]
  have hlow : (⟨(BitVec.ofNat 32 length).setWidth 8⟩ : UInt8) = .ofNat length := hbyte 0
  rw [setFrameHeader, hbyte, hbyte, hlow]
  rfl

theorem buildFrameHeader_eq {frame : Frame}
    : buildFrameHeader buf frame
        = buf.write 0 (headerBytes frame.type frame.payloadLength frame.flags frame.streamId) := by
  rfl

theorem getPayloadLength_headerBytes (hlength : length < 2 ^ 24)
    : getPayloadLength (headerBytes type length flags streamId ++ rest) = length := by
  have h0 : (headerBytes type length flags streamId ++ rest).getD 0 0 = .ofNat (length >>> 16) :=
    rfl
  have h1 : (headerBytes type length flags streamId ++ rest).getD 1 0 = .ofNat (length >>> 8) := rfl
  have h2 : (headerBytes type length flags streamId ++ rest).getD 2 0 = .ofNat length := rfl
  rw [getPayloadLength, h0, h1, h2]
  simp only [UInt8.toNat_ofNat', Nat.shiftLeft_eq, Nat.shiftRight_eq_div_pow]
  omega

theorem and_mask_toNat {x : BitVec 32} : (x &&& 0x7fffffff).toNat = x.toNat % 2 ^ 31 := by
  rw [BitVec.toNat_and]
  apply Nat.and_two_pow_sub_one_eq_mod _ 31

theorem getStreamId_headerBytes
    : getStreamId (headerBytes type length flags streamId ++ rest) = streamId &&& 0x7fffffff := by
  have htake : ((headerBytes type length flags streamId ++ rest).drop 5).take 4
      = Bytes.storeLE 4 (htonl streamId).toNat := rfl
  have hload : BitVec.ofNat 32 (Bytes.loadLE (Bytes.storeLE 4 (htonl streamId).toNat))
    = htonl streamId := by
    apply Websocket.Frame.loadLE_storeLE_toNat
    decide
  rw [getStreamId, htake, hload, ntohl_htonl]

theorem and_mask_eq (hstreamId : streamId.toNat < 2 ^ 31) : streamId &&& 0x7fffffff = streamId := by
  apply BitVec.eq_of_toNat_eq
  rw [and_mask_toNat, Nat.mod_eq_of_lt hstreamId]

theorem toNat_and_0x7f {b : UInt8} : (b &&& 0x7f).toNat = b.toNat % 2 ^ 7 := by
  rw [UInt8.toNat_and]
  apply Nat.and_two_pow_sub_one_eq_mod _ 7

theorem loadLE_lt_of_length {bs : Bytes} (h : bs.length = 4) : Bytes.loadLE bs < 2 ^ 32 := by
  have hlt := Bytes.loadLE_lt bs
  rw [h] at hlt
  exact hlt

theorem storeLE_streamId (b5 b6 b7 b8 : UInt8)
    : Bytes.storeLE 4
        (htonl (ntohl (BitVec.ofNat 32 (Bytes.loadLE [b5, b6, b7, b8])) &&& 0x7fffffff)).toNat
        = [b5 &&& 0x7f, b6, b7, b8] := by
  have hlt : Bytes.loadLE [b5, b6, b7, b8] < 2 ^ 32 := loadLE_lt_of_length rfl
  have hswap : Bytes.swapLE 4 (Bytes.loadLE [b5, b6, b7, b8]) = Bytes.loadLE [b8, b7, b6, b5] := by
    have hstore := Bytes.storeLE_loadLE [b5, b6, b7, b8]
    rw [Bytes.swapLE]
    rw [show Bytes.storeLE 4 (Bytes.loadLE [b5, b6, b7, b8]) = [b5, b6, b7, b8] from hstore]
    rfl
  have hnet : (ntohl (BitVec.ofNat 32 (Bytes.loadLE [b5, b6, b7, b8])) &&& 0x7fffffff).toNat
      = Bytes.loadLE [b8, b7, b6, b5 &&& 0x7f] := by
    have hlt' : Bytes.loadLE [b8, b7, b6, b5] < 2 ^ 32 := loadLE_lt_of_length rfl
    have h6 := b6.toNat_lt
    have h7 := b7.toNat_lt
    have h8 := b8.toNat_lt
    rw [and_mask_toNat, ntohl, BitVec.toNat_ofNat, BitVec.toNat_ofNat, Nat.mod_eq_of_lt hlt, hswap,
      Nat.mod_eq_of_lt hlt']
    simp only [Bytes.loadLE, toNat_and_0x7f]
    omega
  have hlt'' : Bytes.swapLE 4 (Bytes.loadLE [b8, b7, b6, b5 &&& 0x7f]) < 2 ^ 32 := Bytes.swapLE_lt
  rw [htonl, BitVec.toNat_ofNat, hnet, Nat.mod_eq_of_lt hlt'', Bytes.storeLE_swapLE]
  have hstore := Bytes.storeLE_loadLE [b8, b7, b6, b5 &&& 0x7f]
  rw [show Bytes.storeLE 4 (Bytes.loadLE [b8, b7, b6, b5 &&& 0x7f]) = [b8, b7, b6, b5 &&& 0x7f] from
    hstore]
  rfl

def clearReserved (bs : Bytes) : Bytes :=
  bs.set 5 (bs.getD 5 0 &&& 0x7f)

theorem headerBytes_decode (h : buf.length = 9)
    : headerBytes (buf.getD 3 0) (getPayloadLength buf) (buf.getD 4 0) (getStreamId buf)
        = clearReserved buf := by
  match buf with
  | [b0, b1, b2, b3, b4, b5, b6, b7, b8] =>
    have h0 := b0.toNat_lt
    have h1 := b1.toNat_lt
    have h2 := b2.toNat_lt
    have hbytes (k : Nat) (b : UInt8)
        (hb : (((b0.toNat <<< 16) + (b1.toNat <<< 8) + b2.toNat) >>> k) % 2 ^ 8 = b.toNat)
        : UInt8.ofNat (((b0.toNat <<< 16) + (b1.toNat <<< 8) + b2.toNat) >>> k) = b := by
      rw [← UInt8.toNat_inj, UInt8.toNat_ofNat', hb]
    have hhigh := hbytes 16 b0 (by simp only [Nat.shiftLeft_eq, Nat.shiftRight_eq_div_pow]; omega)
    have hmiddle := hbytes 8 b1 (by simp only [Nat.shiftLeft_eq, Nat.shiftRight_eq_div_pow]; omega)
    have hlow := hbytes 0 b2 (by simp only [Nat.shiftLeft_eq, Nat.shiftRight_eq_div_pow]; omega)
    have hid := storeLE_streamId b5 b6 b7 b8
    calc
      headerBytes b3 ((b0.toNat <<< 16) + (b1.toNat <<< 8) + b2.toNat) b4
        (ntohl (BitVec.ofNat 32 (Bytes.loadLE [b5, b6, b7, b8])) &&& 0x7fffffff)
      _ = [b0, b1, b2, b3, b4] ++ [b5 &&& 0x7f, b6, b7, b8] := by
        rw [headerBytes, hid, hhigh, hmiddle]
        rw [show UInt8.ofNat ((b0.toNat <<< 16) + (b1.toNat <<< 8) + b2.toNat) = b2 from hlow]

theorem getPayloadLength_lt : getPayloadLength buf < 2 ^ 24 := by
  have h0 := (buf.getD 0 0).toNat_lt
  have h1 := (buf.getD 1 0).toNat_lt
  have h2 := (buf.getD 2 0).toNat_lt
  simp only [getPayloadLength, Nat.shiftLeft_eq]
  omega

theorem take_write_headerBytes
    : (buf.write 0 (headerBytes type length flags streamId)).take 9
        = headerBytes type length flags streamId := by
  rw [write_zero, List.take_left' length_headerBytes]

structure SameHeader (frame frame' : Frame) : Prop where
  payloadLength : frame.payloadLength = frame'.payloadLength
  type : frame.type = frame'.type
  flags : frame.flags = frame'.flags
  streamId : frame.streamId = frame'.streamId

theorem frameOf_headerBytes (find : BitVec 32 → Bool) {frame : Frame}
    (hlength : frame.payloadLength < 2 ^ 24) (hstreamId : frame.streamId.toNat < 2 ^ 31)
    : SameHeader
        (frameOf (headerBytes frame.type frame.payloadLength frame.flags frame.streamId
          ++ rest) find) frame where
  payloadLength := getPayloadLength_headerBytes hlength
  type := rfl
  flags := rfl
  streamId := by
    unfold frameOf
    dsimp only
    rw [getStreamId_headerBytes, and_mask_eq hstreamId]

/--
Both functions write the same header, of which `recv_frame` reads the same values again, and they
write every header it reads as it was, but for the reserved bit.
-/
theorem frameHeader_codec (buf : Bytes) (find : BitVec 32 → Bool)
    : (∀ frame : Frame, frame.payloadLength < 2 ^ 24 → frame.streamId.toNat < 2 ^ 31 →
        setFrameHeader buf frame.type (BitVec.ofNat 32 frame.payloadLength)
        frame.flags frame.streamId
          = buildFrameHeader buf frame
        ∧ (buildFrameHeader buf frame).drop 9 = buf.drop 9
        ∧ SameHeader (frameOf (buildFrameHeader buf frame) find) frame)
      ∧ ∀ received : Bytes, received.length = 9 →
        (buildFrameHeader buf (frameOf received find)).take 9 = clearReserved received
        ∧ (setFrameHeader buf (received.getD 3 0) (BitVec.ofNat 32 (getPayloadLength received))
          (received.getD 4 0)
            (getStreamId received)).take 9 = clearReserved received := by
  constructor
  . intro frame hlength hstreamId
    rw [setFrameHeader_eq hlength, buildFrameHeader_eq, write_zero]
    refine ⟨rfl, ?_, frameOf_headerBytes find hlength hstreamId⟩
    rw [List.drop_left' length_headerBytes]
    rfl
  . intro received hreceived
    rw [setFrameHeader_eq getPayloadLength_lt, take_write_headerBytes, headerBytes_decode hreceived,
      buildFrameHeader_eq, take_write_headerBytes]
    exact ⟨headerBytes_decode hreceived, rfl⟩

theorem frameHeader_codec_data
    : ∃ frame : Frame, frame.payloadLength = 0xABCDEF ∧ frame.streamId = 0x7FFFFFFF
      ∧ setFrameHeader (List.replicate 9 0) frame.type (BitVec.ofNat 32 frame.payloadLength)
        frame.flags frame.streamId
          = buildFrameHeader (List.replicate 9 0) frame
      ∧ buildFrameHeader (List.replicate 9 0) frame
        = [0xAB, 0xCD, 0xEF, 0x80, 0xFF, 0x7F, 0xFF, 0xFF, 0xFF] := by
  let frame : Frame := ⟨[], 0xABCDEF, 0x80, 0xFF, 0x7FFFFFFF, none⟩
  have h :=
    (frameHeader_codec (List.replicate 9 0) (fun _ => false)).1 frame (by decide) (by decide)
  exact ⟨frame, rfl, rfl, h.1, by decide +kernel⟩

end Http2
end Fsw
