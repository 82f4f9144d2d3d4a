import Fsw.Lib.Except
import Fsw.Websocket.Lemmas.Frame

namespace Fsw
namespace Websocket

def maskOctets (data maskKey : Bytes) (pos : Nat) : Bytes :=
  (data.zipIdx pos).map fun (b, i) => b ^^^ maskKey.getD (i % 4) 0

section Mask

variable {data maskKey : Bytes}

theorem length_maskOctets {pos : Nat} : (maskOctets data maskKey pos).length = data.length := by
  simp [maskOctets]

theorem maskOctets_maskOctets {pos : Nat}
    : maskOctets (maskOctets data maskKey pos) maskKey pos = data := by
  induction data generalizing pos with
  | nil => rfl
  | cons b data ih =>
    unfold maskOctets at ih ⊢
    simp only [List.zipIdx_cons, List.map_cons]
    rw [ih, UInt8.xor_assoc, UInt8.xor_self, UInt8.xor_zero]

theorem maskOctets_append (data data' maskKey : Bytes) (pos : Nat)
    : maskOctets (data ++ data') maskKey pos
        = maskOctets data maskKey pos ++ maskOctets data' maskKey (pos + data.length) := by
  simp [maskOctets, List.zipIdx_append]

theorem maskOctets_eq_zipWith {pos : Nat} (hdata : data.length = 8) (hkey : maskKey.length = 4)
    (hpos : pos % 4 = 0)
    : maskOctets data maskKey pos = List.zipWith (· ^^^ ·) data (maskKey ++ maskKey) := by
  have hmod (i : Nat) : (pos + i) % 4 = i % 4 := by omega
  match data, maskKey with
  | [_, _, _, _, _, _, _, _], [_, _, _, _] => simp [maskOctets, Nat.add_assoc, hmod, hpos]

theorem toNat_maskKey64 (hkey : maskKey.length = 4)
    : ((BitVec.ofNat 64 (Bytes.loadLE maskKey) <<< 32) ||| BitVec.ofNat
        64 (Bytes.loadLE maskKey)).toNat
        = Bytes.loadLE (maskKey ++ maskKey) := by
  have hlt : Bytes.loadLE maskKey < 2 ^ 32 := by
    have := Bytes.loadLE_lt maskKey
    rw [hkey] at this
    exact this
  have hsmall : Bytes.loadLE maskKey % 2 ^ 64 = Bytes.loadLE maskKey := Nat.mod_eq_of_lt (by omega)
  have hshift : (Bytes.loadLE maskKey <<< 32) % 2 ^ 64 = Bytes.loadLE maskKey <<< 32 := by
    rw [Nat.shiftLeft_eq]
    omega
  rw [BitVec.toNat_or, BitVec.toNat_shiftLeft, BitVec.toNat_ofNat, hsmall, hshift,
    ← Nat.shiftLeft_add_eq_or_of_lt hlt, Bytes.loadLE_append, hkey, Nat.shiftLeft_eq]
  omega

theorem storeLE_xor_maskKey64 {word : Bytes} {pos : Nat} (hword : word.length = 8)
    (hkey : maskKey.length = 4) (hpos : pos % 4 = 0)
    : Bytes.storeLE 8 (BitVec.ofNat 64 (Bytes.loadLE word)
          ^^^ ((BitVec.ofNat 64 (Bytes.loadLE maskKey) <<< 32) ||| BitVec.ofNat 64
            (Bytes.loadLE maskKey))).toNat
        = maskOctets word maskKey pos := by
  have hload : (BitVec.ofNat 64 (Bytes.loadLE word)).toNat = Bytes.loadLE word := by
    have hlt := Bytes.loadLE_lt word
    rw [hword] at hlt
    rw [BitVec.toNat_ofNat, Nat.mod_eq_of_lt (by omega)]
  have hkeys : word.length = (maskKey ++ maskKey).length := by
    rw [hword, List.length_append, hkey]
  rw [maskOctets_eq_zipWith hword hkey hpos, BitVec.toNat_xor, hload, toNat_maskKey64 hkey,
    ← Bytes.storeLE_xor hkeys, hword]

theorem maskWords_eq (n pos : Nat) (hdata : n * 8 ≤ data.length) (hkey : maskKey.length = 4)
    (hpos : pos % 4 = 0)
    : maskWords ((BitVec.ofNat 64 (Bytes.loadLE maskKey) <<< 32) ||| BitVec.ofNat 64
        (Bytes.loadLE maskKey)) n data
        = maskOctets (data.take (n * 8)) maskKey pos := by
  induction n generalizing data pos with
  | zero => rfl
  | succ n ih =>
    have htake : (data.take 8).length = 8 := by
      rw [List.length_take]
      omega
    have hsplit : data.take ((n + 1) * 8) = data.take 8 ++ (data.drop 8).take (n * 8) := by
      rw [Nat.succ_mul, Nat.add_comm, List.take_add]
    rw [maskWords, hsplit, maskOctets_append, htake, storeLE_xor_maskKey64 htake hkey hpos]
    congr 1
    apply ih
    . rw [List.length_drop]
      omega
    . omega

theorem mask_eq (hkey : maskKey.length = 4) : mask data maskKey = maskOctets data maskKey 0 := by
  have hn : data.length / 8 * 8 ≤ data.length := Nat.div_mul_le_self _ _
  have htake : maskKey.take MASK_LEN = maskKey := by
    rw [MASK_LEN, ← hkey, List.take_length]
  have hlen : (data.take (data.length / 8 * 8)).length = data.length / 8 * 8 := by
    rw [List.length_take]
    omega
  have hsplit : maskOctets data maskKey 0 = maskOctets (data.take (data.length / 8 * 8)) maskKey 0
      ++ maskOctets (data.drop (data.length / 8 * 8)) maskKey (data.length / 8 * 8) := by
    have happend := maskOctets_append (data.take (data.length / 8 * 8))
      (data.drop (data.length / 8 * 8)) maskKey 0
    rw [List.take_append_drop, hlen, Nat.zero_add] at happend
    exact happend
  simp only [mask, htake]
  rw [maskWords_eq _ 0 hn hkey rfl, hsplit]
  rfl

end Mask

def extOctets (length : BitVec 7) : Nat :=
  if length = 126 then 2 else if length = 127 then 8 else 0

theorem extOctets_le (length : BitVec 7) : extOctets length ≤ 8 := by
  unfold extOctets
  split
  . omega
  . split
    . omega
    . omega

def announced (length : BitVec 7) (ext : Bytes) : Nat :=
  if length = 126 ∨ length = 127 then Bytes.loadLE ext.reverse else length.toNat

theorem toNat_ntohs {bs : Bytes} (h : bs.length = 2)
    : (ntohs (BitVec.ofNat 16 (Bytes.loadLE bs))).toNat = Bytes.loadLE bs.reverse := by
  have hlt : Bytes.loadLE bs < 2 ^ 16 := by
    have := Bytes.loadLE_lt bs
    rw [h] at this
    exact this
  have hswap : Bytes.swapLE 2 (Bytes.loadLE bs) = Bytes.loadLE bs.reverse := by
    rw [← h, Bytes.swapLE_loadLE]
  have hswapLt : Bytes.swapLE 2 (Bytes.loadLE bs) < 2 ^ 16 := Bytes.swapLE_lt
  rw [ntohs, BitVec.toNat_ofNat, BitVec.toNat_ofNat, Nat.mod_eq_of_lt hlt,
    Nat.mod_eq_of_lt hswapLt, hswap]

theorem toNat_ntohl {bs : Bytes} (h : bs.length = 4)
    : (ntohl (BitVec.ofNat 32 (Bytes.loadLE bs))).toNat = Bytes.loadLE bs.reverse := by
  have hlt : Bytes.loadLE bs < 2 ^ 32 := by
    have := Bytes.loadLE_lt bs
    rw [h] at this
    exact this
  have hswap : Bytes.swapLE 4 (Bytes.loadLE bs) = Bytes.loadLE bs.reverse := by
    rw [← h, Bytes.swapLE_loadLE]
  have hswapLt : Bytes.swapLE 4 (Bytes.loadLE bs) < 2 ^ 32 := Bytes.swapLE_lt
  rw [ntohl, BitVec.toNat_ofNat, BitVec.toNat_ofNat, Nat.mod_eq_of_lt hlt,
    Nat.mod_eq_of_lt hswapLt, hswap]

theorem toNat_ntoh64 (low high : Bytes) (hlow : low.length = 4) (hhigh : high.length = 4)
    : (ntoh64 (BitVec.ofNat 64 (Bytes.loadLE (low ++ high)))).toNat
        = Bytes.loadLE (low ++ high).reverse := by
  have hltLow : Bytes.loadLE low < 2 ^ 32 := by
    have := Bytes.loadLE_lt low
    rw [hlow] at this
    exact this
  have hltHigh : Bytes.loadLE high < 2 ^ 32 := by
    have := Bytes.loadLE_lt high
    rw [hhigh] at this
    exact this
  have hload : Bytes.loadLE (low ++ high) = Bytes.loadLE low + 2 ^ 32 * Bytes.loadLE high := by
    rw [Bytes.loadLE_append, hlow]
    rfl
  have hl : (BitVec.ofNat 64 (Bytes.loadLE (low ++ high))).setWidth 32
    = BitVec.ofNat 32 (Bytes.loadLE low) := by
    apply BitVec.eq_of_toNat_eq
    simp only [BitVec.toNat_setWidth, BitVec.toNat_ofNat, hload]
    omega
  have hh : ((BitVec.ofNat 64 (Bytes.loadLE (low ++ high))) >>> 32).setWidth 32
      = BitVec.ofNat 32 (Bytes.loadLE high) := by
    apply BitVec.eq_of_toNat_eq
    simp only [BitVec.toNat_setWidth, BitVec.toNat_ushiftRight, BitVec.toNat_ofNat,
      hload, Nat.shiftRight_eq_div_pow]
    omega
  have hrev : Bytes.loadLE high.reverse < 2 ^ 32 := by
    have := Bytes.loadLE_lt high.reverse
    rw [List.length_reverse, hhigh] at this
    exact this
  have hrevLow : Bytes.loadLE low.reverse < 2 ^ 32 := by
    have := Bytes.loadLE_lt low.reverse
    rw [List.length_reverse, hlow] at this
    exact this
  have hshift : (Bytes.loadLE low.reverse <<< 32) % 2 ^ 64 = Bytes.loadLE low.reverse <<< 32 := by
    rw [Nat.shiftLeft_eq]
    omega
  simp only [ntoh64, setWidth_and_mask, hl, hh]
  rw [BitVec.toNat_or, BitVec.toNat_shiftLeft, BitVec.toNat_setWidth, BitVec.toNat_setWidth,
    toNat_ntohl hlow,
    toNat_ntohl hhigh, Nat.mod_eq_of_lt (a := Bytes.loadLE low.reverse) (by omega), hshift,
    Nat.mod_eq_of_lt (a := Bytes.loadLE high.reverse) (by omega),
    ← Nat.shiftLeft_add_eq_or_of_lt hrev, List.reverse_append, Bytes.loadLE_append,
    List.length_reverse, hhigh, Nat.shiftLeft_eq]
  omega

def unmask (h : FrameHeader) (n headerLen : Nat) (b : Buffer) : Except Trap (Frame × Buffer) := do
  let maskKey ← b.read headerLen MASK_LEN
  let frame : Frame := ⟨h, maskKey, headerLen + MASK_LEN, n, headerLen + MASK_LEN⟩
  if n > 0 then
    let data ← b.read (headerLen + MASK_LEN) n
    let b ← b.write (headerLen + MASK_LEN) (mask data maskKey)
    return (frame, b)
  else
    return (frame, b)

theorem ofBytes_length (b0 b1 : UInt8)
    : { FrameHeader.ofBytes b0 b1 with length := (b1 &&& 0x7f).toBitVec.setWidth 7 }
        = FrameHeader.ofBytes b0 b1 := by
  have hmask : (0x7f#8).setWidth 7 = BitVec.allOnes 7 := by decide
  have hlength : (b1.toBitVec &&& 0x7f#8).setWidth 7 = b1.toBitVec.extractLsb' 0 7 := by
    rw [BitVec.setWidth_and, hmask, BitVec.and_allOnes]
    rfl
  rw [FrameHeader.ofBytes, ← hlength]
  rfl

namespace Frame

variable {b : Buffer} {rest : Bytes}

theorem fetchLength_eq {length : BitVec 7} {ext : Bytes}
    (h : b.read HEADER_LEN (extOctets length) = .ok ext)
    : fetchLength b length = .ok (announced length ext, HEADER_LEN + extOctets length) := by
  have hlength := Buffer.length_read h
  unfold extOctets at h hlength
  unfold fetchLength announced extOctets
  split at h
  . next h126 =>
    rw [if_pos h126] at hlength
    simp only [h126, ↓reduceIte, h, bind, Except.bind, true_or, toNat_ntohs hlength]
    rfl
  . next h126 =>
    split at h
    . next h127 =>
      rw [if_neg h126, if_pos h127] at hlength
      have hsplit := List.take_append_drop 4 ext
      have hntoh := toNat_ntoh64 (ext.take 4) (ext.drop 4)
        (by rw [List.length_take]; omega) (by rw [List.length_drop]; omega)
      rw [hsplit] at hntoh
      have hne : (127 : BitVec 7) ≠ 126 := by decide
      simp only [h127, hne, ↓reduceIte, h, bind, Except.bind, or_true, hntoh]
      rfl
    . next h127 =>
      simp only [h126, h127, ↓reduceIte, or_self]
      rfl

def memHeader (b : Buffer) : FrameHeader :=
  .ofBytes (b.mem.getD 0 0) (b.mem.getD 1 0)

theorem fetchHeader_eq (frame : Frame) (hmem : HEADER_LEN ≤ b.mem.length)
    : frame.fetchHeader b = .ok { frame with header := memHeader b } := by
  have hread : b.read 0 HEADER_LEN = .ok ((b.mem.drop 0).take HEADER_LEN) := by
    apply Buffer.read_eq_mem
    omega
  simp only [fetchHeader, hread, bind, Except.bind]
  simp [memHeader, HEADER_LEN, List.getD_eq_getElem?_getD]
  rfl

theorem readByte_eq {pos : Nat} (hmem : pos < b.mem.length)
    : readByte b pos = .ok (b.mem.getD pos 0) := by
  have hread : b.read pos 1 = .ok ((b.mem.drop pos).take 1) := by
    apply Buffer.read_eq_mem
    omega
  simp only [readByte, hread, bind, Except.bind, List.headD_eq_head?_getD,
    List.head?_take, List.head?_drop]
  simp [List.getD_eq_getElem?_getD]
  rfl

theorem memHeader_length
    : (b.mem.getD 1 0 &&& 0x7f).toBitVec.setWidth 7 = (memHeader b).length := by
  have hheader := ofBytes_length (b.mem.getD 0 0) (b.mem.getD 1 0)
  unfold memHeader
  rw [← hheader]

theorem decode_eq (frame : Frame) {ext : Bytes} (hmem : HEADER_LEN ≤ b.mem.length)
    (hext : b.read HEADER_LEN (extOctets (memHeader b).length) = .ok ext)
    : frame.decode b
        = if (memHeader b).mask ≠ 0 then
            unmask (memHeader b) (announced (memHeader b).length ext)
              (HEADER_LEN + extOctets (memHeader b).length) b
          else
            .ok (⟨memHeader b, frame.maskKey, HEADER_LEN + extOctets (memHeader b).length,
              announced (memHeader b).length ext, HEADER_LEN + extOctets (memHeader b).length⟩,
              b) := by
  have hbyte : readByte b 1 = .ok (b.mem.getD 1 0) := readByte_eq hmem
  simp only [decode, fetchHeader_eq frame hmem, bind, Except.bind,
    fetchPayload, hbyte, memHeader_length, fetchLength_eq hext]
  rfl

end Frame

-- A length need not be in the shortest form that it fits in.
inductive LengthForm where
  | seven
  | sixteen
  | sixtyFour
  deriving DecidableEq, Repr

namespace LengthForm

def Fits : LengthForm → Nat → Prop
  | seven, n => n ≤ 125
  | sixteen, n => n < 2 ^ 16
  | sixtyFour, n => n < 2 ^ 64

instance {form : LengthForm} {n : Nat} : Decidable (form.Fits n) :=
  match form with
  | seven => inferInstanceAs (Decidable (n ≤ 125))
  | sixteen => inferInstanceAs (Decidable (n < 2 ^ 16))
  | sixtyFour => inferInstanceAs (Decidable (n < 2 ^ 64))

def bits : LengthForm → Nat → BitVec 7
  | seven, n => BitVec.ofNat 7 n
  | sixteen, _ => 126
  | sixtyFour, _ => 127

def ext : LengthForm → Nat → Bytes
  | seven, _ => []
  | sixteen, n => (Bytes.storeLE 2 n).reverse
  | sixtyFour, n => (Bytes.storeLE 8 n).reverse

variable {form : LengthForm} {n : Nat}

theorem bits_seven (h : n ≤ 125)
    : (seven.bits n).toNat = n ∧ seven.bits n ≠ 126 ∧ seven.bits n ≠ 127 := by
  have hnat : (seven.bits n).toNat = n := by
    rw [bits, BitVec.toNat_ofNat, Nat.mod_eq_of_lt]
    omega
  refine ⟨hnat, ?_, ?_⟩
  . intro heq
    rw [heq] at hnat
    simp at hnat
    omega
  . intro heq
    rw [heq] at hnat
    simp at hnat
    omega

theorem extOctets_bits (h : form.Fits n) : extOctets (form.bits n) = (form.ext n).length := by
  cases form with
  | seven =>
    have hbits := bits_seven h
    unfold extOctets
    rw [if_neg hbits.2.1, if_neg hbits.2.2]
    rfl
  | sixteen => simp [bits, ext, extOctets]
  | sixtyFour => simp [bits, ext, extOctets]

theorem announced_bits (h : form.Fits n) : announced (form.bits n) (form.ext n) = n := by
  cases form with
  | seven =>
    rcases bits_seven h with ⟨hnat, h126, h127⟩
    have hnot : ¬(seven.bits n = 126 ∨ seven.bits n = 127) := by
      rintro (h | h)
      . exact h126 h
      . exact h127 h
    rw [announced, if_neg hnot, hnat]
  | sixteen =>
    have hlt : n < 256 ^ 2 := h
    rw [announced, if_pos (.inl rfl), ext, List.reverse_reverse, Bytes.loadLE_storeLE,
      Nat.mod_eq_of_lt hlt]
  | sixtyFour =>
    have hlt : n < 256 ^ 8 := h
    rw [announced, if_pos (.inr rfl), ext, List.reverse_reverse, Bytes.loadLE_storeLE,
      Nat.mod_eq_of_lt hlt]

end LengthForm

structure MaskedFrame where
  opcode : BitVec 4
  rsv3 : BitVec 1
  rsv2 : BitVec 1
  rsv1 : BitVec 1
  fin : BitVec 1
  form : LengthForm
  maskKey : Bytes
  payload : Bytes
  length_maskKey : maskKey.length = MASK_LEN
  fits : form.Fits payload.length

namespace MaskedFrame

def header (f : MaskedFrame) : FrameHeader where
  opcode := f.opcode
  rsv3 := f.rsv3
  rsv2 := f.rsv2
  rsv1 := f.rsv1
  fin := f.fin
  length := f.form.bits f.payload.length
  mask := 1

def head (f : MaskedFrame) : Bytes :=
  f.header.toBytes ++ (f.form.ext f.payload.length ++ f.maskKey)

def bytes (f : MaskedFrame) : Bytes :=
  f.head ++ maskOctets f.payload f.maskKey 0

structure Decoded (f : MaskedFrame) (b : Buffer) (r : Frame × Buffer) : Prop where
  header : r.1.header = f.header
  maskKey : r.1.maskKey = f.maskKey
  headerLength : r.1.headerLength = f.head.length
  payloadLength : r.1.payloadLength = f.payload.length
  payload : r.1.payload = f.head.length
  read_payload : r.2.read r.1.payload r.1.payloadLength = .ok f.payload
  outside (i : Nat) (h : i < r.1.payload ∨ r.1.payload + r.1.payloadLength ≤ i)
    : r.2.mem[i]? = b.mem[i]?
  length : r.2.length = b.length
  size : r.2.size = b.size

variable {f : MaskedFrame} {b : Buffer} {rest : Bytes}

theorem length_head
    : f.head.length = HEADER_LEN + extOctets f.header.length + MASK_LEN := by
  have hext := LengthForm.extOctets_bits f.fits
  have hkey := f.length_maskKey
  have hheader : f.header.toBytes.length = HEADER_LEN := rfl
  have hbits : f.header.length = f.form.bits f.payload.length := rfl
  rw [head, List.length_append, List.length_append, hheader, hkey, hbits, hext, Nat.add_assoc]

theorem memHeader_eq (h : b.mem = f.bytes ++ rest) : Frame.memHeader b = f.header := by
  unfold Frame.memHeader
  rw [h]
  apply FrameHeader.ofBytes_toBytes

theorem decode_eq_unmask (frame : Frame) (h : b.mem = f.bytes ++ rest)
    : frame.decode b
        = unmask f.header f.payload.length (HEADER_LEN + extOctets f.header.length) b := by
  have hheader := memHeader_eq h
  have hmem : HEADER_LEN ≤ b.mem.length := by
    have := length_head (f := f)
    rw [h, bytes, List.length_append, List.length_append]
    omega
  have hext : b.read HEADER_LEN (extOctets f.header.length)
    = .ok (f.form.ext f.payload.length) := by
    apply Buffer.read_eq_of_mem (a := f.header.toBytes)
    . rw [h, bytes, head, List.append_assoc, List.append_assoc, List.append_assoc]
    . rfl
    . apply (LengthForm.extOctets_bits f.fits).symm
  have hmask : f.header.mask ≠ 0 := by
    have : (1 : BitVec 1) ≠ 0 := by decide
    exact this
  have hlength : announced f.header.length (f.form.ext f.payload.length) = f.payload.length :=
    LengthForm.announced_bits f.fits
  rw [← hheader] at hext
  rw [Frame.decode_eq frame hmem hext, hheader, if_pos hmask, hlength]

theorem decode_of_mem (frame : Frame) (h : b.mem = f.bytes ++ rest)
    : ∃ b', frame.decode b
        = .ok (⟨f.header, f.maskKey, f.head.length, f.payload.length, f.head.length⟩, b')
        ∧ b'.mem = f.head ++ (f.payload ++ rest) ∧ b'.length = b.length ∧ b'.size = b.size := by
  have hkey : f.maskKey.length = MASK_LEN := f.length_maskKey
  have hmasked : (maskOctets f.payload f.maskKey 0).length = f.payload.length := length_maskOctets
  have hhead := length_head (f := f)
  have hmem : b.mem = f.head ++ (maskOctets f.payload f.maskKey 0 ++ rest) := by
    rw [h, bytes, List.append_assoc]
  have hreadKey : b.read (HEADER_LEN + extOctets f.header.length) MASK_LEN = .ok f.maskKey := by
    apply Buffer.read_eq_of_mem (a := f.header.toBytes ++ f.form.ext f.payload.length) _ _ hkey
    . exact maskOctets f.payload f.maskKey 0 ++ rest
    . rw [hmem, head]
      simp only [List.append_assoc]
    . rw [head, List.length_append, List.length_append, hkey] at hhead
      rw [List.length_append]
      omega
  have hread : b.read f.head.length f.payload.length = .ok (maskOctets f.payload f.maskKey 0) :=
    Buffer.read_eq_of_mem hmem rfl hmasked
  have hmask : mask (maskOctets f.payload f.maskKey 0) f.maskKey = f.payload := by
    rw [mask_eq hkey, maskOctets_maskOctets]
  rw [decode_eq_unmask frame h]
  simp only [unmask, hreadKey, bind, Except.bind, ← hhead, hread, hmask]
  split
  . have hle : f.head.length + f.payload.length ≤ b.size + 1 := by
      rw [← b.length_mem, hmem, List.length_append, List.length_append, hmasked]
      omega
    rcases Buffer.write_eq_ok b f.payload hle with ⟨b', hb', hmem', hsize⟩
    rw [hb']
    refine ⟨b', rfl, ?_, Buffer.length_of_write hb', hsize⟩
    rw [hmem', hmem, Bytes.write_append hmasked]
  . next hzero =>
    have hnil : f.payload = [] := by
      apply List.eq_nil_of_length_eq_zero
      omega
    refine ⟨b, rfl, ?_, rfl, rfl⟩
    rw [hmem, hnil]
    rfl

theorem decode_masked (frame : Frame) (f : MaskedFrame) (b : Buffer) (rest : Bytes)
    (h : b.mem = f.bytes ++ rest)
    : ∃ r, frame.decode b = .ok r ∧ f.Decoded b r := by
  have hmasked : (maskOctets f.payload f.maskKey 0).length = f.payload.length := length_maskOctets
  rcases decode_of_mem frame h with ⟨b', hb', hmem, hlength, hsize⟩
  refine ⟨_, hb', ⟨rfl, rfl, rfl, rfl, rfl, Buffer.read_eq_of_mem hmem rfl rfl, ?_, hlength, hsize⟩⟩
  intro i hi
  dsimp only at hi
  rw [hmem, h, bytes, List.append_assoc]
  rcases hi with hi | hi
  . rw [List.getElem?_append_left hi, List.getElem?_append_left hi]
  . rw [List.getElem?_append_right (by omega), List.getElem?_append_right (by omega),
      List.getElem?_append_right (by omega), List.getElem?_append_right (by omega), hmasked]

theorem decode_masked_sixteen
    : ∃ r, Frame.decode ⟨.ofBytes 0 0, [], 0, 0, 0⟩
          ⟨9, 9, [0x81, 0xfe, 0, 2, 1, 2, 3, 4, 0x69, 0x6b], rfl, Nat.le_refl 9⟩ = .ok r
        ∧ r.1.payloadLength = 2 ∧ r.2.read 8 2 = .ok [0x68, 0x69] := by
  let f : MaskedFrame :=
    ⟨1, 0, 0, 0, 1, .sixteen, [1, 2, 3, 4], [0x68, 0x69], rfl, by decide +kernel⟩
  rcases decode_masked ⟨.ofBytes 0 0, [], 0, 0, 0⟩ f
    ⟨9, 9, [0x81, 0xfe, 0, 2, 1, 2, 3, 4, 0x69, 0x6b], rfl, Nat.le_refl 9⟩ [] (by decide)
      with ⟨r, hr, hdecoded⟩
  have hread := hdecoded.read_payload
  rw [hdecoded.payload, hdecoded.payloadLength] at hread
  exact ⟨r, hr, hdecoded.payloadLength, hread⟩

end MaskedFrame

end Websocket
end Fsw
