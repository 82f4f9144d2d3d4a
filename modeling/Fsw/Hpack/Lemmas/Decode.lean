import Fsw.Hpack.Lemmas.Inflate

namespace Fsw
namespace Hpack

open Fifo (total fit)

inductive Inflater.Ends (wide : WideShift)
    : Inflater → Bytes → Bool → Inflater × Outcome → Prop where
  | done {inflater : Inflater} : Ends wide inflater [] false (inflater, .next [] false)
  | next {inflater inflater' : Inflater} {bs bs' : Bytes} {busy busy' : Bool}
      {r : Inflater × Outcome} (hinput : bs ≠ [] ∨ busy = true)
      (hstep : inflater.inflateStep wide bs = (inflater', .next bs' busy'))
      (rest : Ends wide inflater' bs' busy' r)
      : Ends wide inflater bs busy r
  | leave {inflater : Inflater} {bs : Bytes} {busy : Bool} {r : Inflater × Outcome}
      (hinput : bs ≠ [] ∨ busy = true) (hstep : inflater.inflateStep wide bs = r)
      (hleave : ∀ bs' busy', r.2 ≠ .next bs' busy')
      : Ends wide inflater bs busy r

namespace Inflater

variable {wide : WideShift} {inflater inflater' : Inflater} {bs rest : Bytes} {busy : Bool}
  {r r' : Inflater × Outcome}
  {n : Nat}

theorem inflateLoop_next {bs' : Bytes} {busy' : Bool} (n : Nat) (hinput : bs ≠ [] ∨ busy = true)
    (hstep : inflater.inflateStep wide bs = (inflater', .next bs' busy'))
    : inflateLoop wide (n + 1) inflater bs busy = inflateLoop wide n inflater' bs' busy' := by
  rw [inflateLoop, if_pos hinput, hstep]

theorem inflateLoop_leave (n : Nat) (hinput : bs ≠ [] ∨ busy = true)
    (hstep : inflater.inflateStep wide bs = r) (hleave : ∀ bs' busy', r.2 ≠ .next bs' busy')
    : inflateLoop wide (n + 1) inflater bs busy = r := by
  obtain ⟨inflater', o⟩ := r
  rw [inflateLoop, if_pos hinput, hstep]
  cases o with
  | next bs' busy' => exact absurd rfl (hleave bs' busy')
  | almostOk rest => rfl
  | emit rest nv => rfl
  | fail e => rfl

theorem Ends.inflateLoop (h : Ends wide inflater bs busy r)
    : ∃ k, ∀ n, inflateLoop wide (n + k) inflater bs busy = r := by
  induction h with
  | done =>
    refine ⟨1, fun n => ?_⟩
    rw [Inflater.inflateLoop, if_neg (by simp)]
  | next hinput hstep _ ih =>
    obtain ⟨k, hk⟩ := ih
    refine ⟨k + 1, fun n => ?_⟩
    rw [← Nat.add_assoc, inflateLoop_next _ hinput hstep, hk]
  | leave hinput hstep hleave => exact ⟨1, fun n => inflateLoop_leave n hinput hstep hleave⟩

theorem ends_inflateLoop (hr : (inflateLoop wide n inflater bs busy).2 ≠ .fail .endless)
    : Ends wide inflater bs busy (inflateLoop wide n inflater bs busy) := by
  induction n generalizing inflater bs busy with
  | zero => exact absurd rfl hr
  | succ n ih =>
    by_cases hinput : bs ≠ [] ∨ busy = true
    . generalize hstep : inflater.inflateStep wide bs = r
      obtain ⟨inflater', o⟩ := r
      cases o with
      | next bs' busy' =>
        rw [inflateLoop_next n hinput hstep] at hr ⊢
        exact .next hinput hstep (ih hr)
      | almostOk rest =>
        rw [inflateLoop_leave n hinput hstep (fun _ _ => Outcome.noConfusion)]
        exact .leave hinput hstep (fun _ _ => Outcome.noConfusion)
      | emit rest nv =>
        rw [inflateLoop_leave n hinput hstep (fun _ _ => Outcome.noConfusion)]
        exact .leave hinput hstep (fun _ _ => Outcome.noConfusion)
      | fail e =>
        rw [inflateLoop_leave n hinput hstep (fun _ _ => Outcome.noConfusion)]
        exact .leave hinput hstep (fun _ _ => Outcome.noConfusion)
    . rw [Inflater.inflateLoop, if_neg hinput]
      simp only [ne_eq, not_or, not_not, Bool.not_eq_true] at hinput
      rw [hinput.1, hinput.2]
      exact .done

theorem Ends.unique (h : Ends wide inflater bs busy r) (h' : Ends wide inflater bs busy r')
    : r = r' := by
  obtain ⟨k, hk⟩ := h.inflateLoop
  obtain ⟨k', hk'⟩ := h'.inflateLoop
  rw [← hk k', ← hk' k, Nat.add_comm]

-- There are enough iterations.
theorem Sound.inflateLoop_eq_iff {table : Table} (h : inflater.Sound table)
    (hbad : inflater.ctx.bad = false)
    : inflateLoop wide (2 * bs.length + 3) inflater bs false = r
        ↔ Ends wide inflater bs false r := by
  have hwork : inflater.work bs < 2 * bs.length + 3 := by
    have := rank_le inflater.state
    rw [work]
    omega
  have hloop := @Keeps.inflateLoop _ _ bs _ false wide h.toKeeps (h.consistent hbad)
    (fun hb => by cases hb) hwork
  have hends
    : Ends wide inflater bs false (inflateLoop wide (2 * bs.length + 3) inflater bs false) := by
    apply ends_inflateLoop
    generalize inflateLoop wide (2 * bs.length + 3) inflater bs false = r at hloop ⊢
    cases hloop with
    | next => exact Outcome.noConfusion
    | almostOk => exact Outcome.noConfusion
    | emit => exact Outcome.noConfusion
    | fail => simp
  exact ⟨fun heq => heq ▸ hends, fun h => hends.unique h⟩

section Integers

variable {first b : UInt8} {m pfx maxlen : Nat}

theorem readLen_encode (hleft : inflater.left = 0) (hshift : inflater.shift = 0)
    (hpos : 0 < pfx) (hpfx : pfx ≤ 8) (hm : m < 2 ^ 32) (hmax : m ≤ maxlen)
    (h : encodeLength first m pfx ++ rest = b :: bs)
    : ∃ shift, inflater.readLen wide b bs pfx maxlen
        = ({ inflater with shift, left := m }, some (rest, true)) := by
  obtain ⟨shift, hdecode⟩ := @decodeLength_encode wide pfx b bs first m rest hpos hpfx hm h
  have hres : (BitVec.ofNat 32 m).toNat = m := by rw [BitVec.toNat_ofNat, Nat.mod_eq_of_lt hm]
  refine ⟨shift, ?_⟩
  have hzero : BitVec.ofNat 32 0 = 0 := rfl
  rw [readLen, hleft, hshift, hzero, hdecode]
  dsimp only
  rw [hres, if_neg (Nat.not_lt.mpr hmax), ← h, ← length_encodeLength first, List.drop_left]

theorem withLen_encode {f : Inflater → Bytes → Inflater × Outcome} (hleft : inflater.left = 0)
    (hshift : inflater.shift = 0) (hpos : 0 < pfx) (hpfx : pfx ≤ 8)
    (hm : m < 2 ^ 32) (hmax : m ≤ maxlen) (h : encodeLength first m pfx ++ rest = b :: bs)
    : ∃ shift, inflater.withLen wide b bs pfx maxlen f
        = f { inflater with shift, left := m } rest := by
  obtain ⟨shift, hread⟩ :=
    @readLen_encode wide inflater bs rest first b m pfx maxlen hleft hshift hpos hpfx hm hmax h
  refine ⟨shift, ?_⟩
  rw [withLen, hread]

theorem exists_first (h : encodeLength first m pfx ++ rest = b :: bs)
    : ∃ x, b = first &&& ~~~UInt8.ofNat (2 ^ pfx - 1) ||| .ofNat x ∧ x ≤ 2 ^ pfx - 1
        ∧ (pfx ≠ 0 → 0 < m → 0 < x) := by
  unfold encodeLength at h
  dsimp only at h
  split at h
  . next hlt =>
    rw [List.singleton_append, List.cons.injEq] at h
    exact ⟨m, h.1.symm, by omega, fun _ hpos => hpos⟩
  . rw [List.cons_append, List.cons.injEq] at h
    refine ⟨2 ^ pfx - 1, h.1.symm, Nat.le_refl _, ?_⟩
    intro hpfx _
    have : 2 ^ 1 ≤ 2 ^ pfx := Nat.pow_le_pow_right (by omega) (by omega)
    omega

end Integers

section Opcodes

variable {b : UInt8} {m : Nat} {mode : IndexingMode}

theorem first_tableSize
    : ∀ x, x ≤ 2 ^ 5 - 1 → (0x20 &&& ~~~UInt8.ofNat (2 ^ 5 - 1) ||| .ofNat x) &&& 0xe0 = 0x20 := by
  decide

theorem first_indexed
    : ∀ x, x ≤ 2 ^ 7 - 1 →
        (0x80 &&& ~~~UInt8.ofNat (2 ^ 7 - 1) ||| .ofNat x) &&& 0xe0 ≠ 0x20
        ∧ (0x80 &&& ~~~UInt8.ofNat (2 ^ 7 - 1) ||| .ofNat x) &&& 0x80 ≠ 0 := by
  decide

structure FirstLiteral (mode : IndexingMode) (b : UInt8) : Prop where
  size : b &&& 0xe0 ≠ 0x20
  index : b &&& 0x80 = 0
  required : decide (b &&& 0x40 ≠ 0) = decide (mode = .withIndexing)
  never : decide (b &&& 0xf0 = 0x10) = decide (mode = .neverIndexing)

theorem firstLiteral (mode : IndexingMode)
    : ∀ x, x ≤ 2 ^ prefixlen mode - 1 →
        FirstLiteral mode
        (packFirstByte mode &&& ~~~UInt8.ofNat (2 ^ prefixlen mode - 1) ||| .ofNat x) := by
  have hdec (b : UInt8) (h : b &&& 0xe0 ≠ 0x20 ∧ b &&& 0x80 = 0
      ∧ decide (b &&& 0x40 ≠ 0) = decide (mode = .withIndexing)
      ∧ decide (b &&& 0xf0 = 0x10) = decide (mode = .neverIndexing))
      : FirstLiteral mode b := ⟨h.1, h.2.1, h.2.2.1, h.2.2.2⟩
  intro x hx
  apply hdec
  revert x
  cases mode with
  | withIndexing => decide
  | withoutIndexing => decide
  | neverIndexing => decide

theorem first_ne (mode : IndexingMode)
    : ∀ x, x ≤ 2 ^ prefixlen mode - 1 → 0 < x →
        (packFirstByte mode &&& ~~~UInt8.ofNat (2 ^ prefixlen mode - 1) ||| .ofNat x = 0x40
          || packFirstByte mode &&& ~~~UInt8.ofNat (2 ^ prefixlen mode - 1) ||| .ofNat x = 0
          || packFirstByte mode &&& ~~~UInt8.ofNat (2 ^ prefixlen mode - 1) ||| .ofNat x = 0x10)
            = false := by
  cases mode with
  | withIndexing => decide
  | withoutIndexing => decide
  | neverIndexing => decide

theorem inflateOpcode_tableSize (hstate : inflater.state ≠ .opcode)
    (h : encodeLength 0x20 m 5 ++ rest = b :: bs)
    : inflater.inflateOpcode b bs
        = ({ inflater with opcode := .indexed, state := .readTableSize, left := 0, shift := 0 },
            .next (b :: bs) false) := by
  obtain ⟨x, hb, hx, -⟩ := exists_first h
  have hsize : b &&& 0xe0 = 0x20 := by
    rw [hb]
    exact first_tableSize x hx
  rw [inflateOpcode, if_neg (fun hne => hne.2 hsize), if_pos hsize, if_neg hstate]

theorem inflateOpcode_opcode (hstate : inflater.state = .opcode)
    (h : encodeLength 0x20 m 5 ++ rest = b :: bs)
    : inflater.inflateOpcode b bs = (inflater, .fail .headerComp) := by
  obtain ⟨x, hb, hx, -⟩ := exists_first h
  have hsize : b &&& 0xe0 = 0x20 := by
    rw [hb]
    exact first_tableSize x hx
  rw [inflateOpcode, if_neg (fun hne => hne.2 hsize), if_pos hsize, if_pos hstate]

theorem inflateOpcode_indexed (hstate : inflater.state ≠ .expectTableSize)
    (h : encodeLength 0x80 m 7 ++ rest = b :: bs)
    : inflater.inflateOpcode b bs
        = ({ inflater with opcode := .indexed, state := .readIndex, left := 0, shift := 0 },
          .next (b :: bs) false) := by
  obtain ⟨x, hb, hx, -⟩ := exists_first h
  have hfirst := first_indexed x hx
  rw [← hb] at hfirst
  rw [inflateOpcode, if_neg (fun hne => hstate hne.1), if_neg hfirst.1, if_pos hfirst.2]

def literal (inflater : Inflater) (mode : IndexingMode) : Inflater :=
  { inflater with
    indexRequired := mode = .withIndexing
    noIndex := mode = .neverIndexing
    left := 0
    shift := 0 }

theorem FirstLiteral.inflateOpcode (hfirst : FirstLiteral mode b)
    (hstate : inflater.state ≠ .expectTableSize)
    : inflater.inflateOpcode b bs
        = if b = 0x40 || b = 0 || b = 0x10 then
            ({ inflater.literal mode with opcode := .newname, state := .newnameCheckNamelen },
              .next bs false)
          else
            ({ inflater.literal mode with opcode := .indname, state := .readIndex },
              .next (b :: bs) false) := by
  rw [Inflater.inflateOpcode, if_neg (fun hne => hstate hne.1), if_neg hfirst.size,
    if_neg (fun hne => hne hfirst.index), hfirst.required, hfirst.never]
  rfl

theorem inflateOpcode_indname (hstate : inflater.state ≠ .expectTableSize) (hm : 0 < m)
    (h : encodeLength (packFirstByte mode) m (prefixlen mode) ++ rest = b :: bs)
    : inflater.inflateOpcode b bs
        = ({ inflater.literal mode with opcode := .indname, state := .readIndex },
          .next (b :: bs) false) := by
  obtain ⟨x, hb, hx, hpos⟩ := exists_first h
  have hfirst := firstLiteral mode x hx
  have hne := first_ne mode x hx (hpos (by cases mode <;> decide) hm)
  rw [← hb] at hfirst hne
  rw [hfirst.inflateOpcode hstate, hne, if_neg Bool.false_ne_true]

theorem inflateOpcode_newname (mode : IndexingMode) (hstate : inflater.state ≠ .expectTableSize)
    : inflater.inflateOpcode (packFirstByte mode) bs
        = ({ inflater.literal mode with opcode := .newname, state := .newnameCheckNamelen },
          .next bs false) := by
  have hfirst := firstLiteral mode 0 (Nat.zero_le _)
  have hzero : packFirstByte mode &&& ~~~UInt8.ofNat (2 ^ prefixlen mode - 1) ||| .ofNat 0
    = packFirstByte mode := by
    cases mode <;> decide
  rw [hzero] at hfirst
  rw [hfirst.inflateOpcode hstate, if_pos (by cases mode <;> decide)]

end Opcodes

end Inflater

def wire (s : Bytes) : Bytes :=
  if huffEncodeCount s < s.length then huffBytes s else s

def huffed (s : Bytes) : Bool :=
  huffEncodeCount s < s.length

theorem stringBytes_eq (s : Bytes)
    : stringBytes s = encodeLength (if huffed s then 0x80 else 0) (wire s).length 7 ++ wire s := by
  unfold stringBytes wire huffed
  by_cases h : huffEncodeCount s < s.length
  . rw [if_pos h, if_pos h, if_pos (decide_eq_true h), length_huffBytes]
  . rw [if_neg h, if_neg h, if_neg (by rw [decide_eq_true_eq]; exact h)]

theorem length_wire_le (s : Bytes) : (wire s).length ≤ s.length := by
  rw [wire]
  split
  . next hlt =>
    rw [length_huffBytes]
    exact Nat.le_of_lt hlt
  . exact Nat.le_refl _

-- The inflater does not accept any longer strings.
def Readable (s : Bytes) : Prop :=
  (wire s).length ≤ HD_MAX_NV

instance (s : Bytes) : Decidable (Readable s) :=
  inferInstanceAs (Decidable (_ ≤ _))

namespace Inflater

variable {wide : WideShift} {inflater inflater' : Inflater} {bs rest : Bytes}
  {r : Inflater × Outcome} {table : Table}

section Strings

variable {s : Bytes} {f : Inflater → Bytes → Inflater × Outcome} {keep : Inflater → Buf → Inflater}

theorem first_string (huffed : Bool)
    : ∀ x, x ≤ 2 ^ 7 - 1 →
        decide (((if huffed then 0x80 else 0) &&& ~~~UInt8.ofNat (2 ^ 7 - 1) ||| .ofNat x) &&& 0x80
          ≠ 0) = huffed := by
  cases huffed with
  | false => decide
  | true => decide

theorem setHuffmanEncoded_string {b : UInt8} {m : Nat}
    (h : encodeLength (if huffed s then 0x80 else 0) m 7 ++ rest = b :: bs)
    : inflater.setHuffmanEncoded b = { inflater with huffmanEncoded := huffed s } := by
  obtain ⟨x, hb, hx, -⟩ := exists_first h
  rw [setHuffmanEncoded, hb, first_string (huffed s) x hx]

def reader (s : Bytes) : Inflater → Buf → Bytes → Except Error (Inflater × Buf × Bytes) :=
  if huffed s then readHuff else read

theorem reader_wire (hencoded : inflater.huffmanEncoded = huffed s)
    (hleft : inflater.left = (wire s).length)
    (hctx : huffed s = true → inflater.huffDecodeCtx = .init)
    : ∃ huffDecodeCtx cap,
        reader s inflater inflater.newBuf (wire s ++ rest)
            = .ok ({ inflater with huffDecodeCtx, left := 0 }, ⟨cap, s⟩, rest)
        ∧ s.length < cap := by
  cases hhuffed : huffed s with
  | false =>
    have hwire : wire s = s := if_neg (by simpa [huffed] using hhuffed)
    have hbuf : inflater.newBuf = ⟨inflater.left + 1, []⟩ := by
      rw [newBuf, hencoded, hhuffed, if_neg Bool.false_ne_true]
    rw [hwire] at hleft
    have hread : inflater.read inflater.newBuf (s ++ rest) = _ :=
      read_eq (by rw [hbuf]; simp only [List.length_nil]; omega)
    refine ⟨inflater.huffDecodeCtx, inflater.left + 1, ?_, by omega⟩
    rw [reader, hhuffed, if_neg Bool.false_ne_true, hwire, hread, hbuf, hleft,
      List.take_left, List.drop_left,
      List.length_append, Nat.sub_eq_zero_of_le (Nat.le_add_right _ _)]
    rfl
  | true =>
    have hwire : wire s = huffBytes s := if_pos (by simpa [huffed] using hhuffed)
    have hbuf : inflater.newBuf = ⟨inflater.left * 2 + 1, []⟩ := by
      rw [newBuf, hencoded, hhuffed, if_pos rfl]
    rw [hwire] at hleft
    have hroom : inflater.newBuf.data.length + 2 * (huffBytes s).length ≤ inflater.newBuf.cap := by
      rw [hbuf, ← hleft]
      simp only [List.length_nil]
      omega
    obtain ⟨s', hdecode⟩ := @huffDecode_huffBytes inflater.newBuf s hroom
    have hread : inflater.readHuff inflater.newBuf (huffBytes s ++ rest)
        = .ok ({ inflater with huffDecodeCtx := ctxOf s', left := 0 }, ⟨inflater.left * 2 + 1, s⟩,
          rest) := by
      rw [readHuff, hctx hhuffed]
      dsimp only
      rw [hleft, if_pos (by rw [List.length_append]; omega), List.take_left,
        List.drop_left, decide_eq_true
        (by rw [List.length_append]; omega), hdecode, hbuf, hleft, Nat.sub_self, ok_bind]
      rfl
    have hroom' : inflater.RoomHuff (some inflater.newBuf) :=
      ⟨_, 0, rfl, by rw [hctx hhuffed, init_eq_ctxOf],
        by rw [hbuf]; simp only [List.length_nil]; omega⟩
    refine ⟨ctxOf s', inflater.left * 2 + 1, ?_, ?_⟩
    . rw [reader, hhuffed, if_pos rfl, hwire, hread]
    . rcases reader_readHuff.read _ _ (huffBytes s ++ rest) hroom' with
        herror | ⟨ctx, buf', hok, hroom''⟩
      . rw [hread] at herror
        cases herror
      . rw [hread] at hok
        injection hok with hok
        injection hok with _ hok
        injection hok with hok _
        obtain ⟨_, ⟨⟩, hlt⟩ := reader_readHuff.buf _ _ hroom''
        rw [← hok] at hlt
        exact hlt

theorem withString_wire (hencoded : inflater.huffmanEncoded = huffed s)
    (hleft : inflater.left = (wire s).length)
    (hctx : huffed s = true → inflater.huffDecodeCtx = .init)
    (hkeep : ∀ inflater buf, (keep inflater buf).left = inflater.left)
    : ∃ huffDecodeCtx cap,
        inflater.withString (reader s) (some inflater.newBuf) keep (wire s ++ rest) f
          = f (keep { inflater with huffDecodeCtx, left := 0 } ⟨cap, s⟩) rest := by
  obtain ⟨huffDecodeCtx, cap, hread, hcap⟩ := @reader_wire inflater rest s hencoded hleft hctx
  refine ⟨huffDecodeCtx, cap, ?_⟩
  rw [withString]
  dsimp only
  rw [hread]
  dsimp only
  rw [hkeep, if_neg (fun hne => hne rfl), terminate, if_pos hcap]

theorem stringBytes_append (s rest : Bytes)
    : ∃ b bs, stringBytes s ++ rest = b :: bs
        ∧ encodeLength (if huffed s then 0x80 else 0) (wire s).length 7 ++ (wire s ++ rest)
          = b :: bs := by
  obtain ⟨b, bs, heq⟩ := encodeLength_eq_cons (if huffed s then 0x80 else 0) (wire s).length 7
  refine ⟨b, bs ++ (wire s ++ rest), ?_, ?_⟩
  . rw [stringBytes_eq, heq, List.append_assoc, List.cons_append]
  . rw [heq, List.cons_append]

theorem Readable.lt (h : Readable s) : (wire s).length < 2 ^ 32 := by
  rw [Readable, HD_MAX_NV] at h
  omega

def counted (inflater : Inflater) (s : Bytes) (state : InflateState) (shift : Nat) : Inflater :=
  { inflater with huffmanEncoded := huffed s, state, left := (wire s).length, shift }

theorem step_namelen (hstate : inflater.state = .newnameCheckNamelen) (hs : Readable s)
    : ∃ shift, inflateStep wide inflater (stringBytes s ++ rest)
        = newName (inflater.counted s .newnameReadNamelen shift) (wire s ++ rest) := by
  obtain ⟨b, bs, hbytes, hlength⟩ := stringBytes_append s rest
  obtain ⟨shift, hlen⟩ := @withLen_encode wide
    { inflater with
      huffmanEncoded := huffed s, state := .newnameReadNamelen, left := 0, shift := 0 } bs _ _ b _ 7
    HD_MAX_NV newName rfl rfl (by omega) (by omega) (Readable.lt hs) hs hlength
  refine ⟨shift, ?_⟩
  rw [hbytes, inflateStep, hstate]
  dsimp only
  rw [withByte, checkNamelen, setHuffmanEncoded_string hlength]
  exact hlen

theorem step_valuelen (hstate : inflater.state = .checkValuelen) (hs : Readable s)
    : ∃ shift, inflateStep wide inflater (stringBytes s ++ rest)
        = newValue (inflater.counted s .readValuelen shift) (wire s ++ rest) := by
  obtain ⟨b, bs, hbytes, hlength⟩ := stringBytes_append s rest
  obtain ⟨shift, hlen⟩ := @withLen_encode wide
    { inflater with huffmanEncoded := huffed s, state := .readValuelen, left := 0, shift := 0 }
    bs _ _ b _ 7
    HD_MAX_NV newValue rfl rfl (by omega) (by omega) (Readable.lt hs) hs hlength
  refine ⟨shift, ?_⟩
  rw [hbytes, inflateStep, hstate]
  dsimp only
  rw [withByte, checkValuelen, setHuffmanEncoded_string hlength]
  exact hlen

theorem step_name (hencoded : inflater.huffmanEncoded = huffed s)
    (hleft : inflater.left = (wire s).length)
    : ∃ huffDecodeCtx cap, inflateStep wide (inflater.newName bs).1 (wire s ++ rest)
        = ({ inflater with
          huffDecodeCtx, left := 0, namebuf := some ⟨cap, s⟩, state := .checkValuelen },
            .next rest false) := by
  have hctx : huffed s = true → (inflater.newName bs).1.huffDecodeCtx = .init := by
    intro hhuffed
    change inflater.newHuffDecodeCtx = _
    rw [newHuffDecodeCtx, hencoded, hhuffed, if_pos rfl]
  have hstate : (inflater.newName bs).1.state
    = if huffed s then .newnameReadNamehuff else .newnameReadName := by
    rw [← hencoded]
    rfl
  have hstep : inflateStep wide (inflater.newName bs).1 (wire s ++ rest)
      = (inflater.newName bs).1.inflateReadName (reader s) (wire s ++ rest) := by
    rw [inflateStep, reader, hstate]
    cases huffed s with
    | false => rfl
    | true => rfl
  obtain ⟨huffDecodeCtx, cap, hread⟩ := @withString_wire (inflater.newName bs).1 rest s
    (fun inflater rest => ({ inflater with state := .checkValuelen }, .next rest false))
    keepName hencoded hleft hctx
    (fun _ _ => rfl)
  refine ⟨huffDecodeCtx, cap, ?_⟩
  rw [hstep]
  exact hread

theorem step_value (hencoded : inflater.huffmanEncoded = huffed s)
    (hleft : inflater.left = (wire s).length)
    : ∃ huffDecodeCtx cap state, inflateStep wide (inflater.newValue bs).1 (wire s ++ rest)
        = commitValue { inflater with huffDecodeCtx, left := 0, valuebuf := some ⟨cap, s⟩, state }
          rest := by
  have hctx : huffed s = true → (inflater.newValue bs).1.huffDecodeCtx = .init := by
    intro hhuffed
    change inflater.newHuffDecodeCtx = _
    rw [newHuffDecodeCtx, hencoded, hhuffed, if_pos rfl]
  have hstate : (inflater.newValue bs).1.state
    = if huffed s then .readValuehuff else .readValue := by
    rw [← hencoded]
    rfl
  have hstep : inflateStep wide (inflater.newValue bs).1 (wire s ++ rest)
      = (inflater.newValue bs).1.inflateReadValue (reader s) (wire s ++ rest) := by
    rw [inflateStep, reader, hstate]
    cases huffed s with
    | false => rfl
    | true => rfl
  obtain ⟨huffDecodeCtx, cap, hread⟩ :=
    @withString_wire (inflater.newValue bs).1 rest s commitValue keepValue hencoded
    hleft hctx (fun _ _ => rfl)
  refine ⟨huffDecodeCtx, cap, (inflater.newValue bs).1.state, ?_⟩
  rw [hstep]
  exact hread

theorem commitValue_ne (inflater : Inflater) (rest bs : Bytes) (busy : Bool)
    : (inflater.commitValue rest).2 ≠ .next bs busy := by
  rw [commitValue]
  cases inflater.commit with
  | error e => exact Outcome.noConfusion
  | ok r => exact Outcome.noConfusion

theorem stringBytes_append_ne (s rest : Bytes) : stringBytes s ++ rest ≠ [] := by
  obtain ⟨b, bs, hbytes, -⟩ := stringBytes_append s rest
  rw [hbytes]
  exact List.cons_ne_nil b bs

theorem ends_value {busy : Bool} (hstate : inflater.state = .checkValuelen) (hs : Readable s)
    : ∃ huffDecodeCtx shift cap state, Ends wide inflater (stringBytes s ++ rest) busy
        (commitValue { inflater with
          huffmanEncoded := huffed s, huffDecodeCtx, shift, left := 0, valuebuf :=
            some ⟨cap, s⟩, state } rest) := by
  obtain ⟨shift, hlen⟩ := @step_valuelen wide inflater rest s hstate hs
  obtain ⟨huffDecodeCtx, cap, state, hvalue⟩ :=
    @step_value wide (inflater.counted s .readValuelen shift) (wire s ++ rest) rest s rfl rfl
  refine ⟨huffDecodeCtx, shift, cap, state, .next (.inl (stringBytes_append_ne s rest)) hlen ?_⟩
  exact .leave (.inr rfl) hvalue fun bs busy => commitValue_ne _ rest bs busy

theorem Ends.of_name {busy : Bool} (hstate : inflater.state = .newnameCheckNamelen)
    (hs : Readable s) (hrest : rest ≠ [])
    : ∃ huffDecodeCtx shift cap, ∀ r,
        Ends wide { inflater with
          huffmanEncoded := huffed s, huffDecodeCtx, shift, left := 0,
          namebuf := some ⟨cap, s⟩, state := .checkValuelen }
          rest false r →
        Ends wide inflater (stringBytes s ++ rest) busy r := by
  obtain ⟨shift, hlen⟩ := @step_namelen wide inflater rest s hstate hs
  obtain ⟨huffDecodeCtx, cap, hname⟩ :=
    @step_name wide (inflater.counted s .newnameReadNamelen shift) (wire s ++ rest) rest s rfl rfl
  refine ⟨huffDecodeCtx, shift, cap,
    fun r hr => .next (.inl (stringBytes_append_ne s rest)) hlen ?_⟩
  refine .next (.inl ?_) hname hr
  intro hnil
  exact hrest (List.append_eq_nil_iff.mp hnil).2

end Strings

structure Stays (inflater inflater' : Inflater) : Prop where
  settings : inflater'.settingsHdTableBufsizeMax = inflater.settingsHdTableBufsizeMax
  min : inflater'.minHdTableBufsizeMax = inflater.minHdTableBufsizeMax
  bad : inflater'.ctx.bad = inflater.ctx.bad

structure Reading (inflater inflater' : Inflater) (table : Table)
    : Prop extends inflater.Stays inflater' where
  keeps : inflater'.Keeps table
  state : inflater'.state = .opcode

section Fields

variable {mode : IndexingMode} {idx : Nat} {name value : Bytes} {f : Field}

theorem flags_eq {mode : IndexingMode} (h : inflater.noIndex = decide (mode = .neverIndexing))
    (f : Field)
    : { f.toHdNv with flags := inflater.flags } = Table.emitted f mode := by
  rw [flags, h, Table.emitted]
  simp only [decide_eq_true_eq]

theorem commitTable_eq {mode : IndexingMode}
    (h : inflater.indexRequired = decide (mode = .withIndexing)) (f : Field)
    : inflater.commitTable table f = table.add f mode := by
  rw [commitTable, h]
  cases mode with
  | withIndexing => rfl
  | withoutIndexing => rfl
  | neverIndexing => rfl

theorem Keeps.literal (mode : IndexingMode) (h : inflater.Keeps table)
    : (inflater.literal mode).Keeps table := by
  refine ⟨h.has, h.max, h.total_le, h.max_lt, ?_⟩
  cases mode with
  | withIndexing => exact fun _ => rfl
  | withoutIndexing => exact fun hfalse => by cases hfalse
  | neverIndexing => exact fun hfalse => by cases hfalse

def AtOpcode (inflater : Inflater) : Prop :=
  inflater.state = .expectTableSize ∨ inflater.state = .inflateStart ∨ inflater.state = .opcode

theorem AtOpcode.inflateStep (wide : WideShift) (h : inflater.AtOpcode) (b : UInt8) (bs : Bytes)
    : inflater.inflateStep wide (b :: bs) = inflater.inflateOpcode b bs := by
  rw [Inflater.inflateStep]
  rcases h with h | h | h
  . rw [h]
    rfl
  . rw [h]
    rfl
  . rw [h]
    rfl

theorem AtField.ne (h : inflater.AtField) : inflater.state ≠ .expectTableSize := by
  rcases h with h | h
  . rw [h]
    exact InflateState.noConfusion
  . rw [h]
    exact InflateState.noConfusion

theorem le_getMaxIndex (hkeeps : inflater.Keeps table) (hf : lookup table.dyn idx = some f)
    : idx + 1 ≤ inflater.ctx.getMaxIndex := by
  have := (List.getElem?_eq_some_iff.mp hf).1
  rw [List.length_append, length_staticFields] at this
  rw [hkeeps.has.getMaxIndex]
  omega

theorem encodeLength_append (first : UInt8) (m pfx : Nat) (rest : Bytes)
    : ∃ b bs, encodeLength first m pfx ++ rest = b :: bs := by
  obtain ⟨b, bs, heq⟩ := encodeLength_eq_cons first m pfx
  exact ⟨b, bs ++ rest, by rw [heq, List.cons_append]⟩

theorem Keeps.readIndexed (hkeeps : inflater.Keeps table) (h : inflater.AtField)
    (hidx : idx + 1 < 2 ^ 32) (hf : lookup table.dyn idx = some f)
    : ∃ inflater', Ends wide inflater ((Rep.indexed idx).bytes ++ rest) false
        (inflater', .emit rest f.toHdNv)
        ∧ inflater.Reading inflater' table := by
  obtain ⟨b, bs, hbytes⟩ := encodeLength_append 0x80 (idx + 1) 7 rest
  have hopcode :=
    (AtOpcode.inflateStep wide (.inr h) b bs).trans (inflateOpcode_indexed h.ne hbytes)
  obtain ⟨shift, hlen⟩ := @withLen_encode wide
    { inflater with opcode := .indexed, state := .readIndex, left := 0, shift := 0 } bs rest _ b _ 7
    inflater.ctx.getMaxIndex setIndex rfl rfl (by omega) (by omega) hidx
    (le_getMaxIndex hkeeps hf) hbytes
  refine ⟨{ inflater with
    opcode := .indexed, state := .opcode, left := idx + 1, index := idx, shift },
    ?_, ⟨rfl, rfl, rfl⟩, hkeeps.congr rfl rfl rfl, rfl⟩
  rw [Rep.bytes, hbytes]
  refine .next (.inl (List.cons_ne_nil b bs)) hopcode ?_
  refine .leave (.inl (List.cons_ne_nil b bs)) ?_ (fun _ _ => Outcome.noConfusion)
  change Inflater.withLen wide _ b bs 7 _ setIndex = _
  rw [hlen, setIndex, if_neg (Nat.succ_ne_zero idx)]
  dsimp only
  rw [if_pos rfl, commitIndexed]
  dsimp only
  rw [Nat.add_sub_cancel, hkeeps.has.tableGet hf]

theorem Keeps.readIndname (hkeeps : inflater.Keeps table) (h : inflater.AtField)
    (hidx : idx + 1 < 2 ^ 32) (hvalue : Readable value) (hf : lookup table.dyn idx = some f)
    : ∃ inflater', Ends wide inflater ((Rep.indname mode idx value).bytes ++ rest) false
          (inflater', .emit rest (Table.emitted (f.1, value) mode))
        ∧ inflater.Reading inflater' (table.add (f.1, value) mode) := by
  obtain ⟨b, bs, hbytes⟩ :=
    encodeLength_append (packFirstByte mode) (idx + 1) (prefixlen mode) (stringBytes value ++ rest)
  have hopcode := (AtOpcode.inflateStep wide (.inr h) b bs).trans
    (inflateOpcode_indname h.ne (Nat.succ_pos idx) hbytes)
  obtain ⟨shift, hlen⟩ := @withLen_encode wide
    { inflater.literal mode with opcode := .indname, state := .readIndex }
    bs _ _ b _ (prefixlen mode)
    inflater.ctx.getMaxIndex setIndex rfl rfl (by cases mode <;> decide)
    (by cases mode <;> decide) hidx
    (le_getMaxIndex hkeeps hf) hbytes
  obtain ⟨huffDecodeCtx, shift', cap, state, hends⟩ := @ends_value wide
    { inflater.literal mode with
      opcode := .indname, state := .checkValuelen, left := idx + 1, index := idx, shift } rest
    value false rfl hvalue
  have hkeeps' : { inflater.literal mode with
      opcode := .indname, left := 0, index := idx, huffmanEncoded :=
        huffed value, huffDecodeCtx, shift := shift',
      valuebuf := some ⟨cap, value⟩, state }.Keeps table := (hkeeps.literal mode).congr rfl rfl rfl
  obtain ⟨ctx, hcommit, hkeeps'', hbad⟩ := hkeeps'.commitIndname hf rfl
  rw [flags_eq rfl] at hcommit
  rw [commitTable_eq rfl] at hkeeps''
  rw [commitValue, Inflater.commit, if_neg Opcode.noConfusion, hcommit] at hends
  have hindex
      : Inflater.inflateStep wide
          { inflater.literal mode with opcode := .indname, state := .readIndex } (b :: bs)
      = ({ inflater.literal mode with
          opcode := .indname, state := .checkValuelen, left := idx + 1, index := idx, shift },
        .next (stringBytes value ++ rest) false) := by
    have hpfx : (if (mode = .withIndexing : Bool) then 6 else 4) = prefixlen mode := by
      cases mode <;> rfl
    change Inflater.withLen wide _ b bs (if (mode = .withIndexing : Bool) then 6 else 4)
      inflater.ctx.getMaxIndex
      setIndex = _
    rw [hpfx, hlen, setIndex, if_neg (Nat.succ_ne_zero idx)]
    rfl
  rw [Rep.bytes, List.append_assoc, hbytes]
  exact ⟨_, .next (.inl (List.cons_ne_nil b bs)) hopcode
    (.next (.inl (List.cons_ne_nil b bs)) hindex hends),
    ⟨rfl, rfl, hbad⟩, hkeeps''.congr rfl rfl rfl, rfl⟩

theorem Keeps.readNewname (hkeeps : inflater.Keeps table) (h : inflater.AtField)
    (hname : Readable name) (hvalue : Readable value)
    : ∃ inflater', Ends wide inflater ((Rep.newname mode name value).bytes ++ rest) false
          (inflater', .emit rest (Table.emitted (name, value) mode))
        ∧ inflater.Reading inflater' (table.add (name, value) mode) := by
  have hopcode := (AtOpcode.inflateStep wide (.inr h) (packFirstByte mode)
    (stringBytes name ++ (stringBytes value ++ rest))).trans (inflateOpcode_newname mode h.ne)
  obtain ⟨huffDecodeCtx, shift, cap, hends⟩ := @Ends.of_name wide
    { inflater.literal mode with opcode := .newname, state := .newnameCheckNamelen }
    (stringBytes value ++ rest) name false
    rfl hname (stringBytes_append_ne value rest)
  obtain ⟨huffDecodeCtx', shift', cap', state, hends'⟩ := @ends_value wide
    { inflater.literal mode with
      opcode := .newname, state := .checkValuelen, huffmanEncoded :=
        huffed name, huffDecodeCtx, shift, left := 0,
      namebuf := some ⟨cap, name⟩ } rest value false rfl hvalue
  have hkeeps' : { inflater.literal mode with
      opcode := .newname, huffmanEncoded := huffed value, huffDecodeCtx := huffDecodeCtx', shift :=
        shift', left := 0,
      namebuf := some ⟨cap, name⟩, valuebuf := some ⟨cap', value⟩, state }.Keeps table :=
    (hkeeps.literal mode).congr rfl rfl rfl
  obtain ⟨ctx, hcommit, hkeeps'', hbad⟩ := hkeeps'.commitNewname rfl rfl
  rw [flags_eq rfl] at hcommit
  rw [commitTable_eq rfl] at hkeeps''
  rw [commitValue, Inflater.commit, if_pos rfl, hcommit] at hends'
  rw [Rep.bytes, List.cons_append, List.append_assoc]
  exact ⟨_, .next (.inl (List.cons_ne_nil _ _)) hopcode (hends _ hends'), ⟨rfl, rfl, hbad⟩,
    hkeeps''.congr rfl rfl rfl, rfl⟩

end Fields

structure Resized (inflater inflater' : Inflater) (table : Table) : Prop where
  keeps : inflater'.Keeps table
  state : inflater'.state = .inflateStart
  settings : inflater'.settingsHdTableBufsizeMax = inflater.settingsHdTableBufsizeMax
  min : inflater'.minHdTableBufsizeMax = UINT32_MAX.toNat
  bad : inflater'.ctx.bad = inflater.ctx.bad

theorem Keeps.readTableSize {size : Nat} (hkeeps : inflater.Keeps table)
    (h : inflater.state = .expectTableSize ∨ inflater.state = .inflateStart) (hsize : size < 2 ^ 32)
    (hmin : size ≤ inflater.minHdTableBufsizeMax)
    (hsettings : size ≤ inflater.settingsHdTableBufsizeMax)
    : ∃ inflater', inflater.Resized inflater' (table.resize size)
        ∧ ∀ r, Ends wide inflater' rest false r
          → Ends wide inflater ((Rep.tableSize size).bytes ++ rest) false r := by
  obtain ⟨b, bs, hbytes⟩ := encodeLength_append 0x20 size 5 rest
  have hne : inflater.state ≠ .opcode := by
    rcases h with h | h
    . rw [h]
      exact InflateState.noConfusion
    . rw [h]
      exact InflateState.noConfusion
  have hopcode :=
    (AtOpcode.inflateStep wide (h.imp_right .inl) b bs).trans (inflateOpcode_tableSize hne hbytes)
  obtain ⟨shift, hlen⟩ := @withLen_encode wide
    { inflater with opcode := .indexed, state := .readTableSize, left := 0, shift := 0 }
    bs rest _ b _ 5
    (min inflater.minHdTableBufsizeMax inflater.settingsHdTableBufsizeMax) setTableSize
    rfl rfl (by omega) (by omega)
    hsize (Nat.le_min.mpr ⟨hmin, hsettings⟩) hbytes
  obtain ⟨ctx, hshrink, hbad, hkeeps'⟩ := hkeeps.shrink size (by omega)
  refine ⟨{ inflater with
    opcode := .indexed, state := .inflateStart, left := size, shift, minHdTableBufsizeMax :=
      UINT32_MAX.toNat, ctx },
    ⟨hkeeps'.congr rfl rfl rfl, rfl, rfl, rfl, hbad⟩, ?_⟩
  intro r hr
  rw [Rep.bytes, hbytes]
  refine .next (.inl (List.cons_ne_nil b bs)) hopcode (.next (.inl (List.cons_ne_nil b bs)) ?_ hr)
  change Inflater.withLen wide _ b bs 5 _ setTableSize = _
  rw [hlen, setTableSize]
  dsimp only
  rw [hshrink]

end Inflater

def Rep.Readable : Rep → Prop
  | tableSize size => size < 2 ^ 32
  | indexed idx => idx + 1 < 2 ^ 32
  | indname _ idx value => idx + 1 < 2 ^ 32 ∧ Hpack.Readable value
  | newname _ name value => Hpack.Readable name ∧ Hpack.Readable value

namespace Inflater

variable {wide : WideShift} {inflater inflater' : Inflater} {bs rest : Bytes}
  {table table' : Table} {rep : Rep}

theorem Keeps.readField {nv : HdNv} (hkeeps : inflater.Keeps table) (h : inflater.AtField)
    (hreadable : rep.Readable) (hread : table.read rep = some (table', some nv))
    : ∃ inflater', Ends wide inflater (rep.bytes ++ rest) false (inflater', .emit rest nv)
        ∧ inflater.Reading inflater' table' := by
  cases rep with
  | tableSize size => cases hread
  | indexed idx =>
    rw [Table.read, Option.map_eq_some_iff] at hread
    obtain ⟨f, hf, heq⟩ := hread
    cases heq
    exact hkeeps.readIndexed h hreadable hf
  | indname mode idx value =>
    rw [Table.read, Option.map_eq_some_iff] at hread
    obtain ⟨f, hf, heq⟩ := hread
    cases heq
    exact hkeeps.readIndname h hreadable.1 hreadable.2 hf
  | newname mode name value =>
    cases hread
    exact hkeeps.readNewname h hreadable.1 hreadable.2

def InField (inflater : Inflater) : Prop :=
  inflater.state ≠ .expectTableSize ∧ inflater.state ≠ .inflateStart ∧ inflater.state ≠ .opcode
    ∧ inflater.state ≠ .readTableSize

section Field

variable {b : UInt8} {busy : Bool} {f : Inflater → Bytes → Inflater × Outcome}

theorem withByte_next {f : UInt8 → Bytes → Inflater × Outcome}
    (h : inflater.withByte f bs = (inflater', .next rest busy))
    : ∃ b bs', bs = b :: bs' ∧ f b bs' = (inflater', .next rest busy) := by
  cases bs with
  | nil => cases h
  | cons b bs => exact ⟨b, bs, rfl, h⟩

theorem withLen_next {pfx maxlen : Nat}
    (h : inflater.withLen wide b bs pfx maxlen f = (inflater', .next rest busy))
    : ∃ inflater rest', f inflater rest' = (inflater', .next rest busy) := by
  rw [withLen] at h
  split at h
  . cases h
  . cases h
  . exact ⟨_, _, h⟩

theorem withString_next {read : Inflater → Buf → Bytes → Except Error (Inflater × Buf × Bytes)}
    {buf : Option Buf} {keep : Inflater → Buf → Inflater}
    (h : inflater.withString read buf keep bs f = (inflater', .next rest busy))
    : ∃ inflater rest', f inflater rest' = (inflater', .next rest busy) := by
  unfold withString at h
  split at h
  . cases h
  . split at h
    . cases h
    . dsimp only at h
      split at h
      . cases h
      . split at h
        . cases h
        . exact ⟨_, _, h⟩

theorem inField_newName (h : newName inflater bs = (inflater', .next rest busy))
    : inflater'.InField := by
  cases h
  rw [InField]
  dsimp only
  split
  . simp
  . simp

theorem inField_newValue (h : newValue inflater bs = (inflater', .next rest busy))
    : inflater'.InField := by
  cases h
  rw [InField]
  dsimp only
  split
  . simp
  . simp

theorem inField_setIndex (h : setIndex inflater bs = (inflater', .next rest busy))
    : inflater'.InField := by
  rw [setIndex] at h
  dsimp only at h
  split at h
  . cases h
  . split at h
    . split at h
      . cases h
      . cases h
    . cases h
      simp [InField]

theorem inField_inflateOpcode (hstate : inflater.state = .opcode)
    (h : inflater.inflateOpcode b bs = (inflater', .next rest busy))
    : inflater'.InField := by
  rw [inflateOpcode] at h
  split at h
  . cases h
  . split at h
    . cases h
    . split at h
      . cases h
        simp [InField]
      . dsimp only at h
        split at h
        . cases h
          simp [InField]
        . cases h
          simp [InField]

theorem inField_inflateStep (hfield : inflater.InField ∨ inflater.state = .opcode)
    (h : inflater.inflateStep wide bs = (inflater', .next rest busy))
    : inflater'.InField := by
  rw [inflateStep] at h
  cases hstate : inflater.state with
  | expectTableSize => simp [InField, hstate] at hfield
  | inflateStart => simp [InField, hstate] at hfield
  | readTableSize => simp [InField, hstate] at hfield
  | opcode =>
    rw [hstate] at h
    obtain ⟨b, bs', -, h⟩ := withByte_next h
    exact inField_inflateOpcode hstate h
  | readIndex =>
    rw [hstate] at h
    obtain ⟨b, bs', -, h⟩ := withByte_next h
    obtain ⟨_, _, h⟩ := withLen_next h
    exact inField_setIndex h
  | newnameCheckNamelen =>
    rw [hstate] at h
    obtain ⟨b, bs', -, h⟩ := withByte_next h
    obtain ⟨_, _, h⟩ := withLen_next h
    exact inField_newName h
  | newnameReadNamelen =>
    rw [hstate] at h
    obtain ⟨b, bs', -, h⟩ := withByte_next h
    obtain ⟨_, _, h⟩ := withLen_next h
    exact inField_newName h
  | newnameReadNamehuff =>
    rw [hstate] at h
    obtain ⟨_, _, h⟩ := withString_next h
    cases h
    simp [InField]
  | newnameReadName =>
    rw [hstate] at h
    obtain ⟨_, _, h⟩ := withString_next h
    cases h
    simp [InField]
  | checkValuelen =>
    rw [hstate] at h
    obtain ⟨b, bs', -, h⟩ := withByte_next h
    obtain ⟨_, _, h⟩ := withLen_next h
    exact inField_newValue h
  | readValuelen =>
    rw [hstate] at h
    obtain ⟨b, bs', -, h⟩ := withByte_next h
    obtain ⟨_, _, h⟩ := withLen_next h
    exact inField_newValue h
  | readValuehuff =>
    rw [hstate] at h
    obtain ⟨_, _, h⟩ := withString_next h
    exact absurd (congrArg Prod.snd h) (commitValue_ne _ _ _ _)
  | readValue =>
    rw [hstate] at h
    obtain ⟨_, _, h⟩ := withString_next h
    exact absurd (congrArg Prod.snd h) (commitValue_ne _ _ _ _)

theorem Ends.inField {r : Inflater × Outcome} (hends : Ends wide inflater bs busy r)
    (hfield : inflater.InField ∨ (inflater.state = .opcode ∧ bs ≠ [])) (h : r.2 = .next rest false)
    : r.1.InField := by
  induction hends with
  | done => exact hfield.resolve_right fun hopcode => hopcode.2 rfl
  | next _ hstep _ ih => exact ih (.inl (inField_inflateStep (hfield.imp_right And.left) hstep)) h
  | leave _ _ hleave => exact absurd h (hleave rest false)

end Field

end Inflater
end Hpack
end Fsw
