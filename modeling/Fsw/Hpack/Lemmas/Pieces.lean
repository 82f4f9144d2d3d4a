import Fsw.Hpack.Lemmas.Decode

namespace Fsw
namespace Hpack

def Outcome.more (bs : Bytes) : Outcome → Outcome
  | next rest busy => next (rest ++ bs) busy
  | almostOk rest => almostOk (rest ++ bs)
  | emit rest nv => emit (rest ++ bs) nv
  | fail e => fail e

namespace Inflater

variable {wide : WideShift} {inflater inflater' : Inflater} {table : Table}
  {bs bs' rest : Bytes} {b : UInt8}

-- After a failure the inflater is of no interest.
def Alike (r r' : Inflater × Outcome) : Prop :=
  r = r' ∨ ∃ e, r.2 = .fail e ∧ r'.2 = .fail e

/--
`r'` is what one iteration comes to with `bs` behind the input, if it comes to `r` without.
-/
inductive Extended (wide : WideShift) (bs : Bytes) (r' : Inflater × Outcome)
    : Inflater × Outcome → Prop where
  | more {r : Inflater × Outcome} (h : r' = (r.1, r.2.more bs))
      (hmore : ∀ rest, r.2 ≠ .almostOk rest)
      : Extended wide bs r' r
  | fail {inflater : Inflater} {e : Error} (h : r'.2 = .fail e)
      : Extended wide bs r' (inflater, .fail e)
  | resume {inflater : Inflater} (h : Alike (inflater.inflateStep wide bs) r')
      : Extended wide bs r' (inflater, .almostOk [])

-- What follows an integer or a string does not look at the input.
structure Natural (f : Inflater → Bytes → Inflater × Outcome) : Prop where
  more : ∀ inflater rest bs, f inflater (rest ++ bs)
    = ((f inflater rest).1, (f inflater rest).2.more bs)
  leave : ∀ inflater rest rest', (f inflater rest).2 ≠ .almostOk rest'

theorem natural_setTableSize : Natural setTableSize := by
  constructor
  . intro inflater rest bs
    rw [setTableSize, setTableSize]
    dsimp only
    split
    . rfl
    . rfl
  . intro inflater rest rest'
    rw [setTableSize]
    dsimp only
    split
    . exact Outcome.noConfusion
    . exact Outcome.noConfusion

theorem natural_setIndex : Natural setIndex := by
  constructor
  . intro inflater rest bs
    rw [setIndex, setIndex]
    dsimp only
    split
    . rfl
    . split
      . split
        . rfl
        . rfl
      . rfl
  . intro inflater rest rest'
    rw [setIndex]
    dsimp only
    split
    . exact Outcome.noConfusion
    . split
      . split
        . exact Outcome.noConfusion
        . exact Outcome.noConfusion
      . exact Outcome.noConfusion

theorem natural_newName : Natural newName :=
  ⟨fun _ _ _ => rfl, fun _ _ _ => Outcome.noConfusion⟩

theorem natural_newValue : Natural newValue :=
  ⟨fun _ _ _ => rfl, fun _ _ _ => Outcome.noConfusion⟩

theorem natural_commitValue : Natural commitValue := by
  constructor
  . intro inflater rest bs
    rw [commitValue, commitValue]
    split
    . rfl
    . rfl
  . intro inflater rest rest'
    rw [commitValue]
    split
    . exact Outcome.noConfusion
    . exact Outcome.noConfusion

theorem natural_checkValuelen
    : Natural fun inflater rest => ({ inflater with state := .checkValuelen }, .next rest false) :=
  ⟨fun _ _ _ => rfl, fun _ _ _ => Outcome.noConfusion⟩

section Integers

variable {pfx maxlen : Nat} {f : Inflater → Bytes → Inflater × Outcome}

theorem le_of_decodeLength {initial : BitVec 32} {shift : Nat} {d : Decoded}
    (hinitial : 0 < initial.toNat) (h : decodeLength wide initial shift b bs pfx = some d)
    : initial.toNat ≤ d.res.toNat := by
  rw [decodeLength_of_pos hinitial] at h
  exact le_of_decodeContinuation h

theorem Counting.ofNat (h : inflater.Counting)
    : BitVec.ofNat 32 inflater.left = 0 → inflater.shift = 0 := by
  intro hzero
  apply h.2
  have := congrArg BitVec.toNat hzero
  rw [BitVec.toNat_ofNat, Nat.mod_eq_of_lt h.1] at this
  exact this

inductive ReadLenMore (wide : WideShift) (c : UInt8) (cs : Bytes) (pfx maxlen : Nat)
    (r' : Inflater × Option (Bytes × Bool))
    : Inflater × Option (Bytes × Bool) → Prop where
  | none {inflater : Inflater} (h : r'.2 = none)
      : ReadLenMore wide c cs pfx maxlen r' (inflater, none)
  | fin {inflater : Inflater} {rest : Bytes} (h : r' = (inflater, some (rest ++ c :: cs, true)))
      : ReadLenMore wide c cs pfx maxlen r' (inflater, some (rest, true))
  | more {inflater : Inflater}
      (h : inflater.readLen wide c cs pfx maxlen = r'
        ∨ ((inflater.readLen wide c cs pfx maxlen).2 = none ∧ r'.2 = none))
      : ReadLenMore wide c cs pfx maxlen r' (inflater, some ([], false))

theorem Counting.readLen_append (c : UInt8) (cs : Bytes) (h : inflater.Counting)
    (hpos : 0 < pfx) (hpfx : pfx < 32)
    : ReadLenMore wide c cs pfx maxlen (inflater.readLen wide b (bs ++ c :: cs) pfx maxlen)
        (inflater.readLen wide b bs pfx maxlen) := by
  have happend := @decodeLength_append wide (.ofNat 32 inflater.left) inflater.shift
    pfx b c bs cs hpos hpfx h.ofNat
  rw [Inflater.readLen, Inflater.readLen, happend]
  cases hdecode : decodeLength wide (.ofNat 32 inflater.left) inflater.shift b bs pfx with
  | none => exact .none rfl
  | some d =>
    obtain ⟨hread, hle, hmore⟩ := decodeLength_read hpos hpfx h.ofNat hdecode
    dsimp only
    cases hfin : d.fin with
    | true =>
      rw [if_pos rfl]
      dsimp only
      split
      . exact .none rfl
      . refine .fin ?_
        rw [← List.cons_append, List.drop_append_of_le_length (by rw [List.length_cons]; exact hle),
          hfin]
    | false =>
      obtain ⟨hall, hres⟩ := hmore hfin
      rw [if_neg Bool.false_ne_true]
      have hof : BitVec.ofNat 32 d.res.toNat = d.res := by
        rw [BitVec.ofNat_toNat, BitVec.setWidth_eq]
      have hdrop : (b :: bs).drop d.read = [] := by
        rw [List.drop_eq_nil_iff, List.length_cons]
        omega
      by_cases hmax : d.res.toNat > maxlen
      . rw [if_pos hmax]
        refine .none ?_
        cases hdecode' : decodeLength wide d.res d.shift c cs pfx with
        | none => rfl
        | some d' =>
          have := le_of_decodeLength hres hdecode'
          rw [Option.map_some]
          dsimp only
          rw [if_pos (by omega)]
      . rw [if_neg hmax, hdrop]
        cases hdecode' : decodeLength wide d.res d.shift c cs pfx with
        | none =>
          refine .more (.inr ⟨?_, rfl⟩)
          rw [Inflater.readLen]
          dsimp only
          rw [hof, hdecode']
        | some d' =>
          rw [Option.map_some]
          dsimp only
          have hread' : Inflater.readLen wide
            { inflater with shift := d.shift, left := d.res.toNat } c cs pfx maxlen
              = if d'.res.toNat > maxlen then
                  ({ inflater with shift := d'.shift, left := d.res.toNat }, none)
                else
                  ({ inflater with shift := d'.shift, left := d'.res.toNat },
                    some ((c :: cs).drop d'.read, d'.fin)) := by
            rw [Inflater.readLen]
            dsimp only
            rw [hof, hdecode']
          refine .more ?_
          rw [hread']
          by_cases hmax' : d'.res.toNat > maxlen
          . rw [if_pos hmax', if_pos hmax']
            exact .inr ⟨rfl, rfl⟩
          . rw [if_neg hmax', if_neg hmax', Nat.add_comm, hall, ← List.length_cons (a := b),
              ← List.cons_append, ← List.drop_drop, List.drop_left]
            exact .inl rfl

theorem Counting.withLen_append (c : UInt8) (cs : Bytes) (h : inflater.Counting)
    (hpos : 0 < pfx) (hpfx : pfx < 32) (hf : Natural f)
    (hresume : ∀ left shift, inflateStep wide { inflater with left, shift } (c :: cs)
      = withLen wide { inflater with left, shift } c cs pfx maxlen f)
    : Extended wide (c :: cs) (inflater.withLen wide b (bs ++ c :: cs) pfx maxlen f)
        (inflater.withLen wide b bs pfx maxlen f) := by
  have hread := @Counting.readLen wide inflater b bs pfx maxlen h hpos hpfx
  have hmore := @Counting.readLen_append wide inflater bs b pfx maxlen c cs h hpos hpfx
  rw [withLen, withLen]
  generalize inflater.readLen wide b (bs ++ c :: cs) pfx maxlen = r' at hmore ⊢
  generalize inflater.readLen wide b bs pfx maxlen = r at hread hmore ⊢
  cases hread with
  | none =>
    obtain ⟨inflater', o⟩ := r'
    cases hmore with
    | none hnone =>
      subst hnone
      exact .fail rfl
  | @some left shift rest fin =>
    cases hmore with
    | fin hfin =>
      rw [hfin]
      exact .more (hf.more _ rest (c :: cs)) (hf.leave _ rest)
    | more hor =>
      refine .resume ?_
      rw [hresume, withLen]
      rcases hor with heq | ⟨hnone, hnone'⟩
      . rw [heq]
        exact .inl rfl
      . obtain ⟨inflater', o⟩ := r'
        generalize Inflater.readLen wide { inflater with shift, left } c cs pfx maxlen = r at hnone
        obtain ⟨inflater'', o'⟩ := r
        subst hnone hnone'
        exact .inr ⟨_, rfl, rfl⟩

end Integers

section Strings

variable {read : Inflater → Buf → Bytes → Except Error (Inflater × Buf × Bytes)}
  {Room : Inflater → Option Buf → Prop}
  {keep : Inflater → Buf → Inflater} {f : Inflater → Bytes → Inflater × Outcome} {buf : Buf}

structure ReaderMore (read : Inflater → Buf → Bytes → Except Error (Inflater × Buf × Bytes))
    (Room : Inflater → Option Buf → Prop)
    : Prop where
  whole : ∀ inflater buf bs bs', Room inflater (some buf) → inflater.left ≤ bs.length →
    read inflater buf (bs ++ bs') = (read inflater buf bs).map fun r => (r.1, r.2.1, r.2.2 ++ bs')
  part : ∀ inflater buf bs bs', Room inflater (some buf) → bs.length < inflater.left →
    read inflater buf (bs ++ bs') = read inflater buf bs >>= fun r => read r.1 r.2.1 bs'
  congr : ∀ inflater inflater' buf bs, inflater'.huffDecodeCtx = inflater.huffDecodeCtx →
    inflater'.left = inflater.left →
    read inflater' buf bs = (read inflater buf bs).map fun r =>
      ({ inflater' with huffDecodeCtx := r.1.huffDecodeCtx, left := r.1.left }, r.2)

structure Keeper (keep : Inflater → Buf → Inflater) : Prop where
  left : ∀ inflater buf, (keep inflater buf).left = inflater.left
  ctx : ∀ inflater buf, (keep inflater buf).huffDecodeCtx = inflater.huffDecodeCtx
  again : ∀ inflater buf buf' huffDecodeCtx left,
    keep { keep inflater buf with huffDecodeCtx, left } buf'
      = keep { inflater with huffDecodeCtx, left } buf'

theorem keeper_keepName : Keeper keepName :=
  ⟨fun _ _ => rfl, fun _ _ => rfl, fun _ _ _ _ _ => rfl⟩

theorem keeper_keepValue : Keeper keepValue :=
  ⟨fun _ _ => rfl, fun _ _ => rfl, fun _ _ _ _ _ => rfl⟩

theorem readerMore_read : ReaderMore Inflater.read Inflater.Room where
  whole := by
    rintro inflater buf bs bs' ⟨_, ⟨⟩, hroom⟩ hle
    rw [read_eq (by omega), read_eq (by omega), List.take_append_of_le_length hle,
      List.drop_append_of_le_length hle,
      List.length_append, Nat.sub_eq_zero_of_le hle,
      Nat.sub_eq_zero_of_le (Nat.le_trans hle (Nat.le_add_right _ _))]
    rfl
  part := by
    rintro inflater buf bs bs' ⟨_, ⟨⟩, hroom⟩ hlt
    rw [read_eq (by omega), read_eq (by omega), ok_bind]
    dsimp only
    rw [read_eq (by dsimp only; rw [List.length_append, List.length_take]; omega)]
    dsimp only
    rw [List.take_append, List.take_of_length_le (Nat.le_of_lt hlt), List.drop_append,
      List.drop_of_length_le (Nat.le_of_lt hlt), List.nil_append, List.length_append,
      Nat.sub_add_eq, List.append_assoc]
  congr := by
    intro inflater inflater' buf bs hctx hleft
    rw [Inflater.read, Inflater.read, hleft]
    dsimp only
    split
    . change Except.ok _ = Except.ok _
      rw [← hctx]
    . rfl

theorem readerMore_readHuff : ReaderMore Inflater.readHuff Inflater.RoomHuff where
  whole := by
    rintro inflater buf bs bs' ⟨_, s, ⟨⟩, hctx, hroom⟩ hle
    rw [readHuff_eq hctx (by omega), readHuff_eq hctx (by omega), List.take_append_of_le_length hle,
      List.drop_append_of_le_length hle, List.length_append, Nat.sub_eq_zero_of_le hle,
      Nat.sub_eq_zero_of_le (Nat.le_trans hle (Nat.le_add_right _ _))]
    cases huffDecoder.run s (nibbles (bs.take inflater.left)) with
    | none => rfl
    | some r =>
      dsimp only
      by_cases hpad : Padding (pathOf r.2)
      . rw [if_neg (fun h => h.2 hpad), if_neg (fun h => h.2 hpad)]
        rfl
      . rw [if_pos ⟨by omega, hpad⟩, if_pos ⟨hle, hpad⟩]
        rfl
  part := by
    rintro inflater buf bs bs' ⟨_, s, ⟨⟩, hctx, hroom⟩ hlt
    have htake : bs.take inflater.left = bs := List.take_of_length_le (Nat.le_of_lt hlt)
    rw [readHuff_eq hctx (by omega), readHuff_eq hctx (by omega), List.take_append,
      htake, nibbles_append, PrefixCode.Decoder.run_append]
    cases hrun : huffDecoder.run s (nibbles bs) with
    | none => rfl
    | some r =>
      obtain ⟨cs, s'⟩ := r
      have hcs : cs.length ≤ _ := PrefixCode.Decoder.length_run_le hrun
      rw [length_nibbles] at hcs
      rw [Option.bind_some]
      dsimp only
      rw [if_neg (fun h => by omega), ok_bind]
      dsimp only
      rw [readHuff_eq (s := s') rfl (by dsimp only; rw [List.length_append]; omega)]
      dsimp only
      cases huffDecoder.run s' (nibbles (bs'.take (inflater.left - bs.length))) with
      | none => rfl
      | some r' =>
        obtain ⟨cs', s''⟩ := r'
        rw [Option.map_some]
        dsimp only
        rw [List.length_append, Nat.sub_add_eq, List.append_assoc, List.drop_append,
          List.drop_of_length_le (Nat.le_of_lt hlt), List.nil_append]
        have hiff : inflater.left ≤ bs.length + bs'.length
          ↔ inflater.left - bs.length ≤ bs'.length := by omega
        simp only [hiff]
  congr := by
    intro inflater inflater' buf bs hctx hleft
    rw [readHuff, readHuff, hctx, hleft]
    dsimp only
    generalize huffDecode inflater.huffDecodeCtx buf _ _ = r
    cases r with
    | error e => rfl
    | ok r => rfl

theorem ReaderMore.withString (hreader : Reader read Room) (hmore : ReaderMore read Room)
    (hkeep : Keeper keep) (hf : Natural f) (hroom : Room inflater (some buf))
    (hresume : ∀ huffDecodeCtx left buf',
      inflateStep wide (keep { inflater with huffDecodeCtx, left } buf') bs'
      = Inflater.withString read (keep { inflater with huffDecodeCtx, left } buf')
        (some buf') keep bs' f)
    : Extended wide bs' (inflater.withString read (some buf) keep (bs ++ bs') f)
        (inflater.withString read (some buf) keep bs f) := by
  unfold Inflater.withString
  dsimp only
  by_cases hle : inflater.left ≤ bs.length
  . rw [hmore.whole inflater buf bs bs' hroom hle]
    rcases hreader.read inflater buf bs hroom with herror | ⟨huffDecodeCtx, buf', hok, hroom'⟩
    . rw [herror]
      exact .fail rfl
    . obtain ⟨_, ⟨⟩, hterminate⟩ := hreader.buf _ _ hroom'
      rw [hok, Except.map]
      dsimp only
      rw [hkeep.left]
      dsimp only
      rw [if_neg (by omega), if_neg (by omega), terminate, if_pos hterminate]
      exact .more (hf.more _ _ bs') (hf.leave _ _)
  . rw [hmore.part inflater buf bs bs' hroom (by omega)]
    rcases hreader.read inflater buf bs hroom with herror | ⟨huffDecodeCtx, buf', hok, hroom'⟩
    . rw [herror]
      exact .fail rfl
    . rw [hok, ok_bind]
      dsimp only
      rw [hkeep.left]
      dsimp only
      rw [if_pos (by omega), List.drop_of_length_le (by omega)]
      refine .resume ?_
      rw [hresume, Inflater.withString]
      dsimp only
      rw [hmore.congr _ _ buf' bs'
        (hkeep.ctx { inflater with huffDecodeCtx, left := inflater.left - bs.length } buf')
        (hkeep.left { inflater with huffDecodeCtx, left := inflater.left - bs.length } buf')]
      cases hread : read { inflater with huffDecodeCtx, left := inflater.left - bs.length }
        buf' bs' with
      | error e => exact .inr ⟨e, rfl, rfl⟩
      | ok r =>
        rw [Except.map]
        dsimp only
        rw [hkeep.again]
        rcases hreader.read _ buf' bs' hroom' with herror' | ⟨huffDecodeCtx', buf'', hok', -⟩
        . rw [hread] at herror'
          cases herror'
        . rw [hread] at hok'
          injection hok' with hok'
          rw [hok']
          exact .inl rfl

end Strings

theorem inflateOpcode_append (inflater : Inflater) (b : UInt8) (bs bs' : Bytes)
    : inflater.inflateOpcode b (bs ++ bs')
        = ((inflater.inflateOpcode b bs).1, (inflater.inflateOpcode b bs).2.more bs')
      ∧ ∀ rest, (inflater.inflateOpcode b bs).2 ≠ .almostOk rest := by
  rw [inflateOpcode, inflateOpcode]
  split
  . exact ⟨rfl, fun _ => Outcome.noConfusion⟩
  . split
    . split
      . exact ⟨rfl, fun _ => Outcome.noConfusion⟩
      . exact ⟨rfl, fun _ => Outcome.noConfusion⟩
    . split
      . exact ⟨rfl, fun _ => Outcome.noConfusion⟩
      . dsimp only
        split
        . exact ⟨rfl, fun _ => Outcome.noConfusion⟩
        . exact ⟨rfl, fun _ => Outcome.noConfusion⟩

theorem Consistent.inflateStep_append (c : UInt8) (cs : Bytes)
    (hconsistent : inflater.Consistent table) (hinput : bs ≠ [] ∨ inflater.AtString)
    : Extended wide (c :: cs) (inflater.inflateStep wide (bs ++ c :: cs))
        (inflater.inflateStep wide bs) := by
  have hbyte (f : UInt8 → Bytes → Inflater × Outcome) (hstring : ¬inflater.AtString)
      (hf : ∀ b bs, Extended wide (c :: cs) (f b (bs ++ c :: cs)) (f b bs))
      : Extended wide (c :: cs) (inflater.withByte f (bs ++ c :: cs)) (inflater.withByte f bs) := by
    cases bs with
    | nil => exact absurd (hinput.resolve_left (fun hne => hne rfl)) hstring
    | cons b bs => exact hf b bs
  have hopcode
      : ∀ b bs, Extended wide (c :: cs) (inflater.inflateOpcode b (bs ++ c :: cs))
          (inflater.inflateOpcode b bs) :=
    fun b bs => .more (inflateOpcode_append inflater b bs _).1
    (inflateOpcode_append inflater b bs (c :: cs)).2
  rw [AtString] at hbyte
  rw [Consistent] at hconsistent
  unfold Inflater.inflateStep
  cases hstate : inflater.state with
  | expectTableSize => exact hbyte _ (by simp [hstate]) hopcode
  | inflateStart => exact hbyte _ (by simp [hstate]) hopcode
  | opcode => exact hbyte _ (by simp [hstate]) hopcode
  | readTableSize =>
    rw [hstate] at hconsistent
    refine hbyte _ (by simp [hstate]) fun b bs => ?_
    refine Counting.withLen_append c cs hconsistent (by omega) (by omega) natural_setTableSize
      fun left shift => ?_
    rw [Inflater.inflateStep]
    dsimp only
    rw [hstate]
    rfl
  | readIndex =>
    rw [hstate] at hconsistent
    refine hbyte _ (by simp [hstate]) fun b bs => ?_
    refine Counting.withLen_append c cs hconsistent.1 ?_ ?_ natural_setIndex fun left shift => ?_
    . split
      . omega
      . split <;> omega
    . split
      . omega
      . split <;> omega
    . rw [Inflater.inflateStep]
      dsimp only
      rw [hstate]
      rfl
  | newnameCheckNamelen =>
    refine hbyte _ (by simp [hstate]) fun b bs => ?_
    exact Counting.withLen_append c cs (counting_zero rfl rfl) (by omega) (by omega)
      natural_newName fun _ _ => rfl
  | newnameReadNamelen =>
    rw [hstate] at hconsistent
    refine hbyte _ (by simp [hstate]) fun b bs => ?_
    refine Counting.withLen_append c cs hconsistent.2 (by omega) (by omega)
      natural_newName fun left shift => ?_
    rw [Inflater.inflateStep]
    dsimp only
    rw [hstate]
    rfl
  | newnameReadNamehuff =>
    rw [hstate] at hconsistent
    obtain ⟨buf, hbuf, -⟩ := reader_readHuff.buf _ _ hconsistent.2
    have hroom := hconsistent.2
    rw [hbuf] at hroom
    dsimp only
    rw [inflateReadName, inflateReadName, hbuf]
    refine ReaderMore.withString reader_readHuff readerMore_readHuff keeper_keepName
      natural_checkValuelen hroom
      fun huffDecodeCtx left buf' => ?_
    rw [Inflater.inflateStep, keepName]
    dsimp only
    rw [hstate]
    rfl
  | newnameReadName =>
    rw [hstate] at hconsistent
    obtain ⟨buf, hbuf, -⟩ := reader_read.buf _ _ hconsistent.2
    have hroom := hconsistent.2
    rw [hbuf] at hroom
    dsimp only
    rw [inflateReadName, inflateReadName, hbuf]
    refine ReaderMore.withString reader_read readerMore_read keeper_keepName
      natural_checkValuelen hroom
      fun huffDecodeCtx left buf' => ?_
    rw [Inflater.inflateStep, keepName]
    dsimp only
    rw [hstate]
    rfl
  | checkValuelen =>
    refine hbyte _ (by simp [hstate]) fun b bs => ?_
    exact Counting.withLen_append c cs (counting_zero rfl rfl) (by omega) (by omega)
      natural_newValue fun _ _ => rfl
  | readValuelen =>
    rw [hstate] at hconsistent
    refine hbyte _ (by simp [hstate]) fun b bs => ?_
    refine Counting.withLen_append c cs hconsistent.2 (by omega) (by omega) natural_newValue
      fun left shift => ?_
    rw [Inflater.inflateStep]
    dsimp only
    rw [hstate]
    rfl
  | readValuehuff =>
    rw [hstate] at hconsistent
    obtain ⟨buf, hbuf, -⟩ := reader_readHuff.buf _ _ hconsistent.2
    have hroom := hconsistent.2
    rw [hbuf] at hroom
    dsimp only
    rw [inflateReadValue, inflateReadValue, hbuf]
    refine ReaderMore.withString reader_readHuff readerMore_readHuff keeper_keepValue
      natural_commitValue hroom
      fun huffDecodeCtx left buf' => ?_
    rw [Inflater.inflateStep, keepValue]
    dsimp only
    rw [hstate]
    rfl
  | readValue =>
    rw [hstate] at hconsistent
    obtain ⟨buf, hbuf, -⟩ := reader_read.buf _ _ hconsistent.2
    have hroom := hconsistent.2
    rw [hbuf] at hroom
    dsimp only
    rw [inflateReadValue, inflateReadValue, hbuf]
    refine ReaderMore.withString reader_read readerMore_read keeper_keepValue
      natural_commitValue hroom
      fun huffDecodeCtx left buf' => ?_
    rw [Inflater.inflateStep, keepValue]
    dsimp only
    rw [hstate]
    rfl

-- What the loop comes to with `bs'` behind the input, if it comes to the last argument without
inductive EndsMore (wide : WideShift) (bs' : Bytes) (inflater : Inflater) (bs : Bytes) (busy : Bool)
    : Inflater × Outcome → Prop where
  | stop {inflater' : Inflater} {o : Outcome} (ho : o = .next [] false ∨ o = .almostOk [])
      (h : ∀ r, Ends wide inflater' bs' false r → ∃ r', Alike r r'
        ∧ Ends wide inflater (bs ++ bs') busy r')
      : EndsMore wide bs' inflater bs busy (inflater', o)
  | emit {inflater' : Inflater} {rest : Bytes} {nv : HdNv}
      (h : Ends wide inflater (bs ++ bs') busy (inflater', .emit (rest ++ bs') nv))
      : EndsMore wide bs' inflater bs busy (inflater', .emit rest nv)
  | fail {inflater' inflater'' : Inflater} {e : Error}
      (h : Ends wide inflater (bs ++ bs') busy (inflater'', .fail e))
      : EndsMore wide bs' inflater bs busy (inflater', .fail e)

theorem Ends.alike {busy : Bool} {r : Inflater × Outcome} {c : UInt8} {cs : Bytes}
    (h : Ends wide inflater' (c :: cs) false r) (hinput : bs ++ c :: cs ≠ [] ∨ busy = true)
    (halike : Alike (inflater'.inflateStep wide (c :: cs))
      (inflater.inflateStep wide (bs ++ c :: cs)))
    : ∃ r', Alike r r' ∧ Ends wide inflater (bs ++ c :: cs) busy r' := by
  rcases halike with heq | ⟨e, hfail, hfail'⟩
  . refine ⟨r, .inl rfl, ?_⟩
    cases h with
    | next _ hstep rest => exact .next hinput (heq.symm.trans hstep) rest
    | leave _ hstep hleave => exact .leave hinput (heq.symm.trans hstep) hleave
  . refine ⟨_, ?_, .leave hinput rfl (fun _ _ => by rw [hfail']; exact Outcome.noConfusion)⟩
    cases h with
    | next _ hstep rest =>
      rw [hstep] at hfail
      cases hfail
    | leave _ hstep hleave =>
      rw [hstep] at hfail
      exact .inr ⟨e, hfail, hfail'⟩

theorem append_ne_nil {busy : Bool} {c : UInt8} {cs : Bytes} : bs ++ c :: cs ≠ [] ∨ busy = true :=
  .inl fun hnil => by cases (List.append_eq_nil_iff.mp hnil).2

theorem Ends.append {busy : Bool} {r : Inflater × Outcome} (c : UInt8) (cs : Bytes)
    (h : Ends wide inflater bs busy r) (hkeeps : inflater.Keeps table)
    (hconsistent : inflater.Consistent table) (hbusy : busy = true → inflater.AtString)
    : EndsMore wide (c :: cs) inflater bs busy r := by
  induction h generalizing table with
  | done => exact .stop (.inl rfl) fun r hr => ⟨r, .inl rfl, hr⟩
  | @next inflater inflater' bs bs' busy busy' r hinput hstep _ ih =>
    have hstepped := hkeeps.inflateStep wide hconsistent (hinput.imp_right hbusy)
    have hextended := @Consistent.inflateStep_append wide inflater table bs c cs
      hconsistent (hinput.imp_right hbusy)
    rw [hstep] at hstepped hextended
    have hmore : inflater.inflateStep wide (bs ++ c :: cs)
      = (inflater', .next (bs' ++ c :: cs) busy') := by
      cases hextended with
      | more h _ => exact h
    cases hstepped with
    | next hkeeps' hconsistent' _ _ _ hbusy' _ =>
      cases ih hkeeps' hconsistent' fun hb => .inr (.inr (hbusy' hb)) with
      | stop ho h =>
        refine .stop ho fun r hr => ?_
        obtain ⟨r', halike, hends⟩ := h r hr
        exact ⟨r', halike, .next append_ne_nil hmore hends⟩
      | emit h => exact .emit (.next append_ne_nil hmore h)
      | fail h => exact .fail (.next append_ne_nil hmore h)
  | @leave inflater bs busy r hinput hstep hleave =>
    have hextended := @Consistent.inflateStep_append wide inflater table bs c cs
      hconsistent (hinput.imp_right hbusy)
    rw [hstep] at hextended
    cases hextended with
    | more h hmore =>
      obtain ⟨inflater', o⟩ := r
      cases o with
      | next bs' busy' => exact absurd rfl (hleave bs' busy')
      | almostOk rest => exact absurd rfl (hmore rest)
      | emit rest nv => exact .emit (.leave append_ne_nil h fun _ _ => Outcome.noConfusion)
      | fail e => exact .fail (.leave append_ne_nil h fun _ _ => Outcome.noConfusion)
    | @fail inflater' e h =>
      have hpair : inflater.inflateStep wide (bs ++ c :: cs)
          = ((inflater.inflateStep wide (bs ++ c :: cs)).1, .fail e) := Prod.ext rfl h
      exact .fail (.leave append_ne_nil hpair fun _ _ => Outcome.noConfusion)
    | resume halike => exact .stop (.inr rfl) fun r hr => hr.alike append_ne_nil halike

section Calls

variable {r : Inflater × Outcome} {final : Bool} {e : Error}

-- The end of `nghttp2_hd_inflate_hd_nv`
def returned (bs : Bytes) (inFinal : Bool) : Inflater × Outcome → Inflater × Except Error Inflated
  | (inflater, .next rest _) =>
    if inFinal then
      if inflater.state ≠ .opcode ∧ inflater.state ≠ .inflateStart then
        inflater.fail .headerComp
      else
        (inflater, .ok ⟨bs.length - rest.length, none, true⟩)
    else
      (inflater, .ok ⟨bs.length - rest.length, none, false⟩)
  | (inflater, .almostOk rest) =>
    if inFinal then
      inflater.fail .headerComp
    else
      (inflater, .ok ⟨bs.length - rest.length, none, false⟩)
  | (inflater, .emit rest nv) => (inflater, .ok ⟨bs.length - rest.length, some nv, false⟩)
  | (inflater, .fail e) => inflater.fail e

theorem Ends.inflateHdNv (hends : Ends wide inflater bs false r) (h : inflater.Sound table)
    (hbad : inflater.ctx.bad = false) (final : Bool)
    : inflater.inflateHdNv wide bs final = returned bs final r := by
  rw [Inflater.inflateHdNv, hbad, if_neg Bool.false_ne_true, (h.inflateLoop_eq_iff hbad).mpr hends]
  obtain ⟨inflater', o⟩ := r
  cases o with
  | next rest busy => rfl
  | almostOk rest => rfl
  | emit rest nv => rfl
  | fail e => rfl

theorem Sound.exists_ends (wide : WideShift) (bs : Bytes) (h : inflater.Sound table)
    (hbad : inflater.ctx.bad = false)
    : ∃ r, Ends wide inflater bs false r ∧ Looped inflater bs r := by
  have hwork : inflater.work bs < 2 * bs.length + 3 := by
    have := rank_le inflater.state
    rw [work]
    omega
  exact ⟨_, (h.inflateLoop_eq_iff hbad).mp rfl,
    h.toKeeps.inflateLoop wide (h.consistent hbad) (fun hb => by cases hb) hwork⟩

def shifted (n : Nat) (r : Inflater × Except Error Inflated) : Inflater × Except Error Inflated :=
  (r.1, r.2.map fun x => { x with processed := n + x.processed })

theorem Looped.returned_append (h : Looped inflater bs' r)
    : returned (bs ++ bs') final r = shifted bs.length (returned bs' final r) := by
  cases h with
  | next =>
    rw [returned, returned, List.length_append]
    cases final with
    | false => rfl
    | true =>
      rw [if_pos rfl, if_pos rfl]
      split
      . rfl
      . rfl
  | almostOk =>
    rw [returned, returned, List.length_append]
    cases final with
    | false => rfl
    | true => rfl
  | emit _ _ _ hlength =>
    rw [returned, returned, List.length_append, Nat.add_sub_assoc hlength]
    rfl
  | fail => rfl

theorem returned_fail (bs : Bytes) (h : r.2 = .fail e) : (returned bs final r).2 = .error e := by
  obtain ⟨inflater, o⟩ := r
  dsimp only at h
  rw [h]
  rfl

-- Two calls of which the second one goes on with what the first one has left over
inductive CallMore (wide : WideShift) (final : Bool) (inflater : Inflater) (bs bs' : Bytes)
    : Inflater × Except Error Inflated → Prop where
  | all {inflater' : Inflater}
      (h : inflater.inflateHdNv wide (bs ++ bs') final
        = shifted bs.length (inflater'.inflateHdNv wide bs' final)
        ∨ ∃ e, (inflater'.inflateHdNv wide bs' final).2 = .error e
            ∧ (inflater.inflateHdNv wide (bs ++ bs') final).2 = .error e)
      : CallMore wide final inflater bs bs' (inflater', .ok ⟨bs.length, none, false⟩)
  | emit {inflater' : Inflater} {n : Nat} {nv : HdNv} (hn : n ≤ bs.length)
      (h : inflater.inflateHdNv wide (bs ++ bs') final = (inflater', .ok ⟨n, some nv, false⟩))
      : CallMore wide final inflater bs bs' (inflater', .ok ⟨n, some nv, false⟩)
  | error {inflater' : Inflater} {e : Error}
      (h : (inflater.inflateHdNv wide (bs ++ bs') final).2 = .error e)
      : CallMore wide final inflater bs bs' (inflater', .error e)

theorem EndsMore.callMore (c : UInt8) (cs : Bytes) (final : Bool)
    (hmore : EndsMore wide (c :: cs) inflater bs false r) (hends : Ends wide inflater bs false r)
    (hlooped : Looped inflater bs r) (h : inflater.Sound table) (hbad : inflater.ctx.bad = false)
    : CallMore wide final inflater bs (c :: cs) (inflater.inflateHdNv wide bs false) := by
  have hcall := hends.inflateHdNv h hbad false
  cases hmore with
  | @stop inflater' o ho hall =>
    have hstop : inflater.inflateHdNv wide bs false
      = (inflater', .ok ⟨bs.length, none, false⟩) := by
      rw [hcall]
      rcases ho with rfl | rfl
      . rfl
      . rfl
    have hreturned := h.inflateHdNv wide bs false
    rw [hstop] at hreturned ⊢
    cases hreturned with
    | all hsound' hbad' =>
      obtain ⟨r, hends', hlooped'⟩ := hsound'.exists_ends wide (c :: cs) (hbad'.trans hbad)
      obtain ⟨r', halike, hends''⟩ := hall r hends'
      refine .all ?_
      rw [hends'.inflateHdNv hsound' (hbad'.trans hbad), hends''.inflateHdNv h hbad]
      rcases halike with rfl | ⟨e, hfail, hfail'⟩
      . exact .inl hlooped'.returned_append
      . exact .inr ⟨e, returned_fail _ hfail, returned_fail _ hfail'⟩
  | emit hends' =>
    rw [hcall]
    cases hlooped with
    | emit _ _ _ hlength =>
      refine .emit (Nat.sub_le _ _) ?_
      rw [hends'.inflateHdNv h hbad, returned, List.length_append, List.length_append,
        Nat.add_sub_add_right]
  | fail hends' =>
    rw [hcall]
    refine .error ?_
    rw [hends'.inflateHdNv h hbad]
    rfl

-- A call without any input only looks at the state.
theorem Looped.callMore_nil (final : Bool) (hlooped : Looped inflater bs r)
    (hends : Ends wide inflater bs false r) (h : inflater.Sound table)
    (hbad : inflater.ctx.bad = false)
    : CallMore wide final inflater bs [] (inflater.inflateHdNv wide bs false) := by
  have hcall := hends.inflateHdNv h hbad false
  have hcall' := hends.inflateHdNv h hbad final
  rw [hcall]
  cases hlooped with
  | @next inflater' table' hkeeps hconsistent hbad' =>
    have hsound' : inflater'.Sound table' := ⟨hkeeps, fun _ => hconsistent⟩
    refine .all (.inl ?_)
    rw [List.append_nil, hcall', Ends.done.inflateHdNv hsound' (hbad'.trans hbad),
      ← (Looped.next hkeeps hconsistent
      rfl).returned_append, List.append_nil]
  | @almostOk inflater' table' hkeeps hconsistent hbad' hfield =>
    have hsound' : inflater'.Sound table' := ⟨hkeeps, fun _ => hconsistent⟩
    refine .all (.inl ?_)
    rw [List.append_nil, hcall', Ends.done.inflateHdNv hsound' (hbad'.trans hbad),
      returned, returned]
    cases final with
    | false => rfl
    | true =>
      rw [AtField, not_or] at hfield
      rw [if_pos rfl, if_pos rfl, if_pos ⟨hfield.2, hfield.1⟩]
      rfl
  | emit =>
    refine .emit (Nat.sub_le _ _) ?_
    rw [List.append_nil, hcall']
    rfl
  | fail =>
    refine .error ?_
    rw [List.append_nil, hcall']
    rfl

/--
What one call would have done with more input is what the next call does with the rest.
-/
theorem Sound.inflateHdNv_append (wide : WideShift) (bs bs' : Bytes) (final : Bool)
    (h : inflater.Sound table)
    : CallMore wide final inflater bs bs' (inflater.inflateHdNv wide bs false) := by
  cases hbad : inflater.ctx.bad with
  | true =>
    have hfail (bs : Bytes) (final : Bool) : inflater.inflateHdNv wide bs final
      = (inflater, .error .headerComp) := by
      rw [Inflater.inflateHdNv, hbad, if_pos rfl]
    rw [hfail]
    exact .error (by rw [hfail])
  | false =>
    obtain ⟨r, hends, hlooped⟩ := h.exists_ends wide bs hbad
    cases bs' with
    | cons c cs =>
      exact (hends.append c cs h.toKeeps (h.consistent hbad) (fun hb => by cases hb)).callMore
        c cs final hends hlooped h hbad
    | nil => exact hlooped.callMore_nil final hends h hbad

/--
`inflateFields` without a bound for the number of calls.
-/
inductive Feeds (wide : WideShift) (final : Bool)
    : Inflater → Bytes → Inflater × List HdNv × Option Error → Prop where
  | all {inflater inflater' : Inflater} {bs : Bytes}
      (h : inflater.inflateHdNv wide bs final = (inflater', .ok ⟨bs.length, none, final⟩))
      : Feeds wide final inflater bs (if final then inflater'.endHeaders else inflater', [], none)
  | emit {inflater inflater' inflater'' : Inflater} {bs : Bytes} {n : Nat}
      {nv : HdNv} {nvs : List HdNv} {e : Option Error}
      (h : inflater.inflateHdNv wide bs final = (inflater', .ok ⟨n, some nv, false⟩))
      (rest : Feeds wide final inflater' (bs.drop n) (inflater'', nvs, e))
      : Feeds wide final inflater bs (inflater'', nv :: nvs, e)
  | error {inflater inflater' : Inflater} {bs : Bytes} {e : Error}
      (h : inflater.inflateHdNv wide bs final = (inflater', .error e))
      : Feeds wide final inflater bs (inflater', [], some e)

def callsLeft (inflater : Inflater) (bs : Bytes) : Nat :=
  bs.length + if inflater.AtValue then 2 else 1

theorem Sound.feeds {n : Nat} (h : inflater.Sound table) (hn : inflater.callsLeft bs ≤ n)
    : Feeds wide final inflater bs (inflateFields wide final n inflater bs)
      ∧ ∃ table', (inflateFields wide final n inflater bs).1.Sound table' := by
  induction n generalizing inflater table bs with
  | zero =>
    rw [callsLeft] at hn
    split at hn
    . omega
    . omega
  | succ n ih =>
    have hreturned := h.inflateHdNv wide bs final
    rw [inflateFields]
    generalize hcall : inflater.inflateHdNv wide bs final = r at hreturned
    cases hreturned with
    | @all inflater' table' hsound hbad hfield =>
      dsimp only
      cases final with
      | false =>
        rw [if_neg Bool.false_ne_true, if_pos ⟨rfl, List.drop_length⟩]
        exact ⟨.all hcall, table', hsound⟩
      | true =>
        rw [if_pos rfl]
        exact ⟨.all hcall, table', hsound.endHeaders⟩
    | @emit inflater' table' nv k hsound hbad hstate hk hpos =>
      have hleft : inflater'.callsLeft (bs.drop k) ≤ n := by
        rw [callsLeft] at hn ⊢
        rw [if_neg (by simp [AtValue, hstate]), List.length_drop]
        split at hn
        . omega
        . next hnot =>
          have := hpos hnot
          omega
      obtain ⟨hfeeds, hsound'⟩ := ih hsound hleft
      dsimp only
      rw [if_neg Bool.false_ne_true, if_neg (fun hne => by cases hne.1)]
      exact ⟨.emit hcall hfeeds, hsound'⟩
    | error hsound hbad => exact ⟨.error hcall, _, hsound⟩

theorem Feeds.unique {r r' : Inflater × List HdNv × Option Error}
    (h : Feeds wide final inflater bs r) (h' : Feeds wide final inflater bs r')
    : r = r' := by
  induction h generalizing r' with
  | all h =>
    cases h' with
    | all h'' =>
      rw [h] at h''
      cases h''
      rfl
    | emit h'' =>
      rw [h] at h''
      cases h''
    | error h'' =>
      rw [h] at h''
      cases h''
  | emit h _ ih =>
    cases h' with
    | all h'' =>
      rw [h] at h''
      cases h''
    | emit h'' rest =>
      rw [h] at h''
      cases h''
      cases ih rest
      rfl
    | error h'' =>
      rw [h] at h''
      cases h''
  | error h =>
    cases h' with
    | all h'' =>
      rw [h] at h''
      cases h''
    | emit h'' =>
      rw [h] at h''
      cases h''
    | error h'' =>
      rw [h] at h''
      cases h''
      rfl

theorem Sound.inflateHeaderBlock (wide : WideShift) (bs : Bytes) (final : Bool)
    (h : inflater.Sound table)
    : Feeds wide final inflater bs (inflater.inflateHeaderBlock wide bs final)
      ∧ ∃ table', (inflater.inflateHeaderBlock wide bs final).1.Sound table' := by
  refine h.feeds ?_
  rw [callsLeft]
  split
  . omega
  . omega

theorem Sound.inflateHeaderBlock_eq {r : Inflater × List HdNv × Option Error}
    (h : inflater.Sound table) (hfeeds : Feeds wide final inflater bs r)
    : inflater.inflateHeaderBlock wide bs final = r :=
  (h.inflateHeaderBlock wide bs final).1.unique hfeeds

structure Joined (wide : WideShift) (final : Bool) (inflater : Inflater) (bs bs' : Bytes)
    (r : Inflater × List HdNv × Option Error)
    : Prop where
  error : ∀ e, r.2.2 = some e → ∃ inflater',
  Feeds wide final inflater (bs ++ bs') (inflater', r.2.1, some e)
  ok : r.2.2 = none → ∀ r', Feeds wide final r.1 bs' r' →
    ∃ inflater', Feeds wide final inflater (bs ++ bs') (inflater', r.2.1 ++ r'.2.1, r'.2.2)
      ∧ (r'.2.2 = none → inflater' = r'.1)

theorem CallMore.joined {bs' : Bytes}
    (h : CallMore wide final inflater bs bs' (inflater', .ok ⟨bs.length, none, false⟩))
    : Joined wide final inflater bs bs' (inflater', [], none) := by
  refine ⟨(fun e he => by cases he), fun _ r' hr' => ?_⟩
  cases h with
  | all hor =>
    cases hr' with
    | @all _ inflater'' _ h' =>
      rcases hor with heq | ⟨e, herror, -⟩
      . rw [h'] at heq
        refine ⟨_, @Feeds.all wide final inflater inflater'' (bs ++ bs') ?_, fun _ => rfl⟩
        rw [heq, List.length_append]
        rfl
      . rw [h'] at herror
        cases herror
    | @emit _ inflater'' inflater₃ _ n nv nvs e h' rest =>
      rcases hor with heq | ⟨e, herror, -⟩
      . rw [h'] at heq
        refine ⟨inflater₃, .emit heq ?_, fun _ => rfl⟩
        rw [← List.drop_drop, List.drop_left]
        exact rest
      . rw [h'] at herror
        cases herror
    | @error _ inflater'' _ e h' =>
      refine ⟨(inflater.inflateHdNv wide (bs ++ bs') final).1, .error (Prod.ext rfl ?_),
        fun hnone => by cases hnone⟩
      rcases hor with heq | ⟨e', herror, herror'⟩
      . rw [heq, h']
        rfl
      . rw [h'] at herror
        cases herror
        exact herror'

theorem Feeds.append {r : Inflater × List HdNv × Option Error} (bs' : Bytes) (final : Bool)
    (hfeeds : Feeds wide false inflater bs r) (h : inflater.Sound table)
    : Joined wide final inflater bs bs' r := by
  induction hfeeds generalizing table with
  | @all inflater inflater' bs hcall =>
    have hmore := h.inflateHdNv_append wide bs bs' final
    rw [hcall] at hmore
    exact hmore.joined
  | @emit inflater inflater' inflater'' bs n nv nvs e hcall rest ih =>
    have hmore := h.inflateHdNv_append wide bs bs' final
    have hreturned := h.inflateHdNv wide bs false
    rw [hcall] at hmore hreturned
    cases hmore with
    | emit hn hcall' =>
      cases hreturned with
      | emit hsound =>
        have hjoined := ih hsound
        have hdrop : (bs ++ bs').drop n = bs.drop n ++ bs' := List.drop_append_of_le_length hn
        refine ⟨fun e he => ?_, fun hnone r' hr' => ?_⟩
        . obtain ⟨i, hi⟩ := hjoined.error e he
          exact ⟨i, .emit hcall' (by rw [hdrop]; exact hi)⟩
        . obtain ⟨i, hi, heq⟩ := hjoined.ok hnone r' hr'
          exact ⟨i, .emit hcall' (by rw [hdrop]; exact hi), heq⟩
  | @error inflater inflater' bs e hcall =>
    have hmore := h.inflateHdNv_append wide bs bs' final
    rw [hcall] at hmore
    cases hmore with
    | error herror =>
      refine ⟨fun e' he => ?_, fun hnone => by cases hnone⟩
      cases he
      exact ⟨_, .error (Prod.ext rfl herror)⟩

end Calls

-- The pieces of a header block, of which `last` is the one with which `final` is set
def inflatePieces (wide : WideShift) (last : Bytes)
    : Inflater → List Bytes → Inflater × List HdNv × Option Error
  | inflater, [] => inflater.inflateHeaderBlock wide last true
  | inflater, bs :: pieces =>
    match inflater.inflateHeaderBlock wide bs false with
    | (inflater, nvs, some e) => (inflater, nvs, some e)
    | (inflater, nvs, none) =>
      let (inflater, nvs', e) := inflatePieces wide last inflater pieces
      (inflater, nvs ++ nvs', e)

theorem Sound.inflatePieces (wide : WideShift) (last : Bytes) (pieces : List Bytes)
    (h : inflater.Sound table)
    : (inflatePieces wide last inflater pieces).2
        = (inflater.inflateHeaderBlock wide (pieces.flatten ++ last) true).2
      ∧ ((inflatePieces wide last inflater pieces).2.2 = none →
          inflatePieces wide last inflater pieces
            = inflater.inflateHeaderBlock wide (pieces.flatten ++ last) true) := by
  induction pieces generalizing inflater table with
  | nil => exact ⟨rfl, fun _ => rfl⟩
  | cons bs pieces ih =>
    obtain ⟨hfeeds, table', hsound⟩ := h.inflateHeaderBlock wide bs false
    have hjoined := hfeeds.append (pieces.flatten ++ last) true h
    rw [List.flatten_cons, List.append_assoc, Inflater.inflatePieces]
    generalize inflater.inflateHeaderBlock wide bs false = r at hjoined hsound ⊢
    obtain ⟨inflater', nvs, e⟩ := r
    cases e with
    | some e =>
      obtain ⟨inflater'', hwhole⟩ := hjoined.error e rfl
      rw [h.inflateHeaderBlock_eq hwhole]
      exact ⟨rfl, fun hnone => by cases hnone⟩
    | none =>
      obtain ⟨hsame, hequal⟩ := ih hsound
      obtain ⟨inflater'', hwhole, hok⟩ :=
        hjoined.ok rfl _ (hsound.inflateHeaderBlock wide (pieces.flatten ++ last) true).1
      rw [h.inflateHeaderBlock_eq hwhole]
      dsimp only at hsame hequal hok ⊢
      rw [← hsame]
      refine ⟨rfl, fun hnone => ?_⟩
      rw [hok (by rw [← hsame]; exact hnone), ← hequal hnone]

/--
It makes no difference in which pieces an inflater gets a header block, whatever it has been used
for before: the same fields are there, the same error if there is one, and otherwise the inflater is
the same as well.
-/
theorem inflatePieces_eq (wide : WideShift) (cs : List InflateCall)
    (pieces : List Bytes) (last : Bytes)
    : (inflatePieces wide last (Inflater.init.calls wide cs).1 pieces).2
        = ((Inflater.init.calls wide cs).1.inflateHeaderBlock wide (pieces.flatten ++ last) true).2
      ∧ ((inflatePieces wide last (Inflater.init.calls wide cs).1 pieces).2.2 = none →
          inflatePieces wide last (Inflater.init.calls wide cs).1 pieces
            = (Inflater.init.calls wide cs).1.inflateHeaderBlock wide (pieces.flatten ++ last)
              true) := by
  obtain ⟨⟨table, hsound⟩, -⟩ := sound_init.calls wide cs
  exact hsound.inflatePieces wide last pieces

end Inflater
end Hpack
end Fsw
