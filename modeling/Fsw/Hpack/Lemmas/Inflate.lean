import Fsw.Hpack.Impl.Inflate
import Fsw.Hpack.Lemmas.Block

namespace Fsw
namespace Hpack

open Fifo (total fit)

namespace Inflater

variable {wide : WideShift} {inflater inflater' : Inflater} {table : Table} {b : UInt8}
  {bs rest : Bytes} {fin : Bool}
  {pfx maxlen : Nat}

structure Keeps (inflater : Inflater) (table : Table) : Prop where
  has : inflater.ctx.Has none table.dyn
  max : inflater.ctx.hdTableBufsizeMax = table.max
  total_le : total Field.room table.dyn ≤ table.max
  max_lt : table.max < 2 ^ 64
  indexed : inflater.indexRequired = true → inflater.noIndex = false

def Counting (inflater : Inflater) : Prop :=
  inflater.left < 2 ^ 32 ∧ (inflater.left = 0 → inflater.shift = 0)

def Named (inflater : Inflater) (table : Table) : Prop :=
  (inflater.opcode = .newname ∧ inflater.namebuf.isSome)
    ∨ (inflater.opcode = .indname ∧ inflater.index < table.dyn.length + STATIC_TABLE_LENGTH)

-- There is room for what is left of a string, and for the `\0` behind it.
def RoomHuff (inflater : Inflater) (buf : Option Buf) : Prop :=
  ∃ buf' s, buf = some buf' ∧ inflater.huffDecodeCtx = ctxOf s
    ∧ buf'.data.length + 2 * inflater.left < buf'.cap

def Room (inflater : Inflater) (buf : Option Buf) : Prop :=
  ∃ buf', buf = some buf' ∧ buf'.data.length + inflater.left < buf'.cap

def Consistent (inflater : Inflater) (table : Table) : Prop :=
  match inflater.state with
  | .expectTableSize | .inflateStart | .opcode => True
  | .readTableSize => inflater.Counting
  | .readIndex => inflater.Counting ∧ (inflater.opcode = .indexed ∨ inflater.opcode = .indname)
  | .newnameCheckNamelen => inflater.opcode = .newname
  | .newnameReadNamelen => inflater.opcode = .newname ∧ inflater.Counting
  | .newnameReadNamehuff => inflater.opcode = .newname ∧ inflater.RoomHuff inflater.namebuf
  | .newnameReadName => inflater.opcode = .newname ∧ inflater.Room inflater.namebuf
  | .checkValuelen => inflater.Named table
  | .readValuelen => inflater.Named table ∧ inflater.Counting
  | .readValuehuff => inflater.Named table ∧ inflater.RoomHuff inflater.valuebuf
  | .readValue => inflater.Named table ∧ inflater.Room inflater.valuebuf

def rank : InflateState → Nat
  | .expectTableSize | .inflateStart | .opcode | .newnameReadNamehuff | .newnameReadName => 1
  | _ => 0

def work (inflater : Inflater) (bs : Bytes) : Nat :=
  2 * bs.length + rank inflater.state

def AtField (inflater : Inflater) : Prop :=
  inflater.state = .inflateStart ∨ inflater.state = .opcode

def AtValue (inflater : Inflater) : Prop :=
  inflater.state = .readValuehuff ∨ inflater.state = .readValue

instance (inflater : Inflater) : Decidable inflater.AtField :=
  inferInstanceAs (Decidable (_ ∨ _))

instance (inflater : Inflater) : Decidable inflater.AtValue :=
  inferInstanceAs (Decidable (_ ∨ _))

/--
What one iteration leads to. After a failure only the table is of interest.
-/
inductive Stepped (inflater : Inflater) (bs : Bytes) : Inflater × Outcome → Prop where
  | next {inflater' : Inflater} {table : Table} {rest : Bytes} {busy : Bool}
      (hkeeps : inflater'.Keeps table) (hconsistent : inflater'.Consistent table)
      (hbad : inflater'.ctx.bad = inflater.ctx.bad) (hwork : inflater'.work rest < inflater.work bs)
      (hlength : rest.length ≤ bs.length) (hbusy : busy = true → inflater'.AtValue)
      (hvalue : inflater'.AtValue → rest.length < bs.length)
      : Stepped inflater bs (inflater', .next rest busy)
  | almostOk {inflater' : Inflater} {table : Table} (hkeeps : inflater'.Keeps table)
      (hconsistent : inflater'.Consistent table) (hbad : inflater'.ctx.bad = inflater.ctx.bad)
      (hfield : ¬inflater'.AtField)
      : Stepped inflater bs (inflater', .almostOk [])
  | emit {inflater' : Inflater} {table : Table} {rest : Bytes} {nv : HdNv}
      (hkeeps : inflater'.Keeps table) (hstate : inflater'.state = .opcode)
      (hbad : inflater'.ctx.bad = inflater.ctx.bad) (hlength : rest.length ≤ bs.length)
      (hvalue : ¬inflater.AtValue → rest.length < bs.length)
      : Stepped inflater bs (inflater', .emit rest nv)
  | fail {inflater' : Inflater} {table : Table} (hkeeps : inflater'.Keeps table)
      : Stepped inflater bs (inflater', .fail .headerComp)

theorem Keeps.congr (h : inflater.Keeps table) (hctx : inflater'.ctx = inflater.ctx)
    (hrequired : inflater'.indexRequired = inflater.indexRequired)
    (hno : inflater'.noIndex = inflater.noIndex)
    : inflater'.Keeps table := by
  obtain ⟨hhas, hmax, htotal, hlt, hindexed⟩ := h
  rw [← hctx] at hhas hmax
  rw [← hrequired, ← hno] at hindexed
  exact ⟨hhas, hmax, htotal, hlt, hindexed⟩

theorem rank_le (state : InflateState) : rank state ≤ 1 := by
  cases state <;> decide

theorem work_lt {bs rest : Bytes} (inflater inflater' : Inflater) (h : rest.length < bs.length)
    : inflater'.work rest < inflater.work bs := by
  have := rank_le inflater'.state
  rw [work, work]
  omega

inductive ReadLen (inflater : Inflater) (bs : Bytes) (maxlen : Nat)
    : Inflater × Option (Bytes × Bool) → Prop where
  | none {shift : Nat} : ReadLen inflater bs maxlen ({ inflater with shift }, none)
  | some {left shift : Nat} {rest : Bytes} {fin : Bool} (hleft : left ≤ maxlen)
      (hlt : left < 2 ^ 32) (hlength : rest.length < bs.length)
      (hmore : fin = false → rest = [] ∧ 0 < left)
      : ReadLen inflater bs maxlen ({ inflater with shift, left }, some (rest, fin))

theorem Counting.readLen (h : inflater.Counting) (hpos : 0 < pfx) (hpfx : pfx < 32)
    : ReadLen inflater (b :: bs) maxlen (inflater.readLen wide b bs pfx maxlen) := by
  have hshift : BitVec.ofNat 32 inflater.left = 0 → inflater.shift = 0 := by
    intro hzero
    apply h.2
    have := congrArg BitVec.toNat hzero
    rw [BitVec.toNat_ofNat, Nat.mod_eq_of_lt h.1] at this
    exact this
  rw [Inflater.readLen]
  cases hdecode : decodeLength wide (.ofNat 32 inflater.left) inflater.shift b bs pfx with
  | none => exact .none
  | some d =>
    obtain ⟨hread, hle, hmore⟩ := decodeLength_read hpos hpfx hshift hdecode
    dsimp only
    split
    . exact .none
    . next hmax =>
      refine .some (Nat.le_of_not_lt hmax) d.res.isLt ?_ ?_
      . rw [List.length_drop, List.length_cons]
        omega
      . intro hfin
        obtain ⟨hall, hres⟩ := hmore hfin
        refine ⟨?_, hres⟩
        rw [List.drop_eq_nil_iff, List.length_cons]
        omega

theorem counting_zero (hleft : inflater.left = 0) (hshift : inflater.shift = 0)
    : inflater.Counting :=
  ⟨by rw [hleft]; exact Nat.two_pow_pos 32, fun _ => hshift⟩

theorem indexed_first (b : UInt8)
    : decide (b &&& 0x40 ≠ 0) = true → decide (b &&& 0xf0 = 0x10) = false := by
  rw [decide_eq_true_eq, decide_eq_false_iff_not]
  intro h h'
  apply h
  have : b &&& 0x40 = (b &&& 0xf0) &&& 0x40 := by
    rw [UInt8.and_assoc]
    rfl
  rw [this, h']
  rfl

theorem Keeps.inflateOpcode (h : inflater.Keeps table) (hrank : rank inflater.state = 1)
    : Stepped inflater (b :: bs) (inflater.inflateOpcode b bs) := by
  have hwork : inflater.work (b :: bs) = 2 * (b :: bs).length + 1 := by rw [work, hrank]
  have hreadIndex (opcode : Opcode) (indexRequired noIndex : Bool)
      (hopcode : opcode = .indexed ∨ opcode = .indname)
      (hindexed : indexRequired = true → noIndex = false)
      : Stepped inflater (b :: bs)
          ({ inflater with
            opcode, state := .readIndex, left := 0, shift := 0, indexRequired, noIndex },
            .next (b :: bs) false) := by
    refine .next ⟨h.has, h.max, h.total_le, h.max_lt, hindexed⟩ ⟨counting_zero rfl rfl, hopcode⟩
      rfl ?_ (Nat.le_refl _)
      (fun hbusy => by cases hbusy) (fun hvalue => by simp [AtValue] at hvalue)
    rw [hwork]
    exact Nat.lt_succ_self _
  unfold Inflater.inflateOpcode
  dsimp only
  split
  . exact .fail h
  . split
    . split
      . exact .fail h
      . refine .next (h.congr rfl rfl rfl) (counting_zero rfl rfl) rfl ?_ (Nat.le_refl _)
          (fun hbusy => by cases hbusy)
          (fun hvalue => by simp [AtValue] at hvalue)
        rw [hwork]
        exact Nat.lt_succ_self _
    . split
      . exact hreadIndex .indexed inflater.indexRequired inflater.noIndex (.inl rfl) h.indexed
      . split
        . exact .next ⟨h.has, h.max, h.total_le, h.max_lt, indexed_first b⟩ rfl rfl
            (work_lt _ _ (Nat.lt_succ_self _))
            (Nat.le_succ _) (fun hbusy => by cases hbusy) (fun _ => Nat.lt_succ_self _)
        . exact hreadIndex .indname _ _ (.inr rfl) (indexed_first b)

theorem Keeps.shrink (max : Nat) (h : inflater.Keeps table) (hlt : max < 2 ^ 64)
    : ∃ ctx, { inflater.ctx with hdTableBufsizeMax := max }.shrinkTableSize none = .ok (ctx, none)
        ∧ ctx.bad = inflater.ctx.bad ∧ { inflater with ctx }.Keeps (table.resize max) := by
  obtain ⟨ents, hlists⟩ := h.has
  have hstores := hlists.stores
  have hhas : { inflater.ctx with hdTableBufsizeMax := max }.Has none table.dyn :=
    ⟨ents, ⟨hstores.ring, hstores.bufsize, hstores.seq, hstores.addr, hstores.fresh, hstores.map⟩,
      hlists.nv, hlists.hash⟩
  obtain ⟨ctx, map, hshrink, hhas', hshrunk, hsome⟩ := hhas.shrinkTableSize
  have hmap : map = none := Option.isSome_eq_false_iff.mp hsome |> Option.isNone_iff_eq_none.mp
  subst hmap
  exact ⟨ctx, hshrink, hshrunk.bad, hhas', hshrunk.max, Fifo.total_fit_le _ _ _, hlt, h.indexed⟩

section Integers

variable {f : Inflater → Bytes → Inflater × Outcome}

theorem Keeps.withLen (h : inflater.Keeps table) (hcounting : inflater.Counting)
    (hpos : 0 < pfx) (hpfx : pfx < 32)
    (hpart : ∀ left shift, { inflater with left, shift }.Counting
      → { inflater with left, shift }.Consistent table)
    (hfield : ¬inflater.AtField)
    (hf : ∀ left shift rest, left ≤ maxlen → left < 2 ^ 32 → rest.length < (b :: bs).length →
      Stepped inflater (b :: bs) (f { inflater with left, shift } rest))
    : Stepped inflater (b :: bs) (inflater.withLen wide b bs pfx maxlen f) := by
  have hread := @Counting.readLen wide inflater b bs pfx maxlen hcounting hpos hpfx
  rw [Inflater.withLen]
  generalize inflater.readLen wide b bs pfx maxlen = r at hread
  cases hread with
  | none => exact .fail (h.congr rfl rfl rfl)
  | @some left shift rest fin hleft hlt hlength hmore =>
    cases fin with
    | false =>
      obtain ⟨rfl, hpos⟩ := hmore rfl
      exact .almostOk (h.congr rfl rfl rfl)
        (hpart left shift ⟨hlt, fun hzero => absurd hzero (Nat.ne_of_gt hpos)⟩) rfl
        hfield
    | true => exact hf left shift rest hleft hlt hlength

theorem Keeps.inflateReadTableSize (h : inflater.Keeps table)
    (hstate : inflater.state = .readTableSize) (hcounting : inflater.Counting)
    : Stepped inflater (b :: bs) (inflater.inflateReadTableSize wide b bs) := by
  refine h.withLen hcounting (by omega) (by omega) ?_ (by simp [AtField, hstate]) ?_
  . intro left shift hcounting'
    rw [Consistent, hstate]
    exact hcounting'
  . intro left shift rest _ hlt hlength
    obtain ⟨ctx, hshrink, hbad, hkeeps⟩ := h.shrink left (by omega)
    rw [setTableSize]
    dsimp only
    rw [hshrink]
    exact .next (hkeeps.congr rfl rfl rfl) trivial hbad (work_lt _ _ hlength) (Nat.le_of_lt hlength)
      (fun hbusy => by cases hbusy) (fun _ => hlength)

theorem lookup_of_lt {dyn : List Field} {idx : Nat} (h : idx < dyn.length + STATIC_TABLE_LENGTH)
    : ∃ f, lookup dyn idx = some f := by
  have hlt : idx < (staticFields ++ dyn).length := by
    rw [List.length_append, length_staticFields]
    omega
  exact ⟨_, List.getElem?_eq_getElem hlt⟩

theorem Keeps.inflateReadIndex (h : inflater.Keeps table) (hstate : inflater.state = .readIndex)
    (hcounting : inflater.Counting)
    (hopcode : inflater.opcode = .indexed ∨ inflater.opcode = .indname)
    : Stepped inflater (b :: bs) (inflater.inflateReadIndex wide b bs) := by
  have hpfx : ∃ pfx, 0 < pfx ∧ pfx < 32
      ∧ (if inflater.opcode = .indexed then 7 else if inflater.indexRequired then 6 else 4)
        = pfx := by
    refine ⟨_, ?_, ?_, rfl⟩
    . split
      . omega
      . split <;> omega
    . split
      . omega
      . split <;> omega
  obtain ⟨pfx, hpos, hlt32, hpfx⟩ := hpfx
  rw [Inflater.inflateReadIndex, hpfx]
  refine h.withLen hcounting hpos hlt32 ?_ (by simp [AtField, hstate]) ?_
  . intro left shift hcounting'
    rw [Consistent, hstate]
    exact ⟨hcounting', hopcode⟩
  . intro left shift rest hleft _ hlength
    rw [setIndex]
    dsimp only
    split
    . exact .fail (h.congr rfl rfl rfl)
    . next hleft0 =>
      rw [h.has.getMaxIndex] at hleft
      obtain ⟨f, hf⟩ := @lookup_of_lt table.dyn (left - 1) (by omega)
      split
      . rw [commitIndexed]
        dsimp only
        rw [h.has.tableGet hf]
        exact .emit (h.congr rfl rfl rfl) rfl rfl (Nat.le_of_lt hlength) (fun _ => hlength)
      . next hindexed =>
        have hindname := hopcode.resolve_left hindexed
        refine .next (h.congr rfl rfl rfl) (.inr ⟨hindname, ?_⟩) rfl (work_lt _ _ hlength)
          (Nat.le_of_lt hlength)
          (fun hbusy => by cases hbusy) (fun _ => hlength)
        dsimp only
        omega

theorem roomHuff_newBuf (h : inflater.huffmanEncoded = true)
    (hctx : inflater'.huffDecodeCtx = inflater.newHuffDecodeCtx)
    (hleft : inflater'.left = inflater.left)
    : inflater'.RoomHuff (some inflater.newBuf) := by
  refine ⟨_, 0, rfl, ?_, ?_⟩
  . rw [hctx, newHuffDecodeCtx, if_pos h, init_eq_ctxOf]
  . rw [newBuf, if_pos h, hleft]
    dsimp only
    rw [List.length_nil]
    omega

theorem room_newBuf (h : ¬inflater.huffmanEncoded = true) (hleft : inflater'.left = inflater.left)
    : inflater'.Room (some inflater.newBuf) := by
  refine ⟨_, rfl, ?_⟩
  rw [newBuf, if_neg h, hleft]
  dsimp only
  rw [List.length_nil]
  omega

theorem Keeps.inflateReadNamelen (h : inflater.Keeps table)
    (hstate : inflater.state = .newnameReadNamelen) (hopcode : inflater.opcode = .newname)
    (hcounting : inflater.Counting)
    : Stepped inflater (b :: bs) (inflater.inflateReadNamelen wide b bs) := by
  refine h.withLen hcounting (by omega) (by omega) ?_ (by simp [AtField, hstate]) ?_
  . intro left shift hcounting'
    rw [Consistent, hstate]
    exact ⟨hopcode, hcounting'⟩
  . intro left shift rest _ _ hlength
    refine .next (h.congr rfl rfl rfl) ?_ rfl (work_lt _ _ hlength) (Nat.le_of_lt hlength)
      (fun hbusy => by cases hbusy)
      (fun _ => hlength)
    rw [Consistent]
    dsimp only
    by_cases hhuff : inflater.huffmanEncoded = true
    . rw [if_pos hhuff]
      exact ⟨hopcode, roomHuff_newBuf hhuff rfl rfl⟩
    . rw [if_neg hhuff]
      exact ⟨hopcode, room_newBuf hhuff rfl⟩

theorem Keeps.inflateReadValuelen (h : inflater.Keeps table)
    (hstate : inflater.state = .readValuelen) (hnamed : inflater.Named table)
    (hcounting : inflater.Counting)
    : Stepped inflater (b :: bs) (inflater.inflateReadValuelen wide b bs) := by
  refine h.withLen hcounting (by omega) (by omega) ?_ (by simp [AtField, hstate]) ?_
  . intro left shift hcounting'
    rw [Consistent, hstate]
    exact ⟨hnamed, hcounting'⟩
  . intro left shift rest _ _ hlength
    refine .next (h.congr rfl rfl rfl) ?_ rfl (work_lt _ _ hlength) (Nat.le_of_lt hlength)
      ?_ (fun _ => hlength)
    . rw [Consistent]
      dsimp only
      by_cases hhuff : inflater.huffmanEncoded = true
      . rw [if_pos hhuff]
        exact ⟨hnamed, roomHuff_newBuf hhuff rfl rfl⟩
      . rw [if_neg hhuff]
        exact ⟨hnamed, room_newBuf hhuff rfl⟩
    . intro _
      rw [AtValue]
      dsimp only
      split
      . exact .inl rfl
      . exact .inr rfl

end Integers

theorem read_eq {buf : Buf} (h : buf.data.length + inflater.left ≤ buf.cap)
    : inflater.read buf bs
        = .ok ({ inflater with left := inflater.left - bs.length },
            { buf with data := buf.data ++ bs.take inflater.left }, bs.drop inflater.left) := by
  rw [Inflater.read]
  dsimp only
  rw [if_pos (by omega)]
  rcases Nat.le_total bs.length inflater.left with hle | hle
  . rw [Nat.min_eq_left hle, List.take_length, List.take_of_length_le hle, List.drop_length,
      List.drop_of_length_le hle]
  . rw [Nat.min_eq_right hle, Nat.sub_self, Nat.sub_eq_zero_of_le hle]

theorem readHuff_eq {buf : Buf} {s : Fin 256} (hctx : inflater.huffDecodeCtx = ctxOf s)
    (h : buf.data.length + 2 * inflater.left ≤ buf.cap)
    : inflater.readHuff buf bs
        = match huffDecoder.run s (nibbles (bs.take inflater.left)) with
          | none => .error .headerComp
          | some (cs, s') =>
            if inflater.left ≤ bs.length ∧ ¬Padding (pathOf s') then
              .error .headerComp
            else
              .ok ({ inflater with huffDecodeCtx := ctxOf s', left := inflater.left - bs.length },
                { buf with data := buf.data ++ cs }, bs.drop inflater.left) := by
  have hsrc : (if bs.length ≥ inflater.left then bs.take inflater.left else bs)
    = bs.take inflater.left := by
    split
    . rfl
    . rw [List.take_of_length_le (by omega)]
  have hlength : (bs.take inflater.left).length = min inflater.left bs.length := List.length_take
  have hleft : inflater.left - min inflater.left bs.length = inflater.left - bs.length := by omega
  have hdrop : bs.drop (min inflater.left bs.length) = bs.drop inflater.left := by
    rcases Nat.le_total bs.length inflater.left with hle | hle
    . rw [Nat.min_eq_right hle, List.drop_length, List.drop_of_length_le hle]
    . rw [Nat.min_eq_left hle]
  rw [readHuff]
  dsimp only
  rw [hsrc, hlength, hleft, hdrop, hctx, huffDecode_eq (by rw [hlength]; omega)]
  cases huffDecoder.run s (nibbles (bs.take inflater.left)) with
  | none => rfl
  | some r =>
    dsimp only
    by_cases hfail : inflater.left ≤ bs.length ∧ ¬Padding (pathOf r.2)
    . rw [if_pos hfail, if_pos (by rw [decide_eq_true_eq]; exact hfail), error_bind]
    . rw [if_neg hfail, if_neg (by rw [decide_eq_true_eq]; exact hfail), ok_bind]
      rfl

/--
How the bytes of a string are read: as many as there are, but not more than are left of it.
-/
structure Reader (read : Inflater → Buf → Bytes → Except Error (Inflater × Buf × Bytes))
    (Room : Inflater → Option Buf → Prop)
    : Prop where
  read : ∀ inflater buf bs, Room inflater (some buf) →
    read inflater buf bs = .error .headerComp
      ∨ ∃ huffDecodeCtx buf',
          read inflater buf bs
            = .ok ({ inflater with huffDecodeCtx, left := inflater.left - bs.length }, buf',
              bs.drop inflater.left)
          ∧ Room { inflater with huffDecodeCtx, left := inflater.left - bs.length } (some buf')
  buf : ∀ inflater buf, Room inflater buf → ∃ buf', buf = some buf' ∧ buf'.data.length < buf'.cap
  congr : ∀ inflater inflater' buf, Room inflater buf
    → inflater'.huffDecodeCtx = inflater.huffDecodeCtx →
    inflater'.left = inflater.left → Room inflater' buf

theorem reader_read : Reader read Room where
  read := by
    rintro inflater buf bs ⟨_, ⟨⟩, hroom⟩
    refine .inr ⟨inflater.huffDecodeCtx, _, read_eq (by omega), _, rfl, ?_⟩
    dsimp only
    rw [List.length_append, List.length_take]
    omega
  buf := by
    rintro inflater buf ⟨buf', rfl, hroom⟩
    exact ⟨buf', rfl, by omega⟩
  congr := by
    rintro inflater inflater' buf ⟨buf', rfl, hroom⟩ - hleft
    exact ⟨buf', rfl, by rw [hleft]; exact hroom⟩

theorem reader_readHuff : Reader readHuff RoomHuff where
  read := by
    rintro inflater buf bs ⟨_, s, ⟨⟩, hctx, hroom⟩
    rw [readHuff_eq hctx (by omega)]
    cases hrun : huffDecoder.run s (nibbles (bs.take inflater.left)) with
    | none => exact .inl rfl
    | some r =>
      obtain ⟨cs, s'⟩ := r
      dsimp only
      split
      . exact .inl rfl
      . have hcs : cs.length ≤ _ := PrefixCode.Decoder.length_run_le hrun
        rw [length_nibbles, List.length_take] at hcs
        refine .inr ⟨ctxOf s', _, rfl, _, s', rfl, rfl, ?_⟩
        dsimp only
        rw [List.length_append]
        omega
  buf := by
    rintro inflater buf ⟨buf', s, rfl, -, hroom⟩
    exact ⟨buf', rfl, by omega⟩
  congr := by
    rintro inflater inflater' buf ⟨buf', s, rfl, hctx, hroom⟩ hctx' hleft
    exact ⟨buf', s, rfl, hctx'.trans hctx, by rw [hleft]; exact hroom⟩

def commitTable (inflater : Inflater) (table : Table) (f : Field) : Table :=
  if inflater.indexRequired then table.add f .withIndexing else table

theorem Keeps.addNv (f : Field) (h : inflater.Keeps table)
    : ∃ ctx, inflater.addNv { f.toHdNv with flags := inflater.flags } = .ok { inflater with ctx }
        ∧ { inflater with ctx }.Keeps (inflater.commitTable table f)
        ∧ ctx.bad = inflater.ctx.bad := by
  rw [Inflater.addNv, commitTable]
  by_cases hrequired : inflater.indexRequired = true
  . have hflags : { f.toHdNv with flags := inflater.flags } = f.toHdNv := by
      rw [flags, h.indexed hrequired]
      rfl
    obtain ⟨ctx, map, hadd, hhas, hmax, hbad, hsome⟩ :=
      @Context.Has.addHdTableIncremental _ _ _ f 0 h.has (by rw [h.max]; exact h.max_lt)
        (fun hmap => by cases hmap)
    have hmap : map = none := by
      cases map with
      | none => rfl
      | some m => cases hsome
    subst hmap
    rw [if_pos hrequired, if_pos hrequired, hflags, hadd]
    refine ⟨ctx, rfl, ⟨?_, hmax.trans h.max, Fifo.total_fit_le _ _ _, h.max_lt, h.indexed⟩, hbad⟩
    rw [h.max] at hhas
    exact hhas
  . rw [if_neg hrequired, if_neg hrequired]
    exact ⟨inflater.ctx, rfl, h, rfl⟩

theorem Keeps.commitNewname {namebuf valuebuf : Buf} (h : inflater.Keeps table)
    (hname : inflater.namebuf = some namebuf)
    (hvalue : inflater.valuebuf = some valuebuf)
    : ∃ ctx, inflater.commitNewname
          = .ok ({ inflater with ctx, namebuf := none, valuebuf := none },
              { Field.toHdNv (namebuf.data, valuebuf.data) with flags := inflater.flags })
        ∧ { inflater with ctx }.Keeps (inflater.commitTable table (namebuf.data, valuebuf.data))
        ∧ ctx.bad = inflater.ctx.bad := by
  obtain ⟨ctx, hadd, hkeeps, hbad⟩ := h.addNv (namebuf.data, valuebuf.data)
  refine ⟨ctx, ?_, hkeeps, hbad⟩
  rw [Inflater.commitNewname, hname, hvalue]
  dsimp only
  rw [show (⟨namebuf.data, valuebuf.data, lookupToken namebuf.data, inflater.flags⟩ : HdNv)
    = { Field.toHdNv (namebuf.data, valuebuf.data) with flags := inflater.flags } from rfl, hadd]
  rfl

theorem Keeps.commitIndname {valuebuf : Buf} {f : Field} (h : inflater.Keeps table)
    (hf : lookup table.dyn inflater.index = some f) (hvalue : inflater.valuebuf = some valuebuf)
    : ∃ ctx, inflater.commitIndname
          = .ok ({ inflater with ctx, valuebuf := none },
              { Field.toHdNv (f.1, valuebuf.data) with flags := inflater.flags })
        ∧ { inflater with ctx }.Keeps (inflater.commitTable table (f.1, valuebuf.data))
        ∧ ctx.bad = inflater.ctx.bad := by
  obtain ⟨ctx, hadd, hkeeps, hbad⟩ := h.addNv (f.1, valuebuf.data)
  refine ⟨ctx, ?_, hkeeps, hbad⟩
  rw [Inflater.commitIndname, hvalue]
  dsimp only
  rw [h.has.tableGet hf, ok_bind]
  rw [show ({ f.toHdNv with value := valuebuf.data, flags := inflater.flags } : HdNv)
    = { Field.toHdNv (f.1, valuebuf.data) with flags := inflater.flags } from rfl, hadd]
  rfl

theorem Keeps.commit {valuebuf : Buf} (h : inflater.Keeps table) (hnamed : inflater.Named table)
    (hvalue : inflater.valuebuf = some valuebuf)
    : ∃ inflater' nv table', inflater.commit = .ok (inflater', nv) ∧ inflater'.Keeps table'
        ∧ inflater'.ctx.bad = inflater.ctx.bad := by
  rw [Inflater.commit]
  rcases hnamed with ⟨hopcode, hname⟩ | ⟨hopcode, hindex⟩
  . obtain ⟨namebuf, hname⟩ := Option.isSome_iff_exists.mp hname
    obtain ⟨ctx, hcommit, hkeeps, hbad⟩ := h.commitNewname hname hvalue
    rw [if_pos hopcode]
    exact ⟨_, _, _, hcommit, hkeeps.congr rfl rfl rfl, hbad⟩
  . obtain ⟨f, hf⟩ := lookup_of_lt hindex
    obtain ⟨ctx, hcommit, hkeeps, hbad⟩ := h.commitIndname hf hvalue
    rw [if_neg (by rw [hopcode]; exact Opcode.noConfusion)]
    exact ⟨_, _, _, hcommit, hkeeps.congr rfl rfl rfl, hbad⟩

section Strings

variable {read : Inflater → Buf → Bytes → Except Error (Inflater × Buf × Bytes)}
  {Room : Inflater → Option Buf → Prop}
  {keep : Inflater → Buf → Inflater} {f : Inflater → Bytes → Inflater × Outcome} {buf : Option Buf}

theorem Reader.withString (hreader : Reader read Room) (h : inflater.Keeps table)
    (hroom : Room inflater buf) (hleft : ∀ inflater buf, (keep inflater buf).left = inflater.left)
    (hpart : ∀ huffDecodeCtx buf',
      Room { inflater with huffDecodeCtx, left := inflater.left - bs.length } (some buf') →
      Stepped inflater bs
        (keep { inflater with huffDecodeCtx, left := inflater.left - bs.length } buf',
          .almostOk []))
    (hf : ∀ huffDecodeCtx buf', inflater.left ≤ bs.length →
      Stepped inflater bs
        (f (keep { inflater with huffDecodeCtx, left := inflater.left - bs.length } buf')
          (bs.drop inflater.left)))
    : Stepped inflater bs (inflater.withString read buf keep bs f) := by
  obtain ⟨buf, rfl, -⟩ := hreader.buf _ _ hroom
  rw [Inflater.withString]
  dsimp only
  rcases hreader.read inflater buf bs hroom with herror | ⟨huffDecodeCtx, buf', hok, hroom'⟩
  . rw [herror]
    exact .fail h
  . obtain ⟨_, ⟨⟩, hterminate⟩ := hreader.buf _ _ hroom'
    rw [hok]
    dsimp only
    rw [hleft]
    dsimp only
    split
    . rw [List.drop_of_length_le (by omega)]
      exact hpart huffDecodeCtx buf' hroom'
    . rw [terminate, if_pos hterminate]
      exact hf huffDecodeCtx buf' (by omega)

theorem Reader.inflateReadName (hreader : Reader read Room) (h : inflater.Keeps table)
    (hopcode : inflater.opcode = .newname) (hroom : Room inflater inflater.namebuf)
    (hrank : rank inflater.state = 1) (hfield : ¬inflater.AtField)
    (hpart : ∀ inflater' : Inflater, inflater'.state = inflater.state
      → inflater'.opcode = .newname →
      Room inflater' inflater'.namebuf → inflater'.Consistent table)
    : Stepped inflater bs (inflater.inflateReadName read bs) := by
  refine hreader.withString h hroom (fun _ _ => rfl) ?_ ?_
  . intro huffDecodeCtx buf' hroom'
    exact .almostOk (h.congr rfl rfl rfl) (hpart _ rfl hopcode (hreader.congr _ _ _ hroom' rfl rfl))
      rfl hfield
  . intro huffDecodeCtx buf' _
    refine .next (h.congr rfl rfl rfl) (.inl ⟨hopcode, rfl⟩) rfl ?_ ?_ (fun hbusy => by cases hbusy)
      (fun hvalue => by simp [AtValue] at hvalue)
    . rw [work, work, hrank, List.length_drop]
      change 2 * (bs.length - inflater.left) + 0 < _
      omega
    . rw [List.length_drop]
      omega

theorem Reader.inflateReadValue (hreader : Reader read Room) (h : inflater.Keeps table)
    (hnamed : inflater.Named table) (hroom : Room inflater inflater.valuebuf)
    (hvalue : inflater.AtValue)
    (hpart : ∀ inflater' : Inflater, inflater'.state = inflater.state → inflater'.Named table →
      Room inflater' inflater'.valuebuf → inflater'.Consistent table)
    : Stepped inflater bs (inflater.inflateReadValue read bs) := by
  refine hreader.withString h hroom (fun _ _ => rfl) ?_ ?_
  . intro huffDecodeCtx buf' hroom'
    refine .almostOk (h.congr rfl rfl rfl) (hpart _ rfl hnamed (hreader.congr _ _ _ hroom' rfl rfl))
      rfl ?_
    change ¬inflater.AtField
    rcases hvalue with hstate | hstate
    . simp [AtField, hstate]
    . simp [AtField, hstate]
  . intro huffDecodeCtx buf' _
    have hkeeps : (keepValue { inflater with
        huffDecodeCtx, left := inflater.left - bs.length } buf').Keeps table := h.congr rfl rfl rfl
    obtain ⟨inflater', nv, table', hcommit, hkeeps', hbad⟩ := hkeeps.commit hnamed rfl
    rw [commitValue, hcommit]
    refine .emit (hkeeps'.congr rfl rfl rfl) rfl hbad ?_ (fun hnot => absurd hvalue hnot)
    rw [List.length_drop]
    omega

end Strings

-- In the states in which a string is read, there need not be any input.
def AtString (inflater : Inflater) : Prop :=
  inflater.state = .newnameReadNamehuff ∨ inflater.state = .newnameReadName
    ∨ inflater.state = .readValuehuff
    ∨ inflater.state = .readValue

theorem Stepped.congr {r : Inflater × Outcome} (h : Stepped inflater' bs r)
    (hbad : inflater'.ctx.bad = inflater.ctx.bad)
    (hrank : rank inflater'.state ≤ rank inflater.state) (hvalue : ¬inflater'.AtValue)
    : Stepped inflater bs r := by
  cases h with
  | next hkeeps hconsistent hbad' hwork hlength hbusy hvalue' =>
    refine .next hkeeps hconsistent (hbad'.trans hbad) ?_ hlength hbusy hvalue'
    rw [work, work] at hwork ⊢
    omega
  | almostOk hkeeps hconsistent hbad' hfield =>
    exact .almostOk hkeeps hconsistent (hbad'.trans hbad) hfield
  | emit hkeeps hstate hbad' hlength hvalue' =>
    exact .emit hkeeps hstate (hbad'.trans hbad) hlength (fun _ => hvalue' hvalue)
  | fail hkeeps => exact .fail hkeeps

/--
One iteration of the loop does not fail in any other way than by refusing the input.
-/
theorem Keeps.inflateStep (wide : WideShift) (h : inflater.Keeps table)
    (hconsistent : inflater.Consistent table) (hinput : bs ≠ [] ∨ inflater.AtString)
    : Stepped inflater bs (inflater.inflateStep wide bs) := by
  have hbyte (f : UInt8 → Bytes → Inflater × Outcome) (hstring : ¬inflater.AtString)
      (hf : ∀ b bs', Stepped inflater (b :: bs') (f b bs'))
      : Stepped inflater bs (inflater.withByte f bs) := by
    cases bs with
    | nil => exact absurd (hinput.resolve_left (fun hne => hne rfl)) hstring
    | cons b bs => exact hf b bs
  rw [AtString] at hbyte
  rw [Consistent] at hconsistent
  rw [Inflater.inflateStep]
  cases hstate : inflater.state with
  | expectTableSize =>
    exact hbyte _ (by simp [hstate]) fun b bs => h.inflateOpcode (by rw [hstate]; rfl)
  | inflateStart =>
    exact hbyte _ (by simp [hstate]) fun b bs => h.inflateOpcode (by rw [hstate]; rfl)
  | opcode => exact hbyte _ (by simp [hstate]) fun b bs => h.inflateOpcode (by rw [hstate]; rfl)
  | readTableSize =>
    rw [hstate] at hconsistent
    exact hbyte _ (by simp [hstate]) fun b bs => h.inflateReadTableSize hstate hconsistent
  | readIndex =>
    rw [hstate] at hconsistent
    exact hbyte _ (by simp [hstate]) fun b bs =>
      h.inflateReadIndex hstate hconsistent.1 hconsistent.2
  | newnameCheckNamelen =>
    rw [hstate] at hconsistent
    refine hbyte _ (by simp [hstate]) fun b bs => ?_
    have hkeeps : { inflater.setHuffmanEncoded b with
        state := .newnameReadNamelen, left := 0, shift := 0 }.Keeps table := h.congr rfl rfl rfl
    exact (hkeeps.inflateReadNamelen rfl hconsistent (counting_zero rfl rfl)).congr
      rfl (Nat.zero_le _) (by simp [AtValue])
  | newnameReadNamelen =>
    rw [hstate] at hconsistent
    exact hbyte _ (by simp [hstate]) fun b bs =>
      h.inflateReadNamelen hstate hconsistent.1 hconsistent.2
  | newnameReadNamehuff =>
    rw [hstate] at hconsistent
    refine reader_readHuff.inflateReadName h hconsistent.1 hconsistent.2 (by rw [hstate]; rfl)
      (by simp [AtField, hstate]) ?_
    intro inflater' hstate' hopcode hroom
    rw [Consistent, hstate', hstate]
    exact ⟨hopcode, hroom⟩
  | newnameReadName =>
    rw [hstate] at hconsistent
    refine reader_read.inflateReadName h hconsistent.1 hconsistent.2 (by rw [hstate]; rfl)
      (by simp [AtField, hstate]) ?_
    intro inflater' hstate' hopcode hroom
    rw [Consistent, hstate', hstate]
    exact ⟨hopcode, hroom⟩
  | checkValuelen =>
    rw [hstate] at hconsistent
    refine hbyte _ (by simp [hstate]) fun b bs => ?_
    have hkeeps : { inflater.setHuffmanEncoded b with
        state := .readValuelen, left := 0, shift := 0 }.Keeps table := h.congr rfl rfl rfl
    exact (hkeeps.inflateReadValuelen rfl hconsistent (counting_zero rfl rfl)).congr
      rfl (Nat.zero_le _) (by simp [AtValue])
  | readValuelen =>
    rw [hstate] at hconsistent
    exact hbyte _ (by simp [hstate]) fun b bs =>
      h.inflateReadValuelen hstate hconsistent.1 hconsistent.2
  | readValuehuff =>
    rw [hstate] at hconsistent
    refine reader_readHuff.inflateReadValue h hconsistent.1 hconsistent.2 (.inl hstate) ?_
    intro inflater' hstate' hnamed hroom
    rw [Consistent, hstate', hstate]
    exact ⟨hnamed, hroom⟩
  | readValue =>
    rw [hstate] at hconsistent
    refine reader_read.inflateReadValue h hconsistent.1 hconsistent.2 (.inr hstate) ?_
    intro inflater' hstate' hnamed hroom
    rw [Consistent, hstate', hstate]
    exact ⟨hnamed, hroom⟩

inductive Looped (inflater : Inflater) (bs : Bytes) : Inflater × Outcome → Prop where
  | next {inflater' : Inflater} {table : Table} (hkeeps : inflater'.Keeps table)
      (hconsistent : inflater'.Consistent table) (hbad : inflater'.ctx.bad = inflater.ctx.bad)
      : Looped inflater bs (inflater', .next [] false)
  | almostOk {inflater' : Inflater} {table : Table} (hkeeps : inflater'.Keeps table)
      (hconsistent : inflater'.Consistent table) (hbad : inflater'.ctx.bad = inflater.ctx.bad)
      (hfield : ¬inflater'.AtField)
      : Looped inflater bs (inflater', .almostOk [])
  | emit {inflater' : Inflater} {table : Table} {rest : Bytes} {nv : HdNv}
      (hkeeps : inflater'.Keeps table) (hstate : inflater'.state = .opcode)
      (hbad : inflater'.ctx.bad = inflater.ctx.bad) (hlength : rest.length ≤ bs.length)
      (hvalue : ¬inflater.AtValue → rest.length < bs.length)
      : Looped inflater bs (inflater', .emit rest nv)
  | fail {inflater' : Inflater} {table : Table} (hkeeps : inflater'.Keeps table)
      : Looped inflater bs (inflater', .fail .headerComp)

theorem Looped.trans {r : Inflater × Outcome} (h : Looped inflater' rest r)
    (hbad : inflater'.ctx.bad = inflater.ctx.bad)
    (hlength : rest.length ≤ bs.length) (hvalue : inflater'.AtValue → rest.length < bs.length)
    : Looped inflater bs r := by
  cases h with
  | next hkeeps hconsistent hbad' => exact .next hkeeps hconsistent (hbad'.trans hbad)
  | almostOk hkeeps hconsistent hbad' hfield =>
    exact .almostOk hkeeps hconsistent (hbad'.trans hbad) hfield
  | emit hkeeps hstate hbad' hlength' hvalue' =>
    refine .emit hkeeps hstate (hbad'.trans hbad) (hlength'.trans hlength) fun _ => ?_
    by_cases h : inflater'.AtValue
    . exact Nat.lt_of_le_of_lt hlength' (hvalue h)
    . exact Nat.lt_of_lt_of_le (hvalue' h) hlength
  | fail hkeeps => exact .fail hkeeps

theorem Keeps.inflateLoop {n : Nat} {busy : Bool} (wide : WideShift) (h : inflater.Keeps table)
    (hconsistent : inflater.Consistent table) (hbusy : busy = true → inflater.AtString)
    (hn : inflater.work bs < n)
    : Looped inflater bs (inflateLoop wide n inflater bs busy) := by
  induction n generalizing inflater table bs busy with
  | zero => exact absurd hn (Nat.not_lt_zero _)
  | succ n ih =>
    rw [Inflater.inflateLoop]
    by_cases hcond : bs ≠ [] ∨ busy = true
    . rw [if_pos hcond]
      have hstep := h.inflateStep wide hconsistent (hcond.imp_right hbusy)
      generalize inflater.inflateStep wide bs = r at hstep
      cases hstep with
      | next hkeeps' hconsistent' hbad hwork hlength hbusy' hvalue =>
        refine (ih hkeeps' hconsistent' ?_ (by omega)).trans hbad hlength hvalue
        intro hb
        exact .inr (.inr (hbusy' hb))
      | almostOk hkeeps' hconsistent' hbad hfield =>
        exact .almostOk hkeeps' hconsistent' hbad hfield
      | emit hkeeps' hstate hbad hlength hvalue => exact .emit hkeeps' hstate hbad hlength hvalue
      | fail hkeeps' => exact .fail hkeeps'
    . rw [if_neg hcond]
      simp only [ne_eq, not_or, not_not, Bool.not_eq_true] at hcond
      rw [hcond.1, hcond.2]
      exact .next h hconsistent rfl

structure Sound (inflater : Inflater) (table : Table) : Prop extends inflater.Keeps table where
  consistent : inflater.ctx.bad = false → inflater.Consistent table

theorem sound_init : Inflater.init.Sound ⟨DEFAULT_MAX_BUFFER_SIZE, []⟩ :=
  ⟨⟨Context.has_init none (fun m hm => by cases hm) _, rfl, Nat.zero_le _, by decide, fun _ => rfl⟩,
    fun _ => trivial⟩

theorem Keeps.fail (e : Error) (h : inflater.Keeps table) : (inflater.fail e).1.Sound table := by
  obtain ⟨ents, hlists⟩ := h.has
  have hstores := hlists.stores
  refine ⟨⟨⟨ents, ?_, hlists.nv, hlists.hash⟩, h.max, h.total_le, h.max_lt, h.indexed⟩,
    fun hfalse => by cases hfalse⟩
  exact ⟨hstores.ring, hstores.bufsize, hstores.seq, hstores.addr, hstores.fresh, hstores.map⟩

inductive Returned (inflater : Inflater) (bs : Bytes) (inFinal : Bool)
    : Inflater × Except Error Inflated → Prop where
  | all {inflater' : Inflater} {table : Table} (hsound : inflater'.Sound table)
      (hbad : inflater'.ctx.bad = inflater.ctx.bad) (hfield : inFinal = true → inflater'.AtField)
      : Returned inflater bs inFinal (inflater', .ok ⟨bs.length, none, inFinal⟩)
  | emit {inflater' : Inflater} {table : Table} {nv : HdNv} {n : Nat}
      (hsound : inflater'.Sound table) (hbad : inflater'.ctx.bad = inflater.ctx.bad)
      (hstate : inflater'.state = .opcode) (hn : n ≤ bs.length) (hpos : ¬inflater.AtValue → 0 < n)
      : Returned inflater bs inFinal (inflater', .ok ⟨n, some nv, false⟩)
  | error {inflater' : Inflater} {table : Table} (hsound : inflater'.Sound table)
      (hbad : inflater'.ctx.bad = true)
      : Returned inflater bs inFinal (inflater', .error .headerComp)

theorem Sound.inflateHdNv (wide : WideShift) (bs : Bytes) (inFinal : Bool)
    (h : inflater.Sound table)
    : Returned inflater bs inFinal (inflater.inflateHdNv wide bs inFinal) := by
  rw [Inflater.inflateHdNv]
  cases hbad : inflater.ctx.bad with
  | true => exact .error h hbad
  | false =>
    rw [if_neg Bool.false_ne_true]
    have hwork : inflater.work bs < 2 * bs.length + 3 := by
      have := rank_le inflater.state
      rw [work]
      omega
    have hloop := @Keeps.inflateLoop _ _ bs _ false wide h.toKeeps (h.consistent hbad)
      (fun hb => by cases hb) hwork
    generalize Inflater.inflateLoop wide (2 * bs.length + 3) inflater bs false = r at hloop
    cases hloop with
    | next hkeeps hconsistent hbad' =>
      dsimp only
      cases inFinal with
      | false => exact .all ⟨hkeeps, fun _ => hconsistent⟩ hbad' (fun hfalse => by cases hfalse)
      | true =>
        rw [if_pos rfl]
        split
        . exact .error (hkeeps.fail .headerComp) rfl
        . next hstate =>
          refine .all ⟨hkeeps, fun _ => hconsistent⟩ hbad' fun _ => ?_
          rw [not_and_or, not_not, not_not] at hstate
          exact hstate.symm
    | almostOk hkeeps hconsistent hbad' =>
      dsimp only
      cases inFinal with
      | false => exact .all ⟨hkeeps, fun _ => hconsistent⟩ hbad' (fun hfalse => by cases hfalse)
      | true => exact .error (hkeeps.fail .headerComp) rfl
    | emit hkeeps hstate hbad' hlength hvalue =>
      refine .emit ⟨hkeeps, fun _ => ?_⟩ hbad' hstate (Nat.sub_le _ _)
        (fun hnot => Nat.sub_pos_of_lt (hvalue hnot))
      rw [Consistent, hstate]
      trivial
    | fail hkeeps => exact .error (hkeeps.fail .headerComp) rfl

theorem Sound.endHeaders (h : inflater.Sound table) : inflater.endHeaders.Sound table :=
  ⟨h.toKeeps.congr rfl rfl rfl, fun _ => trivial⟩

-- The inflater after the other side has been told of a new size, which is to announce it in turn
structure Changed (inflater inflater' : Inflater) (table : Table) (size : Nat) : Prop where
  sound : inflater'.Sound (table.resize size)
  state : inflater'.state = .expectTableSize ∨ inflater'.state = .inflateStart
  settings : inflater'.settingsHdTableBufsizeMax = size
  min : inflater'.minHdTableBufsizeMax = size ∨ inflater'.minHdTableBufsizeMax
    = inflater.minHdTableBufsizeMax
  bad : inflater'.ctx.bad = inflater.ctx.bad

theorem Sound.changed {size : Nat} (h : inflater.Sound table) (hsize : size < 2 ^ 64)
    (hctx : inflater'.ctx = inflater.ctx)
    (hrequired : inflater'.indexRequired = inflater.indexRequired)
    (hno : inflater'.noIndex = inflater.noIndex)
    (hstate : inflater'.state = .expectTableSize ∨ inflater'.state = .inflateStart)
    (hmin : inflater'.minHdTableBufsizeMax = size ∨ inflater'.minHdTableBufsizeMax
      = inflater.minHdTableBufsizeMax)
    : ∃ inflater'',
        (do
          let ctx := { inflater'.ctx with hdTableBufsizeMax := size }
          let (ctx, _) ← ctx.shrinkTableSize none
          return { inflater' with ctx, settingsHdTableBufsizeMax := size } : Except Error Inflater)
          = .ok inflater''
        ∧ inflater.Changed inflater'' table size := by
  have hkeeps : inflater'.Keeps table := h.toKeeps.congr hctx hrequired hno
  obtain ⟨ctx, hshrink, hbad, hkeeps'⟩ := hkeeps.shrink size hsize
  dsimp only
  rw [hshrink]
  refine ⟨_, rfl, ⟨hkeeps'.congr rfl rfl rfl, fun _ => ?_⟩, hstate, rfl, hmin,
    by rw [hctx] at hbad; exact hbad⟩
  rw [Consistent]
  rcases hstate with hstate | hstate
  . dsimp only
    rw [hstate]
    trivial
  . dsimp only
    rw [hstate]
    trivial

theorem Sound.changeTableSize {size : Nat} (h : inflater.Sound table) (hsize : size < 2 ^ 64)
    (hstate : inflater.state = .expectTableSize ∨ inflater.state = .inflateStart)
    : ∃ inflater', inflater.changeTableSize size = .ok inflater'
        ∧ inflater.Changed inflater' table size := by
  rw [Inflater.changeTableSize, if_pos hstate]
  dsimp only
  split
  . exact h.changed hsize rfl rfl rfl (.inl rfl) (.inl rfl)
  . exact h.changed hsize rfl rfl rfl hstate (.inr rfl)

end Inflater

inductive InflateCall where
  | hd (bs : Bytes) (inFinal : Bool)
  | endHeaders
  | changeTableSize (size : BitVec 64)

namespace Inflater

def call (wide : WideShift) (inflater : Inflater) : InflateCall → Inflater × Except Error Inflated
  | .hd bs inFinal => inflater.inflateHdNv wide bs inFinal
  | .endHeaders => (inflater.endHeaders, .ok ⟨0, none, false⟩)
  | .changeTableSize size =>
    match inflater.changeTableSize size.toNat with
    | .ok inflater => (inflater, .ok ⟨0, none, false⟩)
    | .error e => (inflater, .error e)

def calls (wide : WideShift) (inflater : Inflater)
    : List InflateCall → Inflater × List (Except Error Inflated)
  | [] => (inflater, [])
  | c :: cs =>
    let (inflater, r) := inflater.call wide c
    let (inflater, rs) := inflater.calls wide cs
    (inflater, r :: rs)

variable {wide : WideShift} {inflater : Inflater} {table : Table}

theorem Sound.call (wide : WideShift) (c : InflateCall) (h : inflater.Sound table)
    : (∃ table', (inflater.call wide c).1.Sound table')
      ∧ ∀ e, (inflater.call wide c).2 = .error e → e = .headerComp ∨ e = .invalidState := by
  cases c with
  | hd bs inFinal =>
    have hreturned := h.inflateHdNv wide bs inFinal
    rw [Inflater.call]
    generalize inflater.inflateHdNv wide bs inFinal = r at hreturned ⊢
    cases hreturned with
    | all hsound => exact ⟨⟨_, hsound⟩, fun e he => by cases he⟩
    | emit hsound => exact ⟨⟨_, hsound⟩, fun e he => by cases he⟩
    | error hsound => exact ⟨⟨_, hsound⟩, fun e he => by cases he; exact .inl rfl⟩
  | endHeaders => exact ⟨⟨table, h.endHeaders⟩, fun e he => by cases he⟩
  | changeTableSize size =>
    rw [Inflater.call]
    by_cases hstate : inflater.state = .expectTableSize ∨ inflater.state = .inflateStart
    . obtain ⟨inflater', hok, hchanged⟩ := h.changeTableSize size.isLt hstate
      rw [hok]
      exact ⟨⟨_, hchanged.sound⟩, fun e he => by cases he⟩
    . rw [Inflater.changeTableSize, if_neg hstate]
      exact ⟨⟨table, h⟩, fun e he => .inr (by cases he; rfl)⟩

theorem Sound.calls (wide : WideShift) (cs : List InflateCall) (h : inflater.Sound table)
    : (∃ table', (inflater.calls wide cs).1.Sound table')
      ∧ ∀ e, .error e ∈ (inflater.calls wide cs).2 → e = .headerComp ∨ e = .invalidState := by
  induction cs generalizing inflater table with
  | nil => exact ⟨⟨table, h⟩, fun e he => by cases he⟩
  | cons c cs ih =>
    obtain ⟨⟨table₁, hsound₁⟩, herror₁⟩ := h.call wide c
    obtain ⟨hsound, herror⟩ := ih hsound₁
    refine ⟨hsound, ?_⟩
    intro e he
    rcases List.mem_cons.mp he with he | he
    . exact herror₁ e he.symm
    . exact herror e he

/--
Whatever an inflater is given, in whatever pieces, and whatever else is called in between: it
refuses it or reads it. It does not leave its memory, no assertion fails and no loop goes on
forever, even if a shift by too many bits gives something strange. Its table is a list of fields,
within its bounds.
-/
theorem calls_safe (wide : WideShift) (cs : List InflateCall)
    : (∀ e, .error e ∈ (Inflater.init.calls wide cs).2 → e = .headerComp ∨ e = .invalidState)
      ∧ ∃ dyn, (Inflater.init.calls wide cs).1.ctx.Has none dyn
          ∧ (Inflater.init.calls wide cs).1.ctx.hdTableBufsize = total Field.room dyn
          ∧ total Field.room dyn ≤ (Inflater.init.calls wide cs).1.ctx.hdTableBufsizeMax := by
  obtain ⟨⟨table, hsound⟩, herror⟩ := sound_init.calls wide cs
  exact ⟨herror, table.dyn, hsound.has, hsound.has.bufsize,
    by rw [hsound.max]; exact hsound.total_le⟩

end Inflater
end Hpack
end Fsw
