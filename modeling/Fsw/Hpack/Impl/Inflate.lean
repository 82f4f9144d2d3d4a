import Fsw.Hpack.Impl.Huffman
import Fsw.Hpack.Impl.Integer
import Fsw.Hpack.Impl.Table

namespace Fsw
namespace Hpack

def HD_MAX_NV : Nat := 65536

inductive Opcode where
  | none
  | indexed
  | newname
  | indname
  deriving DecidableEq, Repr

inductive InflateState where
  | expectTableSize
  | inflateStart
  | opcode
  | readTableSize
  | readIndex
  | newnameCheckNamelen
  | newnameReadNamelen
  | newnameReadNamehuff
  | newnameReadName
  | checkValuelen
  | readValuelen
  | readValuehuff
  | readValue
  deriving DecidableEq, Repr

-- `namebuf` is `namercbuf` with the buffer that is wrapped around its memory, and `valuebuf` is
-- `valuercbuf` with its own.
structure Inflater where
  ctx : Context
  huffDecodeCtx : HuffDecodeContext
  namebuf : Option Buf
  valuebuf : Option Buf
  left : Nat
  index : Nat
  settingsHdTableBufsizeMax : Nat
  minHdTableBufsizeMax : Nat
  shift : Nat
  opcode : Opcode
  state : InflateState
  huffmanEncoded : Bool
  indexRequired : Bool
  noIndex : Bool
  deriving DecidableEq, Repr

-- What is left of the input, and why the `switch` has been left
inductive Outcome where
  | next (rest : Bytes) (busy : Bool)
  | almostOk (rest : Bytes)
  | emit (rest : Bytes) (nv : HdNv)
  | fail (e : Error)
  deriving DecidableEq, Repr

namespace Inflater

def init : Inflater where
  ctx := .init
  huffDecodeCtx := .init
  namebuf := none
  valuebuf := none
  left := 0
  index := 0
  settingsHdTableBufsizeMax := DEFAULT_MAX_BUFFER_SIZE
  minHdTableBufsizeMax := UINT32_MAX.toNat
  shift := 0
  opcode := .none
  state := .inflateStart
  huffmanEncoded := false
  indexRequired := false
  noIndex := false

-- `b :: bs` is the input. What is returned is what is left of it and whether the integer is
-- complete.
def readLen (wide : WideShift) (inflater : Inflater) (b : UInt8) (bs : Bytes) (pfx maxlen : Nat)
    : Inflater × Option (Bytes × Bool) :=
  match decodeLength wide (.ofNat 32 inflater.left) inflater.shift b bs pfx with
  | none => ({ inflater with shift := 0 }, none)
  | some d =>
    if d.res.toNat > maxlen then
      ({ inflater with shift := d.shift }, none)
    else
      ({ inflater with shift := d.shift, left := d.res.toNat }, some ((b :: bs).drop d.read, d.fin))

def readHuff (inflater : Inflater) (buf : Buf) (bs : Bytes)
    : Except Error (Inflater × Buf × Bytes) := do
  let fin := bs.length ≥ inflater.left
  let src := if fin then bs.take inflater.left else bs
  let (huffDecodeCtx, buf) ← huffDecode inflater.huffDecodeCtx buf src fin
  return ({ inflater with huffDecodeCtx, left := inflater.left - src.length },
    buf, bs.drop src.length)

def read (inflater : Inflater) (buf : Buf) (bs : Bytes) : Except Error (Inflater × Buf × Bytes) :=
  let len := min bs.length inflater.left
  if buf.data.length + len ≤ buf.cap then
    let buf := { buf with data := buf.data ++ bs.take len }
    .ok ({ inflater with left := inflater.left - len }, buf, bs.drop len)
  else
    .error .outOfBounds

def terminate (buf : Buf) : Except Error Unit :=
  if buf.data.length < buf.cap then .ok () else .error .outOfBounds

def commitIndexed (inflater : Inflater) : Except Error HdNv :=
  inflater.ctx.tableGet inflater.index

def flags (inflater : Inflater) : UInt8 :=
  if inflater.noIndex then NV_FLAG_NO_INDEX else NV_FLAG_NONE

def addNv (inflater : Inflater) (nv : HdNv) : Except Error Inflater :=
  if inflater.indexRequired then do
    let (ctx, _) ← inflater.ctx.addHdTableIncremental nv none 0
    return { inflater with ctx }
  else
    .ok inflater

def commitNewname (inflater : Inflater) : Except Error (Inflater × HdNv) :=
  match inflater.namebuf, inflater.valuebuf with
  | some namebuf, some valuebuf => do
    let nv : HdNv := ⟨namebuf.data, valuebuf.data, lookupToken namebuf.data, inflater.flags⟩
    let inflater ← inflater.addNv nv
    return ({ inflater with namebuf := none, valuebuf := none }, nv)
  | _, _ => .error .outOfBounds

def commitIndname (inflater : Inflater) : Except Error (Inflater × HdNv) :=
  match inflater.valuebuf with
  | some valuebuf => do
    let nv ← inflater.ctx.tableGet inflater.index
    let nv := { nv with value := valuebuf.data, flags := inflater.flags }
    let inflater ← inflater.addNv nv
    return ({ inflater with valuebuf := none }, nv)
  | none => .error .outOfBounds

-- `NGHTTP2_HD_STATE_EXPECT_TABLE_SIZE`, `NGHTTP2_HD_STATE_INFLATE_START` and
-- `NGHTTP2_HD_STATE_OPCODE`
def inflateOpcode (inflater : Inflater) (b : UInt8) (bs : Bytes) : Inflater × Outcome :=
  if inflater.state = .expectTableSize ∧ b &&& 0xe0 ≠ 0x20 then
    (inflater, .fail .headerComp)
  else if b &&& 0xe0 = 0x20 then
    if inflater.state = .opcode then
      (inflater, .fail .headerComp)
    else
      ({ inflater with opcode := .indexed, state := .readTableSize, left := 0, shift := 0 },
        .next (b :: bs) false)
  else if b &&& 0x80 ≠ 0 then
    ({ inflater with opcode := .indexed, state := .readIndex, left := 0, shift := 0 },
      .next (b :: bs) false)
  else
    let inflater := { inflater with
      indexRequired := b &&& 0x40 ≠ 0
      noIndex := b &&& 0xf0 = 0x10
      left := 0
      shift := 0 }
    if b = 0x40 || b = 0 || b = 0x10 then
      ({ inflater with opcode := .newname, state := .newnameCheckNamelen }, .next bs false)
    else
      ({ inflater with opcode := .indname, state := .readIndex }, .next (b :: bs) false)

def withLen (wide : WideShift) (inflater : Inflater) (b : UInt8) (bs : Bytes) (pfx maxlen : Nat)
    (f : Inflater → Bytes → Inflater × Outcome)
    : Inflater × Outcome :=
  match inflater.readLen wide b bs pfx maxlen with
  | (inflater, none) => (inflater, .fail .headerComp)
  | (inflater, some (rest, false)) => (inflater, .almostOk rest)
  | (inflater, some (rest, true)) => f inflater rest

def setTableSize (inflater : Inflater) (rest : Bytes) : Inflater × Outcome :=
  let inflater := { inflater with
    minHdTableBufsizeMax := UINT32_MAX.toNat
    ctx.hdTableBufsizeMax := inflater.left }
  match inflater.ctx.shrinkTableSize none with
  | .error e => (inflater, .fail e)
  | .ok (ctx, _) => ({ inflater with ctx, state := .inflateStart }, .next rest false)

def inflateReadTableSize (wide : WideShift) (inflater : Inflater) (b : UInt8) (bs : Bytes)
    : Inflater × Outcome :=
  let maxlen := min inflater.minHdTableBufsizeMax inflater.settingsHdTableBufsizeMax
  inflater.withLen wide b bs 5 maxlen setTableSize

def setIndex (inflater : Inflater) (rest : Bytes) : Inflater × Outcome :=
  if inflater.left = 0 then
    (inflater, .fail .headerComp)
  else
    let inflater := { inflater with index := inflater.left - 1 }
    if inflater.opcode = .indexed then
      match inflater.commitIndexed with
      | .error e => (inflater, .fail e)
      | .ok nv => ({ inflater with state := .opcode }, .emit rest nv)
    else
      ({ inflater with state := .checkValuelen }, .next rest false)

def inflateReadIndex (wide : WideShift) (inflater : Inflater) (b : UInt8) (bs : Bytes)
    : Inflater × Outcome :=
  let prefixlen := if inflater.opcode = .indexed then 7 else if inflater.indexRequired then 6 else 4
  inflater.withLen wide b bs prefixlen inflater.ctx.getMaxIndex setIndex

def setHuffmanEncoded (inflater : Inflater) (b : UInt8) : Inflater :=
  { inflater with huffmanEncoded := b &&& 0x80 ≠ 0 }

def newBuf (inflater : Inflater) : Buf :=
  ⟨if inflater.huffmanEncoded then inflater.left * 2 + 1 else inflater.left + 1, []⟩

def newHuffDecodeCtx (inflater : Inflater) : HuffDecodeContext :=
  if inflater.huffmanEncoded then .init else inflater.huffDecodeCtx

def newName (inflater : Inflater) (rest : Bytes) : Inflater × Outcome :=
  ({ inflater with
      huffDecodeCtx := inflater.newHuffDecodeCtx
      state := if inflater.huffmanEncoded then .newnameReadNamehuff else .newnameReadName
      namebuf := some inflater.newBuf },
    .next rest false)

def inflateReadNamelen (wide : WideShift) (inflater : Inflater) (b : UInt8) (bs : Bytes)
    : Inflater × Outcome :=
  inflater.withLen wide b bs 7 HD_MAX_NV newName

def newValue (inflater : Inflater) (rest : Bytes) : Inflater × Outcome :=
  ({ inflater with
      huffDecodeCtx := inflater.newHuffDecodeCtx
      state := if inflater.huffmanEncoded then .readValuehuff else .readValue
      valuebuf := some inflater.newBuf },
    .next rest true)

def inflateReadValuelen (wide : WideShift) (inflater : Inflater) (b : UInt8) (bs : Bytes)
    : Inflater × Outcome :=
  inflater.withLen wide b bs 7 HD_MAX_NV newValue

-- What follows a string, which may not be complete yet: `keep` puts the buffer back to where it
-- comes from.
def withString (read : Inflater → Buf → Bytes → Except Error (Inflater × Buf × Bytes))
    (inflater : Inflater) (buf : Option Buf) (keep : Inflater → Buf → Inflater) (bs : Bytes)
    (f : Inflater → Bytes → Inflater × Outcome)
    : Inflater × Outcome :=
  match buf with
  | none => (inflater, .fail .outOfBounds)
  | some buf =>
    match read inflater buf bs with
    | .error e => (inflater, .fail e)
    | .ok (inflater, buf, rest) =>
      let inflater := keep inflater buf
      if inflater.left ≠ 0 then
        (inflater, .almostOk rest)
      else
        match terminate buf with
        | .error e => (inflater, .fail e)
        | .ok () => f inflater rest

def keepName (inflater : Inflater) (buf : Buf) : Inflater :=
  { inflater with namebuf := some buf }

def keepValue (inflater : Inflater) (buf : Buf) : Inflater :=
  { inflater with valuebuf := some buf }

def inflateReadName (read : Inflater → Buf → Bytes → Except Error (Inflater × Buf × Bytes))
    (inflater : Inflater) (bs : Bytes)
    : Inflater × Outcome :=
  inflater.withString read inflater.namebuf keepName bs fun inflater rest =>
    ({ inflater with state := .checkValuelen }, .next rest false)

def commit (inflater : Inflater) : Except Error (Inflater × HdNv) :=
  if inflater.opcode = .newname then inflater.commitNewname else inflater.commitIndname

def commitValue (inflater : Inflater) (rest : Bytes) : Inflater × Outcome :=
  match inflater.commit with
  | .error e => (inflater, .fail e)
  | .ok (inflater, nv) => ({ inflater with state := .opcode }, .emit rest nv)

def inflateReadValue (read : Inflater → Buf → Bytes → Except Error (Inflater × Buf × Bytes))
    (inflater : Inflater) (bs : Bytes)
    : Inflater × Outcome :=
  inflater.withString read inflater.valuebuf keepValue bs commitValue

-- Where `*in` is read there has to be input.
def withByte (inflater : Inflater) (f : UInt8 → Bytes → Inflater × Outcome)
    : Bytes → Inflater × Outcome
  | [] => (inflater, .fail .outOfBounds)
  | b :: bs => f b bs

def checkNamelen (wide : WideShift) (inflater : Inflater) (b : UInt8) (bs : Bytes)
    : Inflater × Outcome :=
  let inflater := inflater.setHuffmanEncoded b
  { inflater with state := .newnameReadNamelen, left := 0, shift := 0 }.inflateReadNamelen wide b bs

def checkValuelen (wide : WideShift) (inflater : Inflater) (b : UInt8) (bs : Bytes)
    : Inflater × Outcome :=
  let inflater := inflater.setHuffmanEncoded b
  { inflater with state := .readValuelen, left := 0, shift := 0 }.inflateReadValuelen wide b bs

def inflateStep (wide : WideShift) (inflater : Inflater) (bs : Bytes) : Inflater × Outcome :=
  match inflater.state with
  | .expectTableSize | .inflateStart | .opcode => inflater.withByte inflater.inflateOpcode bs
  | .readTableSize => inflater.withByte (inflater.inflateReadTableSize wide) bs
  | .readIndex => inflater.withByte (inflater.inflateReadIndex wide) bs
  | .newnameCheckNamelen => inflater.withByte (inflater.checkNamelen wide) bs
  | .newnameReadNamelen => inflater.withByte (inflater.inflateReadNamelen wide) bs
  | .newnameReadNamehuff => inflater.inflateReadName readHuff bs
  | .newnameReadName => inflater.inflateReadName read bs
  | .checkValuelen => inflater.withByte (inflater.checkValuelen wide) bs
  | .readValuelen => inflater.withByte (inflater.inflateReadValuelen wide) bs
  | .readValuehuff => inflater.inflateReadValue readHuff bs
  | .readValue => inflater.inflateReadValue read bs

def inflateLoop (wide : WideShift) : Nat → Inflater → Bytes → Bool → Inflater × Outcome
  | 0, inflater, _, _ => (inflater, .fail .endless)
  | n + 1, inflater, bs, busy =>
    if bs ≠ [] ∨ busy then
      match inflater.inflateStep wide bs with
      | (inflater, .next bs busy) => inflateLoop wide n inflater bs busy
      | r => r
    else
      (inflater, .next bs busy)

-- `nv` is there with `NGHTTP2_HD_INFLATE_EMIT`, and `final` is `NGHTTP2_HD_INFLATE_FINAL`.
structure Inflated where
  processed : Nat
  nv : Option HdNv
  final : Bool
  deriving DecidableEq, Repr

def fail (inflater : Inflater) (e : Error) : Inflater × Except Error Inflated :=
  ({ inflater with ctx.bad := true }, .error e)

/--
There are less iterations than two for each byte and three more.
-/
def inflateHdNv (wide : WideShift) (inflater : Inflater) (bs : Bytes) (inFinal : Bool)
    : Inflater × Except Error Inflated :=
  if inflater.ctx.bad then
    (inflater, .error .headerComp)
  else
    match inflateLoop wide (2 * bs.length + 3) inflater bs false with
    | (inflater, .next rest _) =>
      if inFinal then
        if inflater.state ≠ .opcode ∧ inflater.state ≠ .inflateStart then
          inflater.fail .headerComp
        else
          (inflater, .ok ⟨bs.length - rest.length, none, true⟩)
      else
        (inflater, .ok ⟨bs.length - rest.length, none, false⟩)
    | (inflater, .almostOk rest) =>
      if inFinal then
        inflater.fail .headerComp
      else
        (inflater, .ok ⟨bs.length - rest.length, none, false⟩)
    | (inflater, .emit rest nv) => (inflater, .ok ⟨bs.length - rest.length, some nv, false⟩)
    | (inflater, .fail e) => inflater.fail e

def endHeaders (inflater : Inflater) : Inflater :=
  { inflater with state := .inflateStart }

def changeTableSize (inflater : Inflater) (settingsMaxDynamicTableSize : Nat)
    : Except Error Inflater :=
  if inflater.state = .expectTableSize ∨ inflater.state = .inflateStart then do
    let inflater :=
      if inflater.ctx.hdTableBufsizeMax > settingsMaxDynamicTableSize then
        { inflater with
          state := .expectTableSize, minHdTableBufsizeMax := settingsMaxDynamicTableSize }
      else
        inflater
    let ctx := { inflater.ctx with hdTableBufsizeMax := settingsMaxDynamicTableSize }
    let (ctx, _) ← ctx.shrinkTableSize none
    return { inflater with ctx, settingsHdTableBufsizeMax := settingsMaxDynamicTableSize }
  else
    .error .invalidState

-- The loop of `inflate_header_block`, with the fields that are printed and the error that makes it
-- return `-1`
def inflateFields (wide : WideShift) (final : Bool)
    : Nat → Inflater → Bytes → Inflater × List HdNv × Option Error
  | 0, inflater, _ => (inflater, [], some .endless)
  | n + 1, inflater, bs =>
    match inflater.inflateHdNv wide bs final with
    | (inflater, .error e) => (inflater, [], some e)
    | (inflater, .ok r) =>
      if r.final then
        (inflater.endHeaders, r.nv.toList, none)
      else if r.nv = none ∧ bs.drop r.processed = [] then
        (inflater, [], none)
      else
        let (inflater, nvs, e) := inflateFields wide final n inflater (bs.drop r.processed)
        (inflater, r.nv.toList ++ nvs, e)

/--
How `nghttp2.h` wants `nghttp2_hd_inflate_hd2` to be used. `bs` is the header block or a piece of
it, and `final` is set with the last one.
-/
def inflateHeaderBlock (wide : WideShift) (inflater : Inflater) (bs : Bytes) (final : Bool)
    : Inflater × List HdNv × Option Error :=
  inflateFields wide final (bs.length + 2) inflater bs

end Inflater
end Hpack
end Fsw
