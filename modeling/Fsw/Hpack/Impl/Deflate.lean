import Mathlib.Algebra.BigOperators.Group.List.Basic
import Mathlib.Algebra.GroupWithZero.Nat
import Fsw.Hpack.Impl.Huffman
import Fsw.Hpack.Impl.Integer
import Fsw.Hpack.Impl.Table

/-!
This module contains the deflater of `nghttp2_hd.c`, which writes the fields of a header block with
the help of the dynamic table. There is always enough memory to allocate.
-/

namespace Fsw
namespace Hpack

-- `min_hd_table_bufsize_max` is a `size_t` that is `UINT32_MAX` if there is no minimum.
structure Deflater where
  ctx : Context
  map : HdMap
  deflateHdTableBufsizeMax : Nat
  minHdTableBufsizeMax : Nat
  notifyTableSizeChange : Bool

def Deflater.init (maxDeflateDynamicTableSize : Nat) : Deflater :=
  if maxDeflateDynamicTableSize < DEFAULT_MAX_BUFFER_SIZE then
    { ctx := { Context.init with hdTableBufsizeMax := maxDeflateDynamicTableSize }
      map := .init
      deflateHdTableBufsizeMax := maxDeflateDynamicTableSize
      minHdTableBufsizeMax := UINT32_MAX.toNat
      notifyTableSizeChange := true }
  else
    { ctx := .init
      map := .init
      deflateHdTableBufsizeMax := maxDeflateDynamicTableSize
      minHdTableBufsizeMax := UINT32_MAX.toNat
      notifyTableSizeChange := false }

-- An integer behind the bits that are in `first`, by way of an array of 16 bytes
def emitLength (bufs : Bufs) (first : UInt8) (n pfx : Nat) : Except Error Bufs :=
  if 16 < countEncodedLength n pfx then
    .error .headerComp
  else
    bufs.add (encodeLength first n pfx)

def emitTableSize (bufs : Bufs) (tableSize : Nat) : Except Error Bufs :=
  emitLength bufs 0x20 tableSize 5

def emitIndexedBlock (bufs : Bufs) (idx : Nat) : Except Error Bufs :=
  emitLength bufs 0x80 (idx + 1) 7

def emitString (bufs : Bufs) (str : Bytes) : Except Error Bufs := do
  let enclen := huffEncodeCount str
  if enclen < str.length then
    let bufs ← emitLength bufs 0x80 enclen 7
    huffEncode bufs str
  else
    let bufs ← emitLength bufs 0 str.length 7
    bufs.add str

def packFirstByte : IndexingMode → UInt8
  | .withIndexing => 0x40
  | .withoutIndexing => 0
  | .neverIndexing => 0x10

def emitIndnameBlock (bufs : Bufs) (idx : Nat) (nv : Nv) (indexingMode : IndexingMode)
    : Except Error Bufs := do
  let prefixlen := if indexingMode = .withIndexing then 6 else 4
  let bufs ← emitLength bufs (packFirstByte indexingMode) (idx + 1) prefixlen
  emitString bufs nv.value

def emitNewnameBlock (bufs : Bufs) (nv : Nv) (indexingMode : IndexingMode) : Except Error Bufs := do
  let bufs ← bufs.addb (packFirstByte indexingMode)
  let bufs ← emitString bufs nv.name
  emitString bufs nv.value

namespace Deflater

-- The product is a `size_t`.
def decideIndexing (deflater : Deflater) (nv : Nv) (token : Int) : IndexingMode :=
  if token = Token.PATH || token = Token.AGE || token = Token.CONTENT_LENGTH || token = Token.ETAG
      || token = Token.IF_MODIFIED_SINCE || token = Token.IF_NONE_MATCH || token = Token.LOCATION
      || token = Token.SET_COOKIE
      || entryRoom nv.name.length nv.value.length
        > deflater.ctx.hdTableBufsizeMax * 3 % 2 ^ 64 / 4 then
    .withoutIndexing
  else
    .withIndexing

def indexingMode (deflater : Deflater) (nv : Nv) (token : Int) : IndexingMode :=
  if token = Token.AUTHORIZATION || (token = Token.COOKIE && nv.value.length < 20)
      || nv.flags &&& NV_FLAG_NO_INDEX ≠ 0 then
    .neverIndexing
  else
    deflater.decideIndexing nv token

def hashOf (nv : Nv) (token : Int) : Except Error (BitVec 32) :=
  if token = -1 then
    .ok (nameHash nv)
  else if token ≤ Token.WWW_AUTHENTICATE then
    match staticTable[token.toNat]? with
    | some ent => .ok ent.hash
    | none => .error .outOfBounds
  else
    .ok 0

-- With indexing, the field has a place in the table before it is written.
def addNv (deflater : Deflater) (nv : Nv) (token : Int) (hash : BitVec 32) (idx : Option Nat)
    : Except Error Deflater := do
  let name ←
    match idx with
    | some idx =>
      if idx < STATIC_TABLE_LENGTH then do
        let nv ← deflater.ctx.tableGet idx
        pure nv.name
      else
        pure nv.name
    | none => pure nv.name
  let (ctx, map) ←
    deflater.ctx.addHdTableIncremental ⟨name, nv.value, token, NV_FLAG_NONE⟩
      (some deflater.map) hash
  return { deflater with ctx, map := map.getD deflater.map }

def emitBlock (bufs : Bufs) (nv : Nv) (mode : IndexingMode) : Option Nat → Except Error Bufs
  | none => emitNewnameBlock bufs nv mode
  | some idx => emitIndnameBlock bufs idx nv mode

-- The end of `deflate_nv`, for a field that is in no table
def deflateLiteral (deflater : Deflater) (bufs : Bufs) (nv : Nv) (token : Int) (hash : BitVec 32)
    (mode : IndexingMode) (idx : Option Nat)
    : Deflater × Except Error Bufs :=
  if mode = .withIndexing then
    match deflater.addNv nv token hash idx with
    | .error e => (deflater, .error e)
    | .ok deflater => (deflater, emitBlock bufs nv mode idx)
  else
    (deflater, emitBlock bufs nv mode idx)

-- The deflater after an error is the one to which `bad` is set.
def deflateNv (deflater : Deflater) (bufs : Bufs) (nv : Nv) : Deflater × Except Error Bufs :=
  let token := lookupToken nv.name
  match hashOf nv token with
  | .error e => (deflater, .error e)
  | .ok hash =>
    let mode := deflater.indexingMode nv token
    let res := searchHdTable deflater.ctx nv token mode deflater.map hash
    if res.nameValueMatch then
      (deflater, emitIndexedBlock bufs (res.index.getD 0))
    else
      deflater.deflateLiteral bufs nv token hash mode res.index

def deflateNvs (deflater : Deflater) (bufs : Bufs) : List Nv → Deflater × Except Error Bufs
  | [] => (deflater, .ok bufs)
  | nv :: nvs =>
    match deflater.deflateNv bufs nv with
    | (deflater, .error e) => (deflater, .error e)
    | (deflater, .ok bufs) => deflater.deflateNvs bufs nvs

def notify (deflater : Deflater) (bufs : Bufs) : Deflater × Except Error Bufs :=
  if deflater.notifyTableSizeChange then
    let min := deflater.minHdTableBufsizeMax
    let max := deflater.ctx.hdTableBufsizeMax
    ({ deflater with notifyTableSizeChange := false, minHdTableBufsizeMax := UINT32_MAX.toNat }, do
      let bufs ← if max > min then emitTableSize bufs min else pure bufs
      emitTableSize bufs max)
  else
    (deflater, .ok bufs)

def fail (deflater : Deflater) : Deflater :=
  { deflater with ctx.bad := true }

def deflateHdBufs (deflater : Deflater) (bufs : Bufs) (nvs : List Nv)
    : Deflater × Except Error Bufs :=
  if deflater.ctx.bad then
    (deflater, .error .headerComp)
  else
    match deflater.notify bufs with
    | (deflater, .error e) => (deflater.fail, .error e)
    | (deflater, .ok bufs) =>
      match deflater.deflateNvs bufs nvs with
      | (deflater, .error e) => (deflater.fail, .error e)
      | (deflater, .ok bufs) => (deflater, .ok bufs)

/--
`mem` is what is in the buffer before, and what is returned is what has been written to it.
-/
def deflateHd (deflater : Deflater) (mem : Bytes) (nvs : List Nv) : Deflater × Except Error Bytes :=
  match deflater.deflateHdBufs (.wrapInit mem) nvs with
  | (deflater, .error .bufferError) => (deflater, .error .insuffBufsize)
  | (deflater, .error e) => (deflater, .error e)
  | (deflater, .ok bufs) => (deflater, .ok bufs.contents)

def deflateBound (nvs : List Nv) : Nat :=
  12 + 6 * 2 * nvs.length + (nvs.map fun nv => nv.name.length + nv.value.length).sum

def changeTableSize (deflater : Deflater) (settingsMaxDynamicTableSize : Nat)
    : Except Error Deflater := do
  let nextBufsize := min settingsMaxDynamicTableSize deflater.deflateHdTableBufsizeMax
  let ctx := { deflater.ctx with hdTableBufsizeMax := nextBufsize }
  let (ctx, map) ← ctx.shrinkTableSize (some deflater.map)
  return { deflater with
    ctx
    map := map.getD deflater.map
    minHdTableBufsizeMax := min deflater.minHdTableBufsizeMax nextBufsize
    notifyTableSizeChange := true }

end Deflater
end Hpack
end Fsw
