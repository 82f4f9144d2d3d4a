import Mathlib.Logic.Function.Basic
import Fsw.Hpack.Impl.Ring
import Fsw.Hpack.Impl.Static

/-!
This module contains the dynamic table of `nghttp2_hd.c`: the ring buffer of its entries, and the
hash map with which the deflater finds them.

An entry is allocated once and does not change as long as it is in the table, so the ring buffer and
the map have copies of it. What is compared when the map looks for an entry is the address of it.
-/

namespace Fsw
namespace Hpack

def DEFAULT_MAX_BUFFER_SIZE : Nat := 1 <<< 12
def ENTRY_OVERHEAD : Nat := 32
def HD_MAP_SIZE : Nat := 128
def NV_FLAG_NONE : UInt8 := 0
def NV_FLAG_NO_INDEX : UInt8 := 0x01

structure Nv where
  name : Bytes
  value : Bytes
  flags : UInt8
  deriving DecidableEq, Repr

structure HdNv where
  name : Bytes
  value : Bytes
  token : Int
  flags : UInt8
  deriving DecidableEq, Repr

structure Entry where
  addr : Nat
  nv : HdNv
  seq : BitVec 32
  hash : BitVec 32
  deriving DecidableEq, Repr

def nameEq (a : HdNv) (b : Nv) : Bool :=
  a.name.length = b.name.length && a.name = b.name

def valueEq (a : HdNv) (b : Nv) : Bool :=
  a.value.length = b.value.length && a.value = b.value

def nameHash (nv : Nv) : BitVec 32 :=
  nv.name.foldl (fun h b =>
    let h := h ^^^ b.toBitVec.setWidth 32
    h + ((h <<< 1) + (h <<< 4) + (h <<< 7) + (h <<< 8) + (h <<< 24))) 2166136261

-- The entries of each bucket as they are linked by `next`
abbrev HdMap := Nat → List Entry

namespace HdMap

def bucket (hash : BitVec 32) : Nat :=
  hash.toNat &&& (HD_MAP_SIZE - 1)

def init : HdMap :=
  fun _ => []

def insert (map : HdMap) (ent : Entry) : HdMap :=
  Function.update map (bucket ent.hash) (ent :: map (bucket ent.hash))

section

variable (nv : Nv) (token : Int) (hash : BitVec 32) (nameOnly : Bool)

-- The loop of `hd_map_find` from `p` on, with `*exact_match`
def findFrom (res : Option Entry) : List Entry → Option Entry × Bool
  | [] => (res, false)
  | p :: ps =>
    if token ≠ p.nv.token || (token = -1 && (hash ≠ p.hash || !nameEq p.nv nv)) then
      findFrom res ps
    else if res.isNone && nameOnly then
      (some p, false)
    else if valueEq p.nv nv then
      (some p, true)
    else
      findFrom (res.getD p) ps

def find (map : HdMap) : Option Entry × Bool :=
  findFrom nv token hash nameOnly none (map (bucket hash))

end

def remove (map : HdMap) (ent : Entry) : HdMap :=
  Function.update map (bucket ent.hash) ((map (bucket ent.hash)).eraseP (·.addr = ent.addr))

end HdMap

-- `malloc` has been called `allocated` times for entries.
structure Context where
  hdTable : Ring Entry
  hdTableBufsize : Nat
  hdTableBufsizeMax : Nat
  nextSeq : BitVec 32
  bad : Bool
  allocated : Nat
  deriving DecidableEq, Repr

def entryRoom (namelen valuelen : Nat) : Nat :=
  ENTRY_OVERHEAD + namelen + valuelen

def HdNv.room (nv : HdNv) : Nat :=
  entryRoom nv.name.length nv.value.length

namespace Context

def init : Context where
  hdTable := .init (DEFAULT_MAX_BUFFER_SIZE / ENTRY_OVERHEAD)
  hdTableBufsize := 0
  hdTableBufsizeMax := DEFAULT_MAX_BUFFER_SIZE
  nextSeq := 0
  bad := false
  allocated := 0

-- The inflater has no map.
def evictLast (context : Context) (map : Option HdMap) : Except Error (Context × Option HdMap) := do
  let ent ← context.hdTable.get (context.hdTable.len - 1)
  let hdTable ← context.hdTable.popBack
  let context := { context with hdTable, hdTableBufsize := context.hdTableBufsize - ent.nv.room }
  return (context, map.map (·.remove ent))

-- The loop that makes room: there are at most as many iterations as there are entries.
def evict (room : Nat) : Nat → Context → Option HdMap → Except Error (Context × Option HdMap)
  | 0, context, map => .ok (context, map)
  | n + 1, context, map =>
    if context.hdTableBufsize + room > context.hdTableBufsizeMax ∧ context.hdTable.len > 0 then do
      let (context, map) ← context.evictLast map
      evict room n context map
    else
      .ok (context, map)

def addHdTableIncremental (context : Context) (nv : HdNv) (map : Option HdMap) (hash : BitVec 32)
    : Except Error (Context × Option HdMap) := do
  let (context, map) ← evict nv.room context.hdTable.len context map
  if nv.room > context.hdTableBufsizeMax then
    return (context, map)
  else
    let ent : Entry := ⟨context.allocated, nv, context.nextSeq, hash⟩
    let hdTable ← context.hdTable.pushFront ent
    let context := { context with
      hdTable
      hdTableBufsize := context.hdTableBufsize + nv.room
      nextSeq := context.nextSeq + 1
      allocated := context.allocated + 1 }
    return (context, map.map (·.insert ent))

def shrinkTableSize (context : Context) (map : Option HdMap)
    : Except Error (Context × Option HdMap) :=
  evict 0 context.hdTable.len context map

def getMaxIndex (context : Context) : Nat :=
  context.hdTable.len + STATIC_TABLE_LENGTH

def tableGet (context : Context) (idx : Nat) : Except Error HdNv :=
  if idx < context.getMaxIndex then
    if idx ≥ STATIC_TABLE_LENGTH then do
      let ent ← context.hdTable.get (idx - STATIC_TABLE_LENGTH)
      return ent.nv
    else
      match staticTable[idx]? with
      | some ent => .ok ⟨ent.name, ent.value, ent.token, NV_FLAG_NONE⟩
      | none => .error .outOfBounds
  else
    .error .assertion

end Context

-- `index` is `none` for `-1`.
structure SearchResult where
  index : Option Nat
  nameValueMatch : Bool
  deriving DecidableEq, Repr

def searchStaticFrom (nv : Nv) (token : Int) (i : Nat) : List StaticEntry → SearchResult
  | [] => ⟨some token.toNat, false⟩
  | ent :: ents =>
    if ent.token = token then
      if ent.value.length = nv.value.length && ent.value = nv.value then
        ⟨some i, true⟩
      else
        searchStaticFrom nv token (i + 1) ents
    else
      ⟨some token.toNat, false⟩

-- It is called with a token that is an index of the table.
def searchStaticTable (nv : Nv) (token : Int) (nameOnly : Bool) : SearchResult :=
  if nameOnly then
    ⟨some token.toNat, false⟩
  else
    searchStaticFrom nv token token.toNat (staticTable.drop token.toNat)

inductive IndexingMode where
  | withIndexing
  | withoutIndexing
  | neverIndexing
  deriving DecidableEq, Repr

def searchHdTable (context : Context) (nv : Nv) (token : Int) (indexingMode : IndexingMode)
    (map : HdMap) (hash : BitVec 32)
    : SearchResult :=
  let nameOnly := indexingMode = .neverIndexing
  let (ent, exactMatch) := map.find nv token hash nameOnly
  if !exactMatch && 0 ≤ token && token ≤ Token.WWW_AUTHENTICATE then
    searchStaticTable nv token nameOnly
  else
    match ent with
    | none => ⟨none, false⟩
    | some ent =>
      ⟨some (context.nextSeq - 1 - ent.seq + .ofNat 32 STATIC_TABLE_LENGTH).toNat, exactMatch⟩

end Hpack
end Fsw
