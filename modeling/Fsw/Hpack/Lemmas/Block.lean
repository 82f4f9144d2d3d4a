import Fsw.Hpack.Lemmas.Huffman
import Fsw.Hpack.Lemmas.Integer
import Fsw.Hpack.Lemmas.Search

namespace Fsw
namespace Hpack

open Bufs (filled)
open Fifo (total fit)

inductive Rep where
  | tableSize (size : Nat)
  | indexed (idx : Nat)
  | indname (mode : IndexingMode) (idx : Nat) (value : Bytes)
  | newname (mode : IndexingMode) (name value : Bytes)

def stringBytes (s : Bytes) : Bytes :=
  if huffEncodeCount s < s.length then
    encodeLength 0x80 (huffEncodeCount s) 7 ++ huffBytes s
  else
    encodeLength 0 s.length 7 ++ s

def prefixlen (mode : IndexingMode) : Nat :=
  if mode = .withIndexing then 6 else 4

def Rep.bytes : Rep → Bytes
  | tableSize size => encodeLength 0x20 size 5
  | indexed idx => encodeLength 0x80 (idx + 1) 7
  | indname mode idx value =>
    encodeLength (packFirstByte mode) (idx + 1) (prefixlen mode) ++ stringBytes value
  | newname mode name value => packFirstByte mode :: (stringBytes name ++ stringBytes value)

structure Table where
  max : Nat
  dyn : List Field

namespace Table

def resize (table : Table) (max : Nat) : Table :=
  ⟨max, fit Field.room max table.dyn⟩

def add (table : Table) (f : Field) : IndexingMode → Table
  | .withIndexing => { table with dyn := fit Field.room table.max (f :: table.dyn) }
  | .withoutIndexing | .neverIndexing => table

def emitted (f : Field) (mode : IndexingMode) : HdNv :=
  { f.toHdNv with flags := if mode = .neverIndexing then NV_FLAG_NO_INDEX else NV_FLAG_NONE }

def read (table : Table) : Rep → Option (Table × Option HdNv)
  | .tableSize size => some (table.resize size, none)
  | .indexed idx => (lookup table.dyn idx).map fun f => (table, some f.toHdNv)
  | .indname mode idx value =>
    (lookup table.dyn idx).map fun f =>
    (table.add (f.1, value) mode, some (emitted (f.1, value) mode))
  | .newname mode name value =>
    some (table.add (name, value) mode, some (emitted (name, value) mode))

inductive Reads : Table → List Rep → List HdNv → Table → Prop where
  | nil {table : Table} : Reads table [] [] table
  | cons {table table' table'' : Table} {rep : Rep} {reps : List Rep}
      {nv : Option HdNv} {nvs : List HdNv} (h : table.read rep = some (table', nv))
      (rest : Reads table' reps nvs table'')
      : Reads table (rep :: reps) (nv.toList ++ nvs) table''

theorem Reads.unique {table table' table'' : Table} {reps : List Rep} {nvs nvs' : List HdNv}
    (h : Reads table reps nvs table') (h' : Reads table reps nvs' table'')
    : table' = table'' := by
  induction h generalizing nvs' with
  | nil =>
    cases h'
    rfl
  | cons hread _ ih =>
    cases h' with
    | cons hread' rest' =>
      rw [hread] at hread'
      cases hread'
      exact ih rest'

end Table

/--
`f` writes `bs` behind what is there, or fails because there is no room for them.
-/
def Writes (f : Bufs → Except Error Bufs) (bs : Bytes) : Prop :=
  ∀ front tail,
    if bs.length ≤ tail.length then
      ∃ tail', tail'.length + bs.length = tail.length
        ∧ f (filled front tail) = .ok (filled (front ++ bs) tail')
    else
      f (filled front tail) = .error .bufferError

section Writes

variable {f g : Bufs → Except Error Bufs} {bs bs' : Bytes}

theorem writes_nil : Writes .ok [] := by
  intro front tail
  rw [List.length_nil, if_pos (Nat.zero_le _)]
  exact ⟨tail, rfl, by rw [List.append_nil]⟩

theorem Writes.bind (hf : Writes f bs) (hg : Writes g bs')
    : Writes (fun bufs => f bufs >>= g) (bs ++ bs') := by
  intro front tail
  rw [List.length_append]
  have hf := hf front tail
  by_cases h : bs.length ≤ tail.length
  . rw [if_pos h] at hf
    obtain ⟨tail', hlength, hok⟩ := hf
    have hg := hg (front ++ bs) tail'
    dsimp only
    rw [hok, ok_bind]
    by_cases h' : bs'.length ≤ tail'.length
    . rw [if_pos h'] at hg
      obtain ⟨tail'', hlength', hok'⟩ := hg
      rw [if_pos (by omega), hok', List.append_assoc]
      exact ⟨tail'', by omega, rfl⟩
    . rw [if_neg h'] at hg
      rw [if_neg (by omega), hg]
  . rw [if_neg h] at hf
    dsimp only
    rw [if_neg (by omega), hf, error_bind]

theorem writes_add (bs : Bytes) : Writes (Bufs.add · bs) bs := by
  intro front tail
  dsimp only
  split
  . next h => exact ⟨tail.drop bs.length, by rw [List.length_drop]; omega, Bufs.add_filled h⟩
  . next h => exact Bufs.add_full (by omega)

theorem writes_addb (b : UInt8) : Writes (Bufs.addb · b) [b] := by
  intro front tail
  cases tail with
  | nil => exact Bufs.addb_nil
  | cons held tail =>
    rw [List.length_singleton, List.length_cons, if_pos (Nat.le_add_left 1 _)]
    exact ⟨tail, rfl, Bufs.addb_filled⟩

theorem writes_huffEncode (s : Bytes) : Writes (huffEncode · s) (huffBytes s) := by
  intro front tail
  have := @huffEncode_eq front tail s
  rw [length_huffBytes]
  exact this

theorem writes_emitLength {n : Nat} (first : UInt8) (pfx : Nat) (h : n < 2 ^ 64)
    : Writes (emitLength · first n pfx) (encodeLength first n pfx) := by
  have hcount : countEncodedLength n pfx ≤ 11 := by
    apply countEncodedLength_le
    omega
  have heq : (emitLength · first n pfx) = (Bufs.add · (encodeLength first n pfx)) := by
    funext bufs
    rw [emitLength, if_neg (by omega)]
  rw [heq]
  exact writes_add _

theorem writes_emitString {s : Bytes} (h : s.length < 2 ^ 64)
    : Writes (emitString · s) (stringBytes s) := by
  unfold stringBytes emitString
  dsimp only
  split
  . next hcount =>
      exact (writes_emitLength 0x80 7 (Nat.lt_trans hcount h)).bind (writes_huffEncode s)
  . exact (writes_emitLength 0 7 h).bind (writes_add s)

variable {nv : Nv} {mode : IndexingMode} {idx : Nat}

theorem writes_emitTableSize {size : Nat} (h : size < 2 ^ 64)
    : Writes (emitTableSize · size) (Rep.tableSize size).bytes :=
  writes_emitLength 0x20 5 h

theorem writes_emitIndexedBlock (h : idx + 1 < 2 ^ 64)
    : Writes (emitIndexedBlock · idx) (Rep.indexed idx).bytes :=
  writes_emitLength 0x80 7 h

theorem writes_emitIndnameBlock (hidx : idx + 1 < 2 ^ 64) (hvalue : nv.value.length < 2 ^ 64)
    : Writes (emitIndnameBlock · idx nv mode) (Rep.indname mode idx nv.value).bytes :=
  (writes_emitLength (packFirstByte mode) (prefixlen mode) hidx).bind (writes_emitString hvalue)

theorem writes_emitNewnameBlock (hname : nv.name.length < 2 ^ 64)
    (hvalue : nv.value.length < 2 ^ 64)
    : Writes (emitNewnameBlock · nv mode) (Rep.newname mode nv.name nv.value).bytes :=
  (writes_addb (packFirstByte mode)).bind
  ((writes_emitString hname).bind (writes_emitString hvalue))

end Writes

end Hpack
end Fsw
