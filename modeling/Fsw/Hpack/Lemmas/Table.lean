import Fsw.Lib.Fifo
import Fsw.Hpack.Lemmas.Ring
import Fsw.Hpack.Lemmas.Static

namespace Fsw
namespace Hpack

open Fifo (total fit)

def Entry.room (ent : Entry) : Nat :=
  ent.nv.room

/--
`ents` are the entries of the table, the newest one first. `map`, if there is one, has them and
nothing else.
-/
structure Context.Stores (context : Context) (map : Option HdMap) (ents : List Entry) : Prop where
  ring : context.hdTable.Holds ents
  bufsize : context.hdTableBufsize = total Entry.room ents
  seq : ∀ i, (h : i < ents.length) → ents[i].seq = context.nextSeq - 1 - .ofNat 32 i
  addr : ents.Pairwise fun a b => b.addr < a.addr
  fresh : ∀ ent ∈ ents, ent.addr < context.allocated
  map : ∀ m, map = some m → ∀ b, m b = ents.filter (HdMap.bucket ·.hash = b)

namespace Context

structure Shrunk (context context' : Context) : Prop where
  max : context'.hdTableBufsizeMax = context.hdTableBufsizeMax
  nextSeq : context'.nextSeq = context.nextSeq
  bad : context'.bad = context.bad
  allocated : context'.allocated = context.allocated

theorem Shrunk.refl (context : Context) : context.Shrunk context :=
  ⟨rfl, rfl, rfl, rfl⟩

theorem Shrunk.trans {a b c : Context} (h : a.Shrunk b) (h' : b.Shrunk c) : a.Shrunk c :=
  ⟨h'.max.trans h.max, h'.nextSeq.trans h.nextSeq, h'.bad.trans h.bad,
    h'.allocated.trans h.allocated⟩

variable {context : Context} {map : Option HdMap} {ents : List Entry} {ent : Entry} {room : Nat}

theorem stores_init (map : Option HdMap) (hmap : ∀ m, map = some m → m = HdMap.init) (max : Nat)
    : { Context.init with hdTableBufsizeMax := max }.Stores map [] where
  ring := Ring.holds_init (by decide)
  bufsize := rfl
  seq := fun i hi => absurd hi (Nat.not_lt_zero i)
  addr := .nil
  fresh := fun _ hent => absurd hent List.not_mem_nil
  map := by
    intro m hm b
    rw [hmap m hm]
    rfl

theorem remove_concat {m : HdMap} (haddr : ∀ a ∈ ents, ent.addr < a.addr)
    (hm : ∀ b, m b = (ents ++ [ent]).filter (HdMap.bucket ·.hash = b)) (b : Nat)
    : m.remove ent b = ents.filter (HdMap.bucket ·.hash = b) := by
  rw [HdMap.remove]
  by_cases hb : b = HdMap.bucket ent.hash
  . have hnot (a : Entry) (ha : a ∈ ents.filter (HdMap.bucket ·.hash = b))
      : ¬decide (a.addr = ent.addr) = true := by
      have := haddr a (List.mem_filter.mp ha).1
      rw [decide_eq_true_eq]
      omega
    rw [← hb, Function.update_self, hm, List.filter_append, List.eraseP_append_right _ hnot,
      List.filter_cons_of_pos (by rw [decide_eq_true_eq]; exact hb.symm), List.filter_nil,
      List.eraseP_cons_of_pos (by rw [decide_eq_true_eq]), List.append_nil]
  . rw [Function.update_of_ne hb, hm, List.filter_append,
      List.filter_cons_of_neg (by rw [decide_eq_true_eq]; exact Ne.symm hb),
      List.filter_nil, List.append_nil]

theorem Stores.evictLast (h : context.Stores map (ents ++ [ent]))
    : ∃ context' map', context.evictLast map = .ok (context', map') ∧ context'.Stores map' ents
        ∧ context.Shrunk context' ∧ (map'.isSome = map.isSome) := by
  obtain ⟨hget, ring', hpop, hring, -⟩ := h.ring.popBack
  have hevict : context.evictLast map
      = .ok ({ context with hdTable := ring', hdTableBufsize := context.hdTableBufsize - ent.room },
          map.map (HdMap.remove · ent)) := by
    rw [Context.evictLast, hget, ok_bind, hpop, ok_bind]
    rfl
  refine ⟨_, _, hevict, ⟨hring, ?_, ?_, ?_, ?_, ?_⟩, ⟨rfl, rfl, rfl, rfl⟩, ?_⟩
  . have := h.bufsize
    rw [Fifo.total_append, Fifo.total_cons, Fifo.total_nil, Nat.add_zero] at this
    dsimp only
    omega
  . intro i hi
    have := h.seq i (by rw [List.length_append]; omega)
    rw [List.getElem_append_left hi] at this
    exact this
  . exact (List.pairwise_append.mp h.addr).1
  . intro a ha
    exact h.fresh a (List.mem_append_left _ ha)
  . intro m hm b
    obtain ⟨m', hm', rfl⟩ := Option.map_eq_some_iff.mp hm
    refine remove_concat ?_ (h.map m' hm') b
    intro a ha
    exact (List.pairwise_append.mp h.addr).2.2 a ha ent List.mem_cons_self
  . rw [Option.isSome_map]

def leave (max room : Nat) (ents : List Entry) : List Entry :=
  if room ≤ max then fit Entry.room (max - room) ents else []

theorem leave_concat {max : Nat} (h : max < total Entry.room (ents ++ [ent]) + room)
    : leave max room (ents ++ [ent]) = leave max room ents := by
  rw [leave, leave]
  split
  . exact Fifo.fit_concat (by omega)
  . rfl

theorem Stores.evict {n : Nat} (room : Nat) (h : context.Stores map ents) (hn : n = ents.length)
    : ∃ context' map', evict room n context map = .ok (context', map')
        ∧ context'.Stores map' (leave context.hdTableBufsizeMax room ents)
        ∧ context.Shrunk context' ∧ (map'.isSome = map.isSome) := by
  induction n generalizing context map ents with
  | zero =>
    rw [List.length_eq_zero_iff.mp hn.symm] at h ⊢
    refine ⟨context, map, rfl, ?_, .refl context, rfl⟩
    rw [leave, fit, ite_self]
    exact h
  | succ n ih =>
    have hbufsize := h.bufsize
    obtain rfl | ⟨ents', ent, rfl⟩ := List.eq_nil_or_concat' ents
    . cases hn
    . rw [List.length_append, List.length_singleton, Nat.add_right_cancel_iff] at hn
      rw [Context.evict, h.ring.len, List.length_append]
      by_cases hroom : context.hdTableBufsize + room > context.hdTableBufsizeMax
      . rw [if_pos ⟨hroom, Nat.succ_pos _⟩]
        obtain ⟨context₁, map₁, hevict, hstores, hshrunk, hsome⟩ := h.evictLast
        obtain ⟨context₂, map₂, hevict₂, hstores₂, hshrunk₂, hsome₂⟩ := ih hstores hn
        refine ⟨context₂, map₂, ?_, ?_, hshrunk.trans hshrunk₂, hsome₂.trans hsome⟩
        . rw [hevict, ok_bind]
          exact hevict₂
        . rw [leave_concat (by omega), ← hshrunk.max]
          exact hstores₂
      . rw [if_neg (fun hand => hroom hand.1)]
        refine ⟨context, map, rfl, ?_, .refl context, rfl⟩
        rw [leave, if_pos (by omega), Fifo.fit_of_total_le (by omega)]
        exact h

theorem Stores.shrinkTableSize (h : context.Stores map ents)
    : ∃ context' map', context.shrinkTableSize map = .ok (context', map')
        ∧ context'.Stores map' (fit Entry.room context.hdTableBufsizeMax ents)
        ∧ context.Shrunk context' ∧ (map'.isSome = map.isSome) := by
  have := h.evict 0 h.ring.len
  rw [leave, if_pos (Nat.zero_le _), Nat.sub_zero] at this
  exact this

-- Entries are not small, so there cannot be many of them.
theorem length_le_total : ents.length * 32 ≤ total Entry.room ents := by
  induction ents with
  | nil => exact Nat.le_refl 0
  | cons ent ents ih =>
    rw [Fifo.total_cons, List.length_cons, Entry.room, HdNv.room, entryRoom, ENTRY_OVERHEAD]
    omega

def push (max : Nat) (ent : Entry) (ents : List Entry) : List Entry :=
  if ent.room ≤ max then ent :: fit Entry.room (max - ent.room) ents else []

theorem push_eq_fit {max : Nat} : push max ent ents = fit Entry.room max (ent :: ents) := by
  rw [push, fit]

variable {nv : HdNv} {hash : BitVec 32}

theorem Stores.pushFront (h : context.Stores map ents) (hlength : ents.length < 2 ^ 63)
    : ∃ ring', context.hdTable.pushFront ⟨context.allocated, nv, context.nextSeq, hash⟩ = .ok ring'
        ∧ { context with
            hdTable := ring'
            hdTableBufsize := context.hdTableBufsize + nv.room
            nextSeq := context.nextSeq + 1
            allocated := context.allocated + 1 }.Stores
              (map.map (HdMap.insert · ⟨context.allocated, nv, context.nextSeq, hash⟩))
              (⟨context.allocated, nv, context.nextSeq, hash⟩ :: ents) := by
  obtain ⟨ring', hpush, hring⟩ :=
    h.ring.pushFront ⟨context.allocated, nv, context.nextSeq, hash⟩ hlength
  refine ⟨ring', hpush, hring, ?_, ?_, ?_, ?_, ?_⟩
  . rw [Fifo.total_cons, h.bufsize, Nat.add_comm]
    rfl
  . intro i hi
    cases i with
    | zero =>
      rw [List.getElem_cons_zero]
      dsimp only
      bv_omega
    | succ i =>
      rw [List.length_cons] at hi
      rw [List.getElem_cons_succ, h.seq i (by omega)]
      dsimp only
      rw [show BitVec.ofNat 32 (i + 1) = BitVec.ofNat 32 i + 1 from BitVec.ofNat_add i 1]
      bv_omega
  . refine .cons ?_ h.addr
    intro a ha
    exact h.fresh a ha
  . intro a ha
    rcases List.mem_cons.mp ha with rfl | ha
    . exact Nat.lt_succ_self _
    . exact Nat.lt_succ_of_lt (h.fresh a ha)
  . intro m hm b
    obtain ⟨m', hm', rfl⟩ := Option.map_eq_some_iff.mp hm
    rw [HdMap.insert, List.filter_cons]
    by_cases hb : b = HdMap.bucket hash
    . rw [if_pos (by rw [decide_eq_true_eq]; exact hb.symm), hb, Function.update_self, h.map m' hm']
    . rw [if_neg (by rw [decide_eq_true_eq]; exact Ne.symm hb), Function.update_of_ne hb,
        h.map m' hm']

theorem Stores.addHdTableIncremental (h : context.Stores map ents)
    (hmax : context.hdTableBufsizeMax < 2 ^ 64)
    : ∃ context' map', context.addHdTableIncremental nv map hash = .ok (context', map')
        ∧ context'.Stores map'
            (push context.hdTableBufsizeMax ⟨context.allocated, nv, context.nextSeq, hash⟩ ents)
        ∧ context'.hdTableBufsizeMax = context.hdTableBufsizeMax ∧ context'.bad = context.bad
        ∧ (map'.isSome = map.isSome) := by
  obtain ⟨context₁, map₁, hevict, hstores, hshrunk, hsome⟩ := h.evict nv.room h.ring.len
  rw [Context.addHdTableIncremental, hevict, ok_bind]
  dsimp only
  rw [hshrunk.max, push]
  rw [leave] at hstores
  change ∃ _ _, _ ∧ Stores _ _ (if nv.room ≤ _ then _ else _) ∧ _
  by_cases hroom : nv.room ≤ context.hdTableBufsizeMax
  . rw [if_neg (by omega), if_pos hroom]
    rw [if_pos hroom] at hstores
    have htotal := Fifo.total_fit_le Entry.room (context.hdTableBufsizeMax - nv.room) ents
    have hcount := @length_le_total (fit Entry.room (context.hdTableBufsizeMax - nv.room) ents)
    obtain ⟨ring', hpush, hstores'⟩ := @Stores.pushFront _ _ _ nv hash hstores (by omega)
    rw [hpush, ok_bind]
    refine ⟨_, _, rfl, ?_, rfl, hshrunk.bad, ?_⟩
    . rw [hshrunk.nextSeq, hshrunk.allocated, hshrunk.max] at hstores'
      rw [hshrunk.nextSeq, hshrunk.allocated]
      exact hstores'
    . rw [Option.isSome_map, hsome]
  . rw [if_pos (by omega), if_neg hroom]
    rw [if_neg hroom] at hstores
    exact ⟨context₁, map₁, rfl, hstores, hshrunk.max, hshrunk.bad, hsome⟩

end Context
end Hpack
end Fsw
