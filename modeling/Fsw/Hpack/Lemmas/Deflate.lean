import Fsw.Hpack.Lemmas.Block

namespace Fsw
namespace Hpack

open Bufs (filled)
open Fifo (total fit)

structure Deflater.Keeps (deflater : Deflater) (table : Table) : Prop where
  has : deflater.ctx.Has (some deflater.map) table.dyn
  max : deflater.ctx.hdTableBufsizeMax = table.max
  total_le : total Field.room table.dyn ≤ table.max
  max_le : table.max ≤ deflater.deflateHdTableBufsizeMax
  limit_lt : deflater.deflateHdTableBufsizeMax < 2 ^ 32

structure Deflater.Same (deflater deflater' : Deflater) : Prop where
  limit : deflater'.deflateHdTableBufsizeMax = deflater.deflateHdTableBufsizeMax
  min : deflater'.minHdTableBufsizeMax = deflater.minHdTableBufsizeMax
  notify : deflater'.notifyTableSizeChange = deflater.notifyTableSizeChange
  bad : deflater'.ctx.bad = deflater.ctx.bad

theorem Deflater.Same.refl (deflater : Deflater) : deflater.Same deflater :=
  ⟨rfl, rfl, rfl, rfl⟩

theorem Deflater.Same.trans {a b c : Deflater} (h : a.Same b) (h' : b.Same c) : a.Same c :=
  ⟨h'.limit.trans h.limit, h'.min.trans h.min, h'.notify.trans h.notify, h'.bad.trans h.bad⟩

-- Fields that must not get into a table
def Nv.sensitive (nv : Nv) : Bool :=
  lookupToken nv.name = Token.AUTHORIZATION
    || (lookupToken nv.name = Token.COOKIE && nv.value.length < 20)
    || nv.flags &&& NV_FLAG_NO_INDEX ≠ 0

/--
The field the other side is to get.
-/
def Nv.received (nv : Nv) : HdNv :=
  { Field.toHdNv (nv.name, nv.value) with
    flags := if nv.sensitive then NV_FLAG_NO_INDEX else NV_FLAG_NONE }

-- The lengths are of the type `size_t`.
def Nv.Sized (nv : Nv) : Prop :=
  nv.name.length < 2 ^ 64 ∧ nv.value.length < 2 ^ 64

instance (nv : Nv) : Decidable nv.Sized :=
  inferInstanceAs (Decidable (_ ∧ _))

inductive Rep.For (nv : Nv) : Rep → Prop where
  | indexed {idx : Nat} (h : idx < 2 ^ 28) : For nv (.indexed idx)
  | indname {idx : Nat} {mode : IndexingMode} (h : idx < 2 ^ 28)
      : For nv (.indname mode idx nv.value)
  | newname {mode : IndexingMode} : For nv (.newname mode nv.name nv.value)

namespace Deflater

variable {deflater : Deflater} {table : Table} {nv : Nv}

theorem decideIndexing_ne (deflater : Deflater) (nv : Nv) (token : Int)
    : deflater.decideIndexing nv token ≠ .neverIndexing := by
  rw [decideIndexing]
  split
  . exact IndexingMode.noConfusion
  . exact IndexingMode.noConfusion

theorem indexingMode_eq_never_iff (deflater : Deflater) (nv : Nv)
    : deflater.indexingMode nv (lookupToken nv.name) = .neverIndexing ↔ nv.sensitive = true := by
  rw [indexingMode]
  change (if nv.sensitive = true then _ else _) = _ ↔ _
  split
  . next h => exact ⟨fun _ => h, fun _ => rfl⟩
  . next h => exact ⟨fun hmode => absurd hmode (decideIndexing_ne _ _ _), fun hs => absurd hs h⟩

theorem Keeps.length_lt (h : deflater.Keeps table) : table.dyn.length < 2 ^ 31 := by
  have := h.has.length_le
  have := h.total_le
  have := h.max_le
  have := h.limit_lt
  omega

theorem Keeps.lookup_lt {idx : Nat} {f : Field} (h : deflater.Keeps table)
    (hf : lookup table.dyn idx = some f)
    : idx < 2 ^ 28 := by
  have := (List.getElem?_eq_some_iff.mp hf).1
  rw [List.length_append, length_staticFields, STATIC_TABLE_LENGTH] at this
  have := h.has.length_le
  have := h.total_le
  have := h.max_le
  have := h.limit_lt
  omega

theorem emitted_eq {mode : IndexingMode} (hmode : mode = .neverIndexing ↔ nv.sensitive = true)
    : Table.emitted (nv.name, nv.value) mode = nv.received := by
  rw [Table.emitted, Nv.received]
  congr 1
  simp only [hmode]

theorem Keeps.max_lt (h : deflater.Keeps table) : deflater.ctx.hdTableBufsizeMax < 2 ^ 64 := by
  have := h.max
  have := h.max_le
  have := h.limit_lt
  omega

-- The name comes from the static table if it is there, but it is the same name.
theorem Keeps.addNv_eq {idx : Option Nat} (h : deflater.Keeps table)
    (hidx : ∀ i, idx = some i → ∃ f, lookup table.dyn i = some f ∧ f.1 = nv.name)
    : deflater.addNv nv (lookupToken nv.name) (hashOfName nv.name) idx = (do
        let (ctx, map) ← deflater.ctx.addHdTableIncremental (Field.toHdNv (nv.name, nv.value))
          (some deflater.map) (hashOfName nv.name)
        return { deflater with ctx, map := map.getD deflater.map }) := by
  unfold Deflater.addNv
  cases idx with
  | none => rfl
  | some i =>
    obtain ⟨f, hf, hname⟩ := hidx i rfl
    dsimp only
    split
    . rw [h.has.tableGet hf, ok_bind, ← hname]
      rfl
    . rfl

theorem Keeps.addNv {idx : Option Nat} (h : deflater.Keeps table)
    (hidx : ∀ i, idx = some i → ∃ f, lookup table.dyn i = some f ∧ f.1 = nv.name)
    : ∃ deflater', deflater.addNv nv (lookupToken nv.name) (hashOfName nv.name) idx = .ok deflater'
        ∧ deflater'.Keeps (table.add (nv.name, nv.value) .withIndexing)
        ∧ deflater.Same deflater' := by
  obtain ⟨ctx, map, hadd, hhas, hmax, hbad, hsome⟩ :=
    @Context.Has.addHdTableIncremental _ _ _ (nv.name, nv.value) (hashOfName nv.name)
      h.has h.max_lt fun _ => rfl
  obtain ⟨m, rfl⟩ := Option.isSome_iff_exists.mp hsome
  rw [h.addNv_eq hidx, hadd]
  refine ⟨_, rfl, ⟨?_, hmax.trans h.max, ?_, h.max_le, h.limit_lt⟩, rfl, rfl, rfl, hbad⟩
  . rw [h.max] at hhas
    exact hhas
  . exact Fifo.total_fit_le _ _ _

theorem add_of_ne {f : Field} {mode : IndexingMode} (h : mode ≠ .withIndexing)
    : table.add f mode = table := by
  cases mode with
  | withIndexing => exact absurd rfl h
  | withoutIndexing => rfl
  | neverIndexing => rfl

theorem writes_emitBlock {idx : Option Nat} {mode : IndexingMode} (hname : nv.name.length < 2 ^ 64)
    (hvalue : nv.value.length < 2 ^ 64) (hidx : ∀ i, idx = some i → i + 1 < 2 ^ 64)
    : Writes (emitBlock · nv mode idx)
        (idx.elim (Rep.newname mode nv.name nv.value) (Rep.indname mode · nv.value)).bytes := by
  cases idx with
  | none => exact writes_emitNewnameBlock hname hvalue
  | some i => exact writes_emitIndnameBlock (hidx i rfl) hvalue

theorem Keeps.deflateLiteral (mode : IndexingMode) (idx : Option Nat) (h : deflater.Keeps table)
    (hname : nv.name.length < 2 ^ 64) (hvalue : nv.value.length < 2 ^ 64)
    (hidx : ∀ i, idx = some i → ∃ f, lookup table.dyn i = some f ∧ f.1 = nv.name)
    : ∃ deflater',
        (∀ bufs, deflater.deflateLiteral bufs nv (lookupToken nv.name) (hashOfName nv.name) mode idx
          = (deflater', emitBlock bufs nv mode idx))
        ∧ Writes (emitBlock · nv mode idx)
            (idx.elim (Rep.newname mode nv.name nv.value) (Rep.indname mode · nv.value)).bytes
        ∧ deflater'.Keeps (table.add (nv.name, nv.value) mode) ∧ deflater.Same deflater' := by
  have hwrites : Writes (emitBlock · nv mode idx)
      (idx.elim (Rep.newname mode nv.name nv.value) (Rep.indname mode · nv.value)).bytes := by
    refine writes_emitBlock hname hvalue ?_
    intro i hi
    obtain ⟨f, hf, -⟩ := hidx i hi
    have := h.lookup_lt hf
    omega
  by_cases hmode : mode = .withIndexing
  . obtain ⟨deflater', hadd, hkeeps, hsame⟩ := h.addNv hidx
    refine ⟨deflater', ?_, hwrites, by rw [hmode]; exact hkeeps, hsame⟩
    intro bufs
    rw [Deflater.deflateLiteral, if_pos hmode, hadd]
  . refine ⟨deflater, ?_, hwrites, by rw [add_of_ne hmode]; exact h, .refl deflater⟩
    intro bufs
    rw [Deflater.deflateLiteral, if_neg hmode]

/--
A field is written as one of its representations, and the table follows.
-/
theorem Keeps.deflateNv (h : deflater.Keeps table) (hsized : nv.Sized)
    : ∃ deflater' table' rep, (∀ bufs, (deflater.deflateNv bufs nv).1 = deflater')
        ∧ Writes (fun bufs => (deflater.deflateNv bufs nv).2) rep.bytes ∧ deflater'.Keeps table'
        ∧ table.read rep = some (table', some nv.received) ∧ rep.For nv
        ∧ deflater.Same deflater' := by
  have hsearch :=
    h.has.searchHdTable nv (deflater.indexingMode nv (lookupToken nv.name)) h.length_lt
  have hmode := deflater.indexingMode_eq_never_iff nv
  have heq (bufs : Bufs) : deflater.deflateNv bufs nv
      = if (searchHdTable deflater.ctx nv (lookupToken nv.name)
        (deflater.indexingMode nv (lookupToken nv.name))
            deflater.map (hashOfName nv.name)).nameValueMatch then
          (deflater, emitIndexedBlock bufs ((searchHdTable deflater.ctx nv (lookupToken nv.name)
            (deflater.indexingMode nv (lookupToken nv.name)) deflater.map
            (hashOfName nv.name)).index.getD 0))
        else
          deflater.deflateLiteral bufs nv (lookupToken nv.name) (hashOfName nv.name)
            (deflater.indexingMode nv (lookupToken nv.name))
              (searchHdTable deflater.ctx nv (lookupToken nv.name)
              (deflater.indexingMode nv (lookupToken nv.name)) deflater.map
              (hashOfName nv.name)).index := by
    rw [Deflater.deflateNv, hashOf_eq]
  generalize searchHdTable deflater.ctx nv (lookupToken nv.name)
    (deflater.indexingMode nv (lookupToken nv.name))
    deflater.map (hashOfName nv.name) = res at hsearch heq
  generalize deflater.indexingMode nv (lookupToken nv.name) = mode at hsearch heq hmode
  simp only [heq]
  cases hsearch with
  | none hnone =>
    obtain ⟨deflater', hliteral, hwrites, hkeeps, hsame⟩ :=
      h.deflateLiteral mode none hsized.1 hsized.2 (fun i hi => by cases hi)
    refine ⟨deflater', _, .newname mode nv.name nv.value, ?_, ?_, hkeeps, ?_, .newname, hsame⟩
    . intro bufs
      simp [hliteral]
    . simpa [hliteral] using hwrites
    . rw [Table.read, emitted_eq hmode]
  | @name idx f hf hfname hother =>
    obtain ⟨deflater', hliteral, hwrites, hkeeps, hsame⟩ :=
      h.deflateLiteral mode (some idx) hsized.1 hsized.2
        (fun i hi => ⟨f, by injection hi with hi; rw [← hi, hf], hfname⟩)
    refine ⟨deflater', _, .indname mode idx nv.value, ?_, ?_, hkeeps, ?_,
      .indname (h.lookup_lt hf), hsame⟩
    . intro bufs
      simp [hliteral]
    . simpa [hliteral] using hwrites
    . rw [Table.read, hf, Option.map_some, hfname, emitted_eq hmode]
  | @exact idx hf hnever =>
    have hsensitive : nv.sensitive = false := by
      rw [Bool.eq_false_iff]
      intro hs
      rw [hmode.mpr hs] at hnever
      simp at hnever
    refine ⟨deflater, table, .indexed idx, fun _ => rfl, ?_, h, ?_, .indexed (h.lookup_lt hf),
      .refl deflater⟩
    . have := h.lookup_lt hf
      have hidx : idx + 1 < 2 ^ 64 := by omega
      exact writes_emitIndexedBlock hidx
    . rw [Table.read, hf, Option.map_some, Nv.received, hsensitive]
      rfl

variable {nvs : List Nv}

theorem Keeps.deflateNvs (h : deflater.Keeps table) (hsized : ∀ nv ∈ nvs, nv.Sized)
    : ∃ deflater' table' reps,
        (∀ front tail,
          if (reps.flatMap Rep.bytes).length ≤ tail.length then
            ∃ tail', deflater.deflateNvs (filled front tail) nvs
              = (deflater', .ok (filled (front ++ reps.flatMap Rep.bytes) tail'))
          else
            ∃ deflater'' table'', deflater.deflateNvs (filled front tail) nvs
              = (deflater'', .error .bufferError)
              ∧ deflater''.Keeps table'' ∧ deflater.Same deflater'')
        ∧ deflater'.Keeps table' ∧ table.Reads reps (nvs.map Nv.received) table'
        ∧ List.Forall₂ Rep.For nvs reps ∧ deflater.Same deflater' := by
  induction nvs generalizing deflater table with
  | nil =>
    refine ⟨deflater, table, [], ?_, h, .nil, .nil, .refl deflater⟩
    intro front tail
    rw [List.flatMap_nil, List.length_nil, if_pos (Nat.zero_le _), List.append_nil]
    exact ⟨tail, rfl⟩
  | cons nv nvs ih =>
    obtain ⟨deflater₁, table₁, rep, hfst, hwrites, hkeeps₁, hread, hfor, hsame₁⟩ :=
      h.deflateNv (hsized nv List.mem_cons_self)
    obtain ⟨deflater', table', reps, hrun, hkeeps, hreads, hfors, hsame⟩ :=
      ih hkeeps₁ fun nv' hnv' => hsized nv' (List.mem_cons_of_mem nv hnv')
    refine ⟨deflater', table', rep :: reps, ?_, hkeeps, .cons hread hreads, .cons hfor hfors,
      hsame₁.trans hsame⟩
    intro front tail
    have hwrite := hwrites front tail
    have hpair (out : Except Error Bufs)
      (hout : (deflater.deflateNv (filled front tail) nv).2 = out)
        : deflater.deflateNv (filled front tail) nv = (deflater₁, out) := by
      rw [← hfst (filled front tail), ← hout]
    rw [List.flatMap_cons, List.length_append, Deflater.deflateNvs]
    by_cases hroom : rep.bytes.length ≤ tail.length
    . rw [if_pos hroom] at hwrite
      obtain ⟨tail₁, hlength, hok⟩ := hwrite
      have hrest := hrun (front ++ rep.bytes) tail₁
      rw [hpair _ hok]
      dsimp only
      by_cases hroom' : (reps.flatMap Rep.bytes).length ≤ tail₁.length
      . rw [if_pos hroom', List.append_assoc] at hrest
        rw [if_pos (by omega)]
        exact hrest
      . rw [if_neg hroom'] at hrest
        obtain ⟨deflater'', table'', herror, hkeeps'', hsame''⟩ := hrest
        rw [if_neg (by omega)]
        exact ⟨deflater'', table'', herror, hkeeps'', hsame₁.trans hsame''⟩
    . rw [if_neg hroom] at hwrite
      rw [if_neg (by omega), hpair _ hwrite]
      exact ⟨deflater₁, table₁, rfl, hkeeps₁, hsame₁⟩

/--
What is known of a deflater between two blocks. Changes of the size that the other side has not been
told of have had their effect already.
-/
structure Ready (deflater : Deflater) (table : Table) : Prop extends deflater.Keeps table where
  min_le : deflater.minHdTableBufsizeMax ≤ UINT32_MAX.toNat
  pending : deflater.notifyTableSizeChange = true
    → total Field.room table.dyn ≤ deflater.minHdTableBufsizeMax
  told : deflater.notifyTableSizeChange = false → deflater.minHdTableBufsizeMax = UINT32_MAX.toNat

theorem ready_init {size : Nat} (h : size < 2 ^ 32)
    : (Deflater.init size).Ready ⟨min size DEFAULT_MAX_BUFFER_SIZE, []⟩ := by
  have hhas (max : Nat) :=
    Context.has_init (some HdMap.init) (fun m hm => by injection hm with hm; exact hm.symm) max
  rw [Deflater.init]
  split
  . next hlt =>
    rw [Nat.min_eq_left (Nat.le_of_lt hlt)]
    refine ⟨⟨hhas size, rfl, Nat.zero_le _, Nat.le_refl _, h⟩, Nat.le_refl _,
      fun _ => Nat.zero_le _, ?_⟩
    intro hfalse
    cases hfalse
  . next hlt =>
    rw [Nat.min_eq_right (Nat.le_of_not_lt hlt)]
    refine ⟨⟨hhas _, rfl, Nat.zero_le _, Nat.le_of_not_lt hlt, h⟩, Nat.le_refl _, ?_, fun _ => rfl⟩
    intro htrue
    cases htrue

theorem Ready.changeTableSize {size : Nat} (h : deflater.Ready table)
    : ∃ deflater', deflater.changeTableSize size = .ok deflater'
        ∧ deflater'.Ready (table.resize (min size deflater.deflateHdTableBufsizeMax))
        ∧ deflater'.notifyTableSizeChange = true
        ∧ deflater'.minHdTableBufsizeMax
            = min deflater.minHdTableBufsizeMax (min size deflater.deflateHdTableBufsizeMax)
        ∧ deflater'.deflateHdTableBufsizeMax = deflater.deflateHdTableBufsizeMax
        ∧ deflater'.ctx.bad = deflater.ctx.bad := by
  obtain ⟨ents, hlists⟩ := h.has
  have hhas
    : { deflater.ctx with hdTableBufsizeMax := min size deflater.deflateHdTableBufsizeMax }.Has
      (some deflater.map) table.dyn := by
    have hstores := hlists.stores
    exact ⟨ents, ⟨hstores.ring, hstores.bufsize, hstores.seq, hstores.addr, hstores.fresh,
      hstores.map⟩, hlists.nv, hlists.hash⟩
  obtain ⟨ctx, map, hshrink, hhas', hshrunk, hsome⟩ := hhas.shrinkTableSize
  obtain ⟨m, rfl⟩ := Option.isSome_iff_exists.mp hsome
  have htotal := Fifo.total_fit_le Field.room (min size deflater.deflateHdTableBufsizeMax) table.dyn
  have hless
    : total Field.room (fit Field.room (min size deflater.deflateHdTableBufsizeMax) table.dyn)
      ≤ total Field.room table.dyn := Fifo.total_fit_le_total _ _ _
  rw [Deflater.changeTableSize, hshrink]
  refine ⟨_, rfl, ⟨⟨hhas', hshrunk.max, htotal, Nat.min_le_right _ _, h.limit_lt⟩, ?_, ?_, ?_⟩,
    rfl, rfl, rfl, hshrunk.bad⟩
  . have := h.min_le
    dsimp only
    omega
  . intro _
    change total Field.room (fit _ _ _) ≤ min _ _
    cases hnotify : deflater.notifyTableSizeChange with
    | true =>
      have := h.pending hnotify
      omega
    | false =>
      have := h.told hnotify
      have := h.limit_lt
      have hmax : UINT32_MAX.toNat = 2 ^ 32 - 1 := rfl
      omega
  . intro hfalse
    cases hfalse

-- The changes of the size that are written at the beginning of the next block
def sizes (deflater : Deflater) : List Rep :=
  if deflater.notifyTableSizeChange then
    (if deflater.ctx.hdTableBufsizeMax > deflater.minHdTableBufsizeMax then
      [.tableSize deflater.minHdTableBufsizeMax]
    else
      []) ++ [.tableSize deflater.ctx.hdTableBufsizeMax]
  else
    []

theorem writes_sizes (h : deflater.Ready table)
    : Writes (fun bufs => (deflater.notify bufs).2) (deflater.sizes.flatMap Rep.bytes) := by
  unfold notify sizes
  cases deflater.notifyTableSizeChange with
  | false => exact writes_nil
  | true =>
    have hmin := h.min_le
    have hmax : UINT32_MAX.toNat = 2 ^ 32 - 1 := rfl
    have hlast := writes_emitTableSize h.max_lt
    by_cases hgt : deflater.ctx.hdTableBufsizeMax > deflater.minHdTableBufsizeMax
    . have hfirst : Writes (emitTableSize · deflater.minHdTableBufsizeMax)
          (Rep.tableSize deflater.minHdTableBufsizeMax).bytes := writes_emitTableSize (by omega)
      have hboth := hfirst.bind hlast
      simpa only [hgt, ↓reduceIte, List.cons_append, List.nil_append, List.flatMap_cons,
        List.flatMap_nil, List.append_nil] using hboth
    . simpa only [hgt, ↓reduceIte, List.nil_append, List.flatMap_cons, List.flatMap_nil,
        List.append_nil, pure_bind]
        using hlast

def notified (deflater : Deflater) : Deflater :=
  { deflater with notifyTableSizeChange := false, minHdTableBufsizeMax := UINT32_MAX.toNat }

theorem Ready.fst_notify (bufs : Bufs) (h : deflater.Ready table)
    : (deflater.notify bufs).1 = deflater.notified := by
  rw [Deflater.notify, notified]
  cases hnotify : deflater.notifyTableSizeChange with
  | false =>
    change deflater = _
    rw [← hnotify, ← h.told hnotify]
  | true => rfl

theorem Ready.of_keeps (h : deflater.Keeps table) (hnotify : deflater.notifyTableSizeChange = false)
    (hmin : deflater.minHdTableBufsizeMax = UINT32_MAX.toNat)
    : deflater.Ready table := by
  refine ⟨h, Nat.le_of_eq hmin, ?_, fun _ => hmin⟩
  intro htrue
  rw [hnotify] at htrue
  cases htrue

theorem Keeps.fail (h : deflater.Keeps table) : deflater.fail.Keeps table := by
  obtain ⟨ents, hlists⟩ := h.has
  have hstores := hlists.stores
  refine ⟨⟨ents, ?_, hlists.nv, hlists.hash⟩, h.max, h.total_le, h.max_le, h.limit_lt⟩
  exact ⟨hstores.ring, hstores.bufsize, hstores.seq, hstores.addr, hstores.fresh, hstores.map⟩

theorem Ready.deflateHdBufs (h : deflater.Ready table) (hbad : deflater.ctx.bad = false)
    (hsized : ∀ nv ∈ nvs, nv.Sized)
    : ∃ deflater' table' reps,
        (∀ front tail,
          if ((deflater.sizes ++ reps).flatMap Rep.bytes).length ≤ tail.length then
            ∃ tail', deflater.deflateHdBufs (filled front tail) nvs
              = (deflater',
                .ok (filled (front ++ (deflater.sizes ++ reps).flatMap Rep.bytes) tail'))
          else
            ∃ deflater'' table'', deflater.deflateHdBufs (filled front tail) nvs
              = (deflater'', .error .bufferError)
              ∧ deflater''.Ready table'' ∧ deflater''.ctx.bad = true
              ∧ deflater''.deflateHdTableBufsizeMax = deflater.deflateHdTableBufsizeMax)
        ∧ deflater'.Ready table' ∧ deflater.notified.Same deflater'
        ∧ table.Reads reps (nvs.map Nv.received) table' ∧ List.Forall₂ Rep.For nvs reps := by
  have hnotified : deflater.notified.Keeps table := ⟨h.has, h.max, h.total_le, h.max_le, h.limit_lt⟩
  obtain ⟨deflater', table', reps, hrun, hkeeps, hreads, hfors, hsame⟩ :=
    hnotified.deflateNvs hsized
  refine ⟨deflater', table', reps, ?_, .of_keeps hkeeps hsame.notify hsame.min,
    hsame, hreads, hfors⟩
  intro front tail
  have hsizes := writes_sizes h front tail
  have hpair (out : Except Error Bufs) (hout : (deflater.notify (filled front tail)).2 = out)
      : deflater.notify (filled front tail) = (deflater.notified, out) := by
    rw [← h.fst_notify (filled front tail), ← hout]
  rw [List.flatMap_append, List.length_append, Deflater.deflateHdBufs,
    hbad, if_neg Bool.false_ne_true]
  by_cases hroom : (deflater.sizes.flatMap Rep.bytes).length ≤ tail.length
  . rw [if_pos hroom] at hsizes
    obtain ⟨tail₁, hlength, hok⟩ := hsizes
    have hrest := hrun (front ++ deflater.sizes.flatMap Rep.bytes) tail₁
    rw [hpair _ hok]
    dsimp only
    by_cases hroom' : (reps.flatMap Rep.bytes).length ≤ tail₁.length
    . rw [if_pos hroom', List.append_assoc] at hrest
      obtain ⟨tail', hrest⟩ := hrest
      rw [if_pos (by omega), hrest]
      exact ⟨tail', rfl⟩
    . rw [if_neg hroom'] at hrest
      obtain ⟨deflater'', table'', herror, hkeeps'', hsame''⟩ := hrest
      rw [if_neg (by omega), herror]
      exact ⟨deflater''.fail, table'', rfl, .of_keeps hkeeps''.fail hsame''.notify hsame''.min,
        rfl, hsame''.limit⟩
  . rw [if_neg hroom] at hsizes
    rw [if_neg (by omega), hpair _ hsizes]
    exact ⟨deflater.notified.fail, table, rfl, .of_keeps hnotified.fail rfl rfl, rfl, rfl⟩

/--
A block is written behind the changes of the size, unless there is too little room for it.
-/
theorem Ready.deflateHd (h : deflater.Ready table) (hbad : deflater.ctx.bad = false)
    (hsized : ∀ nv ∈ nvs, nv.Sized)
    : ∃ deflater' table' reps,
        (∀ mem : Bytes,
          if ((deflater.sizes ++ reps).flatMap Rep.bytes).length ≤ mem.length then
            deflater.deflateHd mem nvs
              = (deflater', .ok ((deflater.sizes ++ reps).flatMap Rep.bytes))
          else
            ∃ deflater'' table'', deflater.deflateHd mem nvs = (deflater'', .error .insuffBufsize)
              ∧ deflater''.Ready table'' ∧ deflater''.ctx.bad = true
              ∧ deflater''.deflateHdTableBufsizeMax = deflater.deflateHdTableBufsizeMax)
        ∧ deflater'.Ready table' ∧ deflater.notified.Same deflater'
        ∧ table.Reads reps (nvs.map Nv.received) table' ∧ List.Forall₂ Rep.For nvs reps := by
  obtain ⟨deflater', table', reps, hrun, hready⟩ := h.deflateHdBufs hbad hsized
  refine ⟨deflater', table', reps, ?_, hready⟩
  intro mem
  have hmem := hrun [] mem
  have hfilled : Bufs.wrapInit mem = filled [] mem := rfl
  rw [Deflater.deflateHd, hfilled]
  split
  . next hroom =>
    rw [if_pos hroom] at hmem
    obtain ⟨tail', hok⟩ := hmem
    rw [hok]
    dsimp only
    rw [Bufs.contents_filled, List.nil_append]
  . next hroom =>
    rw [if_neg hroom] at hmem
    obtain ⟨deflater'', table'', herror, hready''⟩ := hmem
    rw [herror]
    exact ⟨deflater'', table'', rfl, hready''⟩

end Deflater

/--
What `nghttp2_hd_deflate_bound` counts on: a string of `2 ^ 28` bytes or more has a length of six
bytes, and there is no room for two of them with the first byte of the field.
-/
def Nv.Bounded (nv : Nv) : Prop :=
  (nv.name.length < 2 ^ 28 ∨ nv.value.length < 2 ^ 28) ∧ nv.name.length < 2 ^ 35
    ∧ nv.value.length < 2 ^ 35

instance (nv : Nv) : Decidable nv.Bounded :=
  inferInstanceAs (Decidable (_ ∧ _))

theorem Nv.Bounded.sized {nv : Nv} (h : nv.Bounded) : nv.Sized := by
  obtain ⟨-, hname, hvalue⟩ := h
  exact ⟨by omega, by omega⟩

theorem length_stringBytes_le {s : Bytes} {k : Nat} (h : s.length < 128 ^ (k + 1))
    : (stringBytes s).length ≤ k + 2 + s.length := by
  unfold stringBytes
  split
  . next hlt =>
    have := @countEncodedLength_le (huffEncodeCount s) 7 k (by omega)
    rw [List.length_append, length_encodeLength, length_huffBytes]
    omega
  . have := @countEncodedLength_le s.length 7 k h
    rw [List.length_append, length_encodeLength]
    omega

theorem Rep.For.length_le {nv : Nv} {rep : Rep} (h : rep.For nv) (hbounded : nv.Bounded)
    : rep.bytes.length ≤ 12 + (nv.name.length + nv.value.length) := by
  obtain ⟨hshort, hname, hvalue⟩ := hbounded
  have hname6 := @length_stringBytes_le nv.name 4 (by omega)
  have hvalue6 := @length_stringBytes_le nv.value 4 (by omega)
  cases h with
  | @indexed idx hidx =>
    have := @countEncodedLength_le (idx + 1) 7 4 (by omega)
    rw [Rep.bytes, length_encodeLength]
    omega
  | @indname idx mode hidx =>
    have := @countEncodedLength_le (idx + 1) (prefixlen mode) 4 (by omega)
    rw [Rep.bytes, List.length_append, length_encodeLength]
    omega
  | newname =>
    rw [Rep.bytes, List.length_cons, List.length_append]
    rcases hshort with hshort | hshort
    . have := @length_stringBytes_le nv.name 3 (by omega)
      omega
    . have := @length_stringBytes_le nv.value 3 (by omega)
      omega

namespace Deflater

variable {deflater : Deflater} {table : Table} {nvs : List Nv}

theorem length_reps_le {reps : List Rep} (h : List.Forall₂ Rep.For nvs reps)
    (hbounded : ∀ nv ∈ nvs, nv.Bounded)
    : (reps.flatMap Rep.bytes).length + 12 ≤ deflateBound nvs := by
  rw [deflateBound]
  induction h with
  | nil => simp
  | @cons nv rep nvs reps hfor _ ih =>
    have hle := hfor.length_le (hbounded nv List.mem_cons_self)
    have := ih fun nv' hnv' => hbounded nv' (List.mem_cons_of_mem nv hnv')
    rw [List.flatMap_cons, List.length_append, List.length_cons, List.map_cons, List.sum_cons]
    omega

theorem Ready.length_sizes_le (h : deflater.Ready table)
    : (deflater.sizes.flatMap Rep.bytes).length ≤ 12 := by
  have hmax : UINT32_MAX.toNat = 2 ^ 32 - 1 := rfl
  have hmin := @countEncodedLength_le deflater.minHdTableBufsizeMax 5 4 (by have := h.min_le; omega)
  have hlast := @countEncodedLength_le deflater.ctx.hdTableBufsizeMax 5 4
    (by have := h.max; have := h.max_le; have := h.limit_lt; omega)
  rw [sizes]
  split
  . rw [List.flatMap_append, List.length_append]
    have hlast' : ([Rep.tableSize deflater.ctx.hdTableBufsizeMax].flatMap Rep.bytes).length
      ≤ 6 := by
      simpa [Rep.bytes, length_encodeLength] using hlast
    split
    . have hfirst : ([Rep.tableSize deflater.minHdTableBufsizeMax].flatMap Rep.bytes).length
        ≤ 6 := by
        simpa [Rep.bytes, length_encodeLength] using hmin
      omega
    . rw [List.flatMap_nil, List.length_nil]
      omega
  . exact Nat.zero_le _

/--
There is always room for a block in as many bytes as `nghttp2_hd_deflate_bound` returns.
-/
theorem Ready.deflateHd_bound (h : deflater.Ready table) (hbad : deflater.ctx.bad = false)
    (hbounded : ∀ nv ∈ nvs, nv.Bounded)
    : ∃ deflater' table' reps,
        ((deflater.sizes ++ reps).flatMap Rep.bytes).length ≤ deflateBound nvs
        ∧ (∀ mem : Bytes, deflateBound nvs ≤ mem.length →
          deflater.deflateHd mem nvs
            = (deflater', .ok ((deflater.sizes ++ reps).flatMap Rep.bytes)))
        ∧ deflater'.Ready table' ∧ deflater.notified.Same deflater'
        ∧ table.Reads reps (nvs.map Nv.received) table' ∧ List.Forall₂ Rep.For nvs reps := by
  obtain ⟨deflater', table', reps, hrun, hready, hsame, hreads, hfors⟩ :=
    h.deflateHd hbad fun nv hnv => (hbounded nv hnv).sized
  have hle : ((deflater.sizes ++ reps).flatMap Rep.bytes).length ≤ deflateBound nvs := by
    have hreps := length_reps_le hfors hbounded
    have hsizes := h.length_sizes_le
    rw [List.flatMap_append, List.length_append]
    omega
  refine ⟨deflater', table', reps, hle, ?_, hready, hsame, hreads, hfors⟩
  intro mem hmem
  have hmem' := hrun mem
  rw [if_pos (Nat.le_trans hle hmem)] at hmem'
  exact hmem'

end Deflater

inductive DeflateCall where
  | hd (mem : Bytes) (nvs : List Nv)
  | changeTableSize (size : BitVec 64)

def DeflateCall.Sized : DeflateCall → Prop
  | hd _ nvs => ∀ nv ∈ nvs, nv.Sized
  | changeTableSize _ => True

instance : (c : DeflateCall) → Decidable c.Sized
  | .hd _ nvs => inferInstanceAs (Decidable (∀ nv ∈ nvs, nv.Sized))
  | .changeTableSize _ => .isTrue trivial

namespace Deflater

def call (deflater : Deflater) : DeflateCall → Deflater × Except Error Bytes
  | .hd mem nvs => deflater.deflateHd mem nvs
  | .changeTableSize size =>
    match deflater.changeTableSize size.toNat with
    | .ok deflater => (deflater, .ok [])
    | .error e => (deflater, .error e)

def calls (deflater : Deflater) : List DeflateCall → Deflater × List (Except Error Bytes)
  | [] => (deflater, [])
  | c :: cs =>
    let (deflater, r) := deflater.call c
    let (deflater, rs) := deflater.calls cs
    (deflater, r :: rs)

variable {deflater : Deflater} {table : Table}

theorem Ready.call (c : DeflateCall) (h : deflater.Ready table) (hsized : c.Sized)
    : (∃ table', (deflater.call c).1.Ready table')
      ∧ (deflater.call c).1.deflateHdTableBufsizeMax = deflater.deflateHdTableBufsizeMax
      ∧ ∀ e, (deflater.call c).2 = .error e → e = .headerComp ∨ e = .insuffBufsize := by
  cases c with
  | hd mem nvs =>
    rw [Deflater.call]
    cases hbad : deflater.ctx.bad with
    | true =>
      have hfail : deflater.deflateHd mem nvs = (deflater, .error .headerComp) := by
        rw [Deflater.deflateHd, Deflater.deflateHdBufs, hbad, if_pos rfl]
      rw [hfail]
      exact ⟨⟨table, h⟩, rfl, fun e he => by cases he; exact .inl rfl⟩
    | false =>
      obtain ⟨deflater', table', reps, hrun, hready, hsame, -, -⟩ := h.deflateHd hbad hsized
      have hmem := hrun mem
      split at hmem
      . rw [hmem]
        exact ⟨⟨table', hready⟩, hsame.limit, fun e he => by cases he⟩
      . obtain ⟨deflater'', table'', herror, hready'', -, hlimit⟩ := hmem
        rw [herror]
        exact ⟨⟨table'', hready''⟩, hlimit, fun e he => by cases he; exact .inr rfl⟩
  | changeTableSize size =>
    rw [Deflater.call]
    obtain ⟨deflater', hok, hready, -, -, hlimit, -⟩ :=
      @Ready.changeTableSize deflater table size.toNat h
    rw [hok]
    exact ⟨⟨_, hready⟩, hlimit, fun e he => by cases he⟩

theorem Ready.calls (cs : List DeflateCall) (h : deflater.Ready table) (hsized : ∀ c ∈ cs, c.Sized)
    : (∃ table', (deflater.calls cs).1.Ready table')
      ∧ (deflater.calls cs).1.deflateHdTableBufsizeMax = deflater.deflateHdTableBufsizeMax
      ∧ ∀ e, .error e ∈ (deflater.calls cs).2 → e = .headerComp ∨ e = .insuffBufsize := by
  induction cs generalizing deflater table with
  | nil => exact ⟨⟨table, h⟩, rfl, fun e he => by cases he⟩
  | cons c cs ih =>
    obtain ⟨⟨table₁, hready₁⟩, hlimit₁, herror₁⟩ := h.call c (hsized c List.mem_cons_self)
    obtain ⟨hready, hlimit, herror⟩ := ih hready₁ fun c' hc' =>
      hsized c' (List.mem_cons_of_mem c hc')
    refine ⟨hready, hlimit.trans hlimit₁, ?_⟩
    intro e he
    rcases List.mem_cons.mp he with he | he
    . exact herror₁ e he.symm
    . exact herror e he

/--
`nghttp2_hd_deflate_bound` is an upper bound: whatever the deflater has been used for, a block for
which there are as many bytes is written, unless the deflater has failed before.
-/
theorem calls_deflateBound (limit : Nat) (cs : List DeflateCall) (mem : Bytes) (nvs : List Nv)
    (hlimit : limit < 2 ^ 32) (hsized : ∀ c ∈ cs, c.Sized) (hbounded : ∀ nv ∈ nvs, nv.Bounded)
    (hmem : deflateBound nvs ≤ mem.length)
    (hbad : ((Deflater.init limit).calls cs).1.ctx.bad = false)
    : ∃ bs, (((Deflater.init limit).calls cs).1.deflateHd mem nvs).2 = .ok bs
        ∧ bs.length ≤ deflateBound nvs := by
  obtain ⟨⟨table, hready⟩, -, -⟩ := (ready_init hlimit).calls cs hsized
  obtain ⟨deflater', table', reps, hle, hrun, -⟩ := hready.deflateHd_bound hbad hbounded
  exact ⟨_, by rw [hrun mem hmem], hle⟩

theorem calls_deflateBound_changed
    : ∃ bs, (((Deflater.init 100).calls [.changeTableSize 0, .changeTableSize 64]).1.deflateHd
        (List.replicate 25 0) [⟨[0x61], [], 0⟩]).2 = .ok bs ∧ bs.length ≤ 25 :=
  calls_deflateBound 100 [.changeTableSize 0, .changeTableSize 64] (List.replicate 25 0)
    [⟨[0x61], [], 0⟩] (by decide)
    (by decide) (by decide) (by decide) (by decide +kernel)

end Deflater
end Hpack
end Fsw
