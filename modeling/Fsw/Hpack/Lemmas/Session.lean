import Fsw.Hpack.Lemmas.Deflate
import Fsw.Hpack.Lemmas.Pieces

namespace Fsw
namespace Hpack

open Fifo (total fit)

namespace Inflater

variable {wide : WideShift} {inflater inflater' : Inflater} {table table' : Table}
  {bs rest : Bytes} {final : Bool}
  {nvs : List HdNv} {reps : List Rep}

theorem Feeds.of_ends {r : Inflater × List HdNv × Option Error}
    (h : Feeds wide final inflater' rest r) (hsound : inflater.Sound table)
    (hbad : inflater.ctx.bad = false) (hsound' : inflater'.Sound table')
    (hbad' : inflater'.ctx.bad = false)
    (hends : ∀ r, Ends wide inflater' rest false r → Ends wide inflater (bs ++ rest) false r)
    : Feeds wide final inflater (bs ++ rest) r := by
  obtain ⟨o, hends', hlooped⟩ := hsound'.exists_ends wide rest hbad'
  have hcall : inflater.inflateHdNv wide (bs ++ rest) final
      = shifted bs.length (inflater'.inflateHdNv wide rest final) := by
    rw [(hends o hends').inflateHdNv hsound hbad, hends'.inflateHdNv hsound' hbad',
      hlooped.returned_append]
  cases h with
  | all h =>
    refine .all ?_
    rw [hcall, h, List.length_append]
    rfl
  | emit h rest =>
    rw [h] at hcall
    refine .emit hcall ?_
    rw [← List.drop_drop, List.drop_left]
    exact rest
  | error h =>
    refine .error ?_
    rw [hcall, h]
    rfl

theorem Keeps.sound (h : inflater.Keeps table) (hfield : inflater.AtField)
    : inflater.Sound table := by
  refine ⟨h, fun _ => ?_⟩
  rw [Consistent]
  rcases hfield with hstate | hstate
  . rw [hstate]
    trivial
  . rw [hstate]
    trivial

theorem Keeps.feeds (hkeeps : inflater.Keeps table) (hfield : inflater.AtField)
    (hbad : inflater.ctx.bad = false) (hreads : table.Reads reps nvs table')
    (hreadable : ∀ rep ∈ reps, rep.Readable) (hfields : ∀ rep ∈ reps, ∀ size, rep ≠ .tableSize size)
    : ∃ inflater', Feeds wide true inflater (reps.flatMap Rep.bytes)
        (inflater'.endHeaders, nvs, none)
        ∧ inflater'.Keeps table' ∧ inflater.Stays inflater' := by
  induction hreads generalizing inflater with
  | nil =>
    have hcall := (@Ends.done wide inflater).inflateHdNv (hkeeps.sound hfield) hbad true
    refine ⟨inflater, .all ?_, hkeeps, rfl, rfl, rfl⟩
    rw [List.flatMap_nil, hcall, returned, if_pos rfl, if_neg]
    . rfl
    . rintro ⟨hopcode, hstart⟩
      exact hfield.elim hstart hopcode
  | @cons table table₁ table' rep reps nv nvs hread _ ih =>
    have hnv : ∃ nv', nv = some nv' := by
      cases rep with
      | tableSize size => exact absurd rfl (hfields _ List.mem_cons_self size)
      | indexed idx =>
        rw [Table.read, Option.map_eq_some_iff] at hread
        obtain ⟨f, -, heq⟩ := hread
        cases heq
        exact ⟨_, rfl⟩
      | indname mode idx value =>
        rw [Table.read, Option.map_eq_some_iff] at hread
        obtain ⟨f, -, heq⟩ := hread
        cases heq
        exact ⟨_, rfl⟩
      | newname mode name value =>
        cases hread
        exact ⟨_, rfl⟩
    obtain ⟨nv, rfl⟩ := hnv
    obtain ⟨inflater₁, hends, hreading⟩ :=
      @Keeps.readField wide inflater (reps.flatMap Rep.bytes) table table₁ rep nv
      hkeeps hfield (hreadable rep List.mem_cons_self) hread
    obtain ⟨inflater', hfeeds, hkeeps', hstays⟩ :=
      ih hreading.keeps (.inr hreading.state) (hreading.bad.trans hbad)
      (fun rep' hrep' => hreadable rep' (List.mem_cons_of_mem rep hrep'))
      (fun rep' hrep' => hfields rep' (List.mem_cons_of_mem rep hrep'))
    have hcall := hends.inflateHdNv (hkeeps.sound hfield) hbad true
    rw [returned, List.length_append, Nat.add_sub_cancel] at hcall
    refine ⟨inflater', ?_, hkeeps', hstays.settings.trans hreading.settings,
      hstays.min.trans hreading.min, hstays.bad.trans hreading.bad⟩
    rw [List.flatMap_cons]
    refine .emit hcall ?_
    rw [List.drop_left]
    exact hfeeds

end Inflater

variable {wide : WideShift} {deflater : Deflater} {inflater : Inflater} {table table' : Table}

theorem Rep.For.ne_tableSize {nv : Nv} {rep : Rep} (h : rep.For nv) (size : Nat)
    : rep ≠ .tableSize size := by
  cases h with
  | indexed => exact Rep.noConfusion
  | indname => exact Rep.noConfusion
  | newname => exact Rep.noConfusion

theorem Rep.bytes_ne_nil (rep : Rep) : rep.bytes ≠ [] := by
  cases rep with
  | tableSize size =>
    obtain ⟨b, bs, heq⟩ := encodeLength_eq_cons 0x20 size 5
    rw [bytes, heq]
    exact List.cons_ne_nil b bs
  | indexed idx =>
    obtain ⟨b, bs, heq⟩ := encodeLength_eq_cons 0x80 (idx + 1) 7
    rw [bytes, heq]
    exact List.cons_ne_nil b bs
  | indname mode idx value =>
    obtain ⟨b, bs, heq⟩ := encodeLength_eq_cons (packFirstByte mode) (idx + 1) (prefixlen mode)
    rw [bytes, heq]
    exact List.cons_ne_nil b _
  | newname => exact List.cons_ne_nil _ _

def Nv.Readable (nv : Nv) : Prop :=
  Hpack.Readable nv.name ∧ Hpack.Readable nv.value

instance (nv : Nv) : Decidable nv.Readable :=
  inferInstanceAs (Decidable (_ ∧ _))

theorem Rep.For.readable {nv : Nv} {rep : Rep} (h : rep.For nv) (hreadable : nv.Readable)
    : rep.Readable := by
  cases h with
  | @indexed idx hidx =>
    have : idx + 1 < 2 ^ 32 := by omega
    exact this
  | @indname idx mode hidx =>
    have : idx + 1 < 2 ^ 32 := by omega
    exact ⟨this, hreadable.2⟩
  | newname => exact hreadable

theorem length_le_huffEncodeCount (s : Bytes) : s.length ≤ 2 * huffEncodeCount s := by
  have hsum : s.length * 5 ≤ (s.map fun b => (symOf b.toNat).nbits).sum := by
    induction s with
    | nil => exact Nat.zero_le _
    | cons b s ih =>
      have := (@symOf_bounds b.toNat (Nat.lt_trans b.toNat_lt (by decide))).1
      rw [List.length_cons, List.map_cons, List.sum_cons]
      omega
  rw [huffEncodeCount]
  omega

-- The inflater is stricter than the deflater.
theorem Readable.length_lt {s : Bytes} (h : Hpack.Readable s) : s.length < 2 ^ 28 := by
  rw [Hpack.Readable, wire, HD_MAX_NV] at h
  split at h
  . have := length_le_huffEncodeCount s
    rw [length_huffBytes] at h
    omega
  . omega

theorem Nv.Readable.bounded {nv : Nv} (h : nv.Readable) : nv.Bounded := by
  have hname := Readable.length_lt h.1
  have hvalue := Readable.length_lt h.2
  exact ⟨.inl hname, by omega, by omega⟩

theorem max_of_read {rep : Rep} {nv : Option HdNv} (h : table.read rep = some (table', nv))
    (hsize : ∀ size, rep ≠ .tableSize size)
    : table'.max = table.max := by
  have hadd (f : Field) (mode : IndexingMode) : (table.add f mode).max = table.max := by
    cases mode with
    | withIndexing => rfl
    | withoutIndexing => rfl
    | neverIndexing => rfl
  cases rep with
  | tableSize size => exact absurd rfl (hsize size)
  | indexed idx =>
    rw [Table.read, Option.map_eq_some_iff] at h
    obtain ⟨f, -, heq⟩ := h
    cases heq
    rfl
  | indname mode idx value =>
    rw [Table.read, Option.map_eq_some_iff] at h
    obtain ⟨f, -, heq⟩ := h
    cases heq
    exact hadd _ _
  | newname mode name value =>
    cases h
    exact hadd _ _

theorem max_of_reads {reps : List Rep} {nvs : List HdNv} (h : table.Reads reps nvs table')
    (hsize : ∀ rep ∈ reps, ∀ size, rep ≠ .tableSize size)
    : table'.max = table.max := by
  induction h with
  | nil => rfl
  | @cons _ _ _ rep reps _ _ hread _ ih =>
    exact (ih fun rep' hrep' => hsize rep' (List.mem_cons_of_mem rep hrep')).trans
      (max_of_read hread (hsize rep List.mem_cons_self))

-- A table that has all that another one has, and perhaps some older fields
structure Covers (table' table : Table) : Prop where
  dyn : table.dyn <+: table'.dyn
  max : table.max ≤ table'.max

theorem lookup_of_prefix {dyn dyn' : List Field} {idx : Nat} {f : Field} (h : dyn <+: dyn')
    (hf : lookup dyn idx = some f)
    : lookup dyn' idx = some f := by
  have hpre : staticFields ++ dyn <+: staticFields ++ dyn' := (List.prefix_append_right_inj _).mpr h
  obtain ⟨t, ht⟩ := hpre
  have hlt := (List.getElem?_eq_some_iff.mp hf).1
  rw [lookup, ← ht, List.getElem?_append_left hlt]
  exact hf

theorem Covers.add (f : Field) (mode : IndexingMode) (h : Covers table' table)
    : Covers (table'.add f mode) (table.add f mode) := by
  cases mode with
  | withIndexing => exact ⟨Fifo.fit_prefix_fit ((List.prefix_cons_inj f).mpr h.dyn) h.max, h.max⟩
  | withoutIndexing => exact h
  | neverIndexing => exact h

theorem Covers.read {rep : Rep} {table₁ : Table} {nv : Option HdNv} (h : Covers table' table)
    (hread : table.read rep = some (table₁, nv)) (hsize : ∀ size, rep ≠ .tableSize size)
    : ∃ table₁', table'.read rep = some (table₁', nv) ∧ Covers table₁' table₁ := by
  cases rep with
  | tableSize size => exact absurd rfl (hsize size)
  | indexed idx =>
    rw [Table.read, Option.map_eq_some_iff] at hread
    obtain ⟨f, hf, heq⟩ := hread
    cases heq
    refine ⟨table', ?_, h⟩
    rw [Table.read, lookup_of_prefix h.dyn hf]
    rfl
  | indname mode idx value =>
    rw [Table.read, Option.map_eq_some_iff] at hread
    obtain ⟨f, hf, heq⟩ := hread
    cases heq
    refine ⟨table'.add (f.1, value) mode, ?_, h.add _ _⟩
    rw [Table.read, lookup_of_prefix h.dyn hf]
    rfl
  | newname mode name value =>
    cases hread
    exact ⟨table'.add (name, value) mode, rfl, h.add _ _⟩

theorem Covers.reads {reps : List Rep} {table₁ : Table} {nvs : List HdNv} (h : Covers table' table)
    (hreads : table.Reads reps nvs table₁) (hsize : ∀ rep ∈ reps, ∀ size, rep ≠ .tableSize size)
    : ∃ table₁', table'.Reads reps nvs table₁' ∧ Covers table₁' table₁ := by
  induction hreads generalizing table' with
  | nil => exact ⟨table', .nil, h⟩
  | @cons _ _ _ rep _ _ _ hread _ ih =>
    obtain ⟨table₁', hread', hcovers⟩ := h.read hread (hsize rep List.mem_cons_self)
    obtain ⟨table₂', hreads', hcovers'⟩ := ih hcovers fun rep' hrep' =>
      hsize rep' (List.mem_cons_of_mem rep hrep')
    exact ⟨table₂', .cons hread' hreads', hcovers'⟩

/--
How the two sides stand to each other between two header blocks: the inflater has all the fields the
deflater has in its table, under the same indices, and is ready for what is pending.
-/
structure Follows (deflater : Deflater) (inflater : Inflater) (table table' : Table) : Prop where
  ready : deflater.Ready table
  sound : inflater.Sound table'
  deflater_ok : deflater.ctx.bad = false
  inflater_ok : inflater.ctx.bad = false
  state : inflater.state = .inflateStart
    ∨ (inflater.state = .expectTableSize ∧ deflater.notifyTableSizeChange = true)
  min_le : deflater.minHdTableBufsizeMax ≤ inflater.minHdTableBufsizeMax
  max_le : table.max ≤ inflater.settingsHdTableBufsizeMax
  max_le' : table'.max ≤ inflater.settingsHdTableBufsizeMax
  dyn : table.dyn <+: table'.dyn
  max : deflater.notifyTableSizeChange = false → table.max ≤ table'.max

theorem follows_init {limit : Nat} (h : limit < 2 ^ 32)
    : Follows (.init limit) .init ⟨min limit DEFAULT_MAX_BUFFER_SIZE, []⟩
        ⟨DEFAULT_MAX_BUFFER_SIZE, []⟩ := by
  refine ⟨Deflater.ready_init h, Inflater.sound_init, ?_, rfl, .inl rfl, ?_,
    Nat.min_le_right _ _, Nat.le_refl _, List.prefix_rfl, fun _ => Nat.min_le_right _ _⟩
  . rw [Deflater.init]
    split
    . rfl
    . rfl
  . rw [Deflater.init]
    split
    . exact Nat.le_refl _
    . exact Nat.le_refl _

namespace Follows

theorem state' (h : Follows deflater inflater table table')
    : inflater.state = .expectTableSize ∨ inflater.state = .inflateStart :=
  h.state.symm.imp_left And.left

theorem changeTableSize (size : BitVec 32) (h : Follows deflater inflater table table')
    : ∃ deflater' inflater', deflater.changeTableSize size.toNat = .ok deflater'
        ∧ inflater.changeTableSize size.toNat = .ok inflater'
        ∧ Follows deflater' inflater'
          (table.resize (min size.toNat deflater.deflateHdTableBufsizeMax))
            (table'.resize size.toNat)
        ∧ deflater'.notifyTableSizeChange = true
        ∧ deflater'.minHdTableBufsizeMax
            = min deflater.minHdTableBufsizeMax (min size.toNat deflater.deflateHdTableBufsizeMax)
        ∧ inflater'.settingsHdTableBufsizeMax = size.toNat := by
  have hsize : size.toNat < 2 ^ 64 := Nat.lt_trans size.isLt (by decide)
  obtain ⟨deflater', hdeflater, hready, hnotify, hmin, hlimit, hbad⟩ :=
    @Deflater.Ready.changeTableSize _ _ size.toNat
    h.ready
  obtain ⟨inflater', hinflater, hchanged⟩ := h.sound.changeTableSize hsize h.state'
  refine ⟨deflater', inflater', hdeflater, hinflater,
    ⟨hready, hchanged.sound, hbad.trans h.deflater_ok,
    hchanged.bad.trans h.inflater_ok, hchanged.state.symm.imp_right fun hstate => ⟨hstate, hnotify⟩,
    ?_, ?_, ?_, ?_, ?_⟩, hnotify, hmin, hchanged.settings⟩
  . have := h.min_le
    rw [hmin]
    rcases hchanged.min with hmin' | hmin'
    . rw [hmin']
      omega
    . rw [hmin']
      omega
  . rw [hchanged.settings]
    exact Nat.min_le_left _ _
  . rw [hchanged.settings]
    exact Nat.le_refl _
  . exact Fifo.fit_prefix_fit h.dyn (Nat.min_le_left _ _)
  . intro hfalse
    rw [hnotify] at hfalse
    cases hfalse

theorem changeDeflater (size : BitVec 32) (h : Follows deflater inflater table table')
    (hsize : size.toNat ≤ inflater.settingsHdTableBufsizeMax)
    (hstate : inflater.state = .inflateStart)
    : ∃ deflater' table₁, deflater.changeTableSize size.toNat = .ok deflater'
        ∧ Follows deflater' inflater table₁ table' ∧ deflater'.notifyTableSizeChange = true := by
  obtain ⟨deflater', hdeflater, hready, hnotify, hmin, hlimit, hbad⟩ :=
    @Deflater.Ready.changeTableSize _ _ size.toNat
    h.ready
  refine ⟨deflater', _, hdeflater,
    ⟨hready, h.sound, hbad.trans h.deflater_ok, h.inflater_ok, .inl hstate, ?_, ?_,
    h.max_le', ?_, ?_⟩, hnotify⟩
  . have := h.min_le
    rw [hmin]
    omega
  . exact Nat.le_trans (Nat.min_le_left _ _) hsize
  . exact (Fifo.fit_isPrefix _ _ _).trans h.dyn
  . intro hfalse
    rw [hnotify] at hfalse
    cases hfalse

-- The size is announced once more, which the deflater need not know.
theorem announce (h : Follows deflater inflater table table')
    (hsize : inflater.settingsHdTableBufsizeMax < 2 ^ 64)
    : ∃ inflater' table₁', inflater.changeTableSize inflater.settingsHdTableBufsizeMax
        = .ok inflater'
        ∧ Follows deflater inflater' table table₁'
        ∧ inflater'.settingsHdTableBufsizeMax = inflater.settingsHdTableBufsizeMax := by
  obtain ⟨inflater', hinflater, hchanged⟩ := h.sound.changeTableSize hsize h.state'
  have hkeep := h.max_le'
  rw [← h.sound.max] at hkeep
  have hsame : inflater'.state = inflater.state ∧ inflater'.minHdTableBufsizeMax
    = inflater.minHdTableBufsizeMax := by
    rw [Inflater.changeTableSize, if_pos h.state'] at hinflater
    dsimp only at hinflater
    rw [if_neg (by omega)] at hinflater
    obtain ⟨r, -, hr⟩ := bind_eq_ok hinflater
    cases hr
    exact ⟨rfl, rfl⟩
  refine ⟨inflater', _, hinflater,
    ⟨h.ready, hchanged.sound, h.deflater_ok, hchanged.bad.trans h.inflater_ok,
    ?_, ?_, ?_, ?_, ?_, fun _ => ?_⟩, hchanged.settings⟩
  . rw [hsame.1]
    exact h.state
  . rw [hsame.2]
    exact h.min_le
  . rw [hchanged.settings]
    exact h.max_le
  . rw [hchanged.settings]
    exact Nat.le_refl _
  . exact Fifo.prefix_fit h.dyn (Nat.le_trans h.ready.total_le h.max_le)
  . exact h.max_le

end Follows

def caughtUp (deflater : Deflater) (table table' : Table) : Table :=
  if deflater.notifyTableSizeChange then
    ⟨table.max, fit Field.room (min deflater.minHdTableBufsizeMax table.max) table'.dyn⟩
  else
    table'

structure Caught (inflater : Inflater) (inflater' : Inflater) (table : Table) : Prop where
  keeps : inflater'.Keeps table
  field : inflater'.AtField
  settings : inflater'.settingsHdTableBufsizeMax = inflater.settingsHdTableBufsizeMax
  min_ge : UINT32_MAX.toNat ≤ inflater'.minHdTableBufsizeMax
  bad : inflater'.ctx.bad = inflater.ctx.bad

namespace Follows

theorem sizes (wide : WideShift) (rest : Bytes) (h : Follows deflater inflater table table')
    : ∃ inflater', Caught inflater inflater' (caughtUp deflater table table')
        ∧ ∀ r, Inflater.Ends wide inflater' rest false r →
            Inflater.Ends wide inflater (deflater.sizes.flatMap Rep.bytes ++ rest) false r := by
  have huint : UINT32_MAX.toNat = 2 ^ 32 - 1 := rfl
  have hmax := h.ready.max
  have hmax_le := h.ready.max_le
  have hlimit := h.ready.limit_lt
  have hmin := h.min_le
  have hsettings := h.max_le
  have hmin_le := h.ready.min_le
  rw [Deflater.sizes, caughtUp, hmax]
  cases hnotify : deflater.notifyTableSizeChange with
  | false =>
    have hstate := h.state.resolve_right fun hexpect => by rw [hnotify] at hexpect; cases hexpect.2
    refine ⟨inflater, ⟨h.sound.toKeeps, .inl hstate, rfl, ?_, rfl⟩, fun r hr => hr⟩
    rw [← h.ready.told hnotify]
    exact hmin
  | true =>
    rw [if_pos rfl, if_pos rfl]
    by_cases hgt : table.max > deflater.minHdTableBufsizeMax
    . obtain ⟨inflater₁, hresized₁, hends₁⟩ := @Inflater.Keeps.readTableSize wide inflater
        ((Rep.tableSize table.max).bytes ++ rest) table' deflater.minHdTableBufsizeMax
        h.sound.toKeeps h.state'
        (by omega) hmin (by omega)
      obtain ⟨inflater₂, hresized₂, hends₂⟩ :=
        @Inflater.Keeps.readTableSize wide inflater₁ rest _ table.max
        hresized₁.keeps (.inr hresized₁.state) (by omega) (by rw [hresized₁.min]; omega)
        (by rw [hresized₁.settings]; exact hsettings)
      have htable : (table'.resize deflater.minHdTableBufsizeMax).resize table.max
          = ⟨table.max,
            fit Field.room (min deflater.minHdTableBufsizeMax table.max) table'.dyn⟩ := by
        rw [Table.resize, Table.resize, Fifo.fit_fit, Nat.min_comm]
      refine ⟨inflater₂, ⟨htable ▸ hresized₂.keeps, .inl hresized₂.state,
        hresized₂.settings.trans hresized₁.settings,
        Nat.le_of_eq hresized₂.min.symm, hresized₂.bad.trans hresized₁.bad⟩, fun r hr => ?_⟩
      rw [if_pos hgt, List.singleton_append, List.flatMap_cons, List.flatMap_cons,
        List.flatMap_nil, List.append_nil, List.append_assoc]
      exact hends₁ r (hends₂ r hr)
    . obtain ⟨inflater₁, hresized₁, hends₁⟩ :=
        @Inflater.Keeps.readTableSize wide inflater rest table' table.max
        h.sound.toKeeps h.state' (by omega) (by omega) hsettings
      have htable : table'.resize table.max
          = ⟨table.max,
            fit Field.room (min deflater.minHdTableBufsizeMax table.max) table'.dyn⟩ := by
        rw [Table.resize, Nat.min_eq_right (Nat.le_of_not_lt hgt)]
      refine ⟨inflater₁, ⟨htable ▸ hresized₁.keeps, .inl hresized₁.state, hresized₁.settings,
        Nat.le_of_eq hresized₁.min.symm, hresized₁.bad⟩, fun r hr => ?_⟩
      rw [if_neg hgt, List.nil_append, List.flatMap_cons, List.flatMap_nil, List.append_nil]
      exact hends₁ r hr

theorem covers (h : Follows deflater inflater table table')
    : Covers (caughtUp deflater table table') table := by
  rw [caughtUp]
  cases hnotify : deflater.notifyTableSizeChange with
  | false => exact ⟨h.dyn, h.max hnotify⟩
  | true =>
    refine ⟨Fifo.prefix_fit h.dyn ?_, Nat.le_refl _⟩
    exact Nat.le_min.mpr ⟨h.ready.pending hnotify, h.ready.total_le⟩

theorem caughtUp_max_le (h : Follows deflater inflater table table')
    : (caughtUp deflater table table').max ≤ inflater.settingsHdTableBufsizeMax := by
  rw [caughtUp]
  split
  . exact h.max_le
  . exact h.max_le'

variable {nvs : List Nv}

theorem feeds (wide : WideShift) (h : Follows deflater inflater table table')
    (hreadable : ∀ nv ∈ nvs, nv.Readable)
    : ∃ deflater' table₁ table₁' reps,
        (∀ mem, Deflater.deflateBound nvs ≤ mem.length →
          deflater.deflateHd mem nvs
            = (deflater', .ok ((deflater.sizes ++ reps).flatMap Rep.bytes)))
        ∧ ((deflater.sizes ++ reps).flatMap Rep.bytes).length ≤ Deflater.deflateBound nvs
        ∧ List.Forall₂ Rep.For nvs reps ∧ deflater'.notifyTableSizeChange = false
        ∧ deflater'.minHdTableBufsizeMax = UINT32_MAX.toNat
        ∧ (caughtUp deflater table table' = table → table₁' = table₁)
        ∧ ∀ inflater₁, Caught inflater inflater₁ (caughtUp deflater table table') →
          ∃ inflater₂ : Inflater,
            Inflater.Feeds wide true inflater₁ (reps.flatMap Rep.bytes)
                (inflater₂.endHeaders, nvs.map Nv.received, none)
            ∧ Follows deflater' inflater₂.endHeaders table₁ table₁'
            ∧ inflater₂.settingsHdTableBufsizeMax = inflater.settingsHdTableBufsizeMax := by
  obtain ⟨deflater', table₁, reps, hle, hrun, hready, hsame, hreads, hfors⟩ :=
    h.ready.deflateHd_bound h.deflater_ok fun nv hnv => (hreadable nv hnv).bounded
  have hfor (rep : Rep) (hrep : rep ∈ reps) : ∃ nv ∈ nvs, rep.For nv := by
    obtain ⟨i, hi, rfl⟩ := List.getElem_of_mem hrep
    have hlength := hfors.length_eq
    exact ⟨nvs[i], List.getElem_mem _, (List.forall₂_iff_get.mp hfors).2 i (by omega) hi⟩
  have hreps (rep : Rep) (hrep : rep ∈ reps) : rep.Readable := by
    obtain ⟨nv, hnv, hrep⟩ := hfor rep hrep
    exact hrep.readable (hreadable nv hnv)
  have hfields (rep : Rep) (hrep : rep ∈ reps) : ∀ size, rep ≠ .tableSize size := by
    obtain ⟨nv, -, hrep⟩ := hfor rep hrep
    exact hrep.ne_tableSize
  obtain ⟨table₁', hreads', hcovers⟩ := h.covers.reads hreads hfields
  refine ⟨deflater', table₁, table₁', reps, hrun, hle, hfors, hsame.notify, hsame.min,
    ?_, fun inflater₁ hcaught => ?_⟩
  . intro hcaughtUp
    rw [hcaughtUp] at hreads'
    exact hreads'.unique hreads
  . have hbad₁ := hcaught.bad.trans h.inflater_ok
    obtain ⟨inflater₂, hfeeds, hkeeps₂, hstays⟩ :=
      @Inflater.Keeps.feeds wide inflater₁ _ table₁' _ reps hcaught.keeps hcaught.field
        hbad₁ hreads' hreps hfields
    have hsettings : inflater₂.settingsHdTableBufsizeMax = inflater.settingsHdTableBufsizeMax :=
      hstays.settings.trans hcaught.settings
    refine ⟨inflater₂, hfeeds,
      ⟨hready, ⟨hkeeps₂.congr rfl rfl rfl, fun _ => trivial⟩, hsame.bad.trans h.deflater_ok,
      hstays.bad.trans hbad₁, .inl rfl, ?_, ?_, ?_, hcovers.dyn, fun _ => hcovers.max⟩, hsettings⟩
    . rw [hsame.min]
      exact Nat.le_trans hcaught.min_ge (Nat.le_of_eq hstays.min.symm)
    . change _ ≤ inflater₂.settingsHdTableBufsizeMax
      rw [max_of_reads hreads hfields, hsettings]
      exact h.max_le
    . change _ ≤ inflater₂.settingsHdTableBufsizeMax
      rw [max_of_reads hreads' hfields, hsettings]
      exact h.caughtUp_max_le

/--
A header block gets over to the other side. What it does to the table of the inflater depends on the
fields only.
-/
theorem block (wide : WideShift) (mem : Bytes) (h : Follows deflater inflater table table')
    (hreadable : ∀ nv ∈ nvs, nv.Readable) (hmem : Deflater.deflateBound nvs ≤ mem.length)
    : ∃ deflater' bs inflater' table₁ table₁', deflater.deflateHd mem nvs = (deflater', .ok bs)
        ∧ inflater.inflateHeaderBlock wide bs true = (inflater', nvs.map Nv.received, none)
        ∧ Follows deflater' inflater' table₁ table₁' ∧ deflater'.notifyTableSizeChange = false
        ∧ deflater'.minHdTableBufsizeMax = UINT32_MAX.toNat
        ∧ inflater'.settingsHdTableBufsizeMax = inflater.settingsHdTableBufsizeMax
        ∧ bs.length ≤ Deflater.deflateBound nvs ∧ (nvs ≠ [] → bs ≠ [])
        ∧ (caughtUp deflater table table' = table → table₁' = table₁) := by
  obtain ⟨deflater', table₁, table₁', reps, hrun, hle, hfors, hnotify, hmin, hequal, hreads⟩ :=
    h.feeds wide hreadable
  obtain ⟨inflater₁, hcaught, hends⟩ := h.sizes wide (reps.flatMap Rep.bytes)
  obtain ⟨inflater₂, hfeeds, hfollows, hsettings⟩ := hreads inflater₁ hcaught
  have hfeeds' := hfeeds.of_ends h.sound h.inflater_ok (hcaught.keeps.sound hcaught.field)
    (hcaught.bad.trans h.inflater_ok) hends
  rw [← List.flatMap_append] at hfeeds'
  refine ⟨deflater', _, inflater₂.endHeaders, table₁, table₁', hrun mem hmem,
    h.sound.inflateHeaderBlock_eq hfeeds',
    hfollows, hnotify, hmin, hsettings, hle, fun hne => ?_, hequal⟩
  cases hfors with
  | nil => exact absurd rfl hne
  | @cons nv rep nvs reps _ _ =>
    rw [List.flatMap_append, List.flatMap_cons]
    exact List.append_ne_nil_of_right_ne_nil _
      (List.append_ne_nil_of_left_ne_nil rep.bytes_ne_nil _)

end Follows

/--
The two sides when every change of the size has been one of both tables. The inflater may still have
fields that the deflater has dropped already, and they go as soon as it reads what is pending.
-/
structure Agree (deflater : Deflater) (inflater : Inflater) (table table' : Table) : Prop
    extends Follows deflater inflater table table' where
  fit : table.dyn = fit Field.room deflater.minHdTableBufsizeMax table'.dyn
  same : deflater.notifyTableSizeChange = false → table' = table

theorem agree_init {limit : Nat} (h : limit < 2 ^ 32)
    : Agree (.init limit) .init ⟨min limit DEFAULT_MAX_BUFFER_SIZE, []⟩
        ⟨DEFAULT_MAX_BUFFER_SIZE, []⟩ := by
  refine ⟨follows_init h, rfl, ?_⟩
  rw [Deflater.init]
  split
  . exact fun hfalse => by cases hfalse
  . next hlt => exact fun _ => by rw [Nat.min_eq_right (Nat.le_of_not_lt hlt)]

theorem Agree.changeTableSize (size : BitVec 32) (h : Agree deflater inflater table table')
    : ∃ deflater' inflater' table₁ table₁', deflater.changeTableSize size.toNat = .ok deflater'
        ∧ inflater.changeTableSize size.toNat = .ok inflater'
        ∧ Agree deflater' inflater' table₁ table₁' := by
  obtain ⟨deflater', inflater', hdeflater, hinflater, hfollows, hnotify, hmin, -⟩ :=
    h.toFollows.changeTableSize size
  refine ⟨deflater', inflater', _, _, hdeflater, hinflater, hfollows, ?_, ?_⟩
  . have hmins
      : min (min deflater.minHdTableBufsizeMax (min size.toNat deflater.deflateHdTableBufsizeMax))
          size.toNat
        = min (min size.toNat deflater.deflateHdTableBufsizeMax) deflater.minHdTableBufsizeMax := by
      omega
    rw [hmin, Table.resize, Table.resize, h.fit, Fifo.fit_fit, Fifo.fit_fit, hmins]
  . intro hfalse
    rw [hnotify] at hfalse
    cases hfalse

theorem Agree.caughtUp_eq (h : Agree deflater inflater table table')
    : caughtUp deflater table table' = table := by
  rw [caughtUp]
  cases hnotify : deflater.notifyTableSizeChange with
  | false => exact h.same hnotify
  | true =>
    have hfit : Fifo.fit Field.room table.max table.dyn = table.dyn :=
      Fifo.fit_of_total_le h.ready.total_le
    rw [if_pos rfl, Nat.min_comm, ← Fifo.fit_fit, ← h.fit, hfit]

theorem Agree.block {nvs : List Nv} (wide : WideShift) (mem : Bytes)
    (h : Agree deflater inflater table table') (hreadable : ∀ nv ∈ nvs, nv.Readable)
    (hmem : Deflater.deflateBound nvs ≤ mem.length)
    : ∃ deflater' bs inflater' table₁, deflater.deflateHd mem nvs = (deflater', .ok bs)
        ∧ inflater.inflateHeaderBlock wide bs true = (inflater', nvs.map Nv.received, none)
        ∧ Agree deflater' inflater' table₁ table₁ := by
  obtain ⟨deflater', bs, inflater', table₁, table₁', hdeflate, hinflate, hfollows,
    hnotify, hmin, -, -, -, hequal⟩ :=
    h.toFollows.block wide mem hreadable hmem
  cases hequal h.caughtUp_eq
  refine ⟨deflater', bs, inflater', table₁, hdeflate, hinflate, hfollows, ?_, fun _ => rfl⟩
  rw [hmin]
  refine (Fifo.fit_of_total_le ?_).symm
  have := hfollows.ready.total_le
  have := hfollows.ready.max_le
  have := hfollows.ready.limit_lt
  change _ ≤ 2 ^ 32 - 1
  omega

def cutAt : List Nat → Bytes → List Bytes × Bytes
  | [], bs => ([], bs)
  | n :: ns, bs =>
    let (pieces, last) := cutAt ns (bs.drop n)
    (bs.take n :: pieces, last)

theorem flatten_cutAt (ns : List Nat) (bs : Bytes)
    : (cutAt ns bs).1.flatten ++ (cutAt ns bs).2 = bs := by
  induction ns generalizing bs with
  | nil => rfl
  | cons n ns ih =>
    rw [cutAt, List.flatten_cons, List.append_assoc, ih, List.take_append_drop]

/--
What happens between the two sides: a value of `SETTINGS_HEADER_TABLE_SIZE` takes effect, or a
header block is written to `mem`, cut and read.
-/
inductive Exchange where
  | settings (size : BitVec 32)
  | block (mem : Bytes) (nvs : List Nv) (cuts : List Nat)

def Exchange.Valid : Exchange → Prop
  | settings _ => True
  | block mem nvs _ => Deflater.deflateBound nvs ≤ mem.length ∧ ∀ nv ∈ nvs, nv.Readable

instance : (x : Exchange) → Decidable x.Valid
  | .settings _ => .isTrue trivial
  | .block _ nvs _ => inferInstanceAs (Decidable (_ ∧ ∀ nv ∈ nvs, nv.Readable))

def Exchange.fields : Exchange → List HdNv
  | settings _ => []
  | block _ nvs _ => nvs.map Nv.received

structure Session where
  deflater : Deflater
  inflater : Inflater

namespace Session

def init (limit : Nat) : Session :=
  ⟨.init limit, .init⟩

-- The fields the inflater has got, unless there is an error on either side
def step (wide : WideShift) (session : Session) : Exchange → Session × Option (List HdNv)
  | .settings size =>
    match session.deflater.changeTableSize size.toNat,
    session.inflater.changeTableSize size.toNat with
    | .ok deflater, .ok inflater => (⟨deflater, inflater⟩, some [])
    | _, _ => (session, none)
  | .block mem nvs cuts =>
    match session.deflater.deflateHd mem nvs with
    | (deflater, .error _) => ({ session with deflater }, none)
    | (deflater, .ok bs) =>
      match session.inflater.inflatePieces wide (cutAt cuts bs).2 (cutAt cuts bs).1 with
      | (inflater, _, some _) => (⟨deflater, inflater⟩, none)
      | (inflater, nvs, none) => (⟨deflater, inflater⟩, some nvs)

def run (wide : WideShift) (session : Session) : List Exchange → Session × List (Option (List HdNv))
  | [] => (session, [])
  | x :: xs =>
    let (session, nvs) := session.step wide x
    let (session, nvss) := session.run wide xs
    (session, nvs :: nvss)

variable {wide : WideShift} {session : Session} {table table' : Table}

theorem step_agree (wide : WideShift) (x : Exchange)
    (h : Agree session.deflater session.inflater table table') (hx : x.Valid)
    : (session.step wide x).2 = some x.fields
      ∧ ∃ table₁ table₁', Agree (session.step wide x).1.deflater (session.step wide x).1.inflater
        table₁ table₁' := by
  cases x with
  | settings size =>
    obtain ⟨deflater', inflater', table₁, table₁', hdeflater, hinflater, hagree⟩ :=
      h.changeTableSize size
    rw [step, hdeflater, hinflater]
    exact ⟨rfl, table₁, table₁', hagree⟩
  | block mem nvs cuts =>
    obtain ⟨deflater', bs, inflater', table₁, hdeflate, hinflate, hagree⟩ :=
      h.block wide mem hx.2 hx.1
    have hpieces : session.inflater.inflatePieces wide (cutAt cuts bs).2 (cutAt cuts bs).1
        = (inflater', nvs.map Nv.received, none) := by
      obtain ⟨hsame, hequal⟩ := h.sound.inflatePieces wide (cutAt cuts bs).2 (cutAt cuts bs).1
      rw [flatten_cutAt, hinflate] at hsame hequal
      exact hequal (by rw [hsame])
    rw [step, hdeflate]
    dsimp only
    rw [hpieces]
    exact ⟨rfl, table₁, table₁, hagree⟩

theorem run_agree (wide : WideShift) (xs : List Exchange)
    (h : Agree session.deflater session.inflater table table') (hxs : ∀ x ∈ xs, x.Valid)
    : (session.run wide xs).2 = xs.map (some ·.fields)
      ∧ ∃ table₁ table₁', Agree (session.run wide xs).1.deflater (session.run wide xs).1.inflater
        table₁ table₁' := by
  induction xs generalizing session table table' with
  | nil => exact ⟨rfl, table, table', h⟩
  | cons x xs ih =>
    obtain ⟨hfields, table₁, table₁', hagree⟩ := step_agree wide x h (hxs x List.mem_cons_self)
    obtain ⟨hrest, hagree'⟩ := ih hagree fun x' hx' => hxs x' (List.mem_cons_of_mem x hx')
    refine ⟨?_, hagree'⟩
    rw [run, List.map_cons]
    dsimp only
    rw [hfields, hrest]

/--
Whatever is exchanged, the inflater gets the fields the deflater has been given, with the ones that
must not get into a table marked, and both have the same table as soon as no change of its size is
pending.
-/
theorem run_fields (wide : WideShift) (limit : Nat) (xs : List Exchange) (hlimit : limit < 2 ^ 32)
    (hxs : ∀ x ∈ xs, x.Valid)
    : ((init limit).run wide xs).2 = xs.map (some ·.fields)
      ∧ ∃ dyn dyn', ((init limit).run wide xs).1.deflater.ctx.Has
        (some ((init limit).run wide xs).1.deflater.map) dyn
          ∧ ((init limit).run wide xs).1.inflater.ctx.Has none dyn'
          ∧ (((init limit).run wide xs).1.deflater.notifyTableSizeChange = false → dyn = dyn') := by
  have hagree : Agree (init limit).deflater (init limit).inflater _ _ := agree_init hlimit
  obtain ⟨hfields, table, table', hagree'⟩ := run_agree wide xs hagree hxs
  exact ⟨hfields, table.dyn, table'.dyn, hagree'.ready.has, hagree'.sound.has, fun hnotify => by
    rw [hagree'.same hnotify]⟩

-- `a: b` is written twice, with a change of the size between.
theorem run_fields_twice
    : ((init 4096).run ⟨fun x _ => x, fun x _ => x⟩
        [.block (List.replicate 26 0) [⟨[0x61], [0x62], 0⟩] [1, 2], .settings 0,
          .block (List.replicate 26 0) [⟨[0x61], [0x62], 0⟩] []]).2
        = [some [⟨[0x61], [0x62], -1, 0⟩], some [], some [⟨[0x61], [0x62], -1, 0⟩]] := by
  refine (run_fields ⟨fun x _ => x, fun x _ => x⟩ 4096 _ (by decide) (by decide +kernel)).1.trans ?_
  decide +kernel

end Session

end Hpack
end Fsw
