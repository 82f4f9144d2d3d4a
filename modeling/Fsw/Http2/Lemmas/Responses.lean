import Fsw.Hpack.Lemmas.Session
import Fsw.Http2.Lemmas.Library

namespace Fsw
namespace Http2

open Hpack (WideShift)
open Client (inflateHeaders emitHeader inflateHeaders_nil inflateHeaders_step
  inflateHeaders_fail inflateHeaders_final)

variable {wide : WideShift} {s : (Nghttp2.vendored wide).Inflater} {bs : Bytes}

def fieldOf (nv : Hpack.HdNv) : Bytes × Bytes :=
  (nv.name, nv.value)

theorem endHeaders_eq {inflater : Hpack.Inflater} (h : inflater.state = .inflateStart)
    : inflater.endHeaders = inflater := by
  rw [Hpack.Inflater.endHeaders, ← h]

theorem inflateHeaders_of_feeds {inflater' : Hpack.Inflater} {nvs : List Hpack.HdNv}
    (response : Response) (h : Hpack.Inflater.Feeds wide true s.1 bs (inflater', nvs, none))
    (hfield : s.1.AtField)
    : ∃ s', inflateHeaders s bs false response
        = (s', (nvs.map fieldOf).foldl emitHeader response, true)
        ∧ s'.1.endHeaders = inflater' ∧ s'.1.AtField
        ∧ (s'.1.state = .opcode ↔ s.1.state = .opcode ∨ nvs ≠ []) := by
  generalize hinflater : s.1 = inflater at h
  generalize hr : (inflater', nvs, none) = r at h
  induction h generalizing s nvs response with
  | @all inflater inflater₁ bs h =>
    cases hr
    subst hinflater
    obtain ⟨table, hsound⟩ := s.2.sound
    by_cases hbs : bs = []
    . subst hbs
      have hbad : s.1.ctx.bad = false := by
        rw [Bool.eq_false_iff]
        intro htrue
        rw [Hpack.Inflater.inflateHdNv, if_pos htrue] at h
        cases h
      rw [(@Hpack.Inflater.Ends.done wide s.1).inflateHdNv hsound hbad,
        Hpack.Inflater.returned, if_pos rfl, if_neg (fun hne => hfield.elim hne.2 hne.1)] at h
      cases h
      refine ⟨s, inflateHeaders_nil, rfl, hfield, by simp⟩
    . have hstate : s.1.state ≠ .opcode := by
        intro hopcode
        cases within_field hsound hopcode hbs h
      obtain ⟨hr, hfst⟩ := inflateHd_of_inflateHdNv h
      refine ⟨(Nghttp2.vendored wide).inflateEndHeaders ((Nghttp2.vendored wide).inflateHd s bs).1,
        ?_, ?_, .inl rfl, ?_⟩
      . rw [inflateHeaders_step hbs hr]
        exact inflateHeaders_final
      . rw [if_pos rfl, ← hfst]
        rfl
      . refine ⟨(fun hopcode => by cases hopcode), ?_⟩
        rintro (hopcode | hne)
        . exact absurd hopcode hstate
        . exact absurd rfl hne
  | @emit inflater inflater₁ inflater₂ bs n nv nvs e h rest ih =>
    cases hr
    subst hinflater
    obtain ⟨table, hsound⟩ := s.2.sound
    obtain ⟨hr, hfst⟩ := inflateHd_of_inflateHdNv h
    have hbs : bs ≠ [] := by
      rintro rfl
      have hle := (Nghttp2.vendored wide).processed_le s [] _ hr
      have hpos := (Nghttp2.vendored wide).processed_pos s [] _ hr rfl
      exact absurd hpos (Nat.not_lt.mpr hle)
    have hopcode : inflater₁.state = .opcode := by
      have hreturned := hsound.inflateHdNv wide bs true
      rw [h] at hreturned
      cases hreturned with
      | emit _ _ hstate => exact hstate
    obtain ⟨s', hinflate, hend, hfield', hiff⟩ :=
      ih (emitHeader response (fieldOf nv)) (.inr (by rw [hfst]; exact hopcode)) hfst rfl
    refine ⟨s', ?_, hend, hfield', ?_⟩
    . rw [inflateHeaders_step hbs hr]
      exact hinflate
    . rw [hiff]
      simp [hopcode]
  | error => cases hr

-- A change of the size is for the beginning of a block only.
theorem inflateHd_tableSize {size : Nat} (rest : Bytes) (hopcode : s.1.state = .opcode)
    : ((Nghttp2.vendored wide).inflateHd s ((Hpack.Rep.tableSize size).bytes ++ rest)).2
        = none := by
  change (s.1.inflateHdNv wide _ true).2.toOption.map toInflateHd = none
  cases hbad : s.1.ctx.bad with
  | true =>
    rw [Hpack.Inflater.inflateHdNv, if_pos hbad]
    rfl
  | false =>
    obtain ⟨table, hsound⟩ := s.2.sound
    obtain ⟨b, bs, hbytes⟩ := Hpack.Inflater.encodeLength_append 0x20 size 5 rest
    have hstep : s.1.inflateStep wide (b :: bs) = (s.1, .fail .headerComp) := by
      rw [(show s.1.AtOpcode from .inr (.inr hopcode)).inflateStep wide]
      exact Hpack.Inflater.inflateOpcode_opcode hopcode hbytes
    have hends : Hpack.Inflater.Ends wide s.1 (b :: bs) false (s.1, .fail .headerComp) :=
      .leave (.inl (List.cons_ne_nil b bs)) hstep fun _ _ => Hpack.Outcome.noConfusion
    rw [Hpack.Rep.bytes, hbytes, hends.inflateHdNv hsound hbad]
    rfl

/--
What a server does with its deflater. A block is for a stream that has got to `response`.
-/
inductive ServerCall where
  | changeTableSize (size : BitVec 32)
  | block (nvs : List Hpack.Nv) (response : Response)

-- The client has announced the size, and never announces another one.
def ServerCall.Valid : ServerCall → Prop
  | changeTableSize size => size.toNat ≤ DEFAULT_HEADER_TABLE_SIZE.toNat
  | block nvs _ => ∀ nv ∈ nvs, nv.Readable

instance : (c : ServerCall) → Decidable c.Valid
  | .changeTableSize _ => inferInstanceAs (Decidable (_ ≤ _))
  | .block nvs _ => inferInstanceAs (Decidable (∀ nv ∈ nvs, nv.Readable))

def AllRead (deflater : Hpack.Deflater) (s : (Nghttp2.vendored wide).Inflater)
    : List ServerCall → Prop
  | [] => True
  | .changeTableSize size :: cs =>
    match deflater.changeTableSize size.toNat with
    | .ok deflater => AllRead deflater s cs
    | .error _ => False
  | .block nvs response :: cs =>
    match deflater.deflateHd (List.replicate (Hpack.Deflater.deflateBound nvs) 0) nvs with
    | (deflater, .ok bs) =>
      (inflateHeaders s bs false response).2
          = ((nvs.map fun nv => (nv.name, nv.value)).foldl emitHeader response, true)
        ∧ AllRead deflater (inflateHeaders s bs false response).1 cs
    | (_, .error _) => False

-- Whether no block changes the size after one that has had fields: `fields` if there has been one,
-- `pending` if the next block changes the size
def undisturbed (fields pending : Bool) : List ServerCall → Bool
  | [] => true
  | .changeTableSize _ :: cs => undisturbed fields true cs
  | .block nvs _ :: cs => !(fields && pending) && undisturbed (fields || !nvs.isEmpty) false cs

structure Serves (deflater : Hpack.Deflater) (s : (Nghttp2.vendored wide).Inflater)
    (fields pending : Bool) : Prop where
  follows : ∃ table table', Hpack.Follows deflater s.1.endHeaders table table'
  field : s.1.AtField
  opcode : s.1.state = .opcode ↔ fields = true
  settings : s.1.settingsHdTableBufsizeMax = DEFAULT_HEADER_TABLE_SIZE.toNat
  pending : fields = true → deflater.notifyTableSizeChange = pending

section Serves

variable {deflater : Hpack.Deflater} {fields pending : Bool} {nvs : List Hpack.Nv}

theorem serves_init {limit : Nat} (h : limit < 2 ^ 32)
    : Serves (.init limit) (Nghttp2.inflateNew wide) false pending :=
  ⟨⟨_, _, Hpack.follows_init h⟩, .inl rfl,
    iff_of_false Hpack.InflateState.noConfusion Bool.false_ne_true, rfl,
    (fun hfalse => by cases hfalse)⟩

theorem Serves.changeTableSize {size : BitVec 32} (h : Serves deflater s fields pending)
    (hsize : size.toNat ≤ DEFAULT_HEADER_TABLE_SIZE.toNat)
    : ∃ deflater', deflater.changeTableSize size.toNat = .ok deflater'
        ∧ Serves deflater' s fields true := by
  obtain ⟨table, table', hfollows⟩ := h.follows
  have hsettings : s.1.endHeaders.settingsHdTableBufsizeMax = DEFAULT_HEADER_TABLE_SIZE.toNat :=
    h.settings
  obtain ⟨deflater', table₁, hchange, hfollows', hnotify⟩ :=
    hfollows.changeDeflater size (by rw [hsettings]; exact hsize) rfl
  exact ⟨deflater', hchange, ⟨table₁, table', hfollows'⟩, h.field, h.opcode,
    h.settings, fun _ => hnotify⟩

theorem Serves.feeds (h : Serves deflater s fields pending)
    (hdisturbed : (fields && pending) = false) (hreadable : ∀ nv ∈ nvs, nv.Readable)
    : ∃ deflater' bs, ∃ inflater' : Hpack.Inflater,
        (∀ mem, Hpack.Deflater.deflateBound nvs ≤ mem.length
          → deflater.deflateHd mem nvs = (deflater', .ok bs))
        ∧ Hpack.Inflater.Feeds wide true s.1 bs (inflater'.endHeaders,
          nvs.map Hpack.Nv.received, none)
        ∧ (∃ table table', Hpack.Follows deflater' inflater'.endHeaders table table')
        ∧ deflater'.notifyTableSizeChange = false
        ∧ inflater'.settingsHdTableBufsizeMax = s.1.settingsHdTableBufsizeMax := by
  obtain ⟨table, table', hfollows⟩ := h.follows
  obtain ⟨deflater', table₁, table₁', reps, hrun, -, -, hnotify', -, -, hreads⟩ :=
    hfollows.feeds wide hreadable
  cases fields with
  | false =>
    have hstart : s.1.state = .inflateStart := h.field.resolve_right fun hopcode => by
      cases h.opcode.mp hopcode
    rw [endHeaders_eq hstart] at hfollows hreads
    obtain ⟨inflater₁, hcaught, hends⟩ := hfollows.sizes wide (reps.flatMap Hpack.Rep.bytes)
    obtain ⟨inflater₂, hfeeds, hfollows', hsettings⟩ := hreads inflater₁ hcaught
    have hfeeds' :=
      hfeeds.of_ends hfollows.sound hfollows.inflater_ok (hcaught.keeps.sound hcaught.field)
      (hcaught.bad.trans hfollows.inflater_ok) hends
    rw [← List.flatMap_append] at hfeeds'
    exact ⟨deflater', _, inflater₂, hrun, hfeeds', ⟨_, _, hfollows'⟩, hnotify', hsettings⟩
  | true =>
    have hopcode : s.1.state = .opcode := h.opcode.mpr rfl
    have hnotify : deflater.notifyTableSizeChange = false := (h.pending rfl).trans hdisturbed
    have hsizes : deflater.sizes = [] := by
      rw [Hpack.Deflater.sizes, if_neg (by rw [hnotify]; exact Bool.false_ne_true)]
    have hcaught : Hpack.Caught s.1.endHeaders s.1 (Hpack.caughtUp deflater table table') := by
      rw [Hpack.caughtUp, if_neg (by rw [hnotify]; exact Bool.false_ne_true)]
      refine ⟨hfollows.sound.toKeeps.congr rfl rfl rfl, .inr hopcode, rfl, ?_, rfl⟩
      rw [← hfollows.ready.told hnotify]
      exact hfollows.min_le
    obtain ⟨inflater₂, hfeeds, hfollows', hsettings⟩ := hreads s.1 hcaught
    rw [hsizes, List.nil_append] at hrun
    exact ⟨deflater', _, inflater₂, hrun, hfeeds, ⟨_, _, hfollows'⟩, hnotify', hsettings⟩

theorem Serves.block (response : Response) (h : Serves deflater s fields pending)
    (hdisturbed : (fields && pending) = false) (hreadable : ∀ nv ∈ nvs, nv.Readable)
    : ∃ deflater' bs s',
        deflater.deflateHd (List.replicate (Hpack.Deflater.deflateBound nvs) 0) nvs
          = (deflater', .ok bs)
        ∧ inflateHeaders s bs false response
          = (s', (nvs.map fun nv => (nv.name, nv.value)).foldl emitHeader response, true)
        ∧ Serves deflater' s' (fields || !nvs.isEmpty) false := by
  obtain ⟨deflater', bs, inflater', hrun, hfeeds, hfollows, hnotify, hsettings⟩ :=
    h.feeds hdisturbed hreadable
  obtain ⟨s', hinflate, hend, hfield, hopcode⟩ := inflateHeaders_of_feeds response hfeeds h.field
  have hfields : (nvs.map Hpack.Nv.received).map fieldOf = nvs.map fun nv =>
    (nv.name, nv.value) := by
    rw [List.map_map]
    rfl
  rw [hfields] at hinflate
  have hsettings' : s'.1.endHeaders.settingsHdTableBufsizeMax
    = inflater'.endHeaders.settingsHdTableBufsizeMax := by
    rw [hend]
  refine ⟨deflater', bs, s', hrun _ (by rw [List.length_replicate]), hinflate, ?_,
    hfield, ?_, ?_, fun _ => hnotify⟩
  . rw [hend]
    exact hfollows
  . rw [hopcode, h.opcode]
    simp
  . exact hsettings'.trans (hsettings.trans h.settings)

theorem Serves.disturbed (response : Response) (h : Serves deflater s true true)
    (hreadable : ∀ nv ∈ nvs, nv.Readable)
    : ∃ deflater' bs,
        deflater.deflateHd (List.replicate (Hpack.Deflater.deflateBound nvs) 0) nvs
          = (deflater', .ok bs)
        ∧ (inflateHeaders s bs false response).2 = (response, false) := by
  obtain ⟨table, table', hfollows⟩ := h.follows
  obtain ⟨deflater', table₁, table₁', reps, hrun, -⟩ := hfollows.feeds wide hreadable
  refine ⟨deflater', _, hrun _ (by rw [List.length_replicate]), ?_⟩
  have hsizes : ∃ size rest, (deflater.sizes ++ reps).flatMap Hpack.Rep.bytes
      = (Hpack.Rep.tableSize size).bytes ++ rest := by
    rw [Hpack.Deflater.sizes, if_pos (h.pending rfl)]
    split
    . exact ⟨_, _, List.flatMap_cons⟩
    . exact ⟨_, _, List.flatMap_cons⟩
  obtain ⟨size, rest, hsizes⟩ := hsizes
  have hnone := @inflateHd_tableSize wide s size rest (h.opcode.mpr rfl)
  obtain ⟨b, bs, hbytes⟩ := Hpack.Inflater.encodeLength_append 0x20 size 5 rest
  have hne : (Hpack.Rep.tableSize size).bytes ++ rest ≠ [] := by
    rw [Hpack.Rep.bytes, hbytes]
    exact List.cons_ne_nil b bs
  rw [hsizes, inflateHeaders_fail hne hnone]

theorem Serves.allRead_iff (cs : List ServerCall) (h : Serves deflater s fields pending)
    (hcs : ∀ c ∈ cs, c.Valid)
    : AllRead deflater s cs ↔ undisturbed fields pending cs = true := by
  induction cs generalizing deflater s fields pending with
  | nil => exact ⟨fun _ => rfl, fun _ => trivial⟩
  | cons c cs ih =>
    have hrest (c' : ServerCall) (hc' : c' ∈ cs) : c'.Valid := hcs c' (List.mem_cons_of_mem c hc')
    cases c with
    | changeTableSize size =>
      obtain ⟨deflater', hchange, hserves⟩ := h.changeTableSize (hcs _ List.mem_cons_self)
      rw [AllRead, hchange, undisturbed]
      exact ih hserves hrest
    | block nvs response =>
      have hreadable : ∀ nv ∈ nvs, nv.Readable := hcs _ List.mem_cons_self
      rw [undisturbed, Bool.and_eq_true, Bool.not_eq_true', AllRead]
      cases hdisturbed : fields && pending with
      | false =>
        obtain ⟨deflater', bs, s', hdeflate, hinflate, hserves⟩ :=
          h.block response hdisturbed hreadable
        rw [hdeflate]
        dsimp only
        rw [hinflate, ih hserves hrest]
        simp
      | true =>
        rw [Bool.and_eq_true] at hdisturbed
        rw [hdisturbed.1, hdisturbed.2] at h
        obtain ⟨deflater', bs, hdeflate, hinflate⟩ := h.disturbed response hreadable
        rw [hdeflate]
        dsimp only
        rw [hinflate]
        simp

end Serves

/--
A server may change the size of its table before it has written a field. A later change makes the
client fail.
-/
theorem allRead_iff_undisturbed (wide : WideShift) (limit : Nat) (cs : List ServerCall)
    (hlimit : limit < 2 ^ 32) (hcs : ∀ c ∈ cs, c.Valid)
    : AllRead (.init limit) (Nghttp2.inflateNew wide) cs
        ↔ undisturbed false false cs = true :=
  (serves_init hlimit).allRead_iff cs hcs

-- `a: b` is written twice, after a change of the size or with one between.
theorem allRead_iff_undisturbed_twice
    : AllRead (.init 4096) (Nghttp2.inflateNew ⟨fun x _ => x, fun x _ => x⟩)
        [.changeTableSize 0, .block [⟨[0x61], [0x62], 0⟩] ⟨[], 0, 0, []⟩,
          .block [⟨[0x61], [0x62], 0⟩] ⟨[], 0, 0, []⟩]
      ∧ ¬AllRead (.init 4096) (Nghttp2.inflateNew ⟨fun x _ => x, fun x _ => x⟩)
        [.block [⟨[0x61], [0x62], 0⟩] ⟨[], 0, 0, []⟩, .changeTableSize 0,
          .block [⟨[0x61], [0x62], 0⟩] ⟨[], 0, 0, []⟩] := by
  constructor
  . rw [allRead_iff_undisturbed ⟨fun x _ => x, fun x _ => x⟩ 4096 _ (by decide) (by decide +kernel)]
    rfl
  . rw [allRead_iff_undisturbed ⟨fun x _ => x, fun x _ => x⟩ 4096 _ (by decide) (by decide +kernel)]
    exact Bool.false_ne_true

end Http2
end Fsw
