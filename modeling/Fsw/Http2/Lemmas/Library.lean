import Fsw.Hpack.Lemmas.Session
import Fsw.Http2.Lemmas.Blocks

namespace Fsw
namespace Http2

open Hpack (WideShift)

/--
An inflater between two calls with `in_final` set: it is at the beginning of a block or of a field,
if it has not failed.
-/
structure Idle (inflater : Hpack.Inflater) : Prop where
  sound : ∃ table, inflater.Sound table
  state : inflater.ctx.bad = false → inflater.AtOpcode

theorem idle_inflateHdNv {inflater : Hpack.Inflater} (wide : WideShift)
    (bs : Bytes) (h : Idle inflater)
    : Idle (inflater.inflateHdNv wide bs true).1 := by
  obtain ⟨table, hsound⟩ := h.sound
  have hreturned := hsound.inflateHdNv wide bs true
  generalize inflater.inflateHdNv wide bs true = r at hreturned
  cases hreturned with
  | all hsound' _ hfield => exact ⟨⟨_, hsound'⟩, fun _ => .inr (hfield rfl)⟩
  | emit hsound' _ hstate => exact ⟨⟨_, hsound'⟩, fun _ => .inr (.inr hstate)⟩
  | error hsound' hbad =>
    refine ⟨⟨_, hsound'⟩, fun hfalse => ?_⟩
    rw [hbad] at hfalse
    cases hfalse

theorem idle_endHeaders {inflater : Hpack.Inflater} (h : Idle inflater)
    : Idle inflater.endHeaders := by
  obtain ⟨table, hsound⟩ := h.sound
  exact ⟨⟨table, hsound.endHeaders⟩, fun _ => .inr (.inl rfl)⟩

theorem idle_init : Idle .init :=
  ⟨⟨_, Hpack.Inflater.sound_init⟩, fun _ => .inr (.inl rfl)⟩

-- `Headers::add` sets `NGHTTP2_NV_FLAG_NO_COPY_NAME` and `NGHTTP2_NV_FLAG_NO_COPY_VALUE`.
def toNv (nv : Bytes × Bytes) : Hpack.Nv :=
  ⟨nv.1, nv.2, 0x02 ||| 0x04⟩

def toInflateHd (r : Hpack.Inflater.Inflated) : InflateHd :=
  ⟨r.processed, r.nv.map fun nv => (nv.name, nv.value), r.final⟩

-- The inflater does not take a byte for a field only if it has been in the middle of its value.
theorem inflateHdNv_processed {inflater : Hpack.Inflater} {wide : WideShift} {bs : Bytes}
    {r : Hpack.Inflater.Inflated} (h : Idle inflater)
    (hr : (inflater.inflateHdNv wide bs true).2 = .ok r)
    : r.processed ≤ bs.length ∧ (r.final = false → 0 < r.processed) := by
  obtain ⟨table, hsound⟩ := h.sound
  have hvalue : inflater.ctx.bad = false → ¬inflater.AtValue := by
    intro hbad hvalue
    rcases h.state hbad with hstate | hstate | hstate
    . simp [Hpack.Inflater.AtValue, hstate] at hvalue
    . simp [Hpack.Inflater.AtValue, hstate] at hvalue
    . simp [Hpack.Inflater.AtValue, hstate] at hvalue
  have hbad : inflater.ctx.bad = false := by
    rw [Bool.eq_false_iff]
    intro htrue
    rw [Hpack.Inflater.inflateHdNv, if_pos htrue] at hr
    cases hr
  have hreturned := hsound.inflateHdNv wide bs true
  generalize inflater.inflateHdNv wide bs true = x at hreturned hr
  cases hreturned with
  | all =>
    cases hr
    exact ⟨Nat.le_refl _, fun hfalse => by cases hfalse⟩
  | emit _ _ _ hn hpos =>
    cases hr
    exact ⟨hn, fun _ => hpos (hvalue hbad)⟩
  | error => cases hr

/--
The library as it comes with the client. The buffer for a header block has as many bytes as
`nghttp2_hd_deflate_bound` returns.
-/
def Nghttp2.vendored (wide : WideShift) : Nghttp2 where
  Inflater := { inflater : Hpack.Inflater // Idle inflater }
  Deflater := Hpack.Deflater
  inflateHd := fun s bs =>
    (⟨(s.1.inflateHdNv wide bs true).1, idle_inflateHdNv wide bs s.2⟩,
      (s.1.inflateHdNv wide bs true).2.toOption.map toInflateHd)
  inflateEndHeaders := fun s => ⟨s.1.endHeaders, idle_endHeaders s.2⟩
  deflateHd := fun deflater hs =>
    let (deflater, r) :=
      deflater.deflateHd (List.replicate (Hpack.Deflater.deflateBound (hs.map toNv)) 0)
        (hs.map toNv)
    (deflater, r.toOption)
  deflateChangeTableSize := fun deflater value => (deflater.changeTableSize value.toNat).toOption
  processed_le := by
    intro s bs r h
    obtain ⟨x, hx, rfl⟩ := Option.map_eq_some_iff.mp h
    exact (inflateHdNv_processed s.2 (ok_of_toOption hx)).1
  processed_pos := by
    intro s bs r h hfinal
    obtain ⟨x, hx, rfl⟩ := Option.map_eq_some_iff.mp h
    exact (inflateHdNv_processed s.2 (ok_of_toOption hx)).2 hfinal

def Nghttp2.inflateNew (wide : WideShift) : (Nghttp2.vendored wide).Inflater :=
  ⟨.init, idle_init⟩

section Calls

variable {wide : WideShift} {s : (Nghttp2.vendored wide).Inflater} {bs : Bytes} {r : InflateHd}

theorem exists_inflated (h : ((Nghttp2.vendored wide).inflateHd s bs).2 = some r)
    : ∃ x, s.1.inflateHdNv wide bs true = (((Nghttp2.vendored wide).inflateHd s bs).1.1, .ok x)
        ∧ r = toInflateHd x := by
  obtain ⟨x, hx, hr⟩ := Option.map_eq_some_iff.mp h
  refine ⟨x, ?_, hr.symm⟩
  rw [← ok_of_toOption hx]
  rfl

theorem inflateHd_of_inflateHdNv {inflater' : Hpack.Inflater} {x : Hpack.Inflater.Inflated}
    (h : s.1.inflateHdNv wide bs true = (inflater', .ok x))
    : ((Nghttp2.vendored wide).inflateHd s bs).2 = some (toInflateHd x)
      ∧ ((Nghttp2.vendored wide).inflateHd s bs).1.1 = inflater' := by
  have hfst := congrArg Prod.fst h
  have hsnd := congrArg Prod.snd h
  refine ⟨?_, hfst⟩
  change (s.1.inflateHdNv wide bs true).2.toOption.map toInflateHd = _
  rw [hsnd]
  rfl

-- Behind a field a block is not over before the input is.
theorem within_field {table : Hpack.Table} {inflater inflater' : Hpack.Inflater}
    {x : Hpack.Inflater.Inflated} (hsound : inflater.Sound table)
    (hstate : inflater.state = .opcode) (hbs : bs ≠ [])
    (h : inflater.inflateHdNv wide bs true = (inflater', .ok x))
    : x.final = false := by
  have hbad : inflater.ctx.bad = false := by
    rw [Bool.eq_false_iff]
    intro htrue
    rw [Hpack.Inflater.inflateHdNv, if_pos htrue] at h
    cases h
  obtain ⟨⟨inflater₁, o⟩, hends, hlooped⟩ := hsound.exists_ends wide bs hbad
  rw [hends.inflateHdNv hsound hbad] at h
  cases o with
  | next rest busy =>
    have hfield : inflater₁.InField := by
      cases hlooped with
      | next => exact hends.inField (.inr ⟨hstate, hbs⟩) rfl
    rw [Hpack.Inflater.returned, if_pos rfl, if_pos ⟨hfield.2.2.1, hfield.2.1⟩] at h
    cases h
  | almostOk rest => cases h
  | emit rest nv =>
    cases h
    rfl
  | fail e => cases h

end Calls

-- A header block may begin where a field may not follow another one.
def Between {wide : WideShift} (s : (Nghttp2.vendored wide).Inflater) : Prop :=
  s.1.state ≠ .opcode

theorem vendored_contract (wide : WideShift) : Contract (Nghttp2.vendored wide) Between where
  emit := by
    intro s bs r h hfinal
    obtain ⟨x, hx, rfl⟩ := exists_inflated h
    obtain ⟨table, hsound⟩ := s.2.sound
    have hreturned := hsound.inflateHdNv wide bs true
    rw [hx] at hreturned
    rw [Between, not_not]
    generalize ((Nghttp2.vendored wide).inflateHd s bs).1.1 = inflater' at hreturned
    cases hreturned with
    | all => cases hfinal
    | emit _ _ hstate => exact hstate
  within := by
    intro s bs r hwithin hbs h
    obtain ⟨x, hx, rfl⟩ := exists_inflated h
    obtain ⟨table, hsound⟩ := s.2.sound
    exact within_field hsound (not_not.mp hwithin) hbs hx
  endHeaders := by
    intro s
    exact Hpack.InflateState.noConfusion

end Http2
end Fsw
