import Fsw.Http2.Lemmas.Client
import Fsw.Http2.Lemmas.Literal

namespace Fsw
namespace Http2

-- The fields that have been emitted, and how often `nghttp2_hd_inflate_end_headers` has been called
structure Log where
  fields : List (Bytes × Bytes)
  ends : Nat
  deriving DecidableEq, Repr

def Nghttp2.logged (lib : Nghttp2) : Nghttp2 where
  Inflater := lib.Inflater × Log
  Deflater := lib.Deflater
  inflateHd := fun s bs =>
    let r := lib.inflateHd s.1 bs
    ((r.1, { s.2 with fields := s.2.fields ++ (r.2.bind (·.nv)).toList }), r.2)
  inflateEndHeaders := fun s => (lib.inflateEndHeaders s.1, { s.2 with ends := s.2.ends + 1 })
  deflateHd := lib.deflateHd
  deflateChangeTableSize := lib.deflateChangeTableSize
  processed_le := fun s => lib.processed_le s.1
  processed_pos := fun s => lib.processed_pos s.1

section Logged

variable {lib : Nghttp2} (s : lib.logged.Inflater) (bs : Bytes)

def Nghttp2.inner : lib.Inflater := s.1

def Nghttp2.log : Log := s.2

open Nghttp2

theorem result_inflateHd : (lib.logged.inflateHd s bs).2 = (lib.inflateHd (inner s) bs).2 := rfl

theorem inner_inflateHd
    : inner (lib.logged.inflateHd s bs).1 = (lib.inflateHd (inner s) bs).1 := rfl

theorem log_inflateHd
    : log (lib.logged.inflateHd s bs).1
        = { log s with
            fields := (log s).fields ++ ((lib.inflateHd (inner s) bs).2.bind (·.nv)).toList } := rfl

theorem inner_inflateEndHeaders
    : inner (lib.logged.inflateEndHeaders s) = lib.inflateEndHeaders (inner s) := rfl

theorem log_inflateEndHeaders
    : log (lib.logged.inflateEndHeaders s) = { log s with ends := (log s).ends + 1 } := rfl

end Logged

/--
What the client relies on. `between` is the state in which a header block may begin.
-/
structure Contract (lib : Nghttp2) (between : lib.Inflater → Prop) : Prop where
  emit : ∀ inflater bs r, (lib.inflateHd inflater bs).2 = some r → r.final = false →
    ¬between (lib.inflateHd inflater bs).1
  within : ∀ inflater bs r, ¬between inflater → bs ≠ [] → (lib.inflateHd inflater bs).2 = some r
    → r.final = false
  endHeaders : ∀ inflater, between (lib.inflateEndHeaders inflater)

namespace Client

variable {lib : Nghttp2} {between : lib.Inflater → Prop} {inflater inflater' : lib.Inflater}
  {bs : Bytes}
  {hs : List (Bytes × Bytes)} {response : Response}

inductive Reads : lib.Inflater → Bytes → List (Bytes × Bytes) → lib.Inflater → Prop where
  | final {inflater : lib.Inflater} {bs : Bytes} {n : Nat}
      (h : (lib.inflateHd inflater bs).2 = some ⟨n, none, true⟩)
      : Reads inflater bs [] (lib.inflateHd inflater bs).1
  | emit {inflater inflater' : lib.Inflater} {bs : Bytes} {n : Nat} {nv : Bytes × Bytes}
      {hs : List (Bytes × Bytes)} (h : (lib.inflateHd inflater bs).2 = some ⟨n, some nv, false⟩)
      (rest : Reads (lib.inflateHd inflater bs).1 (bs.drop n) hs inflater')
      : Reads inflater bs (nv :: hs) inflater'

open Nghttp2

theorem not_stop {final : Bool} (h : ¬(parseHeaderStop inflater final bs.length).1 = true)
    : final = false ∧ bs ≠ [] := by
  simpa [parseHeaderStop] using h

theorem inflateHeaders_simulates {lib lib' : Nghttp2} {f : lib'.Inflater → lib.Inflater}
    (hresult : ∀ s bs, (lib'.inflateHd s bs).2 = (lib.inflateHd (f s) bs).2)
    (hstate : ∀ s bs, f (lib'.inflateHd s bs).1 = (lib.inflateHd (f s) bs).1)
    (hend : ∀ s, f (lib'.inflateEndHeaders s) = lib.inflateEndHeaders (f s))
    (s : lib'.Inflater) (bs : Bytes) (final : Bool) (response : Response)
    : f (inflateHeaders s bs final response).1 = (inflateHeaders (f s) bs final response).1
      ∧ (inflateHeaders s bs final response).2 = (inflateHeaders (f s) bs final response).2 := by
  induction s, bs, final, response using inflateHeaders.induct with
  | case1 s bs final response hstop =>
    have hstop' : (parseHeaderStop (f s) final bs.length).1 = true := hstop
    rw [inflateHeaders, dif_pos hstop, inflateHeaders, dif_pos hstop']
    cases final with
    | false => exact ⟨rfl, rfl⟩
    | true => exact ⟨hend s, rfl⟩
  | case2 s bs final response hstop hnone =>
    obtain ⟨rfl, hbs⟩ := not_stop hstop
    rw [inflateHeaders_fail hbs hnone, inflateHeaders_fail hbs ((hresult s bs).symm.trans hnone)]
    exact ⟨hstate s bs, rfl⟩
  | case3 s bs final response hstop r hsome _ ih =>
    obtain ⟨rfl, hbs⟩ := not_stop hstop
    rw [inflateHeaders_step hbs hsome, inflateHeaders_step hbs ((hresult s bs).symm.trans hsome),
      ← hstate]
    exact ih

theorem inflateHeaders_logged (s : lib.logged.Inflater) (bs : Bytes) (response : Response)
    : inner (inflateHeaders s bs false response).1 = (inflateHeaders (inner s) bs false response).1
      ∧ (inflateHeaders s bs false response).2 = (inflateHeaders (inner s) bs false response).2 :=
  inflateHeaders_simulates result_inflateHd inner_inflateHd inner_inflateEndHeaders
  s bs false response

theorem Reads.ne_nil {n : Nat} {nv : Bytes × Bytes}
    (h : (lib.inflateHd inflater bs).2 = some ⟨n, some nv, false⟩)
    : bs ≠ [] := by
  intro hnil
  have hpos := lib.processed_pos _ _ _ h rfl
  have hle := lib.processed_le _ _ _ h
  rw [hnil, List.length_nil] at hle
  omega

section Log

variable {s : lib.logged.Inflater}

theorem Reads.log_within (hlib : Contract lib between) (hnot : ¬between (inner s))
    (h : Reads (inner s) bs hs inflater')
    : log (inflateHeaders s bs false response).1 = ⟨(log s).fields ++ hs, (log s).ends⟩ := by
  generalize hinner : inner s = inflater at hnot h
  induction h generalizing s response with
  | @final inflater bs n h =>
    have hbs : bs = [] := by
      by_contra hbs
      exact absurd (hlib.within _ _ _ hnot hbs h) (by simp)
    rw [hbs, inflateHeaders_nil, List.append_nil]
  | @emit inflater inflater' bs n nv hs h rest ih =>
    subst hinner
    rw [inflateHeaders_step (ne_nil h) ((result_inflateHd s bs).trans h)]
    refine (ih (inner_inflateHd s bs) (hlib.emit _ _ _ h rfl)).trans ?_
    rw [log_inflateHd, h]
    simp

-- A block with a field is never closed, and neither is one that is empty.
theorem Reads.log_eq (hlib : Contract lib between) (h : Reads (inner s) bs hs inflater')
    : log (inflateHeaders s bs false response).1
        = ⟨(log s).fields ++ hs, if hs = [] ∧ bs ≠ [] then (log s).ends + 1 else (log s).ends⟩ := by
  cases h with
  | @final _ _ n h =>
    by_cases hbs : bs = []
    . subst hbs
      rw [inflateHeaders_nil, List.append_nil, if_neg (by simp)]
    . rw [inflateHeaders_step hbs ((result_inflateHd s bs).trans h), inflateHeaders_final,
        if_pos ⟨rfl, hbs⟩, log_inflateEndHeaders, log_inflateHd, h]
      rfl
  | @emit _ _ _ n nv hs h rest =>
    rw [inflateHeaders_step (ne_nil h) ((result_inflateHd s bs).trans h), if_neg (by simp)]
    have hnot : ¬between (inner (lib.logged.inflateHd s bs).1) := hlib.emit _ _ _ h rfl
    refine (log_within hlib hnot rest).trans ?_
    rw [log_inflateHd, h]
    simp

end Log

theorem Reads.decodes (h : Reads inflater bs hs inflater') : Decodes inflater bs hs := by
  induction h with
  | final h => exact .final h
  | emit h _ ih => exact .emit h ih

theorem Reads.closed (h : Reads inflater bs [] inflater') (hbs : bs ≠ [])
    : inflateHeaders inflater bs false response
        = (lib.inflateEndHeaders inflater', response, true) := by
  cases h with
  | final h => rw [inflateHeaders_step hbs h, inflateHeaders_final]; rfl

structure Block where
  payload : Bytes
  fields : List (Bytes × Bytes)
  response : Response

/--
Header blocks that are valid one after the other: each is for the state that the inflater is in when
the one before has been read and closed.
-/
inductive Valid : lib.Inflater → List Block → Prop where
  | nil {inflater : lib.Inflater} : Valid inflater []
  | cons {inflater inflater' : lib.Inflater} {b : Block} {blocks : List Block}
      (h : Reads inflater b.payload b.fields inflater')
      (rest : Valid (lib.inflateEndHeaders inflater') blocks)
      : Valid inflater (b :: blocks)

structure Closes (between : lib.Inflater → Prop) (s : lib.logged.Inflater) (b : Block) : Prop where
  between : between (inner s)
  ok : (inflateHeaders (inner s) b.payload false b.response).2
    = (b.fields.foldl emitHeader b.response, true)
  fields : (log (inflateHeaders s b.payload false b.response).1).fields = (log s).fields ++ b.fields
  once : (log (inflateHeaders s b.payload false b.response).1).ends = (log s).ends + 1

def ClosesEach (between : lib.Inflater → Prop) (s : lib.logged.Inflater) : List Block → Prop
  | [] => True
  | b :: blocks =>
    Closes between s b ∧ ClosesEach between (inflateHeaders s b.payload false b.response).1 blocks

theorem closes_iff {s : lib.logged.Inflater} {b : Block} (hlib : Contract lib between)
    (hs : between (inner s)) (h : Reads (inner s) b.payload b.fields inflater')
    : Closes between s b ↔ b.fields = [] ∧ b.payload ≠ [] := by
  have hlog : log (inflateHeaders s b.payload false b.response).1 = _ := h.log_eq hlib
  constructor
  . intro hcloses
    by_contra hnot
    have honce := hcloses.once
    rw [hlog, if_neg hnot] at honce
    dsimp only at honce
    omega
  . intro hclosed
    rw [if_pos hclosed] at hlog
    have hok : (inflateHeaders (inner s) b.payload false b.response).2
        = (b.fields.foldl emitHeader b.response, true) := by
      rcases h.decodes.inflateHeaders with ⟨inflater'', hinflate⟩
      rw [hinflate]
    exact ⟨hs, hok, by rw [hlog], by rw [hlog]⟩

/--
The loop stops when there is no input left, and then the call that would have reported `FINAL` is
missing. Only a block that changes the size of the table and does nothing else is closed.
-/
theorem closesEach_iff (lib : Nghttp2) (between : lib.Inflater → Prop) (hlib : Contract lib between)
    (s : lib.logged.Inflater) (hs : between (inner s)) (blocks : List Block)
    (hvalid : Valid (inner s) blocks)
    : ClosesEach between s blocks ↔ ∀ b ∈ blocks, b.fields = [] ∧ b.payload ≠ [] := by
  induction blocks generalizing s with
  | nil => simp [ClosesEach]
  | cons b blocks ih =>
    cases hvalid with
    | @cons _ inflater' _ _ h rest =>
      rw [ClosesEach, List.forall_mem_cons, closes_iff hlib hs h]
      refine and_congr_right ?_
      rintro ⟨hfields, hpayload⟩
      rw [hfields] at h
      have hclosed : inner (inflateHeaders s b.payload false b.response).1
        = lib.inflateEndHeaders inflater' := by
        rw [(inflateHeaders_logged s b.payload b.response).1, h.closed hpayload]
      refine ih _ ?_ ?_
      . rw [hclosed]
        exact hlib.endHeaders inflater'
      . rw [hclosed]
        exact rest

end Client

-- `literalLib` with changes of the table size, which are for the beginning of a block only
def isUpdate (b : UInt8) : Bool :=
  b &&& 0xe0 = 0x20 && b ≠ 0x3f

def updates (bs : Bytes) : Nat :=
  (bs.takeWhile isUpdate).length

def sizedInflate (between : Bool) (bs : Bytes) : Bool × Option InflateHd :=
  let n := if between then updates bs else 0
  match literalInflate (bs.drop n) with
  | none => (between, none)
  | some r => (between && r.final, some { r with processed := n + r.processed })

theorem sizedInflate_some {between : Bool} {bs : Bytes} {r : InflateHd}
    (h : (sizedInflate between bs).2 = some r)
    : ∃ n r', n ≤ bs.length ∧ literalInflate (bs.drop n) = some r' ∧ r.processed = n + r'.processed
        ∧ r.final = r'.final
        ∧ (between = false → n = 0) ∧ (sizedInflate between bs).1 = (between && r'.final) := by
  unfold sizedInflate at h
  dsimp only at h
  split at h
  . contradiction
  . next r' hr' =>
    injection h with h
    refine ⟨_, r', ?_, hr', by rw [← h], by rw [← h], ?_, ?_⟩
    . split
      . exact (List.takeWhile_prefix _).length_le
      . exact Nat.zero_le _
    . intro hbetween
      rw [hbetween]
      rfl
    . rw [sizedInflate]
      simp only [hr']

theorem sizedInflate_emit {between : Bool} {bs : Bytes} {r : InflateHd}
    (h : (sizedInflate between bs).2 = some r) (hfinal : r.final = false)
    : (sizedInflate between bs).1 = false := by
  rcases sizedInflate_some h with ⟨_, r', _, _, _, hfinal', _, hstate⟩
  rw [hstate, ← hfinal', hfinal, Bool.and_false]

def sizedLib : Nghttp2 where
  Inflater := Bool
  Deflater := Unit
  inflateHd := sizedInflate
  inflateEndHeaders := fun _ => true
  deflateHd := literalLib.deflateHd
  deflateChangeTableSize := literalLib.deflateChangeTableSize
  processed_le := by
    intro between bs r h
    rcases sizedInflate_some h with ⟨n, r', hn, hr', hprocessed, _⟩
    have := (literalInflate_processed hr').1
    rw [List.length_drop] at this
    omega
  processed_pos := by
    intro between bs r h hfinal
    rcases sizedInflate_some h with ⟨n, r', _, hr', hprocessed, hfinal', _⟩
    have := (literalInflate_processed hr').2 (by rw [← hfinal', hfinal])
    omega

theorem literalInflate_final {bs : Bytes} {r : InflateHd} (h : literalInflate bs = some r)
    (hbs : bs ≠ [])
    : r.final = false := by
  unfold literalInflate at h
  split at h
  . contradiction
  . injection h with h
    rw [← h]
  . split at h
    . contradiction
    . split at h
      . contradiction
      . injection h with h
        rw [← h]
  . contradiction

theorem sizedLib_contract : Contract sizedLib (· = true) where
  emit := by
    intro between bs r h hfinal hbetween
    exact Bool.false_ne_true ((sizedInflate_emit h hfinal).symm.trans hbetween)
  within := by
    intro between bs r hnot hbs h
    rcases sizedInflate_some h with ⟨n, r', _, hr', _, hfinal', hn, _⟩
    rw [hn (Bool.eq_false_iff.mpr hnot), List.drop_zero] at hr'
    rw [hfinal', literalInflate_final hr' hbs]
  endHeaders := fun _ => rfl

namespace Client

open Nghttp2

def statusOk : List (Bytes × Bytes) := [(Buffer.str ":status", Buffer.str "200")]

def unset : Response := ⟨[], 0, 0, []⟩

def closed : sizedLib.Inflater := true

def opened : sizedLib.Inflater := false

def fresh : sizedLib.logged.Inflater := (closed, ⟨[], 0⟩)

-- The second block begins with a change of the table size.
def statusBlocks : List Block :=
  [⟨[0x88], statusOk, unset⟩, ⟨[0x20, 0x88], statusOk, unset⟩]

theorem statusBlocks_reads : Reads closed [0x88] statusOk opened :=
  .emit (n := 1) rfl (.final (n := 0) rfl)

theorem statusBlocks_valid : Valid (inner fresh) statusBlocks := by
  have hreads : Reads closed [0x20, 0x88] statusOk opened :=
    .emit (n := 2) rfl (.final (n := 0) rfl)
  exact .cons statusBlocks_reads (.cons hreads .nil)

theorem statusBlocks_not_closed
    : Contract sizedLib (· = closed) ∧ Valid (inner fresh) statusBlocks
      ∧ ¬ClosesEach (· = closed) fresh statusBlocks
      ∧ (inflateHeaders closed [0x88] false unset).1 = opened
      ∧ (inflateHeaders opened [0x20, 0x88] false unset).2.2 = false := by
  refine ⟨sizedLib_contract, statusBlocks_valid, ?_, ?_, ?_⟩
  . intro h
    have hread : Reads (inner fresh) [0x88] statusOk opened := statusBlocks_reads
    have hclosed := (closes_iff (b := ⟨[0x88], statusOk, unset⟩) sizedLib_contract rfl hread).mp h.1
    exact absurd hclosed.1 (List.cons_ne_nil _ _)
  . have hstep : (sizedLib.inflateHd closed [0x88]).2
        = some ⟨1, some (Buffer.str ":status", Buffer.str "200"), false⟩ := rfl
    rw [inflateHeaders_step (List.cons_ne_nil _ _) hstep]
    exact congrArg Prod.fst inflateHeaders_nil
  . have hfail : (sizedLib.inflateHd opened [0x20, 0x88]).2 = none := rfl
    rw [inflateHeaders_fail (List.cons_ne_nil _ _) hfail]

-- Two blocks that change the size of the table and nothing else
theorem sizeBlocks_closed
    : Valid (inner fresh) [⟨[0x20], [], unset⟩, ⟨[0x21, 0x22], [], unset⟩]
      ∧ ClosesEach (· = closed) fresh [⟨[0x20], [], unset⟩, ⟨[0x21, 0x22], [], unset⟩] := by
  have hfirst : Reads closed [0x20] [] closed := .final (n := 1) rfl
  have hsecond : Reads closed [0x21, 0x22] [] closed := .final (n := 2) rfl
  have hvalid : Valid (inner fresh) [⟨[0x20], [], unset⟩, ⟨[0x21, 0x22], [], unset⟩] :=
    .cons hfirst (.cons hsecond .nil)
  refine ⟨hvalid,
    (closesEach_iff sizedLib (· = closed) sizedLib_contract fresh rfl _ hvalid).mpr ?_⟩
  simp

end Client
end Http2
end Fsw
