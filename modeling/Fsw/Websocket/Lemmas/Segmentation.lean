import Mathlib.Data.List.SplitLengths
import Fsw.Lib.Cuts
import Fsw.Websocket.Lemmas.Client

namespace Fsw
namespace Websocket

section Calls

variable {readBuf : Buffer} {calls calls' : List (Frame × Bytes)} {k : Nat}
  {r : Frame × Buffer} {c : Frame × Bytes}

theorem decode_size {frame : Frame} {b : Buffer} (h : frame.decode b = .ok r)
    : r.2.size = b.size := by
  rcases (decode_cases h).2 with heq | ⟨pos, bs, hwrite⟩
  . rw [heq]
  . exact (Buffer.write_ok hwrite).2

theorem recvFrame_size {frame : Frame} {recved : Option Bytes}
    (h : recvFrame frame readBuf recved = .ok r)
    : r.2.size = readBuf.size := by
  unfold recvFrame at h
  cases recved with
  | none => contradiction
  | some bs =>
    rcases bind_eq_ok h with ⟨b, hb, h⟩
    rw [decode_size h, (Buffer.append_ok hb).2.2.1]
    rfl

theorem recvFrames_getElem? (h : (recvFrames readBuf calls)[k]? = some r)
    : ∃ b c, calls[k]? = some c ∧ b.size = readBuf.size ∧ recvFrame c.1 b (some c.2) = .ok r := by
  induction calls generalizing readBuf k with
  | nil => contradiction
  | cons c calls ih =>
    rcases c with ⟨frame, bs⟩
    unfold recvFrames at h
    split at h
    . next frame' b' hrecv =>
      cases k with
      | zero =>
        injection h with h
        subst h
        exact ⟨readBuf, (frame, bs), rfl, rfl, hrecv⟩
      | succ k =>
        rw [List.getElem?_cons_succ] at h
        rcases ih h with ⟨b, c, hc, hsize, hr⟩
        have hsize' : b'.size = readBuf.size := recvFrame_size hrecv
        exact ⟨b, c, hc, by rw [hsize, hsize'], hr⟩
    . contradiction

theorem recvFrames_zero (hc : calls[0]? = some c) (h : recvFrame c.1 readBuf (some c.2) = .ok r)
    : (recvFrames readBuf calls)[0]? = some r := by
  cases calls with
  | nil => contradiction
  | cons c' calls =>
    injection hc with hc
    subst hc
    rw [recvFrames, h]
    rfl

theorem recvFrames_succ {r' : Frame × Buffer} (hr : (recvFrames readBuf calls)[k]? = some r)
    (hc : calls[k + 1]? = some c) (h : recvFrame c.1 r.2 (some c.2) = .ok r')
    : (recvFrames readBuf calls)[k + 1]? = some r' := by
  induction calls generalizing readBuf k with
  | nil => contradiction
  | cons c₀ calls ih =>
    rcases c₀ with ⟨frame, bs⟩
    unfold recvFrames at hr ⊢
    split
    . next frame₁ b₁ hrecv =>
      rw [hrecv] at hr
      rw [List.getElem?_cons_succ] at hc ⊢
      cases k with
      | zero =>
        injection hr with hr
        rw [← hr] at h
        apply recvFrames_zero hc h
      | succ k =>
        rw [List.getElem?_cons_succ] at hr
        apply ih hr hc
    . next hrecv =>
      rw [hrecv] at hr
      contradiction

theorem recvFrames_append_left (hk : k < calls.length)
    : (recvFrames readBuf (calls ++ calls'))[k]? = (recvFrames readBuf calls)[k]? := by
  induction calls generalizing readBuf k with
  | nil => contradiction
  | cons c calls ih =>
    rcases c with ⟨frame, bs⟩
    rw [List.cons_append, recvFrames, recvFrames]
    split
    . cases k with
      | zero => rfl
      | succ k =>
        rw [List.getElem?_cons_succ, List.getElem?_cons_succ]
        apply ih
        rw [List.length_cons] at hk
        omega
    . rfl

end Calls

/--
How many bytes the payloads of the frames have, and how many what `recv` returns has each time.
-/
structure Segmentation where
  payloads : List Nat
  recvs : List Nat
  payloads_le : ∀ n ∈ payloads, wireLength n ≤ Http.READ_BUF_MAX_SIZE
  recvs_le : ∀ n ∈ recvs, 0 < n ∧ n ≤ Http.READ_BUF_MAX_SIZE
  total : recvs.sum = (payloads.map wireLength).sum

def wire (frames : List ClientFrame) : Bytes :=
  (frames.map (·.bytes)).flatten

structure Received (s : Segmentation) (frames : List ClientFrame) (calls : List (Frame × Bytes))
    : Prop where
  payloads : frames.map (·.payload.length) = s.payloads
  recvs : calls.map (·.2.length) = s.recvs
  flatten : (calls.map Prod.snd).flatten = wire frames

def Segmentation.Survives (s : Segmentation) : Prop :=
  ∀ frames calls (readBuf : Buffer), Received s frames calls
    → readBuf.size = Http.READ_BUF_MAX_SIZE →
    List.Forall₂ ClientFrame.Yields frames (recvFrames readBuf calls)

section Aligned

variable {s : Segmentation} {frames : List ClientFrame} {calls : List (Frame × Bytes)} {k : Nat}
  {f : ClientFrame} {c : Frame × Bytes} {b : Buffer}

theorem Received.wireLengths (h : Received s frames calls)
    : (frames.map (·.bytes)).map List.length = s.payloads.map wireLength := by
  rw [← h.payloads, List.map_map, List.map_map]
  apply List.map_congr_left
  intro f _
  apply f.length_bytes

theorem Received.lengths (h : Received s frames calls)
    : (calls.map Prod.snd).map List.length = s.recvs := by
  rw [← h.recvs, List.map_map]
  rfl

theorem Received.recv (h : Received s frames calls) (hc : calls[k]? = some c)
    : s.recvs[k]? = some c.2.length := by
  rw [← h.recvs, List.getElem?_map, hc]
  rfl

theorem Received.le (h : Received s frames calls) (hc : calls[k]? = some c)
    : 0 < c.2.length ∧ c.2.length ≤ Http.READ_BUF_MAX_SIZE := by
  exact s.recvs_le _ (List.mem_of_getElem? (h.recv hc))

theorem Received.drop (h : Received s frames calls) (hc : calls[k]? = some c)
    : ∃ rest, (wire frames).drop (cut s.recvs k) = c.2 ++ rest := by
  have hc' : (calls.map Prod.snd)[k]? = some c.2 := by
    rw [List.getElem?_map, hc]
    rfl
  rw [← h.flatten, ← h.lengths, drop_cut_eq_append hc']
  exact ⟨_, rfl⟩

theorem recvFrame_yields (f : ClientFrame) (frame : Frame) (hsize : b.size = Http.READ_BUF_MAX_SIZE)
    : ∃ r, recvFrame frame b (some f.bytes) = .ok r ∧ f.Yields r
        ∧ r.2.size = Http.READ_BUF_MAX_SIZE := by
  have hle : f.bytes.length ≤ b.size := by
    rw [hsize, f.length_bytes]
    exact f.length_le
  rcases recvFrame_eq_decode frame b hle hsize with ⟨b', hrecv, hcont, hsize', _⟩
  rw [hrecv, ← hsize, ← hsize']
  have hbytes : b'.contents = f.bytes ++ [] := by rw [hcont, List.append_nil]
  exact decode_ok_of_bytes frame hbytes

theorem recvFrames_yields (hcalls : calls.map Prod.snd = frames.map (·.bytes))
    (hsize : b.size = Http.READ_BUF_MAX_SIZE)
    : List.Forall₂ ClientFrame.Yields frames (recvFrames b calls) := by
  induction calls generalizing frames b with
  | nil =>
    rw [List.map_nil, eq_comm, List.map_eq_nil_iff] at hcalls
    rw [hcalls]
    exact .nil
  | cons c calls ih =>
    cases frames with
    | nil => contradiction
    | cons f frames =>
      rcases c with ⟨frame, bs⟩
      rw [List.map_cons, List.map_cons] at hcalls
      injection hcalls with hbytes hcalls
      dsimp only at hbytes
      rcases recvFrame_yields f frame hsize with ⟨r, hr, hyields, hsize'⟩
      rw [recvFrames, hbytes, hr]
      exact .cons hyields (ih hcalls hsize')

theorem survives_of_eq (heq : s.recvs = s.payloads.map wireLength) : s.Survives := by
  intro frames calls readBuf h hsize
  apply recvFrames_yields _ hsize
  apply List.eq_iff_flatten_eq.mpr
  exact ⟨h.flatten, h.lengths.trans (heq.trans h.wireLengths.symm)⟩

end Aligned

section Survives

variable {s : Segmentation} {k n : Nat}

def ClientFrame.plain (opcode : BitVec 4) (payload : Bytes)
    (h : wireLength payload.length ≤ Http.READ_BUF_MAX_SIZE)
    : ClientFrame where
  opcode := opcode
  rsv3 := 0
  rsv2 := 0
  rsv1 := 0
  fin := 1
  maskKey := [0, 0, 0, 0]
  payload := payload
  length_maskKey := rfl
  length_le := h

theorem exists_frames {ps : List Nat} (h : ∀ n ∈ ps, wireLength n ≤ Http.READ_BUF_MAX_SIZE)
    : ∃ frames : List ClientFrame, frames.map (·.payload.length) = ps := by
  induction ps with
  | nil => exact ⟨[], rfl⟩
  | cons n ps ih =>
    rcases ih (fun m hm => h m (List.mem_cons_of_mem _ hm)) with ⟨frames, hframes⟩
    have hn : wireLength (List.replicate n (0 : UInt8)).length ≤ Http.READ_BUF_MAX_SIZE := by
      rw [List.length_replicate]
      exact h n List.mem_cons_self
    refine ⟨.plain 2 (List.replicate n 0) hn :: frames, ?_⟩
    rw [List.map_cons, hframes]
    simp [ClientFrame.plain]

theorem exists_calls {ls : List Nat} {stream : Bytes} (h : ls.sum = stream.length)
    : ∃ calls : List (Frame × Bytes), calls.map (·.2.length) = ls
        ∧ (calls.map Prod.snd).flatten = stream := by
  refine ⟨(ls.splitLengths stream).map fun bs => (⟨.ofBytes 0 0, [], 0, 0, 0⟩, bs), ?_, ?_⟩
  . rw [List.map_map]
    exact List.map_splitLengths_length stream ls (Nat.le_of_eq h)
  . rw [List.map_map, Function.comp_def, List.map_id']
    exact List.flatten_splitLengths stream ls (Nat.le_of_eq h.symm)

theorem length_wire {frames : List ClientFrame} (h : frames.map (·.payload.length) = s.payloads)
    : (wire frames).length = s.recvs.sum := by
  rw [s.total, ← h, wire, List.length_flatten, List.map_map, List.map_map]
  congr 1
  apply List.map_congr_left
  intro f _
  apply f.length_bytes

theorem Segmentation.Survives.yields (h : s.Survives) {frames : List ClientFrame} {f : ClientFrame}
    {calls : List (Frame × Bytes)} (hreceived : Received s frames calls) (hf : frames[k]? = some f)
    : ∃ r, (recvFrames (.new Http.READ_BUF_MAX_SIZE) calls)[k]? = some r ∧ f.Yields r := by
  have hall := List.forall₂_iff_get.mp (h frames calls (.new Http.READ_BUF_MAX_SIZE) hreceived rfl)
  rcases List.getElem?_eq_some_iff.mp hf with ⟨hk, hget⟩
  have hk' := hk
  rw [hall.1] at hk'
  have hyields := hall.2 k hk hk'
  rw [List.get_eq_getElem, hget] at hyields
  exact ⟨_, List.getElem?_eq_getElem hk', hyields⟩

theorem Segmentation.Survives.opcode (h : s.Survives) {frames : List ClientFrame} {f : ClientFrame}
    (hframes : frames.map (·.payload.length) = s.payloads) (hf : frames[k]? = some f)
    : f.opcode = ((wire frames).getD (cut s.recvs k) 0).toBitVec.extractLsb' 0 4 := by
  rcases exists_calls (length_wire hframes).symm with ⟨calls, hrecvs, hflatten⟩
  have hreceived : Received s frames calls := ⟨hframes, hrecvs, hflatten⟩
  rcases h.yields hreceived hf with ⟨r, hr, hyields⟩
  rcases recvFrames_getElem? hr with ⟨b, c, hc, hsize, hrecv⟩
  rcases hreceived.le hc with ⟨hpos, hle⟩
  have hle' : c.2.length ≤ b.size := by
    rw [hsize]
    exact hle
  rcases recvFrame_eq_decode c.1 b hle' hsize with ⟨b', hdecode, hcont, _, _⟩
  rw [hdecode] at hrecv
  have hopcode : r.1.header.opcode = f.opcode := by
    rw [hyields.header]
    rfl
  have hfirst : b'.mem.getD 0 0 = c.2.getD 0 0 := by
    rw [← hcont, Buffer.contents, List.getD_eq_getElem?_getD, List.getD_eq_getElem?_getD,
      List.getElem?_take_of_lt]
    rw [← Buffer.length_contents, hcont]
    exact hpos
  have hstream : (wire frames).getD (cut s.recvs k) 0 = c.2.getD 0 0 := by
    rcases hreceived.drop hc with ⟨rest, hrest⟩
    have hget : (wire frames)[cut s.recvs k]? = ((wire frames).drop (cut s.recvs k))[0]? := by
      rw [List.getElem?_drop, Nat.add_zero]
    rw [List.getD_eq_getElem?_getD, hget, hrest, List.getElem?_append_left hpos,
      List.getD_eq_getElem?_getD]
  rw [← hopcode, (decode_cases hrecv).1, hfirst, hstream]
  rfl

theorem getD_append_cons {α : Type} {a t : List α} {x y d : α} {i : Nat} (hi : i ≠ a.length)
    : (a ++ x :: t).getD i d = (a ++ y :: t).getD i d := by
  rw [List.getD_eq_getElem?_getD, List.getD_eq_getElem?_getD]
  rcases Nat.lt_or_gt_of_ne hi with hlt | hgt
  . rw [List.getElem?_append_left hlt, List.getElem?_append_left hlt]
  . rw [List.getElem?_append_right (Nat.le_of_lt hgt),
      List.getElem?_append_right (Nat.le_of_lt hgt)]
    rcases Nat.exists_eq_add_of_lt hgt with ⟨j, hj⟩
    have hsub : i - a.length = j + 1 := by omega
    rw [hsub, List.getElem?_cons_succ, List.getElem?_cons_succ]

theorem exists_split (hn : s.payloads[k]? = some n)
    : ∃ front back : List ClientFrame, front.length = k
        ∧ s.payloads = front.map (·.payload.length) ++ n :: back.map (·.payload.length)
        ∧ (wire front).length = cut (s.payloads.map wireLength) k := by
  rcases List.getElem?_eq_some_iff.mp hn with ⟨hk, hget⟩
  have hsplit : s.payloads = s.payloads.take k ++ n :: s.payloads.drop (k + 1) := by
    rw [← hget, ← List.drop_eq_getElem_cons hk, List.take_append_drop]
  have htake : ∀ m ∈ s.payloads.take k, wireLength m ≤ Http.READ_BUF_MAX_SIZE := by
    intro m hm
    apply s.payloads_le m (List.mem_of_mem_take hm)
  have hdrop : ∀ m ∈ s.payloads.drop (k + 1), wireLength m ≤ Http.READ_BUF_MAX_SIZE := by
    intro m hm
    apply s.payloads_le m (List.mem_of_mem_drop hm)
  rcases exists_frames htake with ⟨front, hfront⟩
  rcases exists_frames hdrop with ⟨back, hback⟩
  refine ⟨front, back, ?_, ?_, ?_⟩
  . rw [← List.length_map (·.payload.length), hfront, List.length_take]
    omega
  . rw [hfront, hback]
    exact hsplit
  . rw [wire, List.length_flatten, cut, ← List.map_take, ← hfront, List.map_map, List.map_map]
    congr 1
    apply List.map_congr_left
    intro f _
    apply f.length_bytes

theorem Segmentation.Survives.start (h : s.Survives) (hn : s.payloads[k]? = some n)
    : cut s.recvs k = cut (s.payloads.map wireLength) k := by
  by_contra hne
  have hle : wireLength (List.replicate n (0 : UInt8)).length ≤ Http.READ_BUF_MAX_SIZE := by
    rw [List.length_replicate]
    exact s.payloads_le n (List.mem_of_getElem? hn)
  rcases exists_split hn with ⟨front, back, hk, hpayloads, hlength⟩
  have hopcode (opcode : BitVec 4)
      : opcode = ((wire (front ++ ClientFrame.plain opcode (List.replicate n 0) hle :: back)).getD
          (cut s.recvs k) 0
          ).toBitVec.extractLsb' 0 4 := by
    apply h.opcode (f := .plain opcode (List.replicate n 0) hle)
    . rw [hpayloads, List.map_append, List.map_cons]
      simp [ClientFrame.plain]
    . rw [← hk]
      simp
  have hsame : (wire (front ++ ClientFrame.plain 1 (List.replicate n 0) hle :: back)).getD
    (cut s.recvs k) 0
      = (wire (front ++ ClientFrame.plain 2 (List.replicate n 0) hle :: back)).getD
        (cut s.recvs k) 0 := by
    rw [← hlength] at hne
    rw [wire, wire, List.map_append, List.map_append, List.flatten_append, List.flatten_append]
    apply getD_append_cons hne
  have heq := hopcode 1
  rw [hsame, ← hopcode 2] at heq
  contradiction

-- After a single byte there is the `\0` of `append`, and no bit for a mask.
theorem Segmentation.Survives.header (h : s.Survives) (hn : s.payloads[k]? = some n)
    : ∃ m, s.recvs[k]? = some m ∧ HEADER_LEN ≤ m := by
  rcases exists_frames s.payloads_le with ⟨frames, hframes⟩
  rcases exists_calls (length_wire hframes).symm with ⟨calls, hrecvs, hflatten⟩
  have hreceived : Received s frames calls := ⟨hframes, hrecvs, hflatten⟩
  rw [← hframes, List.getElem?_map, Option.map_eq_some_iff] at hn
  rcases hn with ⟨f, hf, _⟩
  rcases h.yields hreceived hf with ⟨r, hr, hyields⟩
  rcases recvFrames_getElem? hr with ⟨b, c, hc, hsize, hrecv⟩
  rcases hreceived.le hc with ⟨hpos, hle⟩
  refine ⟨c.2.length, hreceived.recv hc, ?_⟩
  by_contra hlt
  unfold HEADER_LEN at hlt
  have hone : c.2.length = 1 := by omega
  have hle' : c.2.length ≤ b.size := by
    rw [hsize]
    exact hle
  rcases recvFrame_eq_decode c.1 b hle' hsize with ⟨b', hdecode, _, _, hterminated⟩
  rw [hdecode] at hrecv
  rw [hone] at hterminated
  have hmask : r.1.header.mask = 0 := by
    rw [(decode_cases hrecv).1, hterminated]
    rfl
  apply f.header_mask
  rw [← hyields.header, hmask]

theorem length_back {front back : List ClientFrame}
    (hpayloads : s.payloads = front.map (·.payload.length) ++ n :: back.map (·.payload.length))
    (hlast : s.payloads.length ≤ front.length + 1)
    : back = [] := by
  rw [hpayloads, List.length_append, List.length_cons, List.length_map, List.length_map] at hlast
  apply List.eq_nil_of_length_eq_zero
  omega

theorem exists_wire (front : List ClientFrame) (n : Nat)
    (hle : ∀ x : UInt8, wireLength (List.replicate n 0 ++ [x]).length ≤ Http.READ_BUF_MAX_SIZE)
    : ∃ u, ∀ x, ∃ y, wire (front ++ [ClientFrame.plain 2 (List.replicate n 0 ++ [x]) (hle x)])
        = u ++ [y] := by
  refine ⟨?_, fun x => ⟨?_, ?_⟩⟩
  rotate_left 2
  . simp only [wire, List.map_append, List.flatten_append, List.map_cons,
      List.map_nil, List.flatten_cons,
      List.flatten_nil, List.append_nil, ClientFrame.bytes, ClientFrame.header, ClientFrame.plain,
      List.length_append, List.length_replicate, List.length_singleton, maskOctets_append,
      ← List.append_assoc]
    rfl

theorem Segmentation.Survives.last (h : s.Survives) (hn : s.payloads[k]? = some (n + 1))
    (hlast : s.payloads.length ≤ k + 1)
    : s.recvs.sum ≤ cut s.recvs (k + 1) := by
  by_contra hlt
  rcases exists_split hn with ⟨front, back, hk, hpayloads, hlength⟩
  have hback : back = [] := length_back hpayloads (by omega)
  subst hback
  have hle (x : UInt8) : wireLength (List.replicate n 0 ++ [x]).length
    ≤ Http.READ_BUF_MAX_SIZE := by
    rw [List.length_append, List.length_replicate]
    exact s.payloads_le _ (List.mem_of_getElem? hn)
  let frames (x : UInt8) := front ++ [ClientFrame.plain 2 (List.replicate n 0 ++ [x]) (hle x)]
  have hframes (x : UInt8) : (frames x).map (·.payload.length) = s.payloads := by
    rw [hpayloads, List.map_append]
    simp [ClientFrame.plain]
  rcases exists_wire front n hle with ⟨u, hwire⟩
  have hcut : cut s.recvs (k + 1) ≤ u.length := by
    rcases hwire 0 with ⟨y, hy⟩
    have hlen := length_wire (hframes 0)
    rw [hy, List.length_append, List.length_singleton] at hlen
    omega
  have htake : (s.recvs.take (k + 1)).sum = (u.take (cut s.recvs (k + 1))).length := by
    rw [List.length_take, Nat.min_eq_left hcut]
    rfl
  rcases exists_calls htake with ⟨calls, hrecvs, hflatten⟩
  have hlen : k < calls.length := by
    rcases h.header hn with ⟨m, hm, _⟩
    have := (List.getElem?_eq_some_iff.mp hm).1
    rw [← List.length_map (·.2.length), hrecvs, List.length_take]
    omega
  have hyields (x : UInt8) : ∃ r, (recvFrames (.new Http.READ_BUF_MAX_SIZE) calls)[k]? = some r
      ∧ r.2.read r.1.payload r.1.payloadLength = .ok (List.replicate n 0 ++ [x]) := by
    have hdrop : (s.recvs.drop (k + 1)).sum
      = ((wire (frames x)).drop (cut s.recvs (k + 1))).length := by
      have hsum : s.recvs.sum = cut s.recvs (k + 1) + (s.recvs.drop (k + 1)).sum := by
        rw [cut, ← List.sum_append, List.take_append_drop]
      rw [List.length_drop, length_wire (hframes x)]
      omega
    rcases exists_calls hdrop with ⟨calls', hrecvs', hflatten'⟩
    have hreceived : Received s (frames x) (calls ++ calls') := by
      refine ⟨hframes x, ?_, ?_⟩
      . rw [List.map_append, hrecvs, hrecvs', List.take_append_drop]
      . rcases hwire x with ⟨y, hy⟩
        rw [List.map_append, List.flatten_append, hflatten, hflatten',
          ← List.take_append_of_le_length hcut, ← hy, List.take_append_drop]
    have hf : (frames x)[k]? = some (ClientFrame.plain 2 (List.replicate n 0 ++ [x]) (hle x)) := by
      simp [frames, ← hk]
    rcases h.yields hreceived hf with ⟨r, hr, hyields⟩
    rw [recvFrames_append_left hlen] at hr
    exact ⟨r, hr, hyields.payload⟩
  rcases hyields 0 with ⟨r, hr, hpayload⟩
  rcases hyields 1 with ⟨r', hr', hpayload'⟩
  rw [hr] at hr'
  injection hr' with hr'
  rw [← hr', hpayload] at hpayload'
  simp at hpayload'

theorem bytes_plain_nil (opcode : BitVec 4)
    (h : wireLength ([] : Bytes).length ≤ Http.READ_BUF_MAX_SIZE)
    : ∃ b₀ b₁, (ClientFrame.plain opcode [] h).bytes = b₀ :: b₁ :: List.replicate 4 0 := by
  exact ⟨_, _, rfl⟩

theorem eq_zero_of_drop_wire {front : List ClientFrame} {opcode : BitVec 4}
    {bs rest : Bytes} {m : Nat} (hle : wireLength ([] : Bytes).length ≤ Http.READ_BUF_MAX_SIZE)
    (hm : HEADER_LEN ≤ m)
    (h : (wire (front ++ [ClientFrame.plain opcode [] hle])).drop ((wire front).length + m)
      = bs ++ rest)
    : ∀ x ∈ bs, x = 0 := by
  intro x hx
  rcases bytes_plain_nil opcode hle with ⟨b₀, b₁, hbytes⟩
  rcases Nat.exists_eq_add_of_le hm with ⟨j, hj⟩
  have hwire : wire (front ++ [ClientFrame.plain opcode [] hle])
      = wire front ++ b₀ :: b₁ :: List.replicate 4 0 := by
    rw [wire, List.map_append, List.flatten_append, List.map_singleton,
      List.flatten_singleton, hbytes, wire]
  rw [hwire, ← List.drop_drop, List.drop_left, hj, ← List.drop_drop,
    HEADER_LEN, List.drop_succ_cons, List.drop_succ_cons, List.drop_zero, List.drop_replicate] at h
  have hmem : x ∈ bs ++ rest := List.mem_append_left _ hx
  rw [← h] at hmem
  exact (List.mem_replicate.mp hmem).2

-- What is missing of a masking key of zeros would be taken for another frame.
theorem Segmentation.Survives.no_more (h : s.Survives) (hn : s.payloads[k]? = some 0)
    (hlast : s.payloads.length ≤ k + 1)
    : s.recvs.length ≤ k + 1 := by
  by_contra hlt
  rcases exists_split hn with ⟨front, back, hk, hpayloads, hlength⟩
  have hback : back = [] := length_back hpayloads (by omega)
  subst hback
  have hle : wireLength ([] : Bytes).length ≤ Http.READ_BUF_MAX_SIZE := by decide
  have hframes : (front ++ [ClientFrame.plain 2 [] hle]).map (·.payload.length) = s.payloads := by
    rw [hpayloads, List.map_append]
    simp [ClientFrame.plain]
  rcases exists_calls (length_wire hframes).symm with ⟨calls, hrecvs, hflatten⟩
  have hreceived : Received s (front ++ [ClientFrame.plain 2 [] hle]) calls :=
    ⟨hframes, hrecvs, hflatten⟩
  have hf : (front ++ [ClientFrame.plain 2 [] hle])[k]? = some (ClientFrame.plain 2 [] hle) := by
    simp [← hk]
  rcases h.yields hreceived hf with ⟨r, hr, _⟩
  rcases recvFrames_getElem? hr with ⟨b, c₀, hc₀, hsize, hrecv₀⟩
  have hcalls : k + 1 < calls.length := by
    rw [← List.length_map (·.2.length), hrecvs]
    omega
  have hc := List.getElem?_eq_getElem hcalls
  rcases hreceived.le hc with ⟨hpos, hle'⟩
  have hzeros : ∀ x ∈ calls[k + 1].2, x = 0 := by
    rcases hreceived.drop hc with ⟨rest, hrest⟩
    rcases h.header hn with ⟨m, hm, hheader⟩
    have hcut : cut s.recvs (k + 1) = (wire front).length + m := by
      rw [cut_succ hm, h.start hn, hlength]
    rw [hcut] at hrest
    exact eq_zero_of_drop_wire hle hheader hrest
  have hsize' : r.2.size = Http.READ_BUF_MAX_SIZE := (recvFrame_size hrecv₀).trans hsize
  rcases recvFrame_zeros calls[k + 1].1 r.2 (List.length_pos_iff.mp hpos)
    hzeros (hsize' ▸ hle') hsize' with
    ⟨r', hr'⟩
  have hyields := recvFrames_succ hr hc hr'
  have hall := (h _ calls (.new Http.READ_BUF_MAX_SIZE) hreceived rfl).length_eq
  have hlt' := (List.getElem?_eq_some_iff.mp hyields).1
  rw [← hall, List.length_append, hk] at hlt'
  exact Nat.lt_irrefl _ hlt'

theorem Segmentation.Survives.length (h : s.Survives) : s.recvs.length = s.payloads.length := by
  cases hlength : s.payloads.length with
  | zero =>
    have hsum := s.total
    rw [List.eq_nil_of_length_eq_zero hlength] at hsum
    cases hrecvs : s.recvs with
    | nil => rfl
    | cons m recvs =>
      have := (s.recvs_le m (hrecvs ▸ List.mem_cons_self)).1
      rw [hrecvs, List.sum_cons] at hsum
      simp at hsum
      omega
  | succ k =>
    have hk : k < s.payloads.length := by omega
    have hn := List.getElem?_eq_getElem hk
    rcases h.header hn with ⟨m, hm, _⟩
    have hle := (List.getElem?_eq_some_iff.mp hm).1
    apply Nat.le_antisymm _ hle
    cases hpayload : s.payloads[k] with
    | zero =>
      rw [hpayload] at hn
      apply h.no_more hn (Nat.le_of_eq hlength)
    | succ n =>
      rw [hpayload] at hn
      have hsum := h.last hn (Nat.le_of_eq hlength)
      by_contra hlt
      have hcut : cut s.recvs (k + 1) < cut s.recvs s.recvs.length :=
        cut_lt (fun n hn => (s.recvs_le n hn).1) (by omega) (Nat.le_refl _)
      rw [cut, cut, List.take_length] at hcut
      unfold cut at hsum
      omega

theorem Segmentation.Survives.eq (h : s.Survives) : s.recvs = s.payloads.map wireLength := by
  apply eq_of_cut_eq
  . rw [List.length_map]
    exact h.length
  . intro k hk
    rw [h.length] at hk
    rcases Nat.lt_or_eq_of_le hk with hlt | heq
    . exact h.start (List.getElem?_eq_getElem hlt)
    . rw [cut, cut, List.take_of_length_le, List.take_of_length_le]
      . exact s.total
      . rw [List.length_map]
        exact Nat.le_of_eq heq.symm
      . rw [h.length]
        exact Nat.le_of_eq heq.symm

end Survives

namespace Segmentation

/--
All sequences of frames with payloads of the given lengths survive a way to cut them if and only if
it is the one into frames.
-/
theorem survives_iff (s : Segmentation) : s.Survives ↔ s.recvs = s.payloads.map wireLength := by
  constructor
  . intro h
    exact h.eq
  . intro h
    exact survives_of_eq h

end Segmentation

-- A masked `"a"`, whose last byte comes late
def lateByte : Segmentation where
  payloads := [1]
  recvs := [6, 1]
  payloads_le := by decide
  recvs_le := by decide
  total := by decide

def lateByteFrame : ClientFrame where
  opcode := 1
  rsv3 := 0
  rsv2 := 0
  rsv1 := 0
  fin := 1
  maskKey := [1, 2, 3, 4]
  payload := Buffer.str "a"
  length_maskKey := rfl
  length_le := by decide

def lateByteCalls : List (Frame × Bytes) :=
  [(⟨.ofBytes 0 0, [], 0, 0, 0⟩, [0x81, 0x81, 1, 2, 3, 4]), (⟨.ofBytes 0 0, [], 0, 0, 0⟩, [0x60])]

-- The payload is the `\0` after what has been received, xored with the first byte of the masking
-- key.
theorem lateByte_not_survives
    : Received lateByte [lateByteFrame] lateByteCalls
      ∧ ((recvFrames (.new Http.READ_BUF_MAX_SIZE) lateByteCalls).map fun r =>
          (r.1.payloadLength, (r.2.read r.1.payload r.1.payloadLength).toOption))
          = [(1, some [1]), (0, some [])]
      ∧ ¬lateByte.Survives := by
  refine ⟨⟨by decide, by decide, by decide⟩, by decide +kernel, ?_⟩
  intro h
  have := h.length
  contradiction

end Websocket
end Fsw
