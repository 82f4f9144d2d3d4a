import Mathlib.Data.List.Induction
import Fsw.Websocket.Lemmas.Client

namespace Fsw
namespace Websocket

-- What a `recv` has returned: one of `on_accept`, into the front of the read buffer, or one of
-- `recv_frame`.
inductive Arrival where
  | request (data : Bytes)
  | frame (frame : Frame) (data : Bytes)
  deriving DecidableEq, Repr

def Arrival.length : Arrival → Nat
  | request data => data.length
  | frame _ data => data.length

-- `received` says which bytes of the buffer have come from the peer, unmasked or not.
structure Tagged where
  readBuf : Buffer
  received : Nat → Bool

namespace Tagged

def new : Tagged where
  readBuf := .new Http.READ_BUF_MAX_SIZE
  received := fun _ => false

def request (t : Tagged) (data : Bytes) : Except Trap Tagged := do
  let readBuf ← t.readBuf.write 0 data
  return ⟨readBuf, fun i => i < data.length || t.received i⟩

-- `clear` overwrites the first byte, `append` the byte behind those that it copies.
def appended (received : Nat → Bool) (n : Nat) (i : Nat) : Bool :=
  i < n || i ≠ 0 && i ≠ n && received i

-- Unmasking replaces a byte by one that is made of it and of a byte of the masking key.
def unmasked (received : Nat → Bool) (frame : Frame) (i : Nat) : Bool :=
  if frame.header.mask ≠ 0 ∧ frame.payload ≤ i ∧ i < frame.payload + frame.payloadLength then
    received i || received (frame.payload - MASK_LEN + (i - frame.payload) % MASK_LEN)
  else
    received i

def recvFrame (t : Tagged) (frame : Frame) (recved : Option Bytes)
    : Except Trap (Frame × Tagged) := do
  let (frame, readBuf) ← Websocket.recvFrame frame t.readBuf recved
  return (frame, ⟨readBuf, unmasked (appended t.received (recved.getD []).length) frame⟩)

def step (t : Tagged) : Arrival → Except Trap Tagged
  | .request data => t.request data
  | .frame frame data => do
    let (_, t) ← t.recvFrame frame (some data)
    return t

def run (hs : List Arrival) : Except Trap Tagged :=
  hs.foldlM step new

end Tagged

inductive Lost where
  | closed
  | error
  deriving DecidableEq, Repr

def Lost.recved : Lost → Option Bytes
  | closed => some []
  | error => none

-- Something in the header or the payload of the frame has come from the peer.
def Stale (r : Frame × Tagged) : Prop :=
  ∃ i, (i < HEADER_LEN ∨ r.1.payload ≤ i ∧ i < r.1.payload + r.1.payloadLength)
    ∧ r.2.received i = true

def Contained (t : Tagged) (frame : Frame) (lost : Lost) : Prop :=
  ∃ r, t.recvFrame frame lost.recved = .ok r ∧ ¬Stale r

-- Whenever more than one byte has been received, a frame of exactly one byte has followed.
def Clean (hs : List Arrival) : Prop :=
  ∀ hs₁ r hs₂, hs = hs₁ ++ r :: hs₂ → HEADER_LEN ≤ r.length →
    ∃ frame data, .frame frame data ∈ hs₂ ∧ data.length = 1

section Clean

variable {hs : List Arrival} {r : Arrival}

theorem clean_nil : Clean [] := by
  intro hs₁ r hs₂ h
  simp at h

theorem clean_snoc_long (h : HEADER_LEN ≤ r.length) : ¬Clean (hs ++ [r]) := by
  intro hclean
  rcases hclean hs r [] rfl h with ⟨_, _, hmem, _⟩
  simp at hmem

theorem snoc_cases {hs₁ hs₂ : List Arrival} {r' : Arrival} (h : hs ++ [r] = hs₁ ++ r' :: hs₂)
    : r = r' ∨ ∃ hs₃, hs₂ = hs₃ ++ [r] ∧ hs = hs₁ ++ r' :: hs₃ := by
  rcases List.eq_nil_or_concat' hs₂ with rfl | ⟨hs₃, r'', rfl⟩
  . have heq := List.append_inj' h rfl
    injection heq.2 with heq
    exact .inl heq
  . rw [← List.cons_append, ← List.append_assoc] at h
    have heq := List.append_inj' h rfl
    rw [heq.2]
    exact .inr ⟨hs₃, rfl, heq.1⟩

theorem clean_snoc_single {frame : Frame} {data : Bytes} (h : data.length = 1)
    : Clean (hs ++ [.frame frame data]) := by
  intro hs₁ r hs₂ heq hr
  rcases snoc_cases heq with heq | ⟨hs₃, rfl, _⟩
  . rw [← heq, Arrival.length, h, HEADER_LEN] at hr
    contradiction
  . refine ⟨frame, data, ?_, h⟩
    simp

theorem clean_snoc_short (hr : r.length < HEADER_LEN)
    (hsingle : ∀ frame data, r = .frame frame data → data.length ≠ 1)
    : Clean (hs ++ [r]) ↔ Clean hs := by
  constructor
  . intro hclean hs₁ r' hs₂ heq hr'
    rcases hclean hs₁ r' (hs₂ ++ [r]) (by rw [heq]; simp) hr' with ⟨frame, data, hmem, hlength⟩
    rcases List.mem_append.mp hmem with hmem | hmem
    . exact ⟨frame, data, hmem, hlength⟩
    . have := hsingle frame data (List.mem_singleton.mp hmem).symm
      contradiction
  . intro hclean hs₁ r' hs₂ heq hr'
    rcases snoc_cases heq with heq | ⟨hs₃, rfl, hsplit⟩
    . rw [← heq] at hr'
      omega
    . rcases hclean hs₁ r' hs₃ hsplit hr' with ⟨frame, data, hmem, hlength⟩
      exact ⟨frame, data, List.mem_append_left _ hmem, hlength⟩

end Clean

namespace Tagged

variable {t t' : Tagged} {frame : Frame}

theorem getD_decode {b : Buffer} {r : Frame × Buffer} (hmem : 14 ≤ b.mem.length)
    (h : frame.decode b = .ok r)
    : r.1.header = Frame.memHeader b ∧ r.2.size = b.size ∧ r.2.mem.getD 1 0 = b.mem.getD 1 0
        ∧ (r.1.header.mask ≠ 0 → HEADER_LEN < r.1.payload) := by
  have hext := extOctets_le (Frame.memHeader b).length
  have hle : HEADER_LEN + extOctets (Frame.memHeader b).length ≤ b.mem.length := by
    unfold HEADER_LEN
    omega
  have hread := Buffer.read_eq_mem hle
  rw [Frame.decode_eq frame (by unfold HEADER_LEN; omega) hread] at h
  split at h
  . rcases bind_eq_ok h with ⟨maskKey, _, h⟩
    have hlt : HEADER_LEN < HEADER_LEN + extOctets (Frame.memHeader b).length + MASK_LEN := by
      unfold MASK_LEN
      omega
    dsimp only at h
    split at h
    . rcases bind_eq_ok h with ⟨data, _, h⟩
      rcases bind_eq_ok h with ⟨b', hb', h⟩
      injection h with h
      rw [← h]
      have hwrite := Buffer.write_ok hb'
      refine ⟨rfl, hwrite.2, ?_, fun _ => hlt⟩
      apply Buffer.getD_write hb'
      left
      unfold HEADER_LEN MASK_LEN
      omega
    . injection h with h
      rw [← h]
      exact ⟨rfl, rfl, rfl, fun _ => hlt⟩
  . next hmask =>
    injection h with h
    rw [← h]
    exact ⟨rfl, rfl, rfl, fun hne => absurd hne hmask⟩

theorem unmasked_one {received : Nat → Bool}
    (h : frame.header.mask ≠ 0 → HEADER_LEN < frame.payload)
    : unmasked received frame 1 = received 1 := by
  unfold unmasked
  rw [if_neg]
  rintro ⟨hmask, hle, _⟩
  have := h hmask
  unfold HEADER_LEN at this
  omega

theorem recvFrame_ok {r : Frame × Tagged} {data : Bytes}
    (hsize : t.readBuf.size = Http.READ_BUF_MAX_SIZE) (h : t.recvFrame frame (some data) = .ok r)
    : r.2.readBuf.size = Http.READ_BUF_MAX_SIZE ∧ r.2.received 1 = appended t.received data.length 1
        ∧ (data.length = 1 → r.2.readBuf.mem.getD 1 0 = 0)
        ∧ (data.length = 0 → r.2.readBuf.mem.getD 1 0 = t.readBuf.mem.getD 1 0) := by
  rcases bind_eq_ok h with ⟨⟨frame', readBuf⟩, hrecv, heq⟩
  injection heq with heq
  subst heq
  rcases bind_eq_ok hrecv with ⟨b, hb, hdecode⟩
  have happend := Buffer.append_ok hb
  have hlength : b.length = data.length := by
    rw [happend.2.2.2]
    apply Nat.zero_add
  have hbsize : b.size = Http.READ_BUF_MAX_SIZE := by
    rw [happend.2.2.1, ← hsize]
    rfl
  have hmem : 14 ≤ b.mem.length := by
    rw [b.length_mem, hbsize]
    decide
  rcases getD_decode hmem hdecode with ⟨_, hsize', hone, hpayload⟩
  refine ⟨?_, unmasked_one hpayload, ?_, ?_⟩
  . rw [hsize', hbsize]
  . intro hsingle
    rw [hone, ← hsingle, ← hlength]
    apply Buffer.append_terminated hb
  . intro hnil
    have hlt : t.readBuf.clear.length + data.length < 1 := by
      rw [hnil]
      exact Nat.one_pos
    rw [hone, Buffer.getD_append hb hlt, Buffer.getD_clear Nat.one_pos]

structure Inv (hs : List Arrival) (t : Tagged) : Prop where
  size : t.readBuf.size = Http.READ_BUF_MAX_SIZE
  received : t.received 1 = false ↔ Clean hs
  zero : t.received 1 = false → t.readBuf.mem.getD 1 0 = 0

variable {hs : List Arrival}

theorem inv_request {data : Bytes} (hinv : Inv hs t) (h : t.request data = .ok t')
    : Inv (hs ++ [.request data]) t' := by
  rcases bind_eq_ok h with ⟨readBuf, hwrite, heq⟩
  injection heq with heq
  subst heq
  have hsize := (Buffer.write_ok hwrite).2
  by_cases hlong : HEADER_LEN ≤ data.length
  . have htag : decide (1 < data.length) = true := decide_eq_true hlong
    refine ⟨hsize.trans hinv.size, ?_, ?_⟩
    . have hclean : ¬Clean (hs ++ [.request data]) := clean_snoc_long hlong
      simp [htag, hclean]
    . simp [htag]
  . have htag : decide (1 < data.length) = false := decide_eq_false hlong
    have hclean : Clean (hs ++ [.request data]) ↔ Clean hs := by
      apply clean_snoc_short
      . exact Nat.lt_of_not_le hlong
      . intro frame data' hframe
        contradiction
    refine ⟨hsize.trans hinv.size, ?_, ?_⟩
    . rw [hclean, ← hinv.received]
      simp [htag]
    . dsimp only
      rw [htag, Bool.false_or]
      intro hfalse
      rw [Buffer.getD_write hwrite (.inr (by unfold HEADER_LEN at hlong; omega))]
      exact hinv.zero hfalse

theorem inv_frame {r : Frame × Tagged} {data : Bytes} (hinv : Inv hs t)
    (h : t.recvFrame frame (some data) = .ok r)
    : Inv (hs ++ [.frame frame data]) r.2 := by
  rcases recvFrame_ok hinv.size h with ⟨hsize, htag, hsingle, hnil⟩
  by_cases hlong : HEADER_LEN ≤ data.length
  . have hclean : ¬Clean (hs ++ [.frame frame data]) := clean_snoc_long hlong
    have htrue : r.2.received 1 = true := by
      have hlt : 1 < data.length := hlong
      simp [htag, appended, hlt]
    refine ⟨hsize, ?_, ?_⟩
    . simp [htrue, hclean]
    . simp [htrue]
  . by_cases hone : data.length = 1
    . have hclean : Clean (hs ++ [.frame frame data]) := clean_snoc_single hone
      have hfalse : r.2.received 1 = false := by
        rw [htag, hone]
        rfl
      refine ⟨hsize, ?_, fun _ => hsingle hone⟩
      simp [hfalse, hclean]
    . have hzero : data.length = 0 := by
        unfold HEADER_LEN at hlong
        omega
      have hclean : Clean (hs ++ [.frame frame data]) ↔ Clean hs := by
        apply clean_snoc_short
        . exact Nat.lt_of_not_le hlong
        . intro frame' data' hframe
          injection hframe with _ hdata
          rw [← hdata]
          exact hone
      have hsame : r.2.received 1 = t.received 1 := by
        rw [htag, hzero]
        simp [appended]
      refine ⟨hsize, ?_, ?_⟩
      . rw [hclean, hsame]
        exact hinv.received
      . rw [hsame, hnil hzero]
        exact hinv.zero

theorem inv_of_run (h : run hs = .ok t) : Inv hs t := by
  induction hs using List.reverseRecOn generalizing t with
  | nil =>
    injection h with h
    subst h
    refine ⟨rfl, ?_, fun _ => rfl⟩
    simp [new, clean_nil]
  | append_singleton hs r ih =>
    unfold run at h
    rw [List.foldlM_append] at h
    rcases bind_eq_ok h with ⟨t₁, ht₁, hstep⟩
    have hinv := ih ht₁
    rw [List.foldlM_cons] at hstep
    rcases bind_eq_ok hstep with ⟨t₂, hlast, heq⟩
    injection heq with heq
    subst heq
    cases r with
    | request data => apply inv_request hinv hlast
    | frame frame data =>
      rcases bind_eq_ok hlast with ⟨r, hr, heq⟩
      injection heq with heq
      rw [← heq]
      apply inv_frame hinv hr

theorem recvFrame_closed (hinv : Inv hs t) (hclean : Clean hs)
    : ∃ r, t.recvFrame frame (some []) = .ok r ∧ ¬Stale r := by
  have hfalse := hinv.received.mpr hclean
  have hle : ([] : Bytes).length ≤ t.readBuf.size := Nat.zero_le _
  rcases append_clear t.readBuf hle hinv.size with ⟨b, hb, _, hsize, hterm⟩
  have hone : b.mem.getD 1 0 = 0 := by
    rw [Buffer.getD_append hb Nat.one_pos, Buffer.getD_clear Nat.one_pos, hinv.zero hfalse]
  have hheader : Frame.memHeader b = .ofBytes 0 0 := by
    unfold Frame.memHeader
    rw [hone]
    exact congrArg (FrameHeader.ofBytes · 0) hterm
  have hmem : HEADER_LEN + extOctets (Frame.memHeader b).length ≤ b.mem.length := by
    rw [b.length_mem, hsize, hinv.size, hheader]
    decide
  have hdecode : frame.decode b
    = .ok (⟨.ofBytes 0 0, frame.maskKey, HEADER_LEN, 0, HEADER_LEN⟩, b) := by
    rw [Frame.decode_eq frame (by omega) (Buffer.read_eq_mem hmem), hheader]
    rfl
  have hrecv : t.recvFrame frame (some [])
    = .ok (⟨.ofBytes 0 0, frame.maskKey, HEADER_LEN, 0, HEADER_LEN⟩,
      ⟨b, unmasked (appended t.received 0) ⟨.ofBytes 0 0, frame.maskKey,
        HEADER_LEN, 0, HEADER_LEN⟩⟩) := by
    simp only [recvFrame, Websocket.recvFrame, hb, bind, Except.bind, hdecode]
    rfl
  refine ⟨_, hrecv, ?_⟩
  rintro ⟨i, hi, hreceived⟩
  have hlt : i < 2 := by
    unfold HEADER_LEN at hi
    dsimp only at hi
    omega
  have hmask : ¬(FrameHeader.ofBytes 0 0).mask ≠ 0 := by decide
  rcases Nat.le_one_iff_eq_zero_or_eq_one.mp (Nat.le_of_lt_succ hlt) with rfl | rfl
  . contradiction
  . dsimp only at hreceived
    rw [unmasked_one (fun h => absurd h hmask)] at hreceived
    simp [appended, hfalse] at hreceived

end Tagged

theorem not_contained_error {t : Tagged} {frame : Frame} : ¬Contained t frame .error := by
  rintro ⟨r, hr, _⟩
  rcases bind_eq_ok hr with ⟨r', hr', _⟩
  contradiction

theorem clean_of_contained {hs : List Arrival} {t : Tagged} {frame : Frame} (hinv : Tagged.Inv hs t)
    (h : Contained t frame .closed)
    : Clean hs := by
  rcases h with ⟨r, hr, hstale⟩
  rcases Tagged.recvFrame_ok hinv.size hr with ⟨_, htag, _, _⟩
  rw [← hinv.received]
  cases hreceived : t.received 1 with
  | false => rfl
  | true =>
    exfalso
    apply hstale
    refine ⟨1, .inl (by decide), ?_⟩
    rw [htag]
    simp [Tagged.appended, hreceived]

theorem contained_iff (hs : List Arrival) (t : Tagged) (h : Tagged.run hs = .ok t)
    (frame : Frame) (lost : Lost)
    : Contained t frame lost ↔ lost = .closed ∧ Clean hs := by
  have hinv := Tagged.inv_of_run h
  constructor
  . intro hcontained
    cases lost with
    | error => exact absurd hcontained not_contained_error
    | closed => exact ⟨rfl, clean_of_contained hinv hcontained⟩
  . rintro ⟨rfl, hclean⟩
    apply Tagged.recvFrame_closed hinv hclean

theorem exists_run (hs : List Arrival) (h : (Tagged.run hs).isOk = true)
    : ∃ t, Tagged.run hs = .ok t := by
  cases hrun : Tagged.run hs with
  | error e =>
    rw [hrun] at h
    contradiction
  | ok t => exact ⟨t, rfl⟩

theorem contained_iff_ping
    : ∃ t, Tagged.run ([.request (Buffer.str "GET")] ++ [.frame ⟨.ofBytes 0 0, [], 0, 0, 0⟩ [0x89]])
        = .ok t
        ∧ Contained t ⟨.ofBytes 0 0, [], 0, 0, 0⟩ .closed := by
  rcases exists_run ([.request (Buffer.str "GET")] ++ [.frame ⟨.ofBytes 0 0, [], 0, 0, 0⟩ [0x89]])
    (by decide +kernel) with ⟨t, ht⟩
  exact ⟨t, ht,
    (contained_iff _ t ht ⟨.ofBytes 0 0, [], 0, 0, 0⟩ .closed).mpr ⟨rfl, clean_snoc_single rfl⟩⟩

theorem not_contained_hi
    : ∃ t, Tagged.run ([.request (Buffer.str "GET")]
          ++ [.frame ⟨.ofBytes 0 0, [], 0, 0, 0⟩ [0x81, 0x82, 1, 2, 3, 4, 0x69, 0x6b]]) = .ok t
        ∧ ¬Contained t ⟨.ofBytes 0 0, [], 0, 0, 0⟩ .closed
        ∧ ¬Contained t ⟨.ofBytes 0 0, [], 0, 0, 0⟩ .error := by
  rcases exists_run ([.request (Buffer.str "GET")]
    ++ [.frame ⟨.ofBytes 0 0, [], 0, 0, 0⟩ [0x81, 0x82, 1, 2, 3, 4, 0x69, 0x6b]])
      (by decide +kernel) with ⟨t, ht⟩
  refine ⟨t, ht, ?_, not_contained_error⟩
  intro hcontained
  exact clean_snoc_long (by decide) (clean_of_contained (Tagged.inv_of_run ht) hcontained)

end Websocket
end Fsw
