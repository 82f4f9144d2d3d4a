import Fsw.Http2.Lemmas.Calls
import Fsw.Http2.Lemmas.Recv

namespace Fsw
namespace Http2

open Http (READ_BUF_MAX_SIZE)

variable {lib : Nghttp2} {client client' : Client lib} {tr : List Event}

def isSettingAck (bs : Bytes) : Bool :=
  FRAME_HEADER_SIZE ≤ bs.length && bs.getD 3 0 = FrameType.SETTINGS
    && bs.getD 4 0 &&& FrameFlag.ACK ≠ 0

def Client.acksSent (client : Client lib) : Nat :=
  client.sent.countP isSettingAck

def Event.settled (ack : Bool) : Event → Bool
  | .parsed frame true => decide (frame.flags &&& FrameFlag.ACK ≠ 0) = ack
  | _ => false

theorem isSettingAck_take {type flags : UInt8} {streamId : BitVec 32} {bs : Bytes} {n : Nat}
    : isSettingAck ((frameBytes type flags streamId bs).take n)
        = (FRAME_HEADER_SIZE ≤ n && type = FrameType.SETTINGS && flags &&& FrameFlag.ACK ≠ 0) := by
  by_cases hn : FRAME_HEADER_SIZE ≤ n
  . have htake : (frameBytes type flags streamId bs).take n
        = headerBytes type bs.length flags streamId ++ bs.take (n - FRAME_HEADER_SIZE) := by
      rw [frameBytes, List.take_append, length_headerBytes, List.take_of_length_le]
      . rfl
      . exact hn
    rw [htake, isSettingAck, List.length_append, length_headerBytes]
    simp only [hn, decide_true, Bool.true_and]
    rw [decide_eq_true (show FRAME_HEADER_SIZE ≤ 9 + _ from Nat.le_add_right _ _), Bool.true_and]
    rfl
  . have hlength : ¬FRAME_HEADER_SIZE ≤ ((frameBytes type flags streamId bs).take n).length := by
      rw [List.length_take]
      omega
    simp only [isSettingAck, hlength, hn, decide_false, Bool.false_and]

theorem settingAck_eq {streamId : BitVec 32}
    : Client.settingAck streamId = frameBytes FrameType.SETTINGS FrameFlag.ACK streamId [] := by
  rfl

namespace Client

-- `send_all` gets at most as much through as it has been given.
def Bounded (_ : Client lib) : Call → Prop
  | .parse _ n => n ≤ FRAME_HEADER_SIZE
  | _ => True

theorem call_acksSent {c : Call} {es : List Event} (hbounded : client.Bounded c)
    (h : client.call c = .ok (client', es))
    : client'.acksSent = client.acksSent + es.countP (Event.settled false) + es.countP
        (Event.settled true) := by
  cases Called.of_call h with
  | sendRequest hsend =>
    rcases sendRequest_eq hsend with ⟨deflater, bs, body, _, _, _, _, _, hclient'⟩
    have hheaders : ¬FrameType.HEADERS = FrameType.SETTINGS := by decide
    have hdata : ¬FrameType.DATA = FrameType.SETTINGS := by decide
    rw [hclient']
    simp [acksSent, isSettingAck_take, hheaders, hdata, Event.settled]
  | writeData hwrite =>
    have hdata : ¬FrameType.DATA = FrameType.SETTINGS := by decide
    rw [(writeData_eq hwrite).2.2]
    simp [acksSent, isSettingAck_take, hdata, Event.settled]
  | @parse frame n _ code hparse =>
    have hcount : [Event.parsed frame (client.settles frame n)].countP (Event.settled false)
        + [Event.parsed frame (client.settles frame n)].countP (Event.settled true)
        = if client.settles frame n then 1 else 0 := by
      cases client.settles frame n with
      | false => rfl
      | true =>
        by_cases hack : frame.flags &&& FrameFlag.ACK = 0
        . simp [Event.settled, hack]
        . simp [Event.settled, hack]
    rw [Nat.add_assoc, hcount]
    by_cases htype : frame.type = FrameType.SETTINGS
    . rcases (parseFrame_settings_same hparse htype).2.2 with ⟨hsent, hsettles⟩ | ⟨hsent, hsettles⟩
      . rw [acksSent, hsent, hsettles]
        rfl
      . have hn : n ≤ FRAME_HEADER_SIZE := hbounded
        have hack : ¬FrameFlag.ACK &&& FrameFlag.ACK = 0 := by decide
        have heq : FRAME_HEADER_SIZE ≤ n ↔ n = FRAME_HEADER_SIZE := by omega
        rw [acksSent, hsent, settingAck_eq, List.countP_append, List.countP_singleton,
          isSettingAck_take]
        simp only [heq, hsettles, decide_true, Bool.and_true, decide_eq_true_eq,
          hack, ne_eq, not_false_eq_true]
        rfl
    . have hsettles : client.settles frame n = false := by
        rw [settles, decide_eq_false htype, Bool.false_and]
      rw [acksSent, (parseFrame_same hparse htype).sent, hsettles]
      rfl

section Run

variable {inflater : lib.Inflater} {deflater : lib.Deflater} {connected : Bool} {ns : Nat × Nat}

theorem acksSent_start : (start inflater deflater connected ns).acksSent = 0 := by
  have hpri : isSettingAck (PRI_STRING.take ns.1) = false := by
    by_contra h
    simp only [isSettingAck, Bool.not_eq_false, Bool.and_eq_true, decide_eq_true_eq,
      List.length_take] at h
    have hlt : 3 < ns.1 := by
      have := h.1.1
      unfold FRAME_HEADER_SIZE at this
      omega
    have hbyte : (PRI_STRING.take ns.1).getD 3 0 = PRI_STRING.getD 3 0 := by
      rw [List.getD_eq_getElem?_getD, List.getElem?_take_of_lt hlt]
      rfl
    rw [hbyte] at h
    exact absurd h.1.2 (by decide)
  unfold start connect
  split
  . split
    . next heq =>
      injection heq with heq _
      rw [← heq]
      simp [acksSent, Client.new, hpri]
    . next heq =>
      injection heq with heq _
      rw [← heq]
      unfold buildSettingFrame
      dsimp only
      rw [sendFrame_staged _ _ rfl]
      simp [acksSent, Client.new, hpri, isSettingAck_take]
  . rfl

theorem run_acksSent (hrun : (start inflater deflater connected ns).machine.Run Bounded tr client)
    : client.acksSent = tr.countP (Event.settled false) + tr.countP (Event.settled true) := by
  apply hrun.invariant (I := fun tr client =>
    client.acksSent = tr.countP (Event.settled false) + tr.countP (Event.settled true))
  . exact acksSent_start
  . intro tr client₁ c client₂ es _ ih hbounded hstep
    rw [call_acksSent hbounded hstep, ih, List.countP_append, List.countP_append]
    omega

theorem acksSent_iff (hrun : (start inflater deflater connected ns).machine.Run Bounded tr client)
    : client.acksSent = tr.countP (Event.settled false)
        ↔ ∀ frame, .parsed frame true ∈ tr → frame.flags &&& FrameFlag.ACK = 0 := by
  have hzero : client.acksSent = tr.countP (Event.settled false)
    ↔ tr.countP (Event.settled true) = 0 := by
    rw [run_acksSent hrun]
    omega
  rw [hzero, List.countP_eq_zero]
  constructor
  . intro h frame hmem
    have := h _ hmem
    simpa [Event.settled] using this
  . intro h event hmem
    match event with
    | .parsed frame true => simp [Event.settled, h frame hmem]
    | .parsed frame false => simp [Event.settled]
    | .requested _ _ _ => simp [Event.settled]
    | .written _ _ => simp [Event.settled]

end Run

section Receive

def receive (client : Client lib) (bs : Bytes) : Except Trap (Client lib) := do
  let (client, _, frame) ← client.recvFrame bs (FRAME_HEADER_SIZE, bs.length)
  let (client, _) ← client.parseFrame frame FRAME_HEADER_SIZE
  return client

theorem parseSettingFrame_some {frame : Frame} {value : BitVec 32}
    (h : parseSettings client frame.payload 0 ((frame.payloadLength + 5) / 6)
      = .ok (client', some value))
    : client.parseSettingFrame frame FRAME_HEADER_SIZE
        = .ok ({ client' with sent := client'.sent ++ [settingAck frame.streamId] },
          some value) := by
  simp only [parseSettingFrame, h, bind, Except.bind]
  rfl

theorem receive_settings (hlib : ∀ deflater size, (lib.deflateChangeTableSize deflater size).isSome)
    (hsize : client.readBuf.size = READ_BUF_MAX_SIZE) (f : ServerFrame)
    (htype : f.type = FrameType.SETTINGS) (hdvd : 6 ∣ f.payload.length)
    : ∃ client', client.receive f.bytes = .ok client' ∧ client'.readBuf.size = READ_BUF_MAX_SIZE
        ∧ client'.sent = client.sent ++ [settingAck f.streamId] := by
  have hle : f.payload.length ≤ f.bytes.length := by
    rw [f.bytes_eq, List.length_append]
    omega
  rcases recvFrame_whole f (FRAME_HEADER_SIZE, f.bytes.length) hsize (Nat.le_refl _) hle
    with ⟨client₁, frame, hsize₁, hyields, hrecv⟩
  have hrecv := hrecv []
  rw [List.append_nil] at hrecv
  rcases recvFrame_ok hrecv with ⟨_, readBuf, _, _, hclient₁, _⟩
  have hmem : 6 * ((frame.payloadLength + 5) / 6) ≤ frame.payload.length := by
    have hread := hyields.payload
    unfold Bytes.read? at hread
    split at hread
    . have := hyields.payloadLength
      omega
    . contradiction
  rcases parseSettings_ok client₁.noted 0 hmem with ⟨⟨client₂, ret⟩, hsettings, hsome⟩
  rcases Option.isSome_iff_exists.mp (hsome hlib) with ⟨value, hvalue⟩
  dsimp only at hvalue
  subst hvalue
  rcases parseSettings_eq hsettings with ⟨settings, deflater, hclient₂⟩
  have hparse := parseSettingFrame_some hsettings
  refine ⟨{ client₂ with sent := client₂.sent ++ [settingAck frame.streamId] }, ?_, ?_, ?_⟩
  . rw [receive, hrecv]
    simp only [bind, Except.bind]
    rw [parseFrame_settings frame (hyields.type.trans htype), hparse]
    rfl
  . rcases client₁.noted_eq with ⟨lastStreamId, hnoted⟩
    rw [hclient₂, hnoted]
    exact hsize₁
  . rw [hclient₂, hyields.streamId, noted_same.sent, hclient₁]

end Receive

end Client

/--
Two clients that are connected with each other. Frames that have been sent are in flight to one of
them, and arrive in any order.
-/
structure Exchange (lib : Nghttp2) where
  clients : Bool → Client lib
  inflight : List (Bool × Bytes)

namespace Exchange

variable {s s' : Exchange lib} {k : Nat}

-- A frame arrives, and what is sent thereupon gets in flight to the other one.
def deliver (s : Exchange lib) (k : Nat) : Except (Option Trap) (Exchange lib × List Bytes) :=
  match s.inflight[k]? with
  | none => .error none
  | some (side, bs) =>
    match (s.clients side).receive bs with
    | .error e => .error (some e)
    | .ok client =>
      let answers := client.sent.drop (s.clients side).sent.length
      .ok ({ clients := Function.update s.clients side client
             inflight := s.inflight.eraseIdx k ++ answers.map fun bs => (!side, bs) }, [bs])

def machine (s : Exchange lib) : Machine (Exchange lib) Nat Bytes (Option Trap) where
  init := s
  step := deliver

structure WellFormed (s : Exchange lib) : Prop where
  size : ∀ side, (s.clients side).readBuf.size = READ_BUF_MAX_SIZE
  settings : ∀ x ∈ s.inflight, ∃ f : ServerFrame, x.2 = f.bytes ∧ f.type = FrameType.SETTINGS
    ∧ 6 ∣ f.payload.length

def Finite (s : Exchange lib) : Prop :=
  ∃ n, ∀ tr s', s.machine.Run (fun _ _ => True) tr s' → tr.length ≤ n

theorem WellFormed.deliver
    (hlib : ∀ deflater size, (lib.deflateChangeTableSize deflater size).isSome) (h : s.WellFormed)
    (hk : k < s.inflight.length)
    : ∃ s' bs, s.deliver k = .ok (s', [bs]) ∧ s'.WellFormed
        ∧ s'.inflight.length = s.inflight.length := by
  rcases hx : s.inflight[k] with ⟨side, bs⟩
  have hget : s.inflight[k]? = some (side, bs) := by
    rw [List.getElem?_eq_getElem hk, hx]
  rcases h.settings (side, bs) (List.mem_of_getElem? hget) with ⟨f, hbs, htype, hdvd⟩
  dsimp only at hbs
  subst hbs
  rcases Client.receive_settings hlib (h.size side) f htype hdvd with
    ⟨client, hreceive, hsize, hsent⟩
  let ack : ServerFrame :=
    ⟨FrameType.SETTINGS, FrameFlag.ACK, f.streamId, [], f.streamId_lt, by decide⟩
  have hanswers : client.sent.drop (s.clients side).sent.length = [ack.bytes] := by
    rw [hsent, List.drop_left, settingAck_eq, ack.bytes_eq]
    rfl
  refine ⟨⟨Function.update s.clients side client, s.inflight.eraseIdx k ++ [(!side, ack.bytes)]⟩,
    f.bytes, ?_, ?_, ?_⟩
  . simp only [Exchange.deliver, hget, hreceive, hanswers, List.map_cons, List.map_nil]
  . constructor
    . intro side'
      dsimp only
      rw [Function.update_apply]
      split
      . exact hsize
      . exact h.size side'
    . intro x hx
      rcases List.mem_append.mp hx with hx | hx
      . exact h.settings x (List.mem_of_mem_eraseIdx hx)
      . rw [List.mem_singleton.mp hx]
        exact ⟨ack, rfl, rfl, Nat.dvd_zero _⟩
  . rw [List.length_append, List.length_eraseIdx_of_lt hk, List.length_singleton]
    omega

theorem WellFormed.run (hlib : ∀ deflater size, (lib.deflateChangeTableSize deflater size).isSome)
    (h : s.WellFormed) (hpos : 0 < s.inflight.length) (n : Nat)
    : ∃ tr s', s.machine.Run (fun _ _ => True) tr s' ∧ tr.length = n ∧ s'.WellFormed
        ∧ s'.inflight.length = s.inflight.length := by
  induction n with
  | zero => exact ⟨[], s, .init, rfl, h, rfl⟩
  | succ n ih =>
    rcases ih with ⟨tr, s₁, hrun, htr, h₁, hlength⟩
    rcases h₁.deliver hlib (k := 0) (by omega) with ⟨s₂, bs, hdeliver, h₂, hlength₂⟩
    refine ⟨tr ++ [bs], s₂, .step hrun trivial hdeliver, ?_, h₂, hlength₂.trans hlength⟩
    rw [List.length_append, htr]
    rfl

theorem finite_iff (hlib : ∀ deflater size, (lib.deflateChangeTableSize deflater size).isSome)
    (h : s.WellFormed)
    : s.Finite ↔ s.inflight = [] := by
  constructor
  . intro hfinite
    rcases hfinite with ⟨n, hn⟩
    by_contra hne
    rcases h.run hlib (List.length_pos_of_ne_nil hne) (n + 1) with ⟨tr, s', hrun, htr, _, _⟩
    have := hn tr s' hrun
    omega
  . intro hnil
    refine ⟨0, ?_⟩
    intro tr s' hrun
    have hstuck : tr = [] ∧ s'.inflight = [] := by
      apply hrun.invariant (I := fun tr s' => tr = [] ∧ s'.inflight = [])
      . exact ⟨rfl, hnil⟩
      . intro tr s₁ k s₂ es _ ih _ hstep
        have hnone : s₁.deliver k = .error none := by
          rw [Exchange.deliver, ih.2]
          rfl
        rw [show s.machine.step s₁ k = s₁.deliver k from rfl, hnone] at hstep
        contradiction
    rw [hstuck.1]
    apply Nat.le_refl

end Exchange

/--
As many acknowledgements are sent as there have been settings if and only if no acknowledgement has
been received, and two clients stop sending `SETTINGS` frames to each other if and only if they
never start.
-/
theorem settings_acknowledged_iff
    (hlib : ∀ deflater size, (lib.deflateChangeTableSize deflater size).isSome)
    : (∀ inflater deflater connected ns tr (client : Client lib),
        (Client.start inflater deflater connected ns).machine.Run Client.Bounded tr client →
        (client.acksSent = tr.countP (Event.settled false)
          ↔ ∀ frame, .parsed frame true ∈ tr → frame.flags &&& FrameFlag.ACK = 0))
      ∧ ∀ s : Exchange lib, s.WellFormed → (s.Finite ↔ s.inflight = []) := by
  constructor
  . intro inflater deflater connected ns tr client hrun
    exact Client.acksSent_iff hrun
  . intro s h
    exact Exchange.finite_iff hlib h

def emptySettings (flags : UInt8) : Frame :=
  ⟨[], 0, FrameType.SETTINGS, flags, 0, none⟩

theorem emptySettings_run (flags : UInt8)
    : ∃ client, literalStart.machine.Run Client.Bounded [.parsed (emptySettings flags) true]
        client := by
  let client := { literalStart.noted with sent := literalStart.noted.sent ++ [Client.settingAck 0] }
  have hparse : literalStart.noted.parseSettingFrame (literalStart.found (emptySettings flags)) 9
      = .ok (client, some 0) := by
    apply Client.parseSettingFrame_some
    rw [show (literalStart.found (emptySettings flags)).payloadLength = 0 from rfl]
    rfl
  have hframe : literalStart.parseFrame (literalStart.found (emptySettings flags)) 9
    = .ok (client, .fswContinue) := by
    rw [Client.parseFrame_settings _ rfl, hparse]
    rfl
  have hsettles : literalStart.settles (emptySettings flags) 9 = true := by
    rw [Client.settles, hparse]
    rfl
  have hcall : literalStart.call (.parse (emptySettings flags) 9)
      = .ok (client, [.parsed (emptySettings flags) true]) := by
    rw [Client.call, hframe, hsettles]
    rfl
  exact ⟨client, .step (c := Call.parse (emptySettings flags) 9) .init (Nat.le_refl _) hcall⟩

theorem settings_acknowledged_iff_literal
    : (∃ client, literalStart.machine.Run Client.Bounded [.parsed (emptySettings 0) true] client
        ∧ client.acksSent = 1)
      ∧ ¬(⟨fun _ => literalStart, [(true, ServerFrame.emptySettings.bytes)]⟩ : Exchange
        literalLib).Finite := by
  rcases @settings_acknowledged_iff literalLib (fun _ _ => rfl) with ⟨hacks, hfinite⟩
  constructor
  . rcases emptySettings_run 0 with ⟨client, hrun⟩
    refine ⟨client, hrun, (hacks _ _ _ _ _ _ hrun).mpr ?_⟩
    intro frame hmem
    rw [List.mem_singleton] at hmem
    injection hmem with hframe _
    rw [hframe]
    decide
  . rw [hfinite]
    . simp
    . refine ⟨fun _ => rfl, ?_⟩
      intro x hx
      rw [List.mem_singleton.mp hx]
      exact ⟨.emptySettings, rfl, rfl, Nat.dvd_zero _⟩

theorem ack_answered
    : ∃ client, literalStart.machine.Run Client.Bounded [.parsed (emptySettings FrameFlag.ACK) true]
        client
        ∧ client.acksSent = 1
        ∧ [Event.parsed (emptySettings FrameFlag.ACK) true].countP (Event.settled false) = 0 := by
  rcases emptySettings_run FrameFlag.ACK with ⟨client, hrun⟩
  refine ⟨client, hrun, ?_, rfl⟩
  rw [Client.run_acksSent hrun]
  rfl

end Http2
end Fsw
