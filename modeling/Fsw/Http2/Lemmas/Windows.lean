import Fsw.Http2.Lemmas.Terminate

namespace Fsw
namespace Http2

open Http (READ_BUF_MAX_SIZE)

variable {lib : Nghttp2} {client client' : Client lib} {id : BitVec 32} {tr : List Event} {n : Nat}

def Event.dataLength : Event → Nat
  | .parsed frame _ => frame.dataLength
  | _ => 0

def Event.dataLengthOn (id : BitVec 32) : Event → Nat
  | .parsed frame _ => if id = frame.streamId then frame.dataLength else 0
  | _ => 0

def receivedOf (tr : List Event) : Nat :=
  tr.foldr (fun e n => e.dataLength + n) 0

def receivedOn (id : BitVec 32) (tr : List Event) : Nat :=
  tr.foldr (fun e n => e.dataLengthOn id + n) 0

theorem receivedOf_append {es : List Event}
    : receivedOf (tr ++ es) = receivedOf tr + receivedOf es := by
  induction tr with
  | nil => exact (Nat.zero_add _).symm
  | cons e tr ih =>
    change e.dataLength + receivedOf (tr ++ es) = e.dataLength + receivedOf tr + receivedOf es
    rw [ih, Nat.add_assoc]

theorem receivedOn_append {es : List Event}
    : receivedOn id (tr ++ es) = receivedOn id tr + receivedOn id es := by
  induction tr with
  | nil => exact (Nat.zero_add _).symm
  | cons e tr ih =>
    change e.dataLengthOn id + receivedOn id (tr ++ es)
      = e.dataLengthOn id + receivedOn id tr + receivedOn id es
    rw [ih, Nat.add_assoc]

theorem receivedOn_le : receivedOn id tr ≤ receivedOf tr := by
  induction tr with
  | nil => exact Nat.le_refl _
  | cons e tr ih =>
    have he : e.dataLengthOn id ≤ e.dataLength := by
      unfold Event.dataLengthOn Event.dataLength
      split
      . split
        . exact Nat.le_refl _
        . exact Nat.zero_le _
      . exact Nat.zero_le _
    change e.dataLengthOn id + receivedOn id tr ≤ e.dataLength + receivedOf tr
    omega

namespace Client

/--
The windows are what is left of the first ones, as numbers that cannot be negative.
-/
structure Accounted (client : Client lib) (tr : List Event) : Prop where
  connection : client.localSettings.windowSize.toNat + receivedOf tr = DEFAULT_WINDOW_SIZE.toNat
  stream : ∀ id stream, client.getStream id = some stream →
    stream.localWindowSize.toNat + receivedOn id tr = DEFAULT_WINDOW_SIZE.toNat

structure Debited (client : Client lib) (tr : List Event) : Prop where
  connection : client.localSettings.windowSize
    = DEFAULT_WINDOW_SIZE - BitVec.ofNat 32 (receivedOf tr)
  known : ∀ id stream, client.getStream id = some stream →
    stream.localWindowSize = DEFAULT_WINDOW_SIZE - BitVec.ofNat 32 (receivedOn id tr)
  unknown : ∀ id, client.getStream id = none → receivedOn id tr = 0

theorem dataLength_of_unknown {frame : Frame} {code : ReturnCode}
    (h : client.parseFrame (client.found frame) n = .ok (client', code))
    (hnone : client.getStream frame.streamId = none)
    : frame.dataLength = 0 := by
  unfold Frame.dataLength
  split
  . next hdata =>
    have hdata : (client.found frame).type = FrameType.DATA := hdata
    rw [parseFrame_data_streamless (found_unknown hnone) hdata] at h
    contradiction
  . rfl

theorem Debited.parse {frame : Frame} {code : ReturnCode} {settled : Bool} (h : client.Debited tr)
    (hparse : client.parseFrame (client.found frame) n = .ok (client', code))
    : client'.Debited (tr ++ [.parsed frame settled]) := by
  have hreceived := parseFrame_received hparse
  refine ⟨?_, ?_, ?_⟩
  . rw [hreceived.windowSize, h.connection, receivedOf_append, BitVec.ofNat_add, BitVec.sub_sub]
    rfl
  . intro id stream' hstream'
    rcases hreceived.of_known hstream' with ⟨stream, hstream, hdebited⟩
    rw [hdebited.localWindowSize, h.known id stream hstream, receivedOn_append,
      BitVec.ofNat_add, BitVec.sub_sub]
    rfl
  . intro id hnone'
    have hnone : client.getStream id = none := by
      rw [← Option.not_isSome_iff_eq_none, hreceived.isSome_eq, Option.not_isSome_iff_eq_none]
        at hnone'
      exact hnone'
    rw [receivedOn_append, h.unknown id hnone, Nat.zero_add]
    change (if id = frame.streamId then frame.dataLength else 0) + 0 = 0
    split
    . next hid =>
      rw [hid] at hnone
      rw [dataLength_of_unknown hparse hnone]
    . rfl

theorem Debited.sendRequest {u : Uninit} {req : Request} {ns : Nat × Nat} {streamId : BitVec 32}
    (h : client.Debited tr) (hsend : client.sendRequest u req ns = .ok (client', streamId))
    : client'.Debited (tr ++ [.requested streamId u req.pipeline]) := by
  rcases sendRequest_eq hsend with ⟨_, _, _, _, _, _, _, _, hclient'⟩
  have hon (id : BitVec 32) : receivedOn id (tr ++ [.requested streamId u req.pipeline])
    = receivedOn id tr := by
    rw [receivedOn_append]
    rfl
  refine ⟨?_, ?_, ?_⟩
  . rw [receivedOf_append, hclient']
    exact h.connection
  . intro id stream hstream
    rw [hon]
    rcases sendRequest_cases hsend hstream with hold | ⟨hid, hnone, hnew⟩
    . exact h.known id stream hold
    . rw [hnew, hid, h.unknown _ hnone]
      rfl
  . intro id hnone
    rw [sendRequest_getStream hsend, getStream_emplace] at hnone
    rw [hon]
    split at hnone
    . rw [Option.or_eq_none_iff] at hnone
      cases hnone.2
    . exact h.unknown id hnone

theorem Debited.call {c : Call} {es : List Event} (h : client.Debited tr)
    (hcall : client.call c = .ok (client', es))
    : client'.Debited (tr ++ es) := by
  cases Called.of_call hcall with
  | sendRequest hsend => exact h.sendRequest hsend
  | @writeData streamId data endStream n _ hwrite =>
    rcases writeData_eq hwrite with ⟨_, _, hclient'⟩
    have hon (id : BitVec 32) : receivedOn id (tr ++ [.written streamId endStream])
      = receivedOn id tr := by
      rw [receivedOn_append]
      rfl
    refine ⟨?_, ?_, ?_⟩
    . rw [receivedOf_append, hclient']
      exact h.connection
    . intro id stream hstream
      rw [hclient'] at hstream
      rw [hon]
      exact h.known id stream hstream
    . intro id hnone
      rw [hclient'] at hnone
      rw [hon]
      exact h.unknown id hnone
  | parse hparse => exact h.parse hparse

theorem toNat_window {m : Nat} (h : m ≤ DEFAULT_WINDOW_SIZE.toNat)
    : (DEFAULT_WINDOW_SIZE - BitVec.ofNat 32 m).toNat + m = DEFAULT_WINDOW_SIZE.toNat := by
  have hsize : DEFAULT_WINDOW_SIZE.toNat = 65535 := rfl
  rw [BitVec.toNat_sub, BitVec.toNat_ofNat]
  omega

section Run

variable {inflater : lib.Inflater} {deflater : lib.Deflater} {connected : Bool} {ns : Nat × Nat}
  {P : Client lib → Call → Prop}

theorem run_debited (hrun : (start inflater deflater connected ns).machine.Run P tr client)
    : client.Debited tr := by
  apply Machine.Run.invariant (I := fun tr client => client.Debited tr) _ _ hrun
  . rcases @start_eq lib inflater deflater connected ns with ⟨sent, hstart⟩
    refine ⟨?_, ?_, fun _ _ => rfl⟩
    . change (start inflater deflater connected ns).localSettings.windowSize = _
      rw [hstart]
      rfl
    . intro id stream hstream
      change (start inflater deflater connected ns).getStream id = _ at hstream
      rw [getStream_start] at hstream
      contradiction
  . intro tr client c client' es _ h _ hcall
    exact h.call hcall

theorem accounted_iff
    (hrun : (start inflater deflater connected ns).machine.Run (fun _ _ => True) tr client)
    : client.Accounted tr ↔ receivedOf tr ≤ DEFAULT_WINDOW_SIZE.toNat := by
  have hdebited := run_debited hrun
  constructor
  . intro h
    have := h.connection
    omega
  . intro h
    refine ⟨?_, ?_⟩
    . rw [hdebited.connection]
      exact toNat_window h
    . intro id stream hstream
      rw [hdebited.known id stream hstream]
      exact toNat_window (Nat.le_trans receivedOn_le h)

end Run

-- As much as gets into the read buffer
def fullFrame : Frame :=
  dataFrame 1 FrameFlag.END_STREAM (List.replicate 1015 0)

theorem dataLength_fullFrame : fullFrame.dataLength = 1015 := by
  unfold fullFrame dataFrame Frame.dataLength
  rw [if_pos rfl, List.length_replicate]

theorem parse_fullFrame {stream : Stream} (hstream : client.getStream 1 = some stream)
    (hroomy : stream.Roomy) (hempty : stream.accumulated = [])
    : ∃ client' stream', client.parseFrame (client.found fullFrame) 0 = .ok (client', .fswReady)
        ∧ client'.getStream 1 = some stream' ∧ stream'.Roomy ∧ stream'.accumulated = [] := by
  have hlength : fullFrame.payload.length = 1015 := List.length_replicate
  have hle : stream.accumulated.length + fullFrame.payloadLength ≤ READ_BUF_MAX_SIZE := by
    rw [hempty, show fullFrame.payloadLength = 1015 from hlength]
    decide
  rcases parseFrame_data_ok fullFrame hstream rfl hroomy (Nat.le_refl _) hle with
    ⟨client₁, stream₁, hroomy₁, hparse⟩
  rw [if_pos (show fullFrame.flags &&& FrameFlag.END_STREAM ≠ 0 by decide)] at hparse
  refine ⟨_, stream₁.ended, hparse, ?_, hroomy₁.ended, Stream.ended_accumulated⟩
  rw [getStream_setStream, if_pos (show 1 = fullFrame.streamId from rfl)]

theorem exists_run_full (n : Nat)
    : ∃ tr client stream, literalStart.machine.Run (fun _ _ => True) tr client
        ∧ receivedOf tr = 1015 * n
        ∧ client.getStream 1 = some stream ∧ stream.Roomy ∧ stream.accumulated = [] := by
  induction n with
  | zero =>
    rcases getRequest_run .zero with ⟨client, hrun, hstream⟩
    refine ⟨_, client, _, hrun, rfl, hstream, ?_, rfl⟩
    intro b hb
    contradiction
  | succ n ih =>
    rcases ih with ⟨tr, client, stream, hrun, hreceived, hstream, hroomy, hempty⟩
    rcases parse_fullFrame hstream hroomy hempty with
      ⟨client', stream', hparse, hstream', hroomy', hempty'⟩
    have hcall : client.call (.parse fullFrame 0)
        = .ok (client', [.parsed fullFrame (client.settles fullFrame 0)]) := by
      unfold call
      simp only [hparse, bind, Except.bind]
      rfl
    refine ⟨_, client', stream', .step (c := Call.parse fullFrame 0) hrun trivial hcall,
      ?_, hstream', hroomy', hempty'⟩
    rw [receivedOf_append, hreceived]
    change 1015 * n + (fullFrame.dataLength + 0) = _
    rw [dataLength_fullFrame]
    omega

theorem accounted_once
    : ∃ tr client, literalStart.machine.Run (fun _ _ => True) tr client ∧ receivedOf tr = 1015
        ∧ client.Accounted tr := by
  rcases exists_run_full 1 with ⟨tr, client, _, hrun, hreceived, _⟩
  refine ⟨tr, client, hrun, hreceived, (accounted_iff hrun).mpr ?_⟩
  rw [hreceived]
  decide

-- 65 frames have 440 bytes more than there were in the first window.
theorem accounted_wraps
    : ∃ tr client, literalStart.machine.Run (fun _ _ => True) tr client ∧ receivedOf tr = 65975
        ∧ client.localSettings.windowSize.toNat = 2 ^ 32 - 440 ∧ ¬client.Accounted tr := by
  rcases exists_run_full 65 with ⟨tr, client, _, hrun, hreceived, _⟩
  have hwindow := (run_debited hrun).connection
  rw [hreceived] at hwindow
  refine ⟨tr, client, hrun, hreceived, ?_, ?_⟩
  . rw [hwindow]
    decide
  . intro h
    have hconnection := h.connection
    rw [hreceived] at hconnection
    have hsize : DEFAULT_WINDOW_SIZE.toNat = 65535 := rfl
    omega

end Client
end Http2
end Fsw
