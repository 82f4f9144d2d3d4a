import Fsw.Http2.Lemmas.Unknown

namespace Fsw
namespace Http2

open Http (READ_BUF_MAX_SIZE)

variable {lib : Nghttp2} {client client' : Client lib} {frame : Frame} {n : Nat} {code : ReturnCode}

namespace Stream

variable {stream stream' stream'' : Stream}

structure Received (stream stream' : Stream) (n : Nat) : Prop where
  streamId : stream'.streamId = stream.streamId
  roomy : stream.Roomy → stream'.Roomy
  localWindowSize : stream'.localWindowSize = stream.localWindowSize - BitVec.ofNat 32 n

theorem Received.refl : stream.Received stream 0 :=
  ⟨rfl, id, (BitVec.sub_zero _).symm⟩

theorem Received.trans {m : Nat} (h : stream.Received stream' n) (h' : stream'.Received stream'' m)
    : stream.Received stream'' (n + m) := by
  refine ⟨h'.streamId.trans h.streamId, fun hroomy => h'.roomy (h.roomy hroomy), ?_⟩
  rw [h'.localWindowSize, h.localWindowSize, BitVec.sub_sub, BitVec.ofNat_add]

theorem ended_eq (stream : Stream)
    : ∃ body buffer, stream.ended = { stream with response.body := body, buffer := buffer } := by
  unfold ended
  split
  . exact ⟨_, _, rfl⟩
  . split
    . exact ⟨_, _, rfl⟩
    . exact ⟨_, _, rfl⟩

theorem received_ended : stream.Received stream.ended 0 := by
  rcases stream.ended_eq with ⟨body, buffer, hended⟩
  refine ⟨?_, Roomy.ended, ?_⟩
  . rw [hended]
  . rw [BitVec.sub_zero, hended]

end Stream

def Frame.dataLength (frame : Frame) : Nat :=
  if frame.type = FrameType.DATA then frame.payloadLength else 0

namespace Client

/--
The windows of the connection and of the stream `id` are `n` smaller. No stream has been opened or
closed.
-/
structure Received (client client' : Client lib) (id : BitVec 32) (n : Nat) : Prop where
  windowSize : client'.localSettings.windowSize
    = client.localSettings.windowSize - BitVec.ofNat 32 n
  unknown : ∀ id', client.getStream id' = none → client'.getStream id' = none
  known : ∀ id' stream, client.getStream id' = some stream →
    ∃ stream', client'.getStream id' = some stream'
      ∧ stream.Received stream' (if id' = id then n else 0)

theorem Received.of_eq {id : BitVec 32} (hsettings : client'.localSettings = client.localSettings)
    (hstreams : client'.streams = client.streams) : client.Received client' id 0 := by
  refine ⟨?_, fun id' h => ?_, fun id' stream h => ⟨stream, ?_, ?_⟩⟩
  . rw [hsettings, BitVec.sub_zero]
  . rw [getStream, hstreams]
    exact h
  . rw [getStream, hstreams]
    exact h
  . rw [ite_self]
    exact .refl

theorem Received.trans {client'' : Client lib} {id : BitVec 32} {m : Nat}
    (h : client.Received client' id n) (h' : client'.Received client'' id m)
    : client.Received client'' id (n + m) := by
  refine ⟨?_, fun id' hnone => h'.unknown id' (h.unknown id' hnone), ?_⟩
  . rw [h'.windowSize, h.windowSize, BitVec.sub_sub, BitVec.ofNat_add]
  . intro id' stream hstream
    rcases h.known id' stream hstream with ⟨stream', hstream', hreceived⟩
    rcases h'.known id' stream' hstream' with ⟨stream'', hstream'', hreceived'⟩
    refine ⟨stream'', hstream'', ?_⟩
    have hboth := hreceived.trans hreceived'
    by_cases hid : id' = id
    . rw [if_pos hid, if_pos hid] at hboth
      rw [if_pos hid]
      exact hboth
    . rw [if_neg hid, if_neg hid] at hboth
      rw [if_neg hid]
      exact hboth

theorem Received.setStream {id : BitVec 32} {stream stream' : Stream}
    (hwindow : client'.localSettings.windowSize
      = client.localSettings.windowSize - BitVec.ofNat 32 n)
    (hstreams : client'.streams = client.streams) (hstream : client.getStream id = some stream)
    (h : stream.Received stream' n) : client.Received (client'.setStream id stream') id n := by
  have hsame (id' : BitVec 32) : client'.getStream id' = client.getStream id' :=
    congrFun hstreams id'
  refine ⟨hwindow, ?_, ?_⟩
  . intro id' hnone
    have hne : id' ≠ id := by
      intro hid
      rw [hid, hstream] at hnone
      contradiction
    rw [getStream_setStream, if_neg hne, hsame, hnone]
  . intro id' stream₁ hstream₁
    rw [getStream_setStream]
    by_cases hid : id' = id
    . rw [if_pos hid, if_pos hid]
      rw [hid, hstream] at hstream₁
      injection hstream₁ with hstream₁
      rw [← hstream₁]
      exact ⟨stream', rfl, h⟩
    . rw [if_neg hid, if_neg hid, hsame]
      exact ⟨stream₁, hstream₁, .refl⟩

theorem Received.of_known {id p : BitVec 32} {stream' : Stream} (h : client.Received client' p n)
    (hstream' : client'.getStream id = some stream')
    : ∃ stream, client.getStream id = some stream
        ∧ stream.Received stream' (if id = p then n else 0) := by
  cases hstream : client.getStream id with
  | none =>
    rw [h.unknown id hstream] at hstream'
    contradiction
  | some stream =>
    rcases h.known id stream hstream with ⟨stream'', hstream'', hreceived⟩
    rw [hstream'] at hstream''
    injection hstream'' with heq
    subst heq
    exact ⟨stream, rfl, hreceived⟩

theorem Received.isSome_eq {p : BitVec 32} (h : client.Received client' p n) (id : BitVec 32)
    : (client'.getStream id).isSome = (client.getStream id).isSome := by
  cases hstream : client.getStream id with
  | none => rw [h.unknown id hstream]
  | some stream =>
    rcases h.known id stream hstream with ⟨stream', hstream', _⟩
    rw [hstream']
    rfl

theorem getStream_emplace {id id' : BitVec 32} {stream : Stream}
    : (client.emplace id stream).getStream id'
        = if id' = id then (client.getStream id).or (some stream) else client.getStream id' := by
  unfold emplace
  cases hget : client.getStream id with
  | none =>
    rw [if_neg (by simp), getStream_setStream, Option.none_or]
  | some stream₁ =>
    rw [Option.isSome_some, if_pos rfl, Option.some_or]
    split
    . next hid => rw [hid, hget]
    . rfl

theorem emplace_cases {id id' : BitVec 32} {stream stream' : Stream}
    (h : (client.emplace id stream).getStream id' = some stream')
    : client.getStream id' = some stream' ∨ id' = id ∧ client.getStream id = none
        ∧ stream' = stream := by
  rw [getStream_emplace] at h
  split at h
  . next hid =>
    cases hget : client.getStream id with
    | none =>
      rw [hget, Option.none_or] at h
      injection h with h
      exact .inr ⟨hid, rfl, h.symm⟩
    | some stream₁ =>
      rw [hget, Option.some_or] at h
      rw [hid, hget]
      exact .inl h
  . exact .inl h

theorem endFrame_cases (hrst : frame.type ≠ FrameType.RST_STREAM)
    (hgoaway : frame.type ≠ FrameType.GOAWAY) (h : client.endFrame frame = .ok (client', code))
    : client' = client ∧ code = .fswContinue
        ∨ code = .fswReady ∧ ∃ p stream, frame.stream = some p ∧ client.getStream p = some stream
            ∧ client' = client.setStream p stream.ended := by
  cases hp : frame.stream with
  | none =>
    rw [endFrame_streamless hp hrst hgoaway] at h
    split at h
    . contradiction
    . rcases ok_pair h with ⟨hclient, hcode⟩
      exact .inl ⟨hclient.symm, hcode.symm⟩
  | some p =>
    cases hstream : client.getStream p with
    | none =>
      unfold endFrame at h
      simp only [hp, Option.bind_some, hstream] at h
      split at h
      . contradiction
      . rcases ok_pair h with ⟨hclient, hcode⟩
        exact .inl ⟨hclient.symm, hcode.symm⟩
    | some stream =>
      rw [endFrame_eq client frame hrst hgoaway hp hstream] at h
      split at h
      . rcases ok_pair h with ⟨hclient, hcode⟩
        exact .inr ⟨hcode.symm, p, stream, rfl, hstream, hclient.symm⟩
      . rcases ok_pair h with ⟨hclient, hcode⟩
        exact .inl ⟨hclient.symm, hcode.symm⟩

theorem parsePayload_cases (h : client.parsePayload frame = .ok client')
    : client' = client ∧ frame.payloadLength = 0
        ∨ ∃ p stream stream', frame.stream = some p ∧ client.getStream p = some stream
            ∧ stream.Received stream' frame.payloadLength ∧ stream'.response = stream.response
            ∧ client' = { client with
                localSettings.windowSize :=
                  client.localSettings.windowSize - BitVec.ofNat 32 frame.payloadLength
                }.setStream p stream' := by
  unfold parsePayload at h
  split at h
  . next p stream hp hbind =>
    have hstream : client.getStream p = some stream := by
      rw [← hbind, hp]
      rfl
    right
    have hflags : ∃ stream₁ : Stream,
        (if frame.flags &&& FrameFlag.END_STREAM = 0 then
          { stream with flags := stream.flags ||| StreamFlag.PIPELINE_RESPONSE }
        else
          stream) = stream₁
        ∧ stream.Received stream₁ 0 ∧ stream₁.response = stream.response := by
      split
      . exact ⟨_, rfl, ⟨rfl, id, (BitVec.sub_zero _).symm⟩, rfl⟩
      . exact ⟨_, rfl, .refl, rfl⟩
    rcases hflags with ⟨stream₁, hstream₁, hreceived, hresponse⟩
    rw [hstream₁] at h
    split at h
    . split at h
      . contradiction
      . rcases bind_eq_ok h with ⟨buffer, happend, h⟩
        injection h with h
        let stream₂ : Stream := { stream₁ with
          buffer := some buffer
          localWindowSize := stream₁.localWindowSize - BitVec.ofNat 32 frame.payloadLength }
        refine ⟨p, stream, stream₂, hp, hstream, ⟨hreceived.streamId, ?_, ?_⟩, hresponse, h.symm⟩
        . intro hroomy b hb
          injection hb with hb
          rw [← hb, (Buffer.append_ok happend).2.2.1]
          cases hbuffer : stream₁.buffer with
          | none => rfl
          | some b₁ => exact hreceived.roomy hroomy b₁ hbuffer
        . rw [show stream₂.localWindowSize = stream₁.localWindowSize - BitVec.ofNat 32
            frame.payloadLength from rfl, hreceived.localWindowSize, BitVec.sub_zero]
    . next hzero =>
      have hzero : frame.payloadLength = 0 := by omega
      injection h with h
      refine ⟨p, stream, stream₁, hp, hstream, ?_, hresponse, ?_⟩
      . rw [hzero]
        exact hreceived
      . rw [← h, hzero, BitVec.sub_zero]
  . split at h
    . contradiction
    . next hskip =>
      simp only [Bool.or_eq_true, decide_eq_true_eq, not_or] at hskip
      injection h with h
      exact .inl ⟨h.symm, by omega⟩

theorem noted_received {id : BitVec 32} : client.Received client.noted id 0 := by
  rcases client.noted_eq with ⟨lastStreamId, hnoted⟩
  rw [hnoted]
  exact .of_eq rfl rfl

theorem endFrame_received {id : BitVec 32} (hrst : frame.type ≠ FrameType.RST_STREAM)
    (hgoaway : frame.type ≠ FrameType.GOAWAY) (h : client.endFrame frame = .ok (client', code))
    (hid : ∀ p, frame.stream = some p → p = id)
    : client.Received client' id 0 := by
  rcases endFrame_cases hrst hgoaway h with ⟨hclient, _⟩ | ⟨_, p, stream, hp, hstream, hclient⟩
  . rw [hclient]
    exact .of_eq rfl rfl
  . rw [hclient, ← hid p hp]
    exact .setStream (BitVec.sub_zero _).symm rfl hstream Stream.received_ended

theorem parsePayload_received {id : BitVec 32} (h : client.parsePayload frame = .ok client')
    (hid : ∀ p, frame.stream = some p → p = id)
    : client.Received client' id frame.payloadLength := by
  rcases parsePayload_cases h with ⟨hclient, hzero⟩
    | ⟨p, stream, stream', hp, hstream, hreceived, _, hclient⟩
  . rw [hclient, hzero]
    exact .of_eq rfl rfl
  . rw [hclient, ← hid p hp]
    exact .setStream rfl rfl hstream hreceived

theorem parseFrameHeader_cases {ok : Bool} (h : client.parseFrameHeader frame = .ok (client', ok))
    : ∃ inflater, client' = { client with inflater := inflater } := by
  unfold parseFrameHeader at h
  split at h
  . contradiction
  . split at h
    . contradiction
    . rcases ok_pair h with ⟨h, _⟩
      exact ⟨_, h.symm⟩

theorem found_stream_eq {p : BitVec 32} (h : (client.found frame).stream = some p)
    : p = frame.streamId := by
  unfold found at h
  dsimp only at h
  split at h
  . injection h with h
    exact h.symm
  . contradiction

theorem parseFrame_received (h : client.parseFrame (client.found frame) n = .ok (client', code))
    : client.Received client' frame.streamId frame.dataLength := by
  have hid (p : BitVec 32) (hp : (client.found frame).stream = some p) : p = frame.streamId :=
    found_stream_eq hp
  by_cases hdata : frame.type = FrameType.DATA
  . have hlength : frame.dataLength = 0 + (frame.payloadLength + 0) := by
      rw [Frame.dataLength, if_pos hdata, Nat.zero_add, Nat.add_zero]
    rw [parseFrame_data (client.found frame) hdata] at h
    rcases bind_eq_ok h with ⟨client₁, hparse, hend⟩
    have hrst : (client.found frame).type ≠ FrameType.RST_STREAM := by
      change frame.type ≠ _
      rw [hdata]
      decide
    have hgoaway : (client.found frame).type ≠ FrameType.GOAWAY := by
      change frame.type ≠ _
      rw [hdata]
      decide
    rw [hlength]
    exact noted_received.trans
      ((parsePayload_received hparse hid).trans (endFrame_received hrst hgoaway hend hid))
  . have hlength : frame.dataLength = 0 := if_neg hdata
    rw [hlength]
    by_cases hsettings : frame.type = FrameType.SETTINGS
    . rw [parseFrame_settings (client.found frame) hsettings] at h
      cases hparse : client.noted.parseSettingFrame (client.found frame) n with
      | error e =>
        rw [hparse] at h
        contradiction
      | ok r =>
        rcases r with ⟨client₁, ret⟩
        rw [hparse] at h
        rcases ok_pair h with ⟨rfl, _⟩
        apply noted_received.trans (m := 0)
        rcases parseSettingFrame_cases hparse with ⟨settings, deflater, ⟨_, hclient⟩ | ⟨hclient, _⟩⟩
        . rw [hclient]
          exact .of_eq rfl rfl
        . rw [hclient]
          exact .of_eq rfl rfl
    . by_cases hskipped : (client.found frame).Skipped
      . rw [parseFrame_skipped hskipped hsettings] at h
        rcases ok_pair h with ⟨rfl, _⟩
        exact noted_received
      . rcases Frame.not_skipped hskipped with ⟨hrst, hgoaway⟩
        by_cases hheaders : frame.type = FrameType.HEADERS
        . rw [parseFrame_headers (client.found frame) hheaders] at h
          rcases bind_eq_ok h with ⟨⟨client₁, ok⟩, hparse, hend⟩
          rcases parseFrameHeader_cases hparse with ⟨inflater, rfl⟩
          have hinflated : client.noted.Received { client.noted with inflater := inflater }
            frame.streamId 0 :=
            .of_eq rfl rfl
          exact noted_received.trans (hinflated.trans (endFrame_received hrst hgoaway hend hid))
        . rw [parseFrame_other hskipped hdata hheaders] at h
          exact noted_received.trans (endFrame_received hrst hgoaway h hid)

end Client
end Http2
end Fsw
