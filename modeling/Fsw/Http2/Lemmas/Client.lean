import Fsw.Lib.Except
import Fsw.Http2.Impl.Client
import Fsw.Buffer.Lemmas.Buffer

namespace Fsw
namespace Http2

open Http (READ_BUF_MAX_SIZE)

variable {lib : Nghttp2} {client client' : Client lib} {frame : Frame}

namespace Stream

variable {stream : Stream}

def accumulated (stream : Stream) : Bytes :=
  (stream.buffer.map Buffer.contents).getD []

def Roomy (stream : Stream) : Prop :=
  ∀ b ∈ stream.buffer, b.size = READ_BUF_MAX_SIZE

def ended (stream : Stream) : Stream :=
  match stream.buffer with
  | none => stream
  | some b =>
    if b.length > 0 then
      { stream with response.body := b.contents, buffer := some b.clear }
    else
      stream

theorem ended_body
    : stream.ended.response.body
        = if stream.accumulated = [] then stream.response.body else stream.accumulated := by
  unfold ended accumulated
  cases stream.buffer with
  | none => rfl
  | some b =>
    have hnil : b.contents = [] ↔ ¬b.length > 0 := by
      rw [← Buffer.length_contents, ← List.length_eq_zero_iff]
      omega
    by_cases h : b.length > 0
    . simp [h, hnil]
    . simp [h, hnil]

theorem ended_accumulated : stream.ended.accumulated = [] := by
  unfold ended accumulated
  cases hbuffer : stream.buffer with
  | none =>
    dsimp only
    rw [hbuffer]
    rfl
  | some b =>
    dsimp only
    split
    . simp
    . next h =>
      rw [hbuffer]
      apply List.eq_nil_of_length_eq_zero
      simp only [Option.map_some, Option.getD_some, Buffer.length_contents]
      omega

theorem Roomy.ended (h : stream.Roomy) : stream.ended.Roomy := by
  unfold Stream.ended
  cases hbuffer : stream.buffer with
  | none => exact h
  | some b =>
    dsimp only
    split
    . intro b' hb'
      injection hb' with hb'
      rw [← hb']
      exact h b hbuffer
    . exact h

end Stream

namespace Client

section Inflate

variable {inflater : lib.Inflater} {bs : Bytes} {response : Response}

theorem inflateHeaders_final
    : inflateHeaders inflater bs true response
        = (lib.inflateEndHeaders inflater, response, true) := by
  rw [inflateHeaders, dif_pos]
  . rfl
  . rfl

theorem inflateHeaders_nil
    : inflateHeaders inflater [] false response = (inflater, response, true) := by
  rw [inflateHeaders, dif_pos]
  . rfl
  . rfl

theorem inflateHeaders_step {r : InflateHd} (hne : bs ≠ [])
    (h : (lib.inflateHd inflater bs).2 = some r)
    : inflateHeaders inflater bs false response
        = inflateHeaders (lib.inflateHd inflater bs).1 (bs.drop r.processed) r.final
            (r.nv.elim response (emitHeader response)) := by
  have hstop : ¬(parseHeaderStop inflater false bs.length).1 = true := by
    simp [parseHeaderStop, hne]
  rw [inflateHeaders, dif_neg hstop]
  split
  . next hnone =>
    rw [h] at hnone
    contradiction
  . next r' hsome =>
    rw [h] at hsome
    injection hsome with hsome
    rw [hsome]

theorem inflateHeaders_fail (hne : bs ≠ []) (h : (lib.inflateHd inflater bs).2 = none)
    : inflateHeaders inflater bs false response
        = ((lib.inflateHd inflater bs).1, response, false) := by
  have hstop : ¬(parseHeaderStop inflater false bs.length).1 = true := by
    simp [parseHeaderStop, hne]
  rw [inflateHeaders, dif_neg hstop]
  split
  . rfl
  . next hsome =>
    rw [h] at hsome
    contradiction

/--
`inflater` decodes `bs` to these fields: one by one, with `FINAL` after the last.
-/
inductive Decodes : lib.Inflater → Bytes → List (Bytes × Bytes) → Prop where
  | final {inflater : lib.Inflater} {bs : Bytes} {n : Nat}
      (h : (lib.inflateHd inflater bs).2 = some ⟨n, none, true⟩)
      : Decodes inflater bs []
  | emit {inflater : lib.Inflater} {bs : Bytes} {n : Nat} {nv : Bytes × Bytes}
      {hs : List (Bytes × Bytes)} (h : (lib.inflateHd inflater bs).2 = some ⟨n, some nv, false⟩)
      (rest : Decodes (lib.inflateHd inflater bs).1 (bs.drop n) hs) : Decodes inflater bs (nv :: hs)

theorem Decodes.inflateHeaders {hs : List (Bytes × Bytes)} (h : Decodes inflater bs hs)
    : ∃ inflater', inflateHeaders inflater bs false response
        = (inflater', hs.foldl emitHeader response, true) := by
  induction h generalizing response with
  | @final inflater bs n h =>
    by_cases hbs : bs = []
    . subst hbs
      exact ⟨_, inflateHeaders_nil⟩
    . rw [inflateHeaders_step hbs h, inflateHeaders_final]
      exact ⟨_, rfl⟩
  | @emit inflater bs n nv hs h rest ih =>
    have hbs : bs ≠ [] := by
      intro hnil
      have hpos := lib.processed_pos _ _ _ h rfl
      have hle := lib.processed_le _ _ _ h
      rw [hnil, List.length_nil] at hle
      omega
    rw [inflateHeaders_step hbs h]
    apply ih

end Inflate

section Streams

variable {p id : BitVec 32} {stream stream' : Stream} {n : Nat}

theorem getStream_setStream
    : (client.setStream p stream).getStream id
        = if id = p then some stream else client.getStream id := by
  simp only [getStream, setStream, Function.update_apply]

theorem parseSetting_eq {key : BitVec 16} {value : BitVec 32} {ok : Bool}
    (h : client.parseSetting key value = (client', ok))
    : ∃ settings deflater,
        client' = { client with remoteSettings := settings, deflater := deflater } := by
  unfold parseSetting at h
  dsimp only at h
  repeat' split at h
  all_goals
    injection h with h _
    exact ⟨_, _, h.symm⟩

theorem parseSettings_eq {buf : Bytes} {value : BitVec 32} {ret : Option (BitVec 32)}
    (h : parseSettings client buf value n = .ok (client', ret))
    : ∃ settings deflater,
        client' = { client with remoteSettings := settings, deflater := deflater } := by
  induction n generalizing client buf value with
  | zero =>
    rcases ok_pair h with ⟨h, _⟩
    exact ⟨_, _, h.symm⟩
  | succ n ih =>
    unfold parseSettings at h
    split at h
    . contradiction
    . dsimp only at h
      split at h
      . next heq =>
        rcases ok_pair h with ⟨h, _⟩
        subst h
        apply parseSetting_eq heq
      . next heq =>
        rcases parseSetting_eq heq with ⟨settings, deflater, hclient⟩
        subst hclient
        apply ih h

theorem parseSetting_true
    (hlib : ∀ deflater size, (lib.deflateChangeTableSize deflater size).isSome)
    (client : Client lib) (key : BitVec 16) (value : BitVec 32)
    : (client.parseSetting key value).2 = true := by
  unfold parseSetting
  dsimp only
  repeat' split
  all_goals first
    | rfl
    | next hnone =>
      have := hlib client.deflater value
      rw [hnone] at this
      contradiction

theorem parseSettings_ok (client : Client lib) (value : BitVec 32)
    {buf : Bytes} (h : 6 * n ≤ buf.length)
    : ∃ r, parseSettings client buf value n = .ok r
        ∧ ((∀ deflater size, (lib.deflateChangeTableSize deflater size).isSome) → r.2.isSome) := by
  induction n generalizing client buf value with
  | zero => exact ⟨_, rfl, fun _ => rfl⟩
  | succ n ih =>
    have hread : buf.read? 0 6 = some (buf.take 6) := Bytes.read?_zero (by omega)
    unfold parseSettings
    rw [hread]
    dsimp only
    split
    . next heq =>
      refine ⟨_, rfl, fun hlib => ?_⟩
      have htrue := congrArg Prod.snd heq
      rw [parseSetting_true hlib client] at htrue
      contradiction
    . apply ih
      rw [List.length_drop]
      omega

def settingAck (streamId : BitVec 32) : Bytes :=
  (setFrameHeader (List.replicate 17 0) FrameType.SETTINGS 0 FrameFlag.ACK streamId).take
    FRAME_HEADER_SIZE

theorem length_settingAck {streamId : BitVec 32}
    : (settingAck streamId).length = FRAME_HEADER_SIZE := by
  rfl

theorem parseSettingFrame_cases {ret : Option (BitVec 32)}
    (h : client.parseSettingFrame frame n = .ok (client', ret))
    : ∃ settings deflater,
        (ret = none ∧ client' = { client with remoteSettings := settings, deflater := deflater })
        ∨ client' = { client with
            remoteSettings := settings
            deflater := deflater
            sent := client.sent ++ [(settingAck frame.streamId).take n] }
          ∧ (ret.isSome ↔ n = FRAME_HEADER_SIZE) := by
  rcases bind_eq_ok h with ⟨⟨client₁, value⟩, hsettings, h⟩
  rcases parseSettings_eq hsettings with ⟨settings, deflater, hclient₁⟩
  subst hclient₁
  refine ⟨settings, deflater, ?_⟩
  cases value with
  | none =>
    rcases ok_pair h with ⟨hclient, hret⟩
    exact .inl ⟨hret.symm, hclient.symm⟩
  | some value =>
    right
    dsimp only at h
    split at h
    . next heq =>
      injection heq with hclient hn
      rcases ok_pair h with ⟨h, hret⟩
      have hne : n ≠ (settingAck frame.streamId).length := of_decide_eq_false hn
      rw [length_settingAck] at hne
      rw [← h, ← hclient, ← hret]
      exact ⟨rfl, by simp [hne]⟩
    . next heq =>
      injection heq with hclient hn
      rcases ok_pair h with ⟨h, hret⟩
      have heq : n = (settingAck frame.streamId).length := of_decide_eq_true hn
      rw [length_settingAck] at heq
      rw [← h, ← hclient, ← hret]
      exact ⟨rfl, by simp [heq]⟩

theorem parseSettingFrame_ok (client : Client lib) (frame : Frame) (n : Nat)
    (h : 6 * ((frame.payloadLength + 5) / 6) ≤ frame.payload.length)
    : ∃ r, client.parseSettingFrame frame n = .ok r := by
  rcases parseSettings_ok client 0 h with ⟨⟨client₁, value⟩, hsettings, _⟩
  simp only [parseSettingFrame, hsettings, bind, Except.bind]
  cases value with
  | none => exact ⟨_, rfl⟩
  | some value =>
    dsimp only
    split
    . exact ⟨_, rfl⟩
    . exact ⟨_, rfl⟩

theorem parseFrameHeader_eq {bs : Bytes}
    (hstream : frame.stream.bind client.getStream = some stream)
    (hread : frame.payload.read? 0 frame.payloadLength = some bs)
    : client.parseFrameHeader frame
        = .ok
          ({ client with inflater := (inflateHeaders client.inflater bs false stream.response).1 },
            (inflateHeaders client.inflater bs false stream.response).2.2) := by
  simp only [parseFrameHeader, hstream, hread]

theorem endFrame_eq (client : Client lib) (frame : Frame) (hrst : frame.type ≠ FrameType.RST_STREAM)
    (hgoaway : frame.type ≠ FrameType.GOAWAY) (hp : frame.stream = some p)
    (hstream : client.getStream p = some stream)
    : client.endFrame frame = .ok (
        if frame.flags &&& FrameFlag.END_STREAM ≠ 0 then
          (client.setStream p stream.ended, .fswReady)
        else
          (client, .fswContinue)) := by
  unfold endFrame
  simp only [hrst, hgoaway, decide_false, Bool.or_false, decide_eq_true_eq, hp,
    Option.bind_some, hstream, ↓reduceIte]
  split
  . unfold Stream.ended
    cases stream.buffer with
    | none => rfl
    | some body =>
      dsimp only
      split
      . rfl
      . rfl
  . rfl

theorem parsePayload_ok (frame : Frame) {bs : Bytes} (hp : frame.stream = some p)
    (hstream : client.getStream p = some stream)
    (hread : frame.payload.read? 0 frame.payloadLength = some bs) (hroomy : stream.Roomy)
    (hle : stream.accumulated.length + bs.length ≤ READ_BUF_MAX_SIZE)
    : ∃ client' stream', client.parsePayload frame = .ok client'
        ∧ client'.getStream p = some stream'
        ∧ stream'.accumulated = stream.accumulated ++ bs ∧ stream'.response = stream.response
        ∧ stream'.Roomy
        ∧ ∀ id, id ≠ p → client'.getStream id = client.getStream id := by
  have hflags : ∃ stream₁ : Stream,
      (if frame.flags &&& FrameFlag.END_STREAM = 0 then
        { stream with flags := stream.flags ||| StreamFlag.PIPELINE_RESPONSE }
      else
        stream) = stream₁
      ∧ stream₁.buffer = stream.buffer ∧ stream₁.response = stream.response := by
    split
    . exact ⟨_, rfl, rfl, rfl⟩
    . exact ⟨_, rfl, rfl, rfl⟩
  rcases hflags with ⟨stream₁, hstream₁, hbuffer, hresponse⟩
  have hlen : bs.length = frame.payloadLength := Bytes.length_read? hread
  simp only [parsePayload, hp, Option.bind_some, hstream, hread, hstream₁]
  split
  . have hroom : (stream₁.buffer.getD (.new READ_BUF_MAX_SIZE)).contents = stream.accumulated
        ∧ (stream₁.buffer.getD (.new READ_BUF_MAX_SIZE)).size = READ_BUF_MAX_SIZE := by
      rw [hbuffer]
      unfold Stream.accumulated
      cases hb : stream.buffer with
      | none => exact ⟨Buffer.contents_new, rfl⟩
      | some b => exact ⟨rfl, hroomy b hb⟩
    rcases hroom with ⟨hcontents, hsize⟩
    have hfits : (stream₁.buffer.getD (.new READ_BUF_MAX_SIZE)).length + bs.length
        ≤ (stream₁.buffer.getD (.new READ_BUF_MAX_SIZE)).size := by
      rw [← Buffer.length_contents, hcontents, hsize]
      exact hle
    rcases Buffer.append_eq_ok hfits (by rw [hsize]; decide) with ⟨b, hb, hcontents', hsize', _⟩
    rw [hb]
    let stream₂ : Stream := { stream₁ with
      buffer := some b
      localWindowSize := stream₁.localWindowSize - BitVec.ofNat 32 frame.payloadLength }
    refine ⟨_, stream₂, rfl, by rw [getStream_setStream, if_pos rfl], ?_, hresponse, ?_, ?_⟩
    . rw [← hcontents, ← hcontents']
      rfl
    . intro b' hb'
      injection hb' with hb'
      rw [← hb', hsize', hsize]
    . intro id hid
      rw [getStream_setStream, if_neg hid]
      rfl
  . next hzero =>
    have hnil : bs = [] := by
      apply List.eq_nil_of_length_eq_zero
      omega
    refine ⟨_, _, rfl, by rw [getStream_setStream, if_pos rfl], ?_, hresponse, ?_, ?_⟩
    . rw [Stream.accumulated, hbuffer, hnil, List.append_nil]
      rfl
    . intro b' hb'
      rw [hbuffer] at hb'
      apply hroomy b' hb'
    . intro id hid
      rw [getStream_setStream, if_neg hid]

def noted (client : Client lib) : Client lib :=
  if client.streamId > client.lastStreamId then
    { client with lastStreamId := client.streamId }
  else
    client

theorem noted_eq (client : Client lib)
    : ∃ lastStreamId, client.noted = { client with lastStreamId := lastStreamId } := by
  unfold noted
  split
  . exact ⟨_, rfl⟩
  . exact ⟨_, rfl⟩

theorem noted_getStream : client.noted.getStream id = client.getStream id := by
  rcases client.noted_eq with ⟨lastStreamId, hnoted⟩
  rw [hnoted]
  rfl

theorem parseFrame_control (h : frame.type = FrameType.WINDOW_UPDATE ∨ frame.type = FrameType.PING)
    : client.parseFrame frame n = .ok (client.noted, .fswContinue) := by
  rcases h with h | h
  . unfold parseFrame
    rw [h]
    rfl
  . unfold parseFrame
    rw [h]
    rfl

theorem parseFrame_settings (frame : Frame) (h : frame.type = FrameType.SETTINGS)
    : client.parseFrame frame n = (client.noted.parseSettingFrame frame n).map fun r =>
        (r.1, .fswContinue) := by
  unfold parseFrame
  rw [h]
  cases hparse : client.noted.parseSettingFrame frame n with
  | error e =>
    unfold noted at hparse
    simp only [↓reduceIte, hparse]
    rfl
  | ok r =>
    unfold noted at hparse
    simp only [↓reduceIte, hparse]
    rfl

theorem parseFrame_headers (frame : Frame) (h : frame.type = FrameType.HEADERS)
    : client.parseFrame frame n
        = (client.noted.parseFrameHeader frame >>= fun r => r.1.endFrame frame) := by
  unfold parseFrame
  rw [h]
  rfl

theorem parseFrame_data (frame : Frame) (h : frame.type = FrameType.DATA)
    : client.parseFrame frame n
        = (client.noted.parsePayload frame >>= fun client => client.endFrame frame) := by
  unfold parseFrame
  rw [h]
  rfl

theorem found_stream (hopen : client.getStream frame.streamId = some stream)
    : (client.found frame).stream = some frame.streamId := by
  unfold found
  dsimp only
  rw [hopen]
  rfl

theorem parseFrame_headers_ok (frame : Frame) {bs : Bytes}
    (hstream : client.getStream frame.streamId = some stream)
    (htype : frame.type = FrameType.HEADERS)
    (hread : frame.payload.read? 0 frame.payloadLength = some bs)
    : ∃ client₁ : Client lib, client.parseFrame (client.found frame) n = .ok (
        if frame.flags &&& FrameFlag.END_STREAM ≠ 0 then
          (client₁.setStream frame.streamId stream.ended, .fswReady)
        else
          (client₁, .fswContinue)) := by
  have hp := found_stream hstream
  have hnoted : client.noted.getStream frame.streamId = some stream := by
    rw [noted_getStream, hstream]
  have hbind : (client.found frame).stream.bind client.noted.getStream = some stream := by
    rw [hp]
    exact hnoted
  have hne : (client.found frame).type ≠ FrameType.RST_STREAM
    ∧ (client.found frame).type ≠ FrameType.GOAWAY := by
    rw [show (client.found frame).type = FrameType.HEADERS from htype]
    decide
  let inflater := (inflateHeaders client.noted.inflater bs false stream.response).1
  rw [parseFrame_headers (client.found frame) htype, parseFrameHeader_eq hbind hread]
  exact ⟨_, endFrame_eq { client.noted with inflater := inflater } (client.found frame)
    hne.1 hne.2 hp hnoted⟩

theorem parseFrame_data_ok (frame : Frame) (hstream : client.getStream frame.streamId = some stream)
    (htype : frame.type = FrameType.DATA) (hroomy : stream.Roomy)
    (hmem : frame.payloadLength ≤ frame.payload.length)
    (hle : stream.accumulated.length + frame.payloadLength ≤ READ_BUF_MAX_SIZE)
    : ∃ (client₁ : Client lib) (stream₁ : Stream), stream₁.Roomy
        ∧ client.parseFrame (client.found frame) n = .ok (
        if frame.flags &&& FrameFlag.END_STREAM ≠ 0 then
          (client₁.setStream frame.streamId stream₁.ended, .fswReady)
        else
          (client₁, .fswContinue)) := by
  have hp := found_stream hstream
  have hnoted : client.noted.getStream frame.streamId = some stream := by
    rw [noted_getStream, hstream]
  have hne : (client.found frame).type ≠ FrameType.RST_STREAM
    ∧ (client.found frame).type ≠ FrameType.GOAWAY := by
    rw [show (client.found frame).type = FrameType.DATA from htype]
    decide
  have hle : stream.accumulated.length + (frame.payload.take frame.payloadLength).length
    ≤ READ_BUF_MAX_SIZE := by
    rw [List.length_take, Nat.min_eq_left hmem]
    exact hle
  rcases parsePayload_ok (client.found frame) hp hnoted (Bytes.read?_zero hmem) hroomy hle
    with ⟨client₁, stream₁, hparse, hstream₁, _, _, hroomy₁, _⟩
  rw [parseFrame_data (client.found frame) htype, hparse]
  exact ⟨client₁, stream₁, hroomy₁,
    endFrame_eq client₁ (client.found frame) hne.1 hne.2 hp hstream₁⟩

end Streams

end Client

end Http2
end Fsw
