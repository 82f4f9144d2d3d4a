import Fsw.Lib.Machine
import Fsw.Http2.Lemmas.Frame
import Fsw.Http2.Lemmas.Streams

namespace Fsw
namespace Http2

open Http (READ_BUF_MAX_SIZE)

variable {lib : Nghttp2} {client client' : Client lib}

inductive Call where
  | sendRequest (u : Uninit) (req : Request) (ns : Nat × Nat)
  | writeData (streamId : BitVec 32) (data : Bytes) (endStream : Bool) (n : Nat)
  | parse (frame : Frame) (n : Nat)

inductive Event where
  | requested (streamId : BitVec 32) (u : Uninit) (pipeline : Bool)
  | written (streamId : BitVec 32) (endStream : Bool)
  | parsed (frame : Frame) (settled : Bool)

namespace Client

-- `parse_setting_frame` does not return `FSW_ERR`.
def settles (client : Client lib) (frame : Frame) (n : Nat) : Bool :=
  frame.type = FrameType.SETTINGS
    && match client.noted.parseSettingFrame (client.found frame) n with
      | .ok (_, some _) => true
      | _ => false

def call (client : Client lib) : Call → Except Trap (Client lib × List Event)
  | .sendRequest u req ns => do
    let (client, streamId) ← client.sendRequest u req ns
    return (client, [.requested streamId u req.pipeline])
  | .writeData streamId data endStream n => do
    let (client, streamId) ← client.writeData streamId data endStream n
    return (client, [.written streamId endStream])
  | .parse frame n => do
    let (client', _) ← client.parseFrame (client.found frame) n
    return (client', [.parsed frame (client.settles frame n)])

def machine (start : Client lib) : Machine (Client lib) Call Event Trap where
  init := start
  step := call

end Client

def frameBytes (type flags : UInt8) (streamId : BitVec 32) (bs : Bytes) : Bytes :=
  headerBytes type bs.length flags streamId ++ bs

theorem length_frameBytes {type flags : UInt8} {streamId : BitVec 32} {bs : Bytes}
    : (frameBytes type flags streamId bs).length = FRAME_HEADER_SIZE + bs.length := by
  rw [frameBytes, List.length_append, length_headerBytes]
  rfl

def Request.headerFlags (req : Request) : UInt8 :=
  if req.body.isNone && !req.pipeline then
    FrameFlag.END_HEADERS ||| FrameFlag.END_STREAM
  else
    FrameFlag.END_HEADERS

def Request.bodyFlags (req : Request) : UInt8 :=
  if req.pipeline then 0 else FrameFlag.END_STREAM

namespace Client

theorem stage_ok {bs buf : Bytes} (h : stage bs = .ok buf)
    : buf = List.replicate FRAME_HEADER_SIZE 0 ++ bs ∧ FRAME_HEADER_SIZE + bs.length
        ≤ STACK_BUFFER_SIZE + 1 := by
  unfold stage at h
  split at h
  . next hle =>
    injection h with h
    exact ⟨h.symm, hle⟩
  . contradiction

theorem sendFrame_staged {bs : Bytes} {n : Nat} (client : Client lib) (frame : Frame)
    (hlength : frame.payloadLength = bs.length)
    : (client.sendFrame (buildFrameHeader (List.replicate FRAME_HEADER_SIZE 0 ++ bs) frame)
        frame n).1
        = { client with
            sent := client.sent
              ++ [(frameBytes frame.type frame.flags frame.streamId bs).take n] } := by
  have hbuf : buildFrameHeader (List.replicate FRAME_HEADER_SIZE 0 ++ bs) frame
      = frameBytes frame.type frame.flags frame.streamId bs := by
    rw [buildFrameHeader_eq, write_zero, length_headerBytes, hlength, frameBytes]
    rfl
  rw [sendFrame, send, hbuf, hlength, List.take_of_length_le (Nat.le_of_eq length_frameBytes)]

theorem length_copyBody {req : Request} {body : Bytes} (h : copyBody req = .ok body)
    : body.length = req.bodyLength := by
  unfold copyBody at h
  split at h
  . split at h
    . next hzero =>
      injection h with h
      rw [← h, hzero]
      rfl
    . contradiction
  . split at h
    . next hle =>
      injection h with h
      rw [← h, List.length_take, Nat.min_eq_left hle]
    . contradiction

theorem flags_new {u : Uninit} {streamId : BitVec 32} {pipeline : Bool}
    : (Stream.new u streamId pipeline).flags &&& StreamFlag.PIPELINE_REQUEST = 0
        ↔ pipeline = false := by
  cases pipeline with
  | false =>
    rw [show (Stream.new u streamId false).flags = StreamFlag.NORMAL from rfl]
    decide
  | true =>
    rw [show (Stream.new u streamId true).flags = StreamFlag.PIPELINE_REQUEST from rfl]
    decide

section Request

variable {u : Uninit} {req : Request} {n : Nat} {ns : Nat × Nat} {streamId : BitVec 32}

theorem sendHttpHeaderFrame_eq {r : Option (Frame × Stream)}
    (h : client.sendHttpHeaderFrame u req n = .ok (client', r))
    : ∃ deflater bs,
        lib.deflateHd client.deflater (headers u req) = (deflater, some bs)
        ∧ FRAME_HEADER_SIZE + bs.length ≤ STACK_BUFFER_SIZE + 1
        ∧ (r = none ∨ r = some (⟨bs, bs.length, FrameType.HEADERS, req.headerFlags, client.streamId,
              some client.streamId⟩, Stream.new u client.streamId req.pipeline)
            ∧ client' = { client with
                deflater := deflater
                streams := (client.emplace client.streamId
                  (Stream.new u client.streamId req.pipeline)).streams
                sent := client.sent ++ [(frameBytes FrameType.HEADERS req.headerFlags
                  client.streamId bs).take n] }) := by
  rcases bind_eq_ok h with ⟨⟨client₁, bs⟩, hbuild, h⟩
  rcases bind_eq_ok h with ⟨buf, hstage, h⟩
  rcases stage_ok hstage with ⟨hbuf, hle⟩
  unfold buildHttpHeader at hbuild
  split at hbuild
  . contradiction
  . next deflater bs' hdeflate =>
    rcases ok_pair hbuild with ⟨hclient₁, hbs⟩
    subst hclient₁ hbs hbuf
    refine ⟨deflater, bs', hdeflate, hle, ?_⟩
    dsimp only at h
    split at h
    . rcases ok_pair h with ⟨_, hr⟩
      exact .inl hr.symm
    . rcases ok_pair h with ⟨hclient', hr⟩
      have hflags : (if req.body.isNone && (Stream.new u client.streamId req.pipeline).flags
            &&& StreamFlag.PIPELINE_REQUEST = 0 then
          FrameFlag.END_HEADERS ||| FrameFlag.END_STREAM else FrameFlag.END_HEADERS)
            = req.headerFlags := by
        simp only [flags_new, Request.headerFlags, Bool.decide_eq_false]
      rw [hflags] at hclient' hr
      refine .inr ⟨hr.symm, ?_⟩
      rw [← hclient', sendFrame_staged]
      . unfold emplace getStream
        dsimp only
        split
        . rfl
        . rfl
      . rfl

theorem sendHttpBodyFrame_eq {frame : Frame} {stream : Stream} {ok : Bool}
    (h : client.sendHttpBodyFrame frame stream req n = .ok (client', ok))
    : ∃ body, copyBody req = .ok body
        ∧ FRAME_HEADER_SIZE + body.length ≤ STACK_BUFFER_SIZE + 1
        ∧ client' = { client with
            sent := client.sent ++ [(frameBytes FrameType.DATA
              (if stream.flags &&& StreamFlag.PIPELINE_REQUEST ≠ 0 then 0 else FrameFlag.END_STREAM)
              frame.streamId body).take n] } := by
  rcases bind_eq_ok h with ⟨body, hcopy, h⟩
  rcases bind_eq_ok h with ⟨buf, hstage, h⟩
  rcases stage_ok hstage with ⟨hbuf, hle⟩
  subst hbuf
  injection h with h
  have hclient' := congrArg Prod.fst h
  rw [sendFrame_staged client _ (length_copyBody hcopy).symm] at hclient'
  exact ⟨body, hcopy, hle, hclient'.symm⟩

theorem sendRequest_eq (h : client.sendRequest u req ns = .ok (client', streamId))
    : ∃ deflater bs body,
        lib.deflateHd client.deflater (headers u req) = (deflater, some bs)
        ∧ copyBody req = .ok body
        ∧ FRAME_HEADER_SIZE + bs.length ≤ STACK_BUFFER_SIZE + 1
        ∧ FRAME_HEADER_SIZE + body.length ≤ STACK_BUFFER_SIZE + 1
        ∧ streamId = client.streamId
        ∧ client' = { client with
            deflater := deflater
            streams :=
              (client.emplace client.streamId (Stream.new u client.streamId req.pipeline)).streams
            streamId := client.streamId + 2
            sent := client.sent
              ++ [(frameBytes FrameType.HEADERS req.headerFlags client.streamId bs).take ns.1,
                (frameBytes FrameType.DATA req.bodyFlags client.streamId body).take ns.2] } := by
  rcases bind_eq_ok h with ⟨⟨client₁, r⟩, hheader, h⟩
  rcases sendHttpHeaderFrame_eq hheader with
    ⟨deflater, bs, hdeflate, hbs, hnone | ⟨hsome, hclient₁⟩⟩
  . subst hnone
    contradiction
  . subst hsome
    rcases bind_eq_ok h with ⟨⟨client₂, ok⟩, hbody, h⟩
    rcases sendHttpBodyFrame_eq hbody with ⟨body, hcopy, hle, hclient₂⟩
    rcases ok_pair h with ⟨hclient', hid⟩
    have hflags : (if (Stream.new u client.streamId req.pipeline).flags
      &&& StreamFlag.PIPELINE_REQUEST ≠ 0 then 0
        else FrameFlag.END_STREAM) = req.bodyFlags := by
      simp only [ne_eq, flags_new, Request.bodyFlags, Bool.not_eq_false]
    rw [hflags] at hclient₂
    refine ⟨deflater, bs, body, hdeflate, hcopy, hbs, hle, hid.symm, ?_⟩
    rw [← hclient', hclient₂, hclient₁]
    simp only [List.append_assoc, List.cons_append, List.nil_append]

theorem sendRequest_getStream (h : client.sendRequest u req ns = .ok (client', streamId))
    (id : BitVec 32)
    : client'.getStream id
        = (client.emplace client.streamId (Stream.new u client.streamId req.pipeline)).getStream
          id := by
  rcases sendRequest_eq h with ⟨_, _, _, _, _, _, _, _, hclient'⟩
  rw [hclient']
  rfl

theorem sendRequest_cases {id : BitVec 32} {stream : Stream}
    (h : client.sendRequest u req ns = .ok (client', streamId))
    (hstream : client'.getStream id = some stream)
    : client.getStream id = some stream
        ∨ id = client.streamId ∧ client.getStream client.streamId = none
          ∧ stream = Stream.new u client.streamId req.pipeline := by
  rw [sendRequest_getStream h] at hstream
  exact emplace_cases hstream

theorem writeData_eq {data : Bytes} {endStream : Bool} {streamId' : BitVec 32}
    (h : client.writeData streamId data endStream n = .ok (client', streamId'))
    : FRAME_HEADER_SIZE + data.length ≤ STACK_BUFFER_SIZE + 1
        ∧ streamId' = streamId
        ∧ client' = { client with
            sent := client.sent
              ++ [(frameBytes FrameType.DATA (if endStream then FrameFlag.END_STREAM else 0)
                streamId data).take n] } := by
  rcases bind_eq_ok h with ⟨buf, hstage, h⟩
  rcases stage_ok hstage with ⟨hbuf, hle⟩
  subst hbuf
  rcases ok_pair h with ⟨hclient', hid⟩
  let frame : Frame :=
    ⟨data, data.length, FrameType.DATA, if endStream then FrameFlag.END_STREAM else 0, streamId,
    (client.getStream streamId).map fun _ => streamId⟩
  exact ⟨hle, hid.symm, hclient'.symm.trans (sendFrame_staged client frame rfl)⟩

inductive Called (client : Client lib) : Call → Client lib → List Event → Prop where
  | sendRequest {u : Uninit} {req : Request} {ns : Nat × Nat} {client' : Client lib}
      (h : client.sendRequest u req ns = .ok (client', client.streamId))
      : Called client (.sendRequest u req ns) client' [.requested client.streamId u req.pipeline]
  | writeData {streamId : BitVec 32} {data : Bytes} {endStream : Bool}
      {n : Nat} {client' : Client lib}
      (h : client.writeData streamId data endStream n = .ok (client', streamId))
      : Called client (.writeData streamId data endStream n) client' [.written streamId endStream]
  | parse {frame : Frame} {n : Nat} {client' : Client lib} {code : ReturnCode}
      (h : client.parseFrame (client.found frame) n = .ok (client', code))
      : Called client (.parse frame n) client' [.parsed frame (client.settles frame n)]

theorem Called.of_call {c : Call} {es : List Event} (h : client.call c = .ok (client', es))
    : Called client c client' es := by
  cases c with
  | sendRequest u req ns =>
    rcases bind_eq_ok h with ⟨⟨client₁, streamId⟩, hsend, h⟩
    rcases ok_pair h with ⟨rfl, rfl⟩
    have hid : streamId = client.streamId := by
      rcases sendRequest_eq hsend with ⟨_, _, _, _, _, _, _, hid, _⟩
      exact hid
    subst hid
    exact .sendRequest hsend
  | writeData streamId data endStream n =>
    rcases bind_eq_ok h with ⟨⟨client₁, streamId'⟩, hwrite, h⟩
    rcases ok_pair h with ⟨rfl, rfl⟩
    have hid : streamId' = streamId := (writeData_eq hwrite).2.1
    subst hid
    exact .writeData hwrite
  | parse frame n =>
    rcases bind_eq_ok h with ⟨⟨client₁, code⟩, hparse, h⟩
    rcases ok_pair h with ⟨rfl, rfl⟩
    exact .parse hparse

end Request

section Parse

variable {frame : Frame} {n : Nat} {code : ReturnCode} {id : BitVec 32}

def metadata (client : Client lib) (id : BitVec 32) : Option (Int × SortedMap Bytes Bytes) :=
  (client.getStream id).map fun stream => (stream.response.statusCode, stream.response.header)

/--
All that parsing a frame does not change: what has been sent, but for answers to settings, the
identifier of the next stream, and the metadata of responses.
-/
structure Same (client client' : Client lib) : Prop where
  sent : client'.sent = client.sent
  streamId : client'.streamId = client.streamId
  metadata : client'.metadata = client.metadata

theorem Same.refl : Same client client :=
  ⟨rfl, rfl, rfl⟩

theorem Same.trans {client'' : Client lib} (h : Same client client') (h' : Same client' client'')
    : Same client client'' :=
  ⟨h'.sent.trans h.sent, h'.streamId.trans h.streamId, h'.metadata.trans h.metadata⟩

theorem Same.setStream {stream stream' : Stream} (h : Same client client')
    (hstream : client'.getStream id = some stream)
    (hstatus : stream'.response.statusCode = stream.response.statusCode)
    (hheader : stream'.response.header = stream.response.header)
    : Same client (client'.setStream id stream') := by
  refine ⟨h.sent, h.streamId, ?_⟩
  rw [← h.metadata]
  funext id'
  unfold Client.metadata
  rw [getStream_setStream]
  split
  . next hid => rw [hid, hstream, Option.map_some, Option.map_some, hstatus, hheader]
  . rfl

theorem endFrame_same (h : client.endFrame frame = .ok (client', code))
    (hrst : frame.type ≠ FrameType.RST_STREAM) (hgoaway : frame.type ≠ FrameType.GOAWAY)
    : Same client client' := by
  rcases endFrame_cases hrst hgoaway h with ⟨hclient, _⟩ | ⟨_, p, stream, _, hstream, hclient⟩
  . rw [hclient]
    exact .refl
  . rcases stream.ended_eq with ⟨body, buffer, hended⟩
    rw [hclient, hended]
    exact Same.refl.setStream hstream rfl rfl

theorem parseFrameHeader_same {ok : Bool} (h : client.parseFrameHeader frame = .ok (client', ok))
    : Same client client' := by
  rcases parseFrameHeader_cases h with ⟨inflater, hclient⟩
  rw [hclient]
  exact ⟨rfl, rfl, rfl⟩

theorem parsePayload_same (h : client.parsePayload frame = .ok client') : Same client client' := by
  rcases parsePayload_cases h with ⟨hclient, _⟩
    | ⟨p, stream, stream', _, hstream, _, hresponse, hclient⟩
  . rw [hclient]
    exact .refl
  . let client₁ : Client lib := { client with
      localSettings.windowSize :=
        client.localSettings.windowSize - BitVec.ofNat 32 frame.payloadLength }
    have hstream₁ : client₁.getStream p = some stream := hstream
    have hsame : Same client client₁ := ⟨rfl, rfl, rfl⟩
    rw [hclient]
    apply hsame.setStream hstream₁
    . rw [hresponse]
    . rw [hresponse]

theorem noted_same : Same client client.noted := by
  rcases client.noted_eq with ⟨lastStreamId, hnoted⟩
  rw [hnoted]
  exact ⟨rfl, rfl, rfl⟩

theorem parseFrame_same (h : client.parseFrame frame n = .ok (client', code))
    (htype : frame.type ≠ FrameType.SETTINGS)
    : Same client client' := by
  apply Same.trans noted_same
  unfold parseFrame at h
  rw [if_neg htype] at h
  change (if _ then _ else if _ then client.noted.parseFrameHeader frame >>= _ else if _ then _ else
    client.noted.endFrame frame) = _ at h
  split at h
  . rcases ok_pair h with ⟨h, _⟩
    rw [← h]
    exact .refl
  . next hcontrol =>
    simp only [Bool.or_eq_true, decide_eq_true_eq, not_or] at hcontrol
    rcases hcontrol with ⟨⟨⟨_, hgoaway⟩, hrst⟩, _⟩
    split at h
    . rcases bind_eq_ok h with ⟨⟨client₁, ok⟩, hparse, h⟩
      exact (parseFrameHeader_same hparse).trans (endFrame_same h hrst hgoaway)
    . split at h
      . rcases bind_eq_ok h with ⟨client₁, hparse, h⟩
        exact (parsePayload_same hparse).trans (endFrame_same h hrst hgoaway)
      . exact endFrame_same h hrst hgoaway

theorem parseFrame_settings_same
    (h : client.parseFrame (client.found frame) n = .ok (client', code))
    (htype : frame.type = FrameType.SETTINGS)
    : client'.streamId = client.streamId ∧ client'.metadata = client.metadata
        ∧ (client'.sent = client.sent ∧ client.settles frame n = false
          ∨ client'.sent = client.sent ++ [(settingAck frame.streamId).take n]
            ∧ (client.settles frame n ↔ n = FRAME_HEADER_SIZE)) := by
  rw [parseFrame_settings (client.found frame) htype] at h
  cases hparse : client.noted.parseSettingFrame (client.found frame) n with
  | error e =>
    rw [hparse] at h
    contradiction
  | ok r =>
    rcases r with ⟨client₁, ret⟩
    rw [hparse] at h
    rcases ok_pair h with ⟨h, _⟩
    dsimp only at h
    subst h
    have hsettles : client.settles frame n = ret.isSome := by
      unfold settles
      rw [hparse, htype]
      cases ret with
      | none => rfl
      | some value => rfl
    rcases client.noted_eq with ⟨lastStreamId, hnoted⟩
    rw [hnoted] at hparse
    rcases parseSettingFrame_cases hparse with
      ⟨settings, deflater, ⟨hret, hclient⟩ | ⟨hclient, hret⟩⟩
    . rw [hclient, hsettles, hret]
      exact ⟨rfl, rfl, .inl ⟨rfl, rfl⟩⟩
    . rw [hclient, hsettles]
      exact ⟨rfl, rfl, .inr ⟨rfl, hret⟩⟩

theorem parseFrame_metadata (h : client.parseFrame (client.found frame) n = .ok (client', code))
    : client'.metadata = client.metadata := by
  by_cases htype : frame.type = FrameType.SETTINGS
  . exact (parseFrame_settings_same h htype).2.1
  . exact (parseFrame_same h htype).metadata

end Parse

def start (inflater : lib.Inflater) (deflater : lib.Deflater) (connected : Bool) (ns : Nat × Nat)
    : Client lib :=
  ((Client.new lib inflater deflater).connect connected ns).1

theorem start_eq {inflater : lib.Inflater} {deflater : lib.Deflater}
    {connected : Bool} {ns : Nat × Nat}
    : ∃ sent, start inflater deflater connected ns
        = { Client.new lib inflater deflater with sent := sent } := by
  unfold start connect
  split
  . split
    . next heq =>
      injection heq with heq _
      rw [← heq]
      exact ⟨_, rfl⟩
    . next heq =>
      injection heq with heq _
      rw [← heq]
      exact ⟨_, rfl⟩
  . exact ⟨_, rfl⟩

theorem getStream_start {inflater : lib.Inflater} {deflater : lib.Deflater}
    {connected : Bool} {ns : Nat × Nat} {id : BitVec 32}
    : (start inflater deflater connected ns).getStream id = none := by
  rcases @start_eq lib inflater deflater connected ns with ⟨sent, hstart⟩
  rw [hstart]
  rfl

end Client

def literalStart : Client literalLib :=
  .start () () true (24, 27)

end Http2
end Fsw
