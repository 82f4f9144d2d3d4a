import Mathlib.Data.List.Induction
import Fsw.Http2.Lemmas.Client
import Fsw.Http2.Lemmas.Literal

namespace Fsw
namespace Http2

open Http (READ_BUF_MAX_SIZE)

variable {lib : Nghttp2} {client : Client lib} {frame : Frame} {fs : List (Frame × Nat)}
  {n : Nat} {id : BitVec 32}

def Frame.EndsStream (frame : Frame) : Prop :=
  (frame.type = FrameType.DATA ∨ frame.type = FrameType.HEADERS)
    ∧ frame.flags &&& FrameFlag.END_STREAM ≠ 0

instance : Decidable frame.EndsStream :=
  inferInstanceAs (Decidable (_ ∧ _))

def dataOf (id : BitVec 32) (fs : List (Frame × Nat)) : Bytes :=
  (fs.filter fun x => x.1.type = FrameType.DATA && x.1.streamId = id).flatMap fun x =>
    x.1.payload.take x.1.payloadLength

/--
A frame for an open stream, or one that is for none, of which all that is read is in memory.
-/
inductive Client.Allowed (client : Client lib) (frame : Frame) : Prop where
  | stream (htype : frame.type = FrameType.DATA ∨ frame.type = FrameType.HEADERS)
      (hopen : (client.getStream frame.streamId).isSome)
      (hmem : frame.payloadLength ≤ frame.payload.length)
  | settings (htype : frame.type = FrameType.SETTINGS)
      (hmem : 6 * ((frame.payloadLength + 5) / 6) ≤ frame.payload.length)
  | control (htype : frame.type = FrameType.WINDOW_UPDATE ∨ frame.type = FrameType.PING)

def Client.parseFrames (client : Client lib) : List (Frame × Nat) → Except Trap (Client lib)
  | [] => .ok client
  | (frame, n) :: fs => do
    let (client, _) ← client.parseFrame (client.found frame) n
    client.parseFrames fs

structure Stream.Accumulates (stream : Stream) (id : BitVec 32) (fs : List (Frame × Nat))
    : Prop where
  roomy : stream.Roomy
  length_le : stream.accumulated.length ≤ (dataOf id fs).length
  accumulated : (∀ x ∈ fs, x.1.streamId = id → ¬x.1.EndsStream) → stream.accumulated = dataOf id fs
  body : (∀ x ∈ fs, x.1.streamId = id → ¬x.1.EndsStream) → stream.response.body = []

def Frame.data (frame : Frame) : Bytes :=
  if frame.type = FrameType.DATA then frame.payload.take frame.payloadLength else []

theorem dataOf_concat
    : dataOf id (fs ++ [(frame, n)]) = dataOf id fs
        ++ if frame.streamId = id then frame.data else [] := by
  unfold dataOf Frame.data
  rw [List.filter_append, List.flatMap_append]
  congr 1
  by_cases htype : frame.type = FrameType.DATA
  . by_cases hid : frame.streamId = id
    . simp [htype, hid]
    . simp [htype, hid]
  . simp [htype]

section Accumulates

variable {stream stream' : Stream}

theorem Stream.Accumulates.skip (h : stream.Accumulates id fs)
    (hdata : frame.streamId = id → frame.data = [])
    : stream.Accumulates id (fs ++ [(frame, n)]) := by
  have hsame : dataOf id (fs ++ [(frame, n)]) = dataOf id fs := by
    rw [dataOf_concat]
    split
    . next hid => rw [hdata hid, List.append_nil]
    . rw [List.append_nil]
  refine ⟨h.roomy, by rw [hsame]; exact h.length_le, ?_, ?_⟩
  . intro hopen
    rw [hsame]
    exact h.accumulated fun x hx => hopen x (List.mem_append_left _ hx)
  . intro hopen
    exact h.body fun x hx => hopen x (List.mem_append_left _ hx)

theorem Stream.Accumulates.append (h : stream.Accumulates id fs) (hid : frame.streamId = id)
    (hroomy : stream'.Roomy) (hdata : stream'.accumulated = stream.accumulated ++ frame.data)
    (hresponse : stream'.response = stream.response)
    : (¬frame.EndsStream → stream'.Accumulates id (fs ++ [(frame, n)]))
      ∧ (frame.EndsStream → stream'.ended.Accumulates id (fs ++ [(frame, n)])
          ∧ ((∀ x ∈ fs, x.1.streamId = id → ¬x.1.EndsStream) →
            stream'.ended.response.body = dataOf id (fs ++ [(frame, n)]))) := by
  have hdata' : dataOf id (fs ++ [(frame, n)]) = dataOf id fs ++ frame.data := by
    rw [dataOf_concat, if_pos hid]
  have hlength := h.length_le
  have haccumulated : (∀ x ∈ fs, x.1.streamId = id → ¬x.1.EndsStream) →
      stream'.accumulated = dataOf id (fs ++ [(frame, n)]) := by
    intro hopen
    rw [hdata, hdata', h.accumulated hopen]
  constructor
  . intro _
    refine ⟨hroomy, ?_, ?_, ?_⟩
    . rw [hdata, hdata', List.length_append, List.length_append]
      omega
    . intro hopen
      exact haccumulated fun x hx => hopen x (List.mem_append_left _ hx)
    . intro hopen
      rw [hresponse]
      exact h.body fun x hx => hopen x (List.mem_append_left _ hx)
  . intro hends
    have hnot : ¬∀ x ∈ fs ++ [(frame, n)], x.1.streamId = id → ¬x.1.EndsStream := by
      intro hopen
      exact hopen (frame, n) (by simp) hid hends
    refine ⟨⟨hroomy.ended, ?_, fun hopen => absurd hopen hnot, fun hopen => absurd hopen hnot⟩, ?_⟩
    . rw [Stream.ended_accumulated]
      apply Nat.zero_le
    . intro hopen
      rw [Stream.ended_body, hresponse, h.body hopen, haccumulated hopen]
      split
      . next hnil => exact hnil.symm
      . rfl

end Accumulates

namespace Client

/--
What is true after a frame that has been parsed, `client` being the client before it and `fs` the
frames before.
-/
structure Parsed (client client' : Client lib) (code : ReturnCode) (fs : List (Frame × Nat))
    (frame : Frame) (n : Nat) : Prop where
  ready : code = .fswReady ↔ frame.EndsStream
  accumulates : ∀ id stream, client'.getStream id = some stream
    → stream.Accumulates id (fs ++ [(frame, n)])
  isSome : ∀ id, (client'.getStream id).isSome = (client.getStream id).isSome
  others : ∀ id, id ≠ frame.streamId ∨ frame.type ≠ FrameType.DATA
    ∧ frame.type ≠ FrameType.HEADERS →
    client'.getStream id = client.getStream id
  body : frame.EndsStream → (∀ x ∈ fs, x.1.streamId = frame.streamId → ¬x.1.EndsStream) →
    ∃ stream, client'.getStream frame.streamId = some stream
      ∧ stream.response.body = dataOf frame.streamId (fs ++ [(frame, n)])

variable {client' client₁ : Client lib} {code : ReturnCode} {stream stream₁ : Stream}

theorem parsed_of_streams_eq
    (haccum : ∀ id stream, client.getStream id = some stream → stream.Accumulates id fs)
    (htype : frame.type ≠ FrameType.DATA ∧ frame.type ≠ FrameType.HEADERS)
    (hsame : ∀ id, client'.getStream id = client.getStream id)
    : Parsed client client' .fswContinue fs frame n := by
  have hends : ¬frame.EndsStream := by
    intro hends
    rcases hends.1 with h | h
    . apply htype.1 h
    . apply htype.2 h
  refine ⟨by simp [hends], ?_, fun id => by rw [hsame], fun id _ => hsame id,
    fun h => absurd h hends⟩
  intro id stream hstream
  rw [hsame] at hstream
  apply (haccum id stream hstream).skip
  intro _
  rw [Frame.data, if_neg htype.1]

theorem endFrame_parsed (client₁ : Client lib)
    (haccum : ∀ id stream, client.getStream id = some stream → stream.Accumulates id fs)
    (htype : frame.type = FrameType.DATA ∨ frame.type = FrameType.HEADERS)
    (hstream : client.getStream frame.streamId = some stream)
    (hstream₁ : client₁.getStream frame.streamId = some stream₁) (hroomy : stream₁.Roomy)
    (hdata : stream₁.accumulated = stream.accumulated ++ frame.data)
    (hresponse : stream₁.response = stream.response)
    (hothers : ∀ id, id ≠ frame.streamId → client₁.getStream id = client.getStream id)
    : ∃ client' code, client₁.endFrame (client.found frame) = .ok (client', code)
        ∧ Parsed client client' code fs frame n := by
  have hrst : frame.type ≠ FrameType.RST_STREAM ∧ frame.type ≠ FrameType.GOAWAY := by
    rcases htype with h | h
    . rw [h]
      decide
    . rw [h]
      decide
  have hends : frame.EndsStream ↔ frame.flags &&& FrameFlag.END_STREAM ≠ 0 := by
    unfold Frame.EndsStream
    simp [htype]
  have hne (id : BitVec 32)
      (h : id ≠ frame.streamId ∨ frame.type ≠ FrameType.DATA ∧ frame.type ≠ FrameType.HEADERS)
      : id ≠ frame.streamId := by
    rcases h with h | h
    . exact h
    . rcases htype with hdata | hheaders
      . exact absurd hdata h.1
      . exact absurd hheaders h.2
  rcases (haccum _ _ hstream).append (n := n) rfl hroomy hdata hresponse with ⟨hgoes, hstops⟩
  have hother (client' : Client lib) (id : BitVec 32) (stream' : Stream) (hid : id ≠ frame.streamId)
      (hsame : client'.getStream id = client.getStream id)
      (hstream' : client'.getStream id = some stream')
      : stream'.Accumulates id (fs ++ [(frame, n)]) := by
    rw [hsame] at hstream'
    apply (haccum id stream' hstream').skip
    intro heq
    exact absurd heq.symm hid
  rw [endFrame_eq client₁ (client.found frame) hrst.1 hrst.2 (found_stream hstream) hstream₁]
  by_cases hflag : frame.flags &&& FrameFlag.END_STREAM ≠ 0
  . have hset (id : BitVec 32) : (client₁.setStream frame.streamId stream₁.ended).getStream id
        = if id = frame.streamId then some stream₁.ended else client.getStream id := by
      rw [getStream_setStream]
      split
      . rfl
      . next hid => exact hothers id hid
    rcases hstops (hends.mpr hflag) with ⟨hended, hbody⟩
    refine ⟨client₁.setStream frame.streamId stream₁.ended, .fswReady, ?_, by simp [hends, hflag],
      ?_, ?_, ?_, ?_⟩
    . exact congrArg Except.ok (if_pos hflag)
    . intro id stream' hstream'
      by_cases hid : id = frame.streamId
      . rw [hset, if_pos hid] at hstream'
        injection hstream' with hstream'
        rw [← hstream', hid]
        exact hended
      . exact hother _ id stream' hid (by rw [hset, if_neg hid]) hstream'
    . intro id
      rw [hset]
      split
      . next hid =>
        rw [hid, hstream]
        rfl
      . rfl
    . intro id h
      rw [hset, if_neg (hne id h)]
    . intro _ hopen
      exact ⟨stream₁.ended, by rw [hset, if_pos rfl], hbody hopen⟩
  . refine ⟨client₁, .fswContinue, ?_, by simp [hends, hflag], ?_, ?_,
      fun id h => hothers id (hne id h), ?_⟩
    . exact congrArg Except.ok (if_neg hflag)
    . intro id stream' hstream'
      by_cases hid : id = frame.streamId
      . rw [hid, hstream₁] at hstream'
        injection hstream' with hstream'
        rw [← hstream', hid]
        exact hgoes fun h => hflag (hends.mp h)
      . exact hother _ id stream' hid (hothers id hid) hstream'
    . intro id
      by_cases hid : id = frame.streamId
      . rw [hid, hstream₁, hstream]
        rfl
      . rw [hothers id hid]
    . intro h
      exact absurd (hends.mp h) hflag

theorem parseFrame_parsed
    (haccum : ∀ id stream, client.getStream id = some stream → stream.Accumulates id fs)
    (hallowed : client.Allowed frame)
    (htotal : (dataOf frame.streamId (fs ++ [(frame, n)])).length ≤ READ_BUF_MAX_SIZE)
    : ∃ client' code, client.parseFrame (client.found frame) n = .ok (client', code)
        ∧ Parsed client client' code fs frame n := by
  cases hallowed with
  | control htype =>
    refine ⟨client.noted, .fswContinue, parseFrame_control htype, ?_⟩
    apply parsed_of_streams_eq haccum
    . rcases htype with h | h
      . rw [h]
        decide
      . rw [h]
        decide
    . intro id
      apply noted_getStream
  | settings htype hmem =>
    rcases parseSettingFrame_ok client.noted (client.found frame) n hmem
      with ⟨⟨client', ret⟩, hparse⟩
    rcases parseSettingFrame_cases hparse with ⟨settings, deflater, hcases⟩
    refine ⟨client', .fswContinue, ?_, ?_⟩
    . rw [parseFrame_settings (client.found frame) htype, hparse]
      rfl
    . apply parsed_of_streams_eq haccum
      . rw [htype]
        decide
      . intro id
        rcases hcases with ⟨_, hclient'⟩ | ⟨hclient', _⟩
        . rw [hclient']
          exact noted_getStream
        . rw [hclient']
          exact noted_getStream
  | stream htype hopen hmem =>
    rcases Option.isSome_iff_exists.mp hopen with ⟨stream, hstream⟩
    have hread : frame.payload.read? 0 frame.payloadLength
      = some (frame.payload.take frame.payloadLength) :=
      Bytes.read?_zero hmem
    have hnoted : client.noted.getStream frame.streamId = some stream := by
      rw [noted_getStream, hstream]
    have hroomy := (haccum _ _ hstream).roomy
    rcases htype with htype | htype
    . have hdata : frame.data = frame.payload.take frame.payloadLength := if_pos htype
      have hle : stream.accumulated.length + (frame.payload.take frame.payloadLength).length
        ≤ READ_BUF_MAX_SIZE := by
        have := (haccum _ _ hstream).length_le
        rw [dataOf_concat, if_pos rfl, hdata, List.length_append] at htotal
        omega
      rcases parsePayload_ok (client.found frame) (found_stream hstream) hnoted hread hroomy hle
        with ⟨client₁, stream₁, hparse, hstream₁, haccum₁, hresponse, hroomy₁, hothers⟩
      rw [← hdata] at haccum₁
      rcases endFrame_parsed client₁ (n := n) haccum (.inl htype) hstream hstream₁
        hroomy₁ haccum₁ hresponse
        (fun id hid => by rw [hothers id hid, noted_getStream]) with ⟨client', code, hend, hparsed⟩
      refine ⟨client', code, ?_, hparsed⟩
      rw [parseFrame_data (client.found frame) htype, hparse]
      exact hend
    . have hdata : frame.data = [] := by
        rw [Frame.data, if_neg]
        rw [htype]
        decide
      have hbind : (client.found frame).stream.bind client.noted.getStream = some stream := by
        rw [found_stream hstream]
        exact hnoted
      rcases endFrame_parsed { client.noted with inflater := (inflateHeaders client.noted.inflater
          (frame.payload.take frame.payloadLength) false stream.response).1 } (n := n)
          haccum (.inr htype) hstream
        hnoted hroomy (by rw [hdata, List.append_nil]) rfl (fun id _ => noted_getStream)
        with ⟨client', code, hend, hparsed⟩
      refine ⟨client', code, ?_, hparsed⟩
      rw [parseFrame_headers (client.found frame) htype, parseFrameHeader_eq hbind hread]
      exact hend

theorem Allowed.of_isSome (h : client.Allowed frame)
    (hsame : ∀ id, (client'.getStream id).isSome = (client.getStream id).isSome)
    : client'.Allowed frame := by
  cases h with
  | stream htype hopen hmem => exact .stream htype (by rw [hsame]; exact hopen) hmem
  | settings htype hmem => exact .settings htype hmem
  | control htype => exact .control htype

theorem parseFrames_concat
    : client.parseFrames (fs ++ [(frame, n)])
        = (client.parseFrames fs >>= fun client => client.parseFrame (client.found frame) n
          >>= fun r => .ok r.1) := by
  induction fs generalizing client with
  | nil => rfl
  | cons x fs ih =>
    rcases x with ⟨frame', n'⟩
    rw [List.cons_append, parseFrames, parseFrames]
    cases client.parseFrame (client.found frame') n' with
    | error e => rfl
    | ok r => exact ih

theorem length_dataOf_le : (dataOf id fs).length ≤ (dataOf id (fs ++ [(frame, n)])).length := by
  rw [dataOf_concat, List.length_append]
  omega

/--
No frame has arrived for the streams that are open.
-/
def Fresh (client : Client lib) : Prop :=
  ∀ id stream, client.getStream id = some stream → stream.buffer = none ∧ stream.response.body = []

theorem parseFrames_accumulates (hfresh : client.Fresh) (hallowed : ∀ x ∈ fs, client.Allowed x.1)
    (htotal : ∀ id, (dataOf id fs).length ≤ READ_BUF_MAX_SIZE)
    : ∃ client₁, client.parseFrames fs = .ok client₁
        ∧ (∀ id, (client₁.getStream id).isSome = (client.getStream id).isSome)
        ∧ ∀ id stream, client₁.getStream id = some stream → stream.Accumulates id fs := by
  -- The induction is over the frames as they arrive, so the last one is taken off.
  induction fs using List.reverseRecOn with
  | nil =>
    refine ⟨client, rfl, fun _ => rfl, ?_⟩
    intro id stream hstream
    rcases hfresh id stream hstream with ⟨hbuffer, hbody⟩
    have hnil : stream.accumulated = [] := by
      rw [Stream.accumulated, hbuffer]
      rfl
    refine ⟨?_, by rw [hnil]; apply Nat.zero_le, fun _ => hnil, fun _ => hbody⟩
    intro b hb
    rw [hbuffer] at hb
    cases hb
  | append_singleton fs x ih =>
    rcases x with ⟨frame, n⟩
    rcases ih (fun x hx => hallowed x (List.mem_append_left _ hx))
      (fun id => Nat.le_trans length_dataOf_le (htotal id)) with ⟨client₁, hparse, hsome, haccum⟩
    rcases parseFrame_parsed (n := n) haccum ((hallowed (frame, n) (by simp)).of_isSome hsome)
      (htotal _)
      with ⟨client₂, code, hlast, hparsed⟩
    refine ⟨client₂, ?_, ?_, hparsed.accumulates⟩
    . rw [parseFrames_concat, hparse]
      simp only [bind, Except.bind, hlast]
    . intro id
      rw [hparsed.isSome, hsome]

/--
Whatever frames have arrived before, the next one is parsed, and what is true after it is true: if
it is the first one that ends its stream the body is all data that has arrived for this stream.
-/
theorem parseFrame_assembles (hfresh : client.Fresh)
    (hallowed : ∀ x ∈ fs ++ [(frame, n)], client.Allowed x.1)
    (htotal : ∀ id, (dataOf id (fs ++ [(frame, n)])).length ≤ READ_BUF_MAX_SIZE)
    : ∃ client₁ client₂ code, client.parseFrames fs = .ok client₁
        ∧ client₁.parseFrame (client₁.found frame) n = .ok (client₂, code)
        ∧ Parsed client₁ client₂ code fs frame n := by
  rcases parseFrames_accumulates hfresh (fun x hx => hallowed x (List.mem_append_left _ hx))
    (fun id => Nat.le_trans length_dataOf_le (htotal id)) with ⟨client₁, hparse, hsome, haccum⟩
  rcases parseFrame_parsed (n := n) haccum ((hallowed (frame, n) (by simp)).of_isSome hsome)
    (htotal _)
    with ⟨client₂, code, hlast, hparsed⟩
  exact ⟨client₁, client₂, code, hparse, hlast, hparsed⟩

def twoStreams : Client literalLib :=
  ((Client.new literalLib () ()).setStream 1 (Stream.new .zero 1 false)).setStream
    3 (Stream.new .zero 3 false)

def dataFrame (streamId : BitVec 32) (flags : UInt8) (payload : Bytes) : Frame :=
  ⟨payload, payload.length, FrameType.DATA, flags, streamId, none⟩

-- Data of both streams, a `PING` and an empty frame, before the frame that ends the first stream
def interleaved : List (Frame × Nat) :=
  [(dataFrame 1 0 [1, 2], 0), (dataFrame 3 0 [7], 0), (⟨[], 0, FrameType.PING, 1, 0, none⟩, 0),
    (dataFrame 1 0 [], 0)]

theorem twoStreams_fresh : twoStreams.Fresh := by
  intro id stream hstream
  simp only [twoStreams, getStream_setStream] at hstream
  split at hstream
  . injection hstream with hstream
    rw [← hstream]
    exact ⟨rfl, rfl⟩
  . split at hstream
    . injection hstream with hstream
      rw [← hstream]
      exact ⟨rfl, rfl⟩
    . contradiction

theorem twoStreams_allowed
    : ∀ x ∈ interleaved ++ [(dataFrame 1 FrameFlag.END_STREAM [3], 0)], twoStreams.Allowed x.1 := by
  have hdata (streamId : BitVec 32) (flags : UInt8) (payload : Bytes)
    (h : streamId = 1 ∨ streamId = 3)
      : twoStreams.Allowed (dataFrame streamId flags payload) := by
    refine .stream (.inl rfl) ?_ (Nat.le_refl _)
    rcases h with h | h
    . rw [h]
      rfl
    . rw [h]
      rfl
  intro x hx
  simp only [interleaved, List.cons_append, List.nil_append, List.mem_cons,
    List.not_mem_nil, or_false] at hx
  rcases hx with rfl | rfl | rfl | rfl | rfl
  . apply hdata 1 0 [1, 2] (.inl rfl)
  . apply hdata 3 0 [7] (.inr rfl)
  . exact .control (.inr rfl)
  . apply hdata 1 0 [] (.inl rfl)
  . apply hdata 1 FrameFlag.END_STREAM [3] (.inl rfl)

theorem parseFrame_assembles_interleaved
    : ∃ client₁ client₂ stream,
        twoStreams.parseFrames interleaved = .ok client₁
        ∧ client₁.parseFrame (client₁.found (dataFrame 1 FrameFlag.END_STREAM [3])) 0
          = .ok (client₂, .fswReady)
        ∧ client₂.getStream 1 = some stream ∧ stream.response.body = [1, 2, 3] := by
  have htotal (id : BitVec 32)
    : (dataOf id (interleaved ++ [(dataFrame 1 FrameFlag.END_STREAM [3], 0)])).length
      ≤ READ_BUF_MAX_SIZE := by
    by_cases h1 : id = 1
    . rw [h1]
      decide
    . by_cases h3 : id = 3
      . rw [h3]
        decide
      . have hnil : dataOf id (interleaved ++ [(dataFrame 1 FrameFlag.END_STREAM [3], 0)])
          = [] := by
          have h1' : ¬1#32 = id := fun h => h1 h.symm
          have h3' : ¬3#32 = id := fun h => h3 h.symm
          simp [dataOf, interleaved, dataFrame, h1', h3']
        rw [hnil]
        apply Nat.zero_le
  rcases parseFrame_assembles twoStreams_fresh twoStreams_allowed htotal
    with ⟨client₁, client₂, code, hparse, hlast, hparsed⟩
  have hends : (dataFrame 1 FrameFlag.END_STREAM [3]).EndsStream := by decide
  rcases hparsed.body hends (by decide) with ⟨stream, hstream, hbody⟩
  rw [hparsed.ready.mpr hends] at hlast
  exact ⟨client₁, client₂, stream, hparse, hlast, hstream, hbody⟩

end Client

end Http2
end Fsw
