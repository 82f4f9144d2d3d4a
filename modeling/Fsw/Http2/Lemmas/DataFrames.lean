import Fsw.Http2.Lemmas.Metadata

namespace Fsw
namespace Http2

variable {lib : Nghttp2} {client client' client₁ : Client lib} {data : Bytes} {n : Nat}

/--
`frames` are `DATA` frames that carry `data`, and none of them is too large for the server or for
the buffer in which it has been built.
-/
structure Fitting (maxFrameSize : BitVec 32) (data : Bytes) (frames : List Bytes) : Prop where
  data : (frames.map fun bs => bs.drop FRAME_HEADER_SIZE).flatten = data
  type : ∀ bs ∈ frames, bs.getD 3 0 = FrameType.DATA
  length : ∀ bs ∈ frames, FRAME_HEADER_SIZE + getPayloadLength bs = bs.length
  max : ∀ bs ∈ frames, getPayloadLength bs ≤ maxFrameSize.toNat
  staged : ∀ bs ∈ frames, FRAME_HEADER_SIZE + getPayloadLength bs ≤ STACK_BUFFER_SIZE

theorem fitting_frameBytes_iff {maxFrameSize : BitVec 32} {flags : UInt8} {streamId : BitVec 32}
    (hstage : FRAME_HEADER_SIZE + data.length ≤ STACK_BUFFER_SIZE + 1)
    : Fitting maxFrameSize data [frameBytes FrameType.DATA flags streamId data]
        ↔ data.length ≤ maxFrameSize.toNat ∧ FRAME_HEADER_SIZE + data.length
          ≤ STACK_BUFFER_SIZE := by
  have hlarge : STACK_BUFFER_SIZE + 1 < 2 ^ 24 := by decide
  have hlength : getPayloadLength (frameBytes FrameType.DATA flags streamId data) = data.length :=
    getPayloadLength_headerBytes (by omega)
  constructor
  . intro h
    have hmax := h.max _ (List.mem_singleton_self _)
    have hstaged := h.staged _ (List.mem_singleton_self _)
    rw [hlength] at hmax hstaged
    exact ⟨hmax, hstaged⟩
  . rintro ⟨hmax, hstaged⟩
    refine ⟨List.append_nil _, ?_, ?_, ?_, ?_⟩
    . rw [List.forall_mem_singleton]
      rfl
    . rw [List.forall_mem_singleton, hlength, length_frameBytes]
    . rw [List.forall_mem_singleton, hlength]
      exact hmax
    . rw [List.forall_mem_singleton, hlength]
      exact hstaged

namespace Client

def WritesFitting (client : Client lib) (streamId : BitVec 32) (data : Bytes)
    (endStream : Bool) (n : Nat) : Prop :=
  ∃ client' frames, client.writeData streamId data endStream n = .ok (client', streamId)
    ∧ client'.sent = client.sent ++ frames ∧ Fitting client.remoteSettings.maxFrameSize data frames

-- `client₁` is the client after the `HEADERS` frame.
def RequestsFitting (client client₁ : Client lib) (u : Uninit) (req : Request) (data : Bytes)
    (ns : Nat × Nat) : Prop :=
  ∃ client' streamId frames, client.sendRequest u req ns = .ok (client', streamId)
    ∧ client'.sent = client₁.sent ++ frames ∧ Fitting client.remoteSettings.maxFrameSize data frames

def Accommodates (client : Client lib) (data : Bytes) : Prop :=
  data.length ≤ client.remoteSettings.maxFrameSize.toNat
    ∧ FRAME_HEADER_SIZE + data.length ≤ STACK_BUFFER_SIZE

theorem stage_eq_ok (h : FRAME_HEADER_SIZE + data.length ≤ STACK_BUFFER_SIZE + 1)
    : stage data = .ok (List.replicate FRAME_HEADER_SIZE 0 ++ data) :=
  if_pos h

theorem take_frameBytes {type flags : UInt8} {streamId : BitVec 32}
    (h : FRAME_HEADER_SIZE + data.length ≤ n)
    : (frameBytes type flags streamId data).take n = frameBytes type flags streamId data := by
  apply List.take_of_length_le
  rw [length_frameBytes]
  exact h

theorem writesFitting_iff (client : Client lib) (streamId : BitVec 32) (endStream : Bool)
    (hn : FRAME_HEADER_SIZE + data.length ≤ n)
    : client.WritesFitting streamId data endStream n ↔ client.Accommodates data := by
  constructor
  . rintro ⟨client', frames, hwrite, hsent, hfitting⟩
    rcases writeData_eq hwrite with ⟨hstage, _, hclient'⟩
    rw [hclient', take_frameBytes hn] at hsent
    rw [← List.append_cancel_left hsent] at hfitting
    exact (fitting_frameBytes_iff hstage).mp hfitting
  . intro h
    have hstage : FRAME_HEADER_SIZE + data.length ≤ STACK_BUFFER_SIZE + 1 := Nat.le_succ_of_le h.2
    have hwrite : ∃ client', client.writeData streamId data endStream n
      = .ok (client', streamId) := by
      unfold writeData
      rw [stage_eq_ok hstage]
      exact ⟨_, rfl⟩
    rcases hwrite with ⟨client', hwrite⟩
    rcases writeData_eq hwrite with ⟨_, _, hclient'⟩
    have hsent : client'.sent = client.sent
        ++ [frameBytes FrameType.DATA (if endStream then FrameFlag.END_STREAM else 0)
          streamId data] := by
      rw [hclient', take_frameBytes hn]
    exact ⟨client', _, hwrite, hsent, (fitting_frameBytes_iff hstage).mpr h⟩

theorem requestsFitting_iff {u : Uninit} {req : Request} {ns : Nat × Nat}
    {frame : Frame} {stream : Stream}
    (hheader : client.sendHttpHeaderFrame u req ns.1 = .ok (client₁, some (frame, stream)))
    (hbody : copyBody req = .ok data) (hn : FRAME_HEADER_SIZE + data.length ≤ ns.2)
    : client.RequestsFitting client₁ u req data ns ↔ client.Accommodates data := by
  have hsend : client.sendRequest u req ns
      = client₁.sendHttpBodyFrame frame stream req ns.2 >>= fun r =>
          .ok ({ r.1 with streamId := r.1.streamId + 2 }, stream.streamId) := by
    unfold sendRequest
    rw [hheader]
    rfl
  constructor
  . rintro ⟨client', streamId, frames, hsend', hsent, hfitting⟩
    rw [hsend] at hsend'
    rcases bind_eq_ok hsend' with ⟨⟨client₂, ok⟩, hframe, h⟩
    rcases sendHttpBodyFrame_eq hframe with ⟨body, hcopy, hstage, hclient₂⟩
    rcases ok_pair h with ⟨hclient', _⟩
    rw [hbody] at hcopy
    injection hcopy with hcopy
    rw [← hcopy] at hstage hclient₂
    rw [← hclient', hclient₂, take_frameBytes hn] at hsent
    rw [← List.append_cancel_left hsent] at hfitting
    exact (fitting_frameBytes_iff hstage).mp hfitting
  . intro h
    have hstage : FRAME_HEADER_SIZE + data.length ≤ STACK_BUFFER_SIZE + 1 := Nat.le_succ_of_le h.2
    have hframe : ∃ client₂ ok, client₁.sendHttpBodyFrame frame stream req ns.2
      = .ok (client₂, ok) := by
      unfold sendHttpBodyFrame
      rw [hbody]
      simp only [bind, Except.bind]
      rw [stage_eq_ok hstage]
      exact ⟨_, _, rfl⟩
    rcases hframe with ⟨client₂, ok, hframe⟩
    rcases sendHttpBodyFrame_eq hframe with ⟨body, hcopy, _, hclient₂⟩
    rw [hbody] at hcopy
    injection hcopy with hcopy
    rw [← hcopy, take_frameBytes hn] at hclient₂
    have hsent : client₂.sent = client₁.sent ++ [frameBytes FrameType.DATA
        (if stream.flags &&& StreamFlag.PIPELINE_REQUEST ≠ 0 then 0 else FrameFlag.END_STREAM)
        frame.streamId data] := by
      rw [hclient₂]
    rw [hframe] at hsend
    exact ⟨_, _, _, hsend, hsent, (fitting_frameBytes_iff hstage).mpr h⟩

theorem dataFrames_fitting_iff (client : Client lib)
    : (∀ streamId data endStream n, FRAME_HEADER_SIZE + data.length ≤ n →
        (client.WritesFitting streamId data endStream n ↔ client.Accommodates data))
      ∧ ∀ u req data ns client₁ frame stream,
        client.sendHttpHeaderFrame u req ns.1 = .ok (client₁, some (frame, stream)) →
        copyBody req = .ok data → FRAME_HEADER_SIZE + data.length ≤ ns.2 →
        (client.RequestsFitting client₁ u req data ns ↔ client.Accommodates data) := by
  constructor
  . intro streamId data endStream n hn
    exact client.writesFitting_iff streamId endStream hn
  . intro u req data ns client₁ frame stream hheader hbody hn
    exact requestsFitting_iff hheader hbody hn

def postRequest : Request := ⟨Buffer.str "POST", Buffer.str "/", some [97, 98], 2, false, []⟩

theorem dataFrames_fitting_post
    : literalStart.WritesFitting 1 [97, 98] true 11
        ∧ ∃ client₁, literalStart.RequestsFitting client₁ .zero postRequest [97, 98] (68, 11) := by
  have hheader : ∃ client₁ frame stream,
      literalStart.sendHttpHeaderFrame .zero postRequest 68 = .ok (client₁, some (frame, stream)) :=
        ⟨_, _, _, rfl⟩
  have h : literalStart.Accommodates [97, 98] := ⟨by decide, by decide⟩
  rcases hheader with ⟨client₁, frame, stream, hheader⟩
  rcases dataFrames_fitting_iff literalStart with ⟨hwrites, hrequests⟩
  refine ⟨(hwrites 1 [97, 98] true 11 (by decide)).mpr h, client₁, ?_⟩
  exact (hrequests .zero postRequest [97, 98] (68, 11) client₁ frame
    stream hheader rfl (by decide)).mpr h

-- One byte more than the server takes, and as many as do not fit into the buffer
theorem writeData_not_fitting
    : ¬literalStart.WritesFitting 1 (List.replicate 16385 97) true 16394
        ∧ literalStart.writeData 1 (List.replicate 65529 97) true 65538 = .error .outOfBounds := by
  constructor
  . rw [writesFitting_iff]
    . intro h
      have hmax := h.1
      rw [List.length_replicate] at hmax
      exact absurd hmax (by decide)
    . rw [List.length_replicate]
      decide
  . have hlarge : ¬FRAME_HEADER_SIZE + (List.replicate 65529 97 : Bytes).length
      ≤ STACK_BUFFER_SIZE + 1 := by
      rw [List.length_replicate]
      decide
    unfold writeData stage
    rw [if_neg hlarge]
    rfl

end Client
end Http2
end Fsw
