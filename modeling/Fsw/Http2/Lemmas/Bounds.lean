import Fsw.Lib.Emit
import Fsw.Http2.Lemmas.Recv

namespace Fsw
namespace Http2

open Http (READ_BUF_MAX_SIZE)

-- A call of `recv`: where to, for how many bytes, and how many there have been
structure Receive where
  pos : Nat
  asked : Nat
  received : Nat
  deriving DecidableEq, Repr

namespace Client

variable {lib : Nghttp2} {client : Client lib}

def recvTraced (client : Client lib) (pos len : Nat) (incoming : Bytes) (limit : Nat)
    : Emit Receive Trap (Client lib × Bytes) := do
  Emit.emit ⟨pos, len, (incoming.take (min len limit)).length⟩
  client.recv pos len incoming limit

def recvFrameTraced (client : Client lib) (incoming : Bytes) (limits : Nat × Nat)
    : Emit Receive Trap (Client lib × Bytes × Frame) := do
  let (client, incoming) ← client.recvTraced 0 FRAME_HEADER_SIZE incoming limits.1
  let payloadLength := getPayloadLength client.readBuf.mem
  let (client, incoming) ← client.recvTraced FRAME_HEADER_SIZE payloadLength incoming limits.2
  return (client, incoming, frameOf client.readBuf.mem fun streamId =>
    (client.getStream streamId).isSome)

def Contained (client : Client lib) (header : Bytes) : Prop :=
  ∀ payload limit,
  ∀ r ∈ (client.recvFrameTraced (header ++ payload) (FRAME_HEADER_SIZE, limit)).outputs,
    r.pos + r.received ≤ READ_BUF_MAX_SIZE

def AsksToFit (client : Client lib) (header : Bytes) : Prop :=
  ∀ payload limit,
  ∀ r ∈ (client.recvFrameTraced (header ++ payload) (FRAME_HEADER_SIZE, limit)).outputs,
    r.pos + r.asked ≤ READ_BUF_MAX_SIZE

theorem result_recvFrameTraced {incoming : Bytes} {limits : Nat × Nat}
    : (client.recvFrameTraced incoming limits).result = client.recvFrame incoming limits := by
  unfold recvFrameTraced recvFrame
  rw [Emit.result_bind]
  congr 1
  funext r
  rcases r with ⟨client, incoming⟩
  rw [Emit.result_bind]
  rfl

theorem getPayloadLength_append {header rest : Bytes} (h : header.length = FRAME_HEADER_SIZE)
    : getPayloadLength (header ++ rest) = getPayloadLength header := by
  have hgetD {i : Nat} (hi : i < FRAME_HEADER_SIZE) : (header ++ rest).getD i 0
    = header.getD i 0 := by
    rw [List.getD_eq_getElem?_getD, List.getD_eq_getElem?_getD,
      List.getElem?_append_left (by omega)]
  unfold getPayloadLength
  rw [hgetD (by decide), hgetD (by decide), hgetD (by decide)]

theorem outputs_recvTraced_bind {α : Type} {pos len limit : Nat} {incoming : Bytes}
    {f : Client lib × Bytes → Emit Receive Trap α} {r : Client lib × Bytes}
    (h : client.recv pos len incoming limit = .ok r)
    : (client.recvTraced pos len incoming limit >>= f).outputs
        = ⟨pos, len, (incoming.take (min len limit)).length⟩ :: (f r).outputs := by
  unfold recvTraced
  rw [h]
  rfl

theorem outputs_recvFrameTraced {header payload : Bytes} {limit : Nat}
    (hsize : client.readBuf.size = READ_BUF_MAX_SIZE) (hheader : header.length = FRAME_HEADER_SIZE)
    : (client.recvFrameTraced (header ++ payload) (FRAME_HEADER_SIZE, limit)).outputs
        = [⟨0, FRAME_HEADER_SIZE, FRAME_HEADER_SIZE⟩, ⟨FRAME_HEADER_SIZE, getPayloadLength header,
            (payload.take (min (getPayloadLength header) limit)).length⟩] := by
  have hle : 0 + FRAME_HEADER_SIZE ≤ client.readBuf.size + 1 := by
    rw [hsize]
    decide
  rcases client.recv_whole header 0 hheader (Nat.le_refl _) hle with ⟨b, hmem, _, hrecv⟩
  have hlength : getPayloadLength b.mem = getPayloadLength header := by
    rw [hmem, write_zero, getPayloadLength_append hheader]
  have hreceived : ((header ++ payload).take (min FRAME_HEADER_SIZE FRAME_HEADER_SIZE)).length
    = FRAME_HEADER_SIZE := by
    rw [Nat.min_self, ← hheader, List.take_left]
  unfold recvFrameTraced
  rw [outputs_recvTraced_bind (hrecv payload), hreceived]
  dsimp only
  rw [hlength]
  rw [Emit.outputs_bind_pure]
  unfold recvTraced
  cases Client.recv { client with readBuf := b } FRAME_HEADER_SIZE (getPayloadLength header)
    payload limit with
  | error e => rfl
  | ok r => rfl

theorem recvFrame_contained_iff (client : Client lib)
    (hsize : client.readBuf.size = READ_BUF_MAX_SIZE) (header : Bytes)
    (hheader : header.length = FRAME_HEADER_SIZE)
    : (client.Contained header ↔ FRAME_HEADER_SIZE + getPayloadLength header ≤ READ_BUF_MAX_SIZE)
        ∧ (client.AsksToFit header ↔ FRAME_HEADER_SIZE + getPayloadLength header
          ≤ READ_BUF_MAX_SIZE) := by
  unfold Contained AsksToFit
  simp only [outputs_recvFrameTraced hsize hheader, List.forall_mem_cons]
  constructor
  . constructor
    . intro h
      have hall := (h (List.replicate (getPayloadLength header) 0) (getPayloadLength header)).2.1
      rw [Nat.min_self, List.length_take, List.length_replicate, Nat.min_self] at hall
      exact hall
    . intro h payload limit
      refine ⟨by decide, ?_, List.forall_mem_nil _⟩
      rw [List.length_take]
      omega
  . constructor
    . intro h
      exact (h [] 0).2.1
    . intro h payload limit
      exact ⟨by decide, h, List.forall_mem_nil _⟩

theorem recvFrame_contained_settings
    : (Client.new literalLib () ()).Contained [0, 0, 18, 4, 0, 0, 0, 0, 0] := by
  apply (recvFrame_contained_iff (Client.new literalLib () ()) rfl
    [0, 0, 18, 4, 0, 0, 0, 0, 0] rfl).1.mpr
  decide

-- A `DATA` frame of 16384 bytes
theorem recvFrame_not_contained
    : (recvFrameTraced (Client.new literalLib () ())
        ([0, 64, 0, 0, 0, 0, 0, 0, 1] ++ List.replicate 16384 0)
          (FRAME_HEADER_SIZE, 16384)).outputs = [⟨0, 9, 9⟩, ⟨9, 16384, 16384⟩]
        ∧ ¬(Client.new literalLib () ()).Contained [0, 64, 0, 0, 0, 0, 0, 0, 1]
        ∧ ¬(Client.new literalLib () ()).AsksToFit [0, 64, 0, 0, 0, 0, 0, 0, 1] := by
  have houtputs : (recvFrameTraced (Client.new literalLib () ())
      ([0, 64, 0, 0, 0, 0, 0, 0, 1] ++ List.replicate 16384 0) (FRAME_HEADER_SIZE, 16384)).outputs
      = [⟨0, 9, 9⟩, ⟨9, 16384, 16384⟩] := by
    rw [outputs_recvFrameTraced rfl rfl, List.length_take, List.length_replicate]
    rfl
  have hlast : (⟨9, 16384, 16384⟩ : Receive) ∈ [⟨0, 9, 9⟩, ⟨9, 16384, 16384⟩] := by simp
  refine ⟨houtputs, ?_, ?_⟩
  . intro h
    have hle := h (List.replicate 16384 0) 16384 ⟨9, 16384, 16384⟩ (houtputs ▸ hlast)
    exact absurd hle (by decide)
  . intro h
    have hle := h (List.replicate 16384 0) 16384 ⟨9, 16384, 16384⟩ (houtputs ▸ hlast)
    exact absurd hle (by decide)

end Client
end Http2
end Fsw
