import Fsw.Http2.Lemmas.Body
import Fsw.Http2.Lemmas.Metadata

namespace Fsw
namespace Http2

open Http (READ_BUF_MAX_SIZE)

variable {lib : Nghttp2} {client client' client₁ : Client lib} {frame : Frame}
  {n : Nat} {fs : List (Frame × Nat)}

namespace Client

def Terminates (client : Client lib) (frame : Frame) : Prop :=
  (frame.EndsStream ∨ frame.type = FrameType.RST_STREAM) ∧ (client.getStream frame.streamId).isSome
    ∨ frame.type = FrameType.GOAWAY

-- `recv_reponse` has received these frames and still waits.
inductive Waits : Client lib → List (Frame × Nat) → Client lib → Prop where
  | nil {client : Client lib} : Waits client [] client
  | cons {client client₁ client' : Client lib} {frame : Frame} {n : Nat} {fs : List (Frame × Nat)}
      (h : client.parseFrame (client.found frame) n = .ok (client₁, .fswContinue))
      (rest : Waits client₁ fs client')
      : Waits client ((frame, n) :: fs) client'

/--
`recv_reponse`, which is at `client₁` after `fs`, returns with `frame`, whatever would come after
it.
-/
def Returns (client : Client lib) (fs : List (Frame × Nat)) (client₁ : Client lib)
    (frame : Frame) (n : Nat) : Prop :=
  ∃ client₂ response, client₁.parseFrame (client₁.found frame) n = .ok (client₂, .fswReady)
    ∧ (∀ fs', client.recvResponse (fs ++ (frame, n) :: fs')
      = .ok (some (client₂, client₁.found frame, response)))
    ∧ (frame.type = FrameType.RST_STREAM → response.statusCode = -3)

structure Ends (client : Client lib) (frame : Frame) : Prop where
  rst : frame.type ≠ FrameType.RST_STREAM
  goaway : frame.type ≠ FrameType.GOAWAY
  mem : frame.payloadLength ≤ frame.payload.length
  fits : frame.type = FrameType.DATA → ∀ stream ∈ client.getStream frame.streamId,
    stream.accumulated.length + frame.payloadLength ≤ READ_BUF_MAX_SIZE

theorem Waits.recvResponse (h : client.Waits fs client') (fs' : List (Frame × Nat))
    : client.recvResponse (fs ++ fs') = client'.recvResponse fs' := by
  induction h with
  | nil => rfl
  | cons h rest ih =>
    rw [List.cons_append, recvResponse_continue h]
    exact ih

section Roomy

def Roomy (client : Client lib) : Prop :=
  ∀ id stream, client.getStream id = some stream → stream.Roomy

end Roomy

section Ready

variable {p : BitVec 32} {stream : Stream}

theorem Ends.ready (hroomy : client.Roomy) (hterm : client.Terminates frame) (h : client.Ends frame)
    : ∃ client', client.parseFrame (client.found frame) n = .ok (client', .fswReady) := by
  rcases hterm with ⟨hends | hrst, hopen⟩ | hgoaway
  . rcases Option.isSome_iff_exists.mp hopen with ⟨stream, hstream⟩
    rcases hends with ⟨hdata | hheaders, hflag⟩
    . rcases parseFrame_data_ok frame hstream hdata (hroomy _ _ hstream) h.mem
        (h.fits hdata stream hstream)
        with ⟨client₁, stream₁, _, hparse⟩
      rw [if_pos hflag] at hparse
      exact ⟨_, hparse⟩
    . rcases parseFrame_headers_ok frame hstream hheaders (Bytes.read?_zero h.mem) with
        ⟨client₁, hparse⟩
      rw [if_pos hflag] at hparse
      exact ⟨_, hparse⟩
  . exact absurd hrst h.rst
  . exact absurd hgoaway h.goaway

end Ready

section Run

variable {inflater : lib.Inflater} {deflater : lib.Deflater} {connected : Bool}
  {ns : Nat × Nat} {tr : List Event}

end Run

end Client
end Http2
end Fsw
