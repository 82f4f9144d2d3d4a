import Fsw.Http2.Lemmas.Client
import Fsw.Http2.Lemmas.Literal

namespace Fsw
namespace Http2

variable {lib : Nghttp2} {client : Client lib} {frame : Frame} {n : Nat}

-- `parse_frame` returns before it has looked at the stream.
def Frame.Skipped (frame : Frame) : Prop :=
  frame.type = FrameType.SETTINGS ∨ frame.type = FrameType.WINDOW_UPDATE
    ∨ frame.type = FrameType.PING
    ∨ frame.type = FrameType.GOAWAY ∨ frame.type = FrameType.RST_STREAM
    ∨ frame.type = FrameType.PUSH_PROMISE

def Frame.Streamless (frame : Frame) : Prop :=
  frame.Skipped ∨ frame.type ≠ FrameType.DATA ∧ frame.type ≠ FrameType.HEADERS
    ∧ frame.flags &&& FrameFlag.END_STREAM = 0

structure Client.Harmless (client : Client lib) (frame : Frame) (n : Nat) : Prop where
  parse : client.parseFrame (client.found frame) n ≠ .error .nullDeref
  response : client.recvResponse [(frame, n)] ≠ .error .nullDeref
  streams : ∀ client' code, client.parseFrame (client.found frame) n = .ok (client', code) →
    client'.streams = client.streams

theorem Frame.not_skipped (h : ¬frame.Skipped)
    : frame.type ≠ FrameType.RST_STREAM ∧ frame.type ≠ FrameType.GOAWAY := by
  unfold Skipped at h
  simp only [not_or] at h
  rcases h with ⟨_, _, _, hgoaway, hrst, _⟩
  exact ⟨hrst, hgoaway⟩

namespace Client

theorem found_unknown (h : client.getStream frame.streamId = none)
    : (client.found frame).stream = none := by
  unfold found
  dsimp only
  rw [h]
  rfl

theorem parseFrame_skipped (h : frame.Skipped) (hsettings : frame.type ≠ FrameType.SETTINGS)
    : client.parseFrame frame n = .ok (client.noted, .fswContinue) := by
  unfold parseFrame
  rcases h with h | h | h | h | h | h
  . contradiction
  . rw [h]
    rfl
  . rw [h]
    rfl
  . rw [h]
    rfl
  . rw [h]
    rfl
  . rw [h]
    rfl

theorem parseFrame_other (h : ¬frame.Skipped) (hdata : frame.type ≠ FrameType.DATA)
    (hheaders : frame.type ≠ FrameType.HEADERS)
    : client.parseFrame frame n = client.noted.endFrame frame := by
  unfold Frame.Skipped at h
  simp only [not_or] at h
  rcases h with ⟨hsettings, hupdate, hping, hgoaway, hrst, hpush⟩
  unfold parseFrame
  simp only [hsettings, hupdate, hping, hgoaway, hrst, hpush, hheaders,
    hdata, decide_false, Bool.or_self, Bool.false_eq_true, ↓reduceIte]
  rfl

section Streamless

variable (hnone : frame.stream = none)

include hnone

theorem endFrame_streamless (hrst : frame.type ≠ FrameType.RST_STREAM)
    (hgoaway : frame.type ≠ FrameType.GOAWAY)
    : client.endFrame frame
        = if frame.flags &&& FrameFlag.END_STREAM ≠ 0 then .error .nullDeref
          else .ok (client, .fswContinue) := by
  unfold endFrame
  simp only [hrst, hgoaway, hnone, decide_false, Bool.or_false, decide_eq_true_eq, Option.bind_none]

theorem parseFrameHeader_streamless : client.parseFrameHeader frame = .error .nullDeref := by
  unfold parseFrameHeader
  rw [hnone]
  rfl

theorem parseFrame_data_streamless (h : frame.type = FrameType.DATA)
    : client.parseFrame frame n = .error .nullDeref := by
  rw [parseFrame_data frame h]
  unfold parsePayload
  rw [hnone]
  dsimp only [Option.bind_none]
  split
  . rfl
  . next hskip =>
    simp only [Bool.or_eq_true, decide_eq_true_eq, not_or] at hskip
    have hrst : frame.type ≠ FrameType.RST_STREAM := by
      rw [h]
      decide
    have hgoaway : frame.type ≠ FrameType.GOAWAY := by
      rw [h]
      decide
    change client.noted.endFrame frame = _
    rw [endFrame_streamless hnone hrst hgoaway, if_pos hskip.1]

end Streamless

theorem parseSettings_error {buf : Bytes} {value : BitVec 32} {k : Nat} {e : Trap}
    (h : parseSettings client buf value k = .error e) : e = .outOfBounds := by
  induction k generalizing client buf value with
  | zero => contradiction
  | succ k ih =>
    unfold parseSettings at h
    split at h
    . injection h with h
      exact h.symm
    . dsimp only at h
      split at h
      . contradiction
      . exact ih h

theorem parseSettingFrame_error {e : Trap} (h : client.parseSettingFrame frame n = .error e)
    : e = .outOfBounds := by
  unfold parseSettingFrame at h
  cases hsettings : parseSettings client frame.payload 0 ((frame.payloadLength + 5) / 6) with
  | error e' =>
    rw [hsettings] at h
    injection h with h
    rw [← h]
    exact parseSettings_error hsettings
  | ok r =>
    rcases r with ⟨client', ret⟩
    rw [hsettings] at h
    cases ret with
    | none => contradiction
    | some value =>
      simp only [bind, Except.bind] at h
      split at h
      . contradiction
      . contradiction

theorem recvResponse_error {fs : List (Frame × Nat)} {e : Trap}
    (h : client.parseFrame (client.found frame) n = .error e)
    : client.recvResponse ((frame, n) :: fs) = .error e := by
  simp only [recvResponse, h, bind, Except.bind]

theorem recvResponse_continue {fs : List (Frame × Nat)} {client' : Client lib}
    (h : client.parseFrame (client.found frame) n = .ok (client', .fswContinue))
    : client.recvResponse ((frame, n) :: fs) = client'.recvResponse fs := by
  simp only [recvResponse, h, bind, Except.bind]

theorem harmless_of_continue (hparse : client.parseFrame (client.found frame) n ≠ .error .nullDeref)
    (hcontinue : ∀ client' code, client.parseFrame (client.found frame) n = .ok (client', code) →
      code = .fswContinue ∧ client'.streams = client.streams)
    : client.Harmless frame n := by
  refine ⟨hparse, ?_, fun client' code h => (hcontinue client' code h).2⟩
  cases hresult : client.parseFrame (client.found frame) n with
  | error e =>
    rw [recvResponse_error hresult]
    rw [hresult] at hparse
    intro h
    injection h with h
    rw [h] at hparse
    contradiction
  | ok r =>
    rcases r with ⟨client', code⟩
    rw [(hcontinue client' code hresult).1] at hresult
    rw [recvResponse_continue hresult]
    intro h
    contradiction

theorem harmless_of_eq
    (h : client.parseFrame (client.found frame) n = .ok (client.noted, .fswContinue))
    : client.Harmless frame n := by
  apply harmless_of_continue
  . rw [h]
    intro h
    contradiction
  . intro client' code h'
    rw [h] at h'
    rcases ok_pair h' with ⟨rfl, rfl⟩
    rcases client.noted_eq with ⟨lastStreamId, hnoted⟩
    rw [hnoted]
    exact ⟨rfl, rfl⟩

theorem harmless_settings (h : frame.type = FrameType.SETTINGS) : client.Harmless frame n := by
  have htype : (client.found frame).type = FrameType.SETTINGS := h
  apply harmless_of_continue
  . rw [parseFrame_settings _ htype]
    cases hparse : client.noted.parseSettingFrame (client.found frame) n with
    | error e =>
      rw [parseSettingFrame_error hparse]
      intro h
      injection h with h
      contradiction
    | ok r =>
      intro h
      contradiction
  . intro client' code hparse
    rw [parseFrame_settings _ htype] at hparse
    cases hsettings : client.noted.parseSettingFrame (client.found frame) n with
    | error e =>
      rw [hsettings] at hparse
      contradiction
    | ok r =>
      rcases r with ⟨client₁, ret⟩
      rw [hsettings] at hparse
      rcases ok_pair hparse with ⟨rfl, rfl⟩
      rcases client.noted_eq with ⟨lastStreamId, hnoted⟩
      rw [hnoted] at hsettings
      rcases parseSettingFrame_cases hsettings with
        ⟨settings, deflater, ⟨_, hclient⟩ | ⟨hclient, _⟩⟩
      . rw [hclient]
        exact ⟨rfl, rfl⟩
      . rw [hclient]
        exact ⟨rfl, rfl⟩

theorem parseFrame_unknown (hunknown : client.getStream frame.streamId = none)
    (hskipped : ¬frame.Skipped) (hdata : frame.type ≠ FrameType.DATA)
    (hheaders : frame.type ≠ FrameType.HEADERS)
    : client.parseFrame (client.found frame) n
        = if frame.flags &&& FrameFlag.END_STREAM ≠ 0 then .error .nullDeref
          else .ok (client.noted, .fswContinue) := by
  have hskipped' : ¬(client.found frame).Skipped := hskipped
  rcases Frame.not_skipped hskipped' with ⟨hrst, hgoaway⟩
  rw [parseFrame_other hskipped' hdata hheaders,
    endFrame_streamless (found_unknown hunknown) hrst hgoaway]
  rfl

theorem parseFrame_harmless_iff (client : Client lib) (frame : Frame) (n : Nat)
    (hunknown : client.getStream frame.streamId = none)
    : client.Harmless frame n ↔ frame.Streamless := by
  have hnone := found_unknown hunknown
  constructor
  . intro h
    by_cases hskipped : frame.Skipped
    . exact .inl hskipped
    . have hdata : frame.type ≠ FrameType.DATA := fun htype =>
        h.parse (parseFrame_data_streamless hnone htype)
      have hheaders : frame.type ≠ FrameType.HEADERS := by
        intro htype
        apply h.parse
        rw [parseFrame_headers (client.found frame) htype, parseFrameHeader_streamless hnone]
        rfl
      refine .inr ⟨hdata, hheaders, ?_⟩
      by_contra hend
      apply h.parse
      rw [parseFrame_unknown hunknown hskipped hdata hheaders, if_pos hend]
  . intro h
    by_cases hsettings : frame.type = FrameType.SETTINGS
    . exact harmless_settings hsettings
    . apply harmless_of_eq
      by_cases hskipped : frame.Skipped
      . have hskipped' : (client.found frame).Skipped := hskipped
        exact parseFrame_skipped hskipped' hsettings
      . rcases h with h | ⟨hdata, hheaders, hend⟩
        . contradiction
        . rw [parseFrame_unknown hunknown hskipped hdata hheaders, if_neg (not_not.mpr hend)]

-- A `PRIORITY` frame
theorem parseFrame_harmless_priority
    : (Client.new literalLib () ()).Harmless ⟨[0, 0, 0, 0, 16], 5, 2, 0, 5, none⟩ 0 := by
  apply (parseFrame_harmless_iff (Client.new literalLib () ()) ⟨[0, 0, 0, 0, 16], 5, 2, 0, 5, none⟩
    0 rfl).mpr
  exact .inr ⟨by decide, by decide, by decide⟩

-- `HEADERS`, `DATA`, and a frame of an unknown type with the bit of `END_STREAM`
theorem parseFrame_not_harmless
    : (Client.new literalLib () ()).parseFrame
          ((Client.new literalLib () ()).found ⟨[0x88], 1, FrameType.HEADERS, FrameFlag.END_HEADERS,
            5, none⟩) 0
        = .error .nullDeref
        ∧ (Client.new literalLib () ()).parseFrame
          ((Client.new literalLib () ()).found ⟨[97], 1, FrameType.DATA, 0, 5, none⟩) 0
          = .error .nullDeref
        ∧ (Client.new literalLib () ()).parseFrame
          ((Client.new literalLib () ()).found ⟨[], 0, 10, FrameFlag.END_STREAM, 5, none⟩) 0
          = .error .nullDeref
        ∧ ¬(Client.new literalLib () ()).Harmless ⟨[0x88], 1, FrameType.HEADERS,
          FrameFlag.END_HEADERS, 5, none⟩ 0 := by
  refine ⟨rfl, rfl, rfl, ?_⟩
  intro h
  exact h.parse rfl

end Client
end Http2
end Fsw
