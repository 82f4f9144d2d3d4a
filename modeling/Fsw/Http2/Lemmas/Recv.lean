import Fsw.Buffer.Lemmas.Buffer
import Fsw.Lib.Except
import Fsw.Http2.Impl.Client
import Fsw.Http2.Lemmas.Frame
import Fsw.Http2.Lemmas.Literal

namespace Fsw
namespace Http2

open Http (READ_BUF_MAX_SIZE)
open Websocket (htonl)

structure ServerFrame where
  type : UInt8
  flags : UInt8
  streamId : BitVec 32
  payload : Bytes
  streamId_lt : streamId.toNat < 2 ^ 31
  length_le : FRAME_HEADER_SIZE + payload.length ≤ READ_BUF_MAX_SIZE

namespace ServerFrame

-- Numbers are sent with the most significant byte first.
def bytes (f : ServerFrame) : Bytes :=
  (Bytes.storeLE 3 f.payload.length).reverse ++ [f.type, f.flags]
    ++ (Bytes.storeLE 4 f.streamId.toNat).reverse
    ++ f.payload

structure Yields (f : ServerFrame) (frame : Frame) : Prop where
  type : frame.type = f.type
  flags : frame.flags = f.flags
  streamId : frame.streamId = f.streamId
  payloadLength : frame.payloadLength = f.payload.length
  payload : frame.payload.read? 0 frame.payloadLength = some f.payload

end ServerFrame

theorem storeLE_htonl {x : BitVec 32}
    : Bytes.storeLE 4 (htonl x).toNat = (Bytes.storeLE 4 x.toNat).reverse := by
  have hlt : Bytes.swapLE 4 x.toNat < 2 ^ 32 := Bytes.swapLE_lt
  rw [htonl, BitVec.toNat_ofNat, Nat.mod_eq_of_lt hlt, Bytes.storeLE_swapLE]

theorem ServerFrame.bytes_eq (f : ServerFrame)
    : f.bytes = headerBytes f.type f.payload.length f.flags f.streamId ++ f.payload := by
  have h16 : f.payload.length >>> 16 = f.payload.length / 256 / 256 := by
    rw [Nat.shiftRight_eq_div_pow, Nat.div_div_eq_div_mul]
  have h8 : f.payload.length >>> 8 = f.payload.length / 256 := Nat.shiftRight_eq_div_pow _ _
  rw [bytes, headerBytes, storeLE_htonl, h16, h8]
  rfl

variable {lib : Nghttp2} {client : Client lib}

theorem Client.recv_whole (client : Client lib) (bs : Bytes) (pos : Nat) {len limit : Nat}
    (hbs : bs.length = len) (hlimit : len ≤ limit) (hle : pos + len ≤ client.readBuf.size + 1)
    : ∃ b : Buffer, b.mem = client.readBuf.mem.write pos bs ∧ b.size = client.readBuf.size
        ∧ ∀ rest, client.recv pos len (bs ++ rest) limit
          = .ok ({ client with readBuf := b }, rest) := by
  subst hbs
  rcases Buffer.write_eq_ok client.readBuf bs hle with ⟨b, hb, hmem, hsize⟩
  refine ⟨b, hmem, hsize, ?_⟩
  intro rest
  have htake : (bs ++ rest).take (min bs.length limit) = bs := by
    rw [Nat.min_eq_left hlimit, List.take_left]
  simp only [recv, htake, hb, List.drop_left]
  rfl

theorem Client.recvFrame_whole (f : ServerFrame) (limits : Nat × Nat)
    (hsize : client.readBuf.size = READ_BUF_MAX_SIZE) (hheader : FRAME_HEADER_SIZE ≤ limits.1)
    (hpayload : f.payload.length ≤ limits.2)
    : ∃ (client' : Client lib) (frame : Frame), client'.readBuf.size = READ_BUF_MAX_SIZE
        ∧ f.Yields frame
        ∧ ∀ rest, client.recvFrame (f.bytes ++ rest) limits = .ok (client', rest, frame) := by
  have hlength := f.length_le
  have hlt : f.payload.length < 2 ^ 24 := by
    unfold READ_BUF_MAX_SIZE at hlength
    omega
  have hheaderBytes : (headerBytes f.type f.payload.length f.flags f.streamId).length
    = FRAME_HEADER_SIZE := rfl
  have hle₁ : 0 + FRAME_HEADER_SIZE ≤ client.readBuf.size + 1 := by
    rw [hsize]
    decide
  rcases client.recv_whole _ 0 hheaderBytes hheader hle₁ with ⟨b₁, hmem₁, hsize₁, hrecv₁⟩
  rw [write_zero] at hmem₁
  have hlen₁ : getPayloadLength b₁.mem = f.payload.length := by
    rw [hmem₁, getPayloadLength_headerBytes hlt]
  have hle₂ : FRAME_HEADER_SIZE + f.payload.length ≤ b₁.size + 1 := by
    omega
  rcases Client.recv_whole { client with readBuf := b₁ } f.payload
    FRAME_HEADER_SIZE rfl hpayload hle₂
    with ⟨b₂, hmem₂, hsize₂, hrecv₂⟩
  have hmem : b₂.mem = headerBytes f.type f.payload.length f.flags f.streamId
      ++ (f.payload ++ b₁.mem.drop (FRAME_HEADER_SIZE + f.payload.length)) := by
    rw [hmem₂, Bytes.write, List.append_assoc]
    dsimp only
    rw [hmem₁, List.take_left' hheaderBytes]
  refine ⟨{ client with readBuf := b₂ }, frameOf b₂.mem fun streamId =>
    (client.getStream streamId).isSome, ?_, ?_, ?_⟩
  . rw [← hsize, ← hsize₁]
    exact hsize₂
  . rw [hmem]
    refine ⟨rfl, rfl, ?_, getPayloadLength_headerBytes hlt, ?_⟩
    . unfold frameOf
      dsimp only
      rw [getStreamId_headerBytes, and_mask_eq f.streamId_lt]
    . unfold frameOf
      dsimp only
      rw [getPayloadLength_headerBytes hlt, List.drop_left' hheaderBytes, Bytes.read?, if_pos]
      . rw [List.drop_zero, List.take_left]
      . rw [List.length_append]
        omega
  . intro rest
    rw [f.bytes_eq, List.append_assoc]
    simp only [recvFrame, hrecv₁, bind, Except.bind, hlen₁, hrecv₂]
    rfl

theorem Client.recvFrame_ok {incoming : Bytes} {limits : Nat × Nat}
    {client' : Client lib} {rest : Bytes} {frame : Frame}
    (h : client.recvFrame incoming limits = .ok (client', rest, frame))
    : ∃ b₁ b₂ : Buffer, client.readBuf.write 0 (incoming.take (min FRAME_HEADER_SIZE limits.1))
        = .ok b₁
        ∧ b₁.write FRAME_HEADER_SIZE
            ((incoming.drop (incoming.take (min FRAME_HEADER_SIZE limits.1)).length).take
              (min (getPayloadLength b₁.mem) limits.2)) = .ok b₂
        ∧ client' = { client with readBuf := b₂ }
        ∧ frame = frameOf b₂.mem fun streamId => (client.getStream streamId).isSome := by
  rcases bind_eq_ok h with ⟨⟨client₁, incoming₁⟩, hrecv₁, h⟩
  rcases bind_eq_ok hrecv₁ with ⟨b₁, hb₁, heq₁⟩
  rcases ok_pair heq₁ with ⟨hclient₁, hincoming₁⟩
  subst hclient₁ hincoming₁
  rcases bind_eq_ok h with ⟨⟨client₂, incoming₂⟩, hrecv₂, h⟩
  rcases bind_eq_ok hrecv₂ with ⟨b₂, hb₂, heq₂⟩
  rcases ok_pair heq₂ with ⟨hclient₂, hincoming₂⟩
  subst hclient₂ hincoming₂
  rcases ok_pair h with ⟨hclient', h⟩
  injection h with _ hframe
  exact ⟨b₁, b₂, hb₁, hb₂, hclient'.symm, hframe.symm⟩

/--
How many bytes the payloads of the frames have, and how many bytes the two calls of `recv` for each
frame get at most.
-/
structure Schedule where
  payloads : List Nat
  limits : List (Nat × Nat)
  payloads_le : ∀ n ∈ payloads, FRAME_HEADER_SIZE + n ≤ READ_BUF_MAX_SIZE
  limits_pos : ∀ l ∈ limits, 0 < l.1 ∧ 0 < l.2
  length_eq : limits.length = payloads.length

def wire (frames : List ServerFrame) : Bytes :=
  (frames.map (·.bytes)).flatten

namespace Schedule

def Survives (s : Schedule) (client : Client lib) : Prop :=
  ∀ frames : List ServerFrame, frames.map (·.payload.length) = s.payloads →
    ∀ (k : Nat) (f : ServerFrame), frames[k]? = some f →
      ∃ frame, (client.recvFrames (wire frames) s.limits)[k]? = some frame ∧ f.Yields frame

def Whole (s : Schedule) : Prop :=
  ∀ (k n : Nat) (l : Nat × Nat), s.payloads[k]? = some n → s.limits[k]? = some l
    → FRAME_HEADER_SIZE ≤ l.1 ∧ n ≤ l.2

end Schedule

theorem Client.recvFrames_front (frames : List ServerFrame) {limits : List (Nat × Nat)}
    (hsize : client.readBuf.size = READ_BUF_MAX_SIZE) (hlength : limits.length = frames.length)
    (hwhole : ∀ (k : Nat) (f : ServerFrame) (l : Nat × Nat), frames[k]? = some f
      → limits[k]? = some l →
      FRAME_HEADER_SIZE ≤ l.1 ∧ f.payload.length ≤ l.2)
    : ∃ (client' : Client lib) (received : List Frame), client'.readBuf.size = READ_BUF_MAX_SIZE
        ∧ received.length = frames.length
        ∧ (∀ (k : Nat) (f : ServerFrame), frames[k]? = some f → ∃ frame, received[k]? = some frame
          ∧ f.Yields frame)
        ∧ ∀ rest limits', client.recvFrames (wire frames ++ rest) (limits ++ limits')
            = received ++ client'.recvFrames rest limits' := by
  induction frames generalizing client limits with
  | nil =>
    have hnil : limits = [] := List.eq_nil_of_length_eq_zero hlength
    subst hnil
    exact ⟨client, [], hsize, rfl, by simp, fun _ _ => rfl⟩
  | cons f frames ih =>
    cases limits with
    | nil => contradiction
    | cons l limits =>
      rcases hwhole 0 f l rfl rfl with ⟨hheader, hpayload⟩
      rcases Client.recvFrame_whole f _ hsize hheader hpayload with
        ⟨client₁, frame, hsize₁, hyields, hrecv⟩
      rcases ih hsize₁ (by simpa using hlength) (fun k f l hf hl => hwhole (k + 1) f l hf hl)
        with ⟨client', received, hsize', hlength', hreceived, hrest⟩
      refine ⟨client', frame :: received, hsize',
        by rw [List.length_cons, hlength', List.length_cons], ?_, ?_⟩
      . intro k g hg
        cases k with
        | zero =>
          injection hg with hg
          subst hg
          exact ⟨frame, rfl, hyields⟩
        | succ k => apply hreceived k g hg
      . intro rest limits'
        have hwire : wire (f :: frames) ++ rest = f.bytes ++ (wire frames ++ rest) := by
          rw [wire, List.map_cons, List.flatten_cons, List.append_assoc]
          rfl
        rw [hwire, List.cons_append, recvFrames, hrecv, List.cons_append]
        dsimp only
        rw [hrest]

section Whole

variable {n : Nat} {l : Nat × Nat}

def ServerFrame.plain (streamId : BitVec 32) (payload : Bytes) (hstreamId : streamId.toNat < 2 ^ 31)
    (h : FRAME_HEADER_SIZE + payload.length ≤ READ_BUF_MAX_SIZE) : ServerFrame where
  type := FrameType.DATA
  flags := 0
  streamId := streamId
  payload := payload
  streamId_lt := hstreamId
  length_le := h

def ServerFrame.emptySettings : ServerFrame where
  type := FrameType.SETTINGS
  flags := 0
  streamId := 0
  payload := []
  streamId_lt := by decide
  length_le := by decide

theorem ServerFrame.take_plain {streamId : BitVec 32} {payload tail : Bytes} {y : UInt8}
    {hstreamId : streamId.toNat < 2 ^ 31}
    {h : FRAME_HEADER_SIZE + payload.length ≤ READ_BUF_MAX_SIZE}
    (hy : (Bytes.storeLE 4 streamId.toNat).reverse = [0, 0, 0, y])
    : ((plain streamId payload hstreamId h).bytes ++ tail).take 8
        = (Bytes.storeLE 3 payload.length).reverse ++ [FrameType.DATA, 0, 0, 0, 0] := by
  have hbytes : (plain streamId payload hstreamId h).bytes ++ tail
      = (Bytes.storeLE 3 payload.length).reverse ++ [FrameType.DATA, 0, 0, 0, 0]
        ++ (y :: payload ++ tail) := by
    rw [bytes, plain, hy]
    simp
  rw [hbytes, List.take_left']
  simp

theorem exists_frames {ps : List Nat} (h : ∀ n ∈ ps, FRAME_HEADER_SIZE + n ≤ READ_BUF_MAX_SIZE)
    : ∃ frames : List ServerFrame, frames.map (·.payload.length) = ps := by
  induction ps with
  | nil => exact ⟨[], rfl⟩
  | cons n ps ih =>
    rcases ih (fun m hm => h m (List.mem_cons_of_mem _ hm)) with ⟨frames, hframes⟩
    have hn : FRAME_HEADER_SIZE + (List.replicate n (0 : UInt8)).length ≤ READ_BUF_MAX_SIZE := by
      rw [List.length_replicate]
      exact h n List.mem_cons_self
    refine ⟨.plain 1 (List.replicate n 0) (by decide) hn :: frames, ?_⟩
    rw [List.map_cons, hframes]
    simp [ServerFrame.plain]

def Client.YieldsAll (client : Client lib) (n : Nat) (l : Nat × Nat) (tail : Bytes) : Prop :=
  ∀ f : ServerFrame, f.payload.length = n →
    ∃ client' rest frame, client.recvFrame (f.bytes ++ tail) l = .ok (client', rest, frame)
      ∧ f.Yields frame

theorem getStreamId_congr {buf buf' : Bytes}
    (h : buf.take FRAME_HEADER_SIZE = buf'.take FRAME_HEADER_SIZE)
    : getStreamId buf = getStreamId buf' := by
  have hdrop (buf : Bytes) : (buf.drop 5).take 4 = (buf.take FRAME_HEADER_SIZE).drop 5 := by
    rw [FRAME_HEADER_SIZE, List.drop_take]
  rw [getStreamId, getStreamId, hdrop, hdrop, h]

theorem Client.YieldsAll.header {tail : Bytes} (h : client.YieldsAll n l tail)
    (hn : FRAME_HEADER_SIZE + n ≤ READ_BUF_MAX_SIZE)
    (hsize : client.readBuf.size = READ_BUF_MAX_SIZE)
    : FRAME_HEADER_SIZE ≤ l.1 := by
  by_contra hlt
  have hle : FRAME_HEADER_SIZE + (List.replicate n (0 : UInt8)).length ≤ READ_BUF_MAX_SIZE := by
    rw [List.length_replicate]
    exact hn
  have hstreamId (id : BitVec 32) (hid : id.toNat < 2 ^ 31)
      : ∃ b : Buffer, client.readBuf.write 0
            (((ServerFrame.plain id (List.replicate n 0) hid hle).bytes ++ tail).take l.1) = .ok b
          ∧ getStreamId b.mem = id := by
    rcases h (.plain id (List.replicate n 0) hid hle) (by simp [ServerFrame.plain])
      with ⟨client', rest, frame, hrecv, hyields⟩
    rcases recvFrame_ok hrecv with ⟨b₁, b₂, hb₁, hb₂, _, hframe⟩
    rw [Nat.min_eq_right (Nat.le_of_not_le hlt)] at hb₁
    refine ⟨b₁, hb₁, ?_⟩
    have hid : frame.streamId = id := hyields.streamId
    rw [← hid, hframe]
    unfold frameOf
    dsimp only
    apply getStreamId_congr
    rw [(Buffer.write_ok hb₂).1, Bytes.take_write_of_le (Nat.le_refl _)]
    have hsize₁ := (Buffer.write_ok hb₁).2
    rw [b₁.length_mem, hsize₁, hsize]
    decide
  rcases hstreamId 1 (by decide) with ⟨b, hb, hid⟩
  rcases hstreamId 2 (by decide) with ⟨b', hb', hid'⟩
  have hsame : ((ServerFrame.plain 1 (List.replicate n 0) (by decide) hle).bytes ++ tail).take l.1
      = ((ServerFrame.plain 2 (List.replicate n 0) (by decide) hle).bytes ++ tail).take l.1 := by
    have h8 : l.1 = min l.1 8 := by
      unfold FRAME_HEADER_SIZE at hlt
      omega
    rw [h8, ← List.take_take, ← List.take_take, ServerFrame.take_plain (y := 1) (by decide),
      ServerFrame.take_plain (y := 2) (by decide)]
  rw [hsame, hb'] at hb
  injection hb with hb
  rw [← hb, hid'] at hid
  contradiction

theorem Client.YieldsAll.payload {tail : Bytes} (h : client.YieldsAll n l tail)
    (hn : FRAME_HEADER_SIZE + n ≤ READ_BUF_MAX_SIZE) (hheader : FRAME_HEADER_SIZE ≤ l.1)
    : n ≤ l.2 := by
  by_contra hlt
  rcases Nat.exists_eq_add_of_lt (Nat.lt_of_not_le hlt) with ⟨d, hd⟩
  have hlen (x : UInt8) : (List.replicate (l.2 + d) 0 ++ [x]).length = n := by
    rw [List.length_append, List.length_replicate, hd]
    rfl
  have hle (x : UInt8) : FRAME_HEADER_SIZE + (List.replicate (l.2 + d) 0 ++ [x]).length
    ≤ READ_BUF_MAX_SIZE := by
    rw [hlen]
    exact hn
  have hlt' : n < 2 ^ 24 := by
    unfold READ_BUF_MAX_SIZE at hn
    omega
  have hbytes (x : UInt8)
    : (ServerFrame.plain 1 (List.replicate (l.2 + d) 0 ++ [x]) (by decide) (hle x)).bytes ++ tail
      = headerBytes FrameType.DATA n 0 1 ++ (List.replicate (l.2 + d) 0 ++ ([x] ++ tail)) := by
    rw [ServerFrame.bytes_eq, ← hlen x, List.append_assoc, ServerFrame.plain]
    simp
  have hframe (x : UInt8)
      : ∃ b₁ b₂ : Buffer, client.readBuf.write 0 (headerBytes FrameType.DATA n 0 1) = .ok b₁
          ∧ b₁.write FRAME_HEADER_SIZE ((List.replicate (l.2 + d) 0).take l.2) = .ok b₂
          ∧ Bytes.read? (b₂.mem.drop FRAME_HEADER_SIZE) 0 n
            = some (List.replicate (l.2 + d) 0 ++ [x]) := by
    rcases h (.plain 1 (List.replicate (l.2 + d) 0 ++ [x]) (by decide) (hle x)) (hlen x)
      with ⟨client', rest, frame, hrecv, hyields⟩
    rcases recvFrame_ok hrecv with ⟨b₁, b₂, hb₁, hb₂, _, hframe⟩
    have htake
      : (headerBytes FrameType.DATA n 0 1 ++ (List.replicate (l.2 + d) 0 ++ ([x] ++ tail))).take
        (min FRAME_HEADER_SIZE l.1) = headerBytes FrameType.DATA n 0 1 := by
      rw [Nat.min_eq_left hheader]
      apply List.take_left' length_headerBytes
    rw [hbytes, htake] at hb₁
    have hlength : getPayloadLength b₁.mem = n := by
      rw [(Buffer.write_ok hb₁).1, write_zero, getPayloadLength_headerBytes hlt']
    rw [hbytes, htake, List.drop_left, hlength, Nat.min_eq_right (by omega),
      List.take_append_of_le_length (by simp)] at hb₂
    refine ⟨b₁, b₂, hb₁, hb₂, ?_⟩
    have hpayload := hyields.payload
    rw [hyields.payloadLength, hframe] at hpayload
    rw [← hlen x]
    exact hpayload
  rcases hframe 0 with ⟨b₁, b₂, hb₁, hb₂, hpayload⟩
  rcases hframe 1 with ⟨b₁', b₂', hb₁', hb₂', hpayload'⟩
  rw [hb₁] at hb₁'
  injection hb₁' with hb₁'
  rw [← hb₁', hb₂] at hb₂'
  injection hb₂' with hb₂'
  rw [← hb₂', hpayload] at hpayload'
  simp at hpayload'

namespace Schedule

variable {s : Schedule}

theorem Survives.yieldsAll (h : s.Survives client) (hsize : client.readBuf.size = READ_BUF_MAX_SIZE)
    {k : Nat} (hn : s.payloads[k]? = some n) (hl : s.limits[k]? = some l)
    (hwhole : ∀ (j n : Nat) (l : Nat × Nat), j < k → s.payloads[j]? = some n
      → s.limits[j]? = some l →
      FRAME_HEADER_SIZE ≤ l.1 ∧ n ≤ l.2)
    : ∃ (client' : Client lib) (tail : Bytes), client'.readBuf.size = READ_BUF_MAX_SIZE
        ∧ client'.YieldsAll n l tail := by
  rcases List.getElem?_eq_some_iff.mp hn with ⟨hk, hget⟩
  rcases List.getElem?_eq_some_iff.mp hl with ⟨hk', hget'⟩
  have hpayloads : s.payloads = s.payloads.take k ++ n :: s.payloads.drop (k + 1) := by
    rw [← hget, ← List.drop_eq_getElem_cons hk, List.take_append_drop]
  have hlimits : s.limits = s.limits.take k ++ l :: s.limits.drop (k + 1) := by
    rw [← hget', ← List.drop_eq_getElem_cons hk', List.take_append_drop]
  have htake : ∀ m ∈ s.payloads.take k, FRAME_HEADER_SIZE + m ≤ READ_BUF_MAX_SIZE := by
    intro m hm
    apply s.payloads_le m (List.mem_of_mem_take hm)
  have hdrop : ∀ m ∈ s.payloads.drop (k + 1), FRAME_HEADER_SIZE + m ≤ READ_BUF_MAX_SIZE := by
    intro m hm
    apply s.payloads_le m (List.mem_of_mem_drop hm)
  rcases exists_frames htake with ⟨front, hfront⟩
  rcases exists_frames hdrop with ⟨back, hback⟩
  have hlength : front.length = k := by
    rw [← List.length_map (·.payload.length), hfront, List.length_take]
    omega
  have hlength' : (s.limits.take k).length = front.length := by
    rw [List.length_take]
    omega
  have hfrontWhole : ∀ (j : Nat) (f : ServerFrame) (l : Nat × Nat), front[j]? = some f →
      (s.limits.take k)[j]? = some l → FRAME_HEADER_SIZE ≤ l.1 ∧ f.payload.length ≤ l.2 := by
    intro j f l hf hl
    have hj : j < k := by
      have := (List.getElem?_eq_some_iff.mp hf).1
      omega
    have hpayload : (s.payloads.take k)[j]? = some f.payload.length := by
      rw [← hfront, List.getElem?_map, hf]
      rfl
    rw [List.getElem?_take_of_lt hj] at hpayload hl
    apply hwhole j _ l hj hpayload hl
  rcases Client.recvFrames_front front hsize hlength' hfrontWhole
    with ⟨client', received, hsize', hreceived, _, hrest⟩
  refine ⟨client', wire back, hsize', ?_⟩
  intro f hf
  have hframes : (front ++ f :: back).map (·.payload.length) = s.payloads := by
    rw [List.map_append, List.map_cons, hfront, hback, hf]
    exact hpayloads.symm
  have hwire : wire (front ++ f :: back) = wire front ++ (f.bytes ++ wire back) := by
    simp [wire]
  have hget : (front ++ f :: back)[k]? = some f := by
    rw [← hlength]
    simp
  rcases h _ hframes k f hget with ⟨frame, hframe, hyields⟩
  rw [hwire, hlimits, hrest, List.getElem?_append_right (by omega),
    hreceived, hlength, Nat.sub_self, Client.recvFrames] at hframe
  split at hframe
  . next client'' rest frame' hrecv =>
    injection hframe with hframe
    subst hframe
    exact ⟨client'', rest, frame', hrecv, hyields⟩
  . contradiction

theorem Survives.whole (h : s.Survives client) (hsize : client.readBuf.size = READ_BUF_MAX_SIZE)
    : s.Whole := by
  intro k
  induction k using Nat.strong_induction_on with
  | _ k ih =>
    intro n l hn hl
    have hle := s.payloads_le n (List.mem_of_getElem? hn)
    rcases h.yieldsAll hsize hn hl (fun j n l hj => ih j hj n l) with
      ⟨client', tail, hsize', hyields⟩
    have hheader := hyields.header hle hsize'
    exact ⟨hheader, hyields.payload hle hheader⟩

theorem Whole.survives (h : s.Whole) (hsize : client.readBuf.size = READ_BUF_MAX_SIZE)
    : s.Survives client := by
  intro frames hframes k f hf
  have hlength : s.limits.length = frames.length := by
    rw [s.length_eq, ← hframes, List.length_map]
  have hwhole : ∀ (k : Nat) (f : ServerFrame) (l : Nat × Nat), frames[k]? = some f
    → s.limits[k]? = some l →
      FRAME_HEADER_SIZE ≤ l.1 ∧ f.payload.length ≤ l.2 := by
    intro k f l hf hl
    apply h k _ l _ hl
    rw [← hframes, List.getElem?_map, hf]
    rfl
  rcases Client.recvFrames_front frames hsize hlength hwhole with
    ⟨client', received, _, _, hreceived, hrest⟩
  rcases hreceived k f hf with ⟨frame, hframe, hyields⟩
  refine ⟨frame, ?_, hyields⟩
  have hrun := hrest [] []
  rw [List.append_nil, List.append_nil, Client.recvFrames, List.append_nil] at hrun
  rw [hrun]
  exact hframe

/--
All sequences of frames with payloads of the given lengths survive if and only if no `recv` returns
less than it has been asked for.
-/
theorem survives_iff_whole (s : Schedule) (client : Client lib)
    (hsize : client.readBuf.size = READ_BUF_MAX_SIZE)
    : s.Survives client ↔ s.Whole := by
  constructor
  . intro h
    apply h.whole hsize
  . intro h
    apply h.survives hsize

-- A frame with the three settings that a client of this library sends, too
def settingsFrame : Schedule where
  payloads := [18]
  limits := [(9, 1015)]
  payloads_le := by decide
  limits_pos := by decide
  length_eq := rfl

theorem settingsFrame_survives : settingsFrame.Survives (Client.new literalLib () ()) := by
  apply (survives_iff_whole settingsFrame (Client.new literalLib () ()) rfl).mpr
  intro k n l hn hl
  match k with
  | 0 =>
    injection hn with hn
    injection hl with hl
    subst hn hl
    decide
  | k + 1 => contradiction

-- An empty frame whose header is received in two pieces
def cutHeader : Schedule where
  payloads := [0, 0]
  limits := [(3, 1015), (9, 1015)]
  payloads_le := by decide
  limits_pos := by decide
  length_eq := rfl

def cutHeaderBytes : Bytes :=
  [0, 0, 0, 4, 0, 0, 0, 0, 0, 0, 0, 0, 4, 0, 0, 0, 0, 0]

theorem cutHeader_not_survives
    : wire [.emptySettings, .emptySettings] = cutHeaderBytes
      ∧ (((Client.new literalLib () ()).recvFrames cutHeaderBytes cutHeader.limits).map fun frame =>
          (frame.type, frame.payloadLength)) = [(0, 0), (0, 0x040000)]
      ∧ ¬cutHeader.Survives (Client.new literalLib () ()) := by
  refine ⟨by decide, by decide +kernel, ?_⟩
  intro h
  have hle := (h.whole rfl 0 0 (3, 1015) rfl rfl).1
  contradiction

end Schedule

end Whole

end Http2
end Fsw
