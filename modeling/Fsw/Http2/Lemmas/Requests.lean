import Mathlib.Algebra.Order.BigOperators.Group.List
import Mathlib.Algebra.Order.Group.Nat
import Fsw.Hpack.Lemmas.Session
import Fsw.Http2.Lemmas.Entries
import Fsw.Http2.Lemmas.Library
import Fsw.Http2.Lemmas.Send
import Fsw.Http2.Lemmas.Settings

namespace Fsw
namespace Http2

open Hpack (WideShift)
open Client (headers)

/--
What a server keeps of a connection: its inflater, and what it has got for each stream.
-/
structure Server where
  inflater : Hpack.Inflater
  got : List (BitVec 32 × Except Hpack.Error (List Hpack.HdNv))

-- What an entry of a `SETTINGS` frame means to the one who has sent it
def applyEntry (inflater : Hpack.Inflater) (entry : Entry) : Except Hpack.Error Hpack.Inflater :=
  if entry.1 = 0x1 then inflater.changeTableSize entry.2.toNat else .ok inflater

-- Settings of the server take effect when they are acknowledged. `entries` are those that are
-- acknowledged.
def Server.receive (wide : WideShift) (entries : List Entry) (server : Server) (frame : Frame)
    : Server :=
  if frame.type = FrameType.HEADERS then
    match server.inflater.inflateHeaderBlock wide (frame.payload.take frame.payloadLength) true with
    | (inflater, nvs, none) => ⟨inflater, server.got ++ [(frame.streamId, .ok nvs)]⟩
    | (inflater, _, some e) => ⟨inflater, server.got ++ [(frame.streamId, .error e)]⟩
  else if frame.type = FrameType.SETTINGS && frame.flags &&& FrameFlag.ACK ≠ 0 then
    match entries.foldlM applyEntry server.inflater with
    | .ok inflater => { server with inflater }
    | .error e => { server with got := server.got ++ [(frame.streamId, .error e)] }
  else
    server

structure Conn (wide : WideShift) where
  client : Client (Nghttp2.vendored wide)
  server : Server

def Call.entries : Call → List Entry
  | .sendRequest _ _ _ => []
  | .writeData _ _ _ _ => []
  | .parse frame _ => entriesOf (frame.payloadLength / 6) frame.payload

namespace Conn

variable {wide : WideShift}

-- The stream of a request, and the fields that `build_http_header` makes of it
def built (conn : Conn wide) : Call → List (BitVec 32 × List (Bytes × Bytes))
  | .sendRequest u req _ => [(conn.client.streamId, headers u req)]
  | .writeData _ _ _ _ => []
  | .parse _ _ => []

/--
The client is driven by any calls, and the server reads what is sent.
-/
def machine (wide : WideShift) (connected : Bool) (ns : Nat × Nat)
    : Machine (Conn wide) Call (BitVec 32 × List (Bytes × Bytes)) Trap where
  init :=
    { client := Client.start (Nghttp2.inflateNew wide)
        (Hpack.Deflater.init DEFAULT_HEADER_TABLE_SIZE.toNat : (Nghttp2.vendored wide).Deflater)
        connected ns
      server := ⟨.init, []⟩ }
  step := fun conn c => do
    let (client, _) ← conn.client.call c
    let server := (client.sentFrames conn.client).foldl (Server.receive wide c.entries) conn.server
    return (⟨client, server⟩, conn.built c)

-- The memory for a header block has as many bytes as `nghttp2_hd_deflate_hd` is told.
def Fits (u : Uninit) (req : Request) : Prop :=
  FRAME_HEADER_SIZE + Hpack.Deflater.deflateBound ((headers u req).map toNv) ≤ STACK_BUFFER_SIZE + 1

instance (u : Uninit) (req : Request) : Decidable (Fits u req) :=
  inferInstanceAs (Decidable (_ ≤ _))

/--
Header blocks and answers to settings get through, and a `SETTINGS` frame is there with nothing but
entries.
-/
def Proper (conn : Conn wide) : Call → Prop
  | .sendRequest u req ns =>
    Fits u req ∧ conn.client.streamId.toNat < 2 ^ 31
      ∧ ∀ bs ∈ ((Nghttp2.vendored wide).deflateHd conn.client.deflater (headers u req)).2,
        ns.1 = FRAME_HEADER_SIZE + bs.length
  | .writeData _ _ _ _ => True
  | .parse frame n =>
    frame.type = FrameType.SETTINGS →
      n = FRAME_HEADER_SIZE ∧ frame.payloadLength % 6 = 0
        ∧ frame.payloadLength ≤ frame.payload.length

end Conn

section Client

variable {lib : Nghttp2} {client client' : Client lib} {frame : Frame} {n : Nat} {code : ReturnCode}

structure Untouched (client client' : Client lib) : Prop where
  deflater : client'.deflater = client.deflater
  settings : client'.remoteSettings = client.remoteSettings

namespace Client

theorem endFrame_untouched (h : client.endFrame frame = .ok (client', code))
    (hrst : frame.type ≠ FrameType.RST_STREAM) (hgoaway : frame.type ≠ FrameType.GOAWAY)
    : Untouched client client' := by
  rcases endFrame_cases hrst hgoaway h with ⟨hclient, _⟩ | ⟨_, p, stream, _, hstream, hclient⟩
  . rw [hclient]
    exact ⟨rfl, rfl⟩
  . rw [hclient]
    exact ⟨rfl, rfl⟩

theorem noted_untouched : Untouched client client.noted := by
  rcases client.noted_eq with ⟨lastStreamId, hnoted⟩
  rw [hnoted]
  exact ⟨rfl, rfl⟩

theorem parseFrame_untouched (h : client.parseFrame (client.found frame) n = .ok (client', code))
    (htype : frame.type ≠ FrameType.SETTINGS)
    : Untouched client client' := by
  have htrans {client₁ : Client lib} (h₁ : Untouched client client₁)
    (h₂ : Untouched client₁ client')
      : Untouched client client' := ⟨h₂.deflater.trans h₁.deflater, h₂.settings.trans h₁.settings⟩
  by_cases hskipped : (client.found frame).Skipped
  . rw [parseFrame_skipped hskipped htype] at h
    rcases ok_pair h with ⟨rfl, _⟩
    exact noted_untouched
  . rcases Frame.not_skipped hskipped with ⟨hrst, hgoaway⟩
    by_cases hheaders : frame.type = FrameType.HEADERS
    . rw [parseFrame_headers (client.found frame) hheaders] at h
      rcases bind_eq_ok h with ⟨⟨client₁, ok⟩, hparse, hend⟩
      rcases parseFrameHeader_cases hparse with ⟨inflater, rfl⟩
      have hend' := endFrame_untouched hend hrst hgoaway
      exact htrans noted_untouched ⟨hend'.deflater, hend'.settings⟩
    . by_cases hdata : frame.type = FrameType.DATA
      . rw [parseFrame_data (client.found frame) hdata] at h
        rcases bind_eq_ok h with ⟨client₁, hparse, hend⟩
        have hend' := endFrame_untouched hend hrst hgoaway
        rcases parsePayload_cases hparse with
          ⟨rfl, _⟩ | ⟨p, stream, stream', _, hstream, _, hresponse, rfl⟩
        . exact htrans noted_untouched hend'
        . exact htrans noted_untouched ⟨hend'.deflater, hend'.settings⟩
      . rw [parseFrame_other hskipped hdata hheaders] at h
        exact htrans noted_untouched (endFrame_untouched h hrst hgoaway)

end Client

end Client

section Run

variable {wide : WideShift} {u : Uninit} {req : Request} {conn : Conn wide}
  {client client' : Client (Nghttp2.vendored wide)} {inflater : Hpack.Inflater}

/--
Both sides have the same size of the table and the same fields in it.
-/
structure InStep (client : Client (Nghttp2.vendored wide)) (inflater : Hpack.Inflater) : Prop where
  follows : ∃ table table', Hpack.Follows (client.deflater : Hpack.Deflater) inflater table table'
  settings : inflater.settingsHdTableBufsizeMax = client.remoteSettings.headerTableSize.toNat

theorem Untouched.inStep (h : Untouched client client') (hstep : InStep client inflater)
    : InStep client' inflater := by
  refine ⟨?_, ?_⟩
  . rw [h.deflater]
    exact hstep.follows
  . rw [h.settings]
    exact hstep.settings

theorem InStep.parseSetting (h : InStep client inflater) (entry : Entry)
    : ∃ client' inflater', client.parseSetting entry.1 entry.2 = (client', true)
        ∧ applyEntry inflater entry = .ok inflater' ∧ InStep client' inflater' := by
  obtain ⟨table, table', hfollows⟩ := h.follows
  by_cases hid : entry.1 = 0x1
  . unfold Client.parseSetting applyEntry
    rw [if_pos hid, if_pos hid]
    by_cases hne : entry.2 ≠ client.remoteSettings.headerTableSize
    . obtain ⟨deflater', inflater', hdeflater, hinflater, hfollows', -, -, hsettings⟩ :=
        hfollows.changeTableSize entry.2
      have hchange : (Nghttp2.vendored wide).deflateChangeTableSize client.deflater entry.2
        = some deflater' := by
        change (Hpack.Deflater.changeTableSize client.deflater entry.2.toNat).toOption = _
        rw [hdeflater]
        rfl
      rw [if_pos hne]
      dsimp only
      rw [hchange, hinflater]
      exact ⟨_, _, rfl, rfl, ⟨_, _, hfollows'⟩, hsettings⟩
    . rw [not_not] at hne
      have hsize : inflater.settingsHdTableBufsizeMax < 2 ^ 64 := by
        rw [h.settings]
        exact Nat.lt_trans (BitVec.isLt _) (by decide)
      obtain ⟨inflater', table₁', hinflater, hfollows', hsettings⟩ := hfollows.announce hsize
      rw [h.settings, ← hne] at hinflater
      rw [if_neg (not_not.mpr hne), hinflater]
      exact ⟨_, _, rfl, rfl, ⟨_, _, hfollows'⟩, hsettings.trans h.settings⟩
  . unfold Client.parseSetting applyEntry
    rw [if_neg hid, if_neg hid]
    split
    . exact ⟨_, _, rfl, rfl, h.follows, h.settings⟩
    . split
      . exact ⟨_, _, rfl, rfl, h.follows, h.settings⟩
      . split
        . exact ⟨_, _, rfl, rfl, h.follows, h.settings⟩
        . split
          . exact ⟨_, _, rfl, rfl, h.follows, h.settings⟩
          . exact ⟨_, _, rfl, rfl, h⟩

theorem InStep.parseSettings (h : InStep client inflater) (value : BitVec 32)
    {buf : Bytes} {n : Nat} (hn : 6 * n ≤ buf.length)
    : ∃ client' inflater' value', Client.parseSettings client buf value n
        = .ok (client', some value')
        ∧ (entriesOf n buf).foldlM applyEntry inflater = .ok inflater'
        ∧ InStep client' inflater' := by
  induction n generalizing client inflater value buf with
  | zero => exact ⟨client, inflater, value, rfl, rfl, h⟩
  | succ n ih =>
    have hread : buf.read? 0 6 = some (buf.take 6) := Bytes.read?_zero (by omega)
    have hentry := entryOf_ntoh (buf.take 6) (by rw [List.length_take]; omega)
    rw [entryOf_take (by omega)] at hentry
    obtain ⟨client₁, inflater₁, hsetting, happly, h₁⟩ := h.parseSetting (entryOf buf)
    rw [← hentry] at hsetting
    have hle : 6 * n ≤ (buf.drop 6).length := by
      rw [List.length_drop]
      omega
    obtain ⟨client', inflater', value', hsettings, hentries, h'⟩ := ih h₁ (entryOf buf).2 hle
    refine ⟨client', inflater', value', ?_, ?_, h'⟩
    . unfold Client.parseSettings
      rw [hread]
      dsimp only at hsetting ⊢
      rw [hsetting]
      rw [← hentry] at hsettings
      exact hsettings
    . rw [entriesOf, List.foldlM_cons, happly]
      exact hentries

theorem InStep.parseFrame {frame : Frame} (h : InStep client inflater)
    (htype : frame.type = FrameType.SETTINGS) (hmod : frame.payloadLength % 6 = 0)
    (hlength : frame.payloadLength ≤ frame.payload.length)
    : ∃ client' code, client.parseFrame (client.found frame) FRAME_HEADER_SIZE = .ok (client', code)
        ∧ client'.sent = client.sent ++ [Client.settingAck frame.streamId]
        ∧ ∃ inflater', (entriesOf (frame.payloadLength / 6) frame.payload).foldlM applyEntry
          inflater = .ok inflater'
          ∧ InStep client' inflater' := by
  have hn : (frame.payloadLength + 5) / 6 = frame.payloadLength / 6 := by omega
  have hnoted : InStep client.noted inflater := Client.noted_untouched.inStep h
  obtain ⟨client₁, inflater₁, value, hsettings, hentries, h₁⟩ :=
    @InStep.parseSettings wide client.noted inflater hnoted 0 frame.payload
      (frame.payloadLength / 6) (by omega)
  have hsent : client₁.sent = client.sent := by
    rcases Client.parseSettings_eq hsettings with ⟨settings, deflater, hclient₁⟩
    rw [hclient₁]
    exact Client.noted_same.sent
  rw [← hn] at hsettings
  have hparse := @Client.parseSettingFrame_some _ _ _ (client.found frame) value hsettings
  refine ⟨{ client₁ with sent := client₁.sent ++ [Client.settingAck frame.streamId] },
    .fswContinue, ?_, ?_, inflater₁, hentries, ⟨h₁.follows, h₁.settings⟩⟩
  . rw [Client.parseFrame_settings (client.found frame) htype, hparse]
    rfl
  . rw [← hsent]

def delivered (fields : List (Bytes × Bytes)) : List Hpack.HdNv :=
  fields.map fun nv => (toNv nv).received

theorem length_le_deflateBound {nvs : List Hpack.Nv} {nv : Hpack.Nv} (h : nv ∈ nvs)
    : nv.name.length + nv.value.length ≤ Hpack.Deflater.deflateBound nvs := by
  have hmem : nv.name.length + nv.value.length ∈ nvs.map fun nv =>
    nv.name.length + nv.value.length :=
    List.mem_map_of_mem h
  have := List.le_sum_of_mem hmem
  rw [Hpack.Deflater.deflateBound]
  omega

-- There is less memory than what the inflater accepts of a string.
theorem readable_of_fits (h : Conn.Fits u req) : ∀ nv ∈ (headers u req).map toNv, nv.Readable := by
  intro nv hnv
  have hle := length_le_deflateBound hnv
  have hname := Hpack.length_wire_le nv.name
  have hvalue := Hpack.length_wire_le nv.value
  rw [Conn.Fits, FRAME_HEADER_SIZE, STACK_BUFFER_SIZE] at h
  constructor
  . rw [Hpack.Readable, Hpack.HD_MAX_NV]
    omega
  . rw [Hpack.Readable, Hpack.HD_MAX_NV]
    omega

theorem InStep.deflateHd (h : InStep client inflater) (hfits : Conn.Fits u req)
    : ∃ deflater' bs inflater',
        (Nghttp2.vendored wide).deflateHd client.deflater (headers u req) = (deflater', some bs)
        ∧ inflater.inflateHeaderBlock wide bs true = (inflater', delivered (headers u req), none)
        ∧ InStep { client with deflater := deflater' } inflater'
        ∧ FRAME_HEADER_SIZE + bs.length ≤ STACK_BUFFER_SIZE + 1 ∧ bs ≠ [] := by
  obtain ⟨table, table', hfollows⟩ := h.follows
  obtain ⟨deflater', bs, inflater', table₁, table₁', hdeflate, hinflate, hfollows',
    -, -, hsettings, hle, hne, -⟩ :=
    hfollows.block wide (List.replicate (Hpack.Deflater.deflateBound ((headers u req).map toNv)) 0)
      (readable_of_fits hfits) (Nat.le_of_eq List.length_replicate.symm)
  rw [List.map_map] at hinflate
  refine ⟨deflater', bs, inflater', ?_, hinflate, ⟨⟨_, _, hfollows'⟩, hsettings.trans h.settings⟩,
    ?_, hne ?_⟩
  . change ((Hpack.Deflater.deflateHd client.deflater _ _).1,
      (Hpack.Deflater.deflateHd client.deflater _ _).2.toOption)
      = _
    rw [hdeflate]
    rfl
  . rw [Conn.Fits] at hfits
    omega
  . exact List.cons_ne_nil _ _

theorem receive_headers {entries : List Entry} {server : Server} {frame : Frame}
    {nvs : List Hpack.HdNv} (htype : frame.type = FrameType.HEADERS)
    (h : server.inflater.inflateHeaderBlock wide (frame.payload.take frame.payloadLength) true
      = (inflater, nvs, none))
    : server.receive wide entries frame
        = ⟨inflater, server.got ++ [(frame.streamId, .ok nvs)]⟩ := by
  rw [Server.receive, if_pos htype, h]

-- The type of a frame is `DATA` as long as it is not there.
theorem receive_data {entries : List Entry} {server : Server} {flags : UInt8}
    {streamId : BitVec 32} {bs : Bytes} {n : Nat}
    : server.receive wide entries
        (frameOf ((frameBytes FrameType.DATA flags streamId bs).take n) fun _ => false)
        = server := by
  have htype : ((frameBytes FrameType.DATA flags streamId bs).take n).getD 3 0
    = FrameType.DATA := by
    by_cases hn : 3 < n
    . rw [List.getD_eq_getElem?_getD, List.getElem?_take_of_lt hn]
      rfl
    . rw [List.getD_eq_getElem?_getD, List.getElem?_take_eq_none (Nat.le_of_not_lt hn)]
      rfl
  have hheaders : ¬FrameType.DATA = FrameType.HEADERS := by decide
  have hsettings : ¬FrameType.DATA = FrameType.SETTINGS := by decide
  rw [Server.receive, frameOf]
  dsimp only
  rw [htype, if_neg hheaders, decide_eq_false hsettings, Bool.false_and, if_neg Bool.false_ne_true]

theorem InStep.sendRequest {ns : Nat × Nat} {id : BitVec 32} (entries : List Entry)
    (server : Server) (h : InStep client server.inflater) (hfits : Conn.Fits u req)
    (hid : client.streamId.toNat < 2 ^ 31)
    (hns : ∀ bs ∈ ((Nghttp2.vendored wide).deflateHd client.deflater (headers u req)).2,
      ns.1 = FRAME_HEADER_SIZE + bs.length)
    (hsend : client.sendRequest u req ns = .ok (client', id))
    : ∃ inflater', (client'.sentFrames client).foldl (Server.receive wide entries) server
          = ⟨inflater', server.got ++ [(client.streamId, .ok (delivered (headers u req)))]⟩
        ∧ InStep client' inflater' := by
  rcases Client.sendRequest_eq hsend with ⟨deflater', bs, body, hdeflate, -, -, -, -, hclient'⟩
  obtain ⟨deflater'', bs', inflater', hdeflate', hinflate, hstep, hlength, -⟩ := h.deflateHd hfits
  rw [hdeflate] at hdeflate'
  cases hdeflate'
  rw [hdeflate] at hns
  rw [hns bs rfl, List.take_of_length_le (Nat.le_of_eq length_frameBytes)] at hclient'
  have hframe := @frameOf_frameBytes client.streamId FrameType.HEADERS req.headerFlags bs
    (by rw [FRAME_HEADER_SIZE, STACK_BUFFER_SIZE] at hlength; omega) hid
  have hpayload : (frameOf (frameBytes FrameType.HEADERS req.headerFlags client.streamId bs)
    fun _ => false).payload
      = bs := by
    rw [frameOf, frameBytes]
    exact List.drop_left' length_headerBytes
  refine ⟨inflater', ?_, ?_⟩
  . rw [hclient', Client.sentFrames]
    dsimp only
    rw [List.drop_left, List.map_cons, List.map_singleton, List.foldl_cons,
      List.foldl_cons, List.foldl_nil, receive_data]
    have hread := @receive_headers wide inflater' entries server _ _ hframe.type
      (by rw [hpayload, hframe.payloadLength, List.take_length]; exact hinflate)
    rw [hread, hframe.streamId]
  . rw [hclient']
    exact ⟨hstep.follows, hstep.settings⟩

theorem receive_ack {entries : List Entry} {server : Server} {streamId : BitVec 32}
    (h : entries.foldlM applyEntry server.inflater = .ok inflater)
    : server.receive wide entries (frameOf (Client.settingAck streamId) fun _ => false)
        = { server with inflater := inflater } := by
  have htype : (frameOf (Client.settingAck streamId) fun _ => false).type = FrameType.SETTINGS :=
    rfl
  have hflags : (frameOf (Client.settingAck streamId) fun _ => false).flags = FrameFlag.ACK := rfl
  have hheaders : ¬FrameType.SETTINGS = FrameType.HEADERS := by decide
  rw [Server.receive, htype, hflags, if_neg hheaders, if_pos (by decide), h]

/--
What holds between two calls: `built` are the requests that have been sent.
-/
structure Conn.Synced (conn : Conn wide) (built : List (BitVec 32 × List (Bytes × Bytes)))
    : Prop where
  inStep : InStep conn.client conn.server.inflater
  got : conn.server.got = built.map fun x => (x.1, .ok (delivered x.2))

namespace Conn

theorem Synced.call {built : List (BitVec 32 × List (Bytes × Bytes))} {c : Call} {es : List Event}
    (h : conn.Synced built) (hproper : conn.Proper c)
    (hcall : conn.client.call c = .ok (client', es))
    : Synced ⟨client',
        (client'.sentFrames conn.client).foldl (Server.receive wide c.entries) conn.server⟩
        (built ++ conn.built c) := by
  cases Client.Called.of_call hcall with
  | @sendRequest u req ns _ hsend =>
    obtain ⟨inflater', hreceive, hstep⟩ :=
      h.inStep.sendRequest [] conn.server hproper.1 hproper.2.1 hproper.2.2 hsend
    refine ⟨?_, ?_⟩
    . rw [Call.entries, hreceive]
      exact hstep
    . rw [Call.entries, hreceive, Conn.built, List.map_append, ← h.got]
      rfl
  | @writeData streamId data endStream n _ hwrite =>
    have hclient' := (Client.writeData_eq hwrite).2.2
    have hserver : (client'.sentFrames conn.client).foldl (Server.receive wide []) conn.server
      = conn.server := by
      rw [hclient', Client.sentFrames]
      dsimp only
      rw [List.drop_left, List.map_singleton, List.foldl_cons, List.foldl_nil, receive_data]
    refine ⟨?_, ?_⟩
    . rw [Call.entries, hserver, hclient']
      exact ⟨h.inStep.follows, h.inStep.settings⟩
    . rw [Call.entries, hserver, Conn.built, List.append_nil]
      exact h.got
  | @parse frame n _ code hparse =>
    rw [Call.entries, Conn.built, List.append_nil]
    by_cases htype : frame.type = FrameType.SETTINGS
    . obtain ⟨rfl, hmod, hlength⟩ := hproper htype
      obtain ⟨client'', code', hparse', hsent, inflater', hentries, hstep⟩ :=
        h.inStep.parseFrame htype hmod hlength
      rw [hparse] at hparse'
      cases hparse'
      have hserver : (client'.sentFrames conn.client).foldl
          (Server.receive wide (entriesOf (frame.payloadLength / 6) frame.payload)) conn.server
          = { conn.server with inflater := inflater' } := by
        rw [Client.sentFrames, hsent, List.drop_left, List.map_singleton,
          List.foldl_cons, List.foldl_nil, receive_ack hentries]
      rw [hserver]
      exact ⟨hstep, h.got⟩
    . have hserver : (client'.sentFrames conn.client).foldl
          (Server.receive wide (entriesOf (frame.payloadLength / 6) frame.payload)) conn.server
            = conn.server := by
        rw [Client.sentFrames, (Client.parseFrame_same hparse htype).sent, List.drop_length]
        rfl
      rw [hserver]
      exact ⟨(Client.parseFrame_untouched hparse htype).inStep h.inStep, h.got⟩

instance {conn : Conn wide} {c : Call} : Decidable (conn.Proper c) :=
  match c with
  | .sendRequest _ _ _ => inferInstanceAs (Decidable (_ ∧ _ ∧ _))
  | .writeData _ _ _ _ => inferInstanceAs (Decidable True)
  | .parse _ _ => inferInstanceAs (Decidable (_ → _))

end Conn

end Run

end Http2
end Fsw
