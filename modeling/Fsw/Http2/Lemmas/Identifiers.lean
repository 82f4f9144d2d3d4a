import Fsw.Http2.Lemmas.Send
import Fsw.Http2.Lemmas.Settings

namespace Fsw
namespace Http2

variable {lib : Nghttp2} {client client' begin : Client lib} {id : BitVec 32}
  {tr : List Event} {n : Nat}

def Event.requestedId : Event → Option (BitVec 32)
  | .requested streamId _ _ => some streamId
  | _ => none

def idsOf (tr : List Event) : List (BitVec 32) :=
  tr.filterMap Event.requestedId

def nthId (n : Nat) : BitVec 32 :=
  BitVec.ofNat 32 (2 * n + 1)

def Client.headersSent (client begin : Client lib) : List (BitVec 32) :=
  ((client.sentFrames begin).filter fun frame => frame.type = FrameType.HEADERS).map fun frame =>
    frame.streamId

/--
The identifiers of all streams are valid, each is the one of its own stream, and so is what a server
makes of it in a frame. The next one is still free.
-/
structure Client.Identified (client begin : Client lib) (tr : List Event) : Prop where
  odd : ∀ id ∈ idsOf tr, id.toNat % 2 = 1
  increasing : (idsOf tr).Pairwise fun id id' => id.toNat < id'.toNat
  lt : ∀ id ∈ idsOf tr, id.toNat < 2 ^ 31
  own : ∀ id ∈ idsOf tr, ∃ stream, client.getStream id = some stream ∧ stream.streamId = id
  fresh : client.getStream client.streamId = none
  headers : client.headersSent begin = idsOf tr
  data : ∀ id ∈ idsOf tr, ∃ frame ∈ client.sentFrames begin, frame.type = FrameType.DATA
    ∧ frame.streamId = id
  received : ∀ id ∈ idsOf tr, ∀ type length flags rest,
    client.getStream (getStreamId (headerBytes type length flags id ++ rest)) = client.getStream id

def Client.Successful (client : Client lib) : Call → Prop
  | .sendRequest u req ns =>
    (∀ bs ∈ (lib.deflateHd client.deflater (Client.headers u req)).2,
      FRAME_HEADER_SIZE + bs.length ≤ ns.1)
      ∧ FRAME_HEADER_SIZE + req.bodyLength ≤ ns.2
  | _ => True

theorem nthId_succ : nthId (n + 1) = nthId n + 2 := by
  rw [nthId, nthId, Nat.mul_add, Nat.add_right_comm, BitVec.ofNat_add]
  rfl

theorem toNat_nthId (h : n ≤ 2 ^ 30) : (nthId n).toNat = 2 * n + 1 := by
  rw [nthId, BitVec.toNat_ofNat]
  apply Nat.mod_eq_of_lt
  omega

section Wire

variable {type flags : UInt8} {bs : Bytes} {find : BitVec 32 → Bool}

theorem type_frameOf_take
    : (frameOf ((frameBytes type flags id bs).take n) find).type = type
        ∨ (frameOf ((frameBytes type flags id bs).take n) find).type = 0 := by
  change ((frameBytes type flags id bs).take n).getD 3 0 = _
    ∨ ((frameBytes type flags id bs).take n).getD 3 0 = _
  rw [List.getD_eq_getElem?_getD, List.getElem?_take]
  by_cases hn : 3 < n
  . rw [if_pos hn]
    exact .inl rfl
  . rw [if_neg hn]
    exact .inr rfl

theorem frameOf_frameBytes_streamId
    : (frameOf (frameBytes type flags id bs) find).streamId = id &&& 0x7fffffff :=
  getStreamId_headerBytes

end Wire

namespace Client

theorem sentFrames_append {chunks : List Bytes} (hsent : client'.sent = client.sent ++ chunks)
    (hle : begin.sent.length ≤ client.sent.length)
    : client'.sentFrames begin = client.sentFrames begin ++ chunks.map fun bs =>
        frameOf bs fun _ => false := by
  rw [sentFrames, sentFrames, hsent, List.drop_append_of_le_length hle, List.map_append]

theorem headersSent_append {chunks : List Bytes} (hsent : client'.sent = client.sent ++ chunks)
    (hle : begin.sent.length ≤ client.sent.length)
    (h : ∀ bs ∈ chunks, (frameOf bs fun _ => false).type ≠ FrameType.HEADERS)
    : client'.headersSent begin = client.headersSent begin := by
  have hnil : ((chunks.map fun bs => frameOf bs fun _ => false).filter fun frame =>
    frame.type = FrameType.HEADERS)
      = [] := by
    rw [List.filter_eq_nil_iff]
    intro frame hframe
    rcases List.mem_map.mp hframe with ⟨bs, hbs, rfl⟩
    simp [h bs hbs]
  rw [headersSent, sentFrames_append hsent hle, List.filter_append, hnil, List.append_nil]
  rfl

structure Numbered (client begin : Client lib) (tr : List Event) : Prop where
  ids : idsOf tr = (List.range (idsOf tr).length).map nthId
  next : client.streamId = nthId (idsOf tr).length
  opened : ∀ id, (client.getStream id).isSome ↔ id ∈ idsOf tr
  own : ∀ id stream, client.getStream id = some stream → stream.streamId = id
  sent_le : begin.sent.length ≤ client.sent.length
  headers : client.headersSent begin = (idsOf tr).map (· &&& 0x7fffffff)
  data : ∀ id ∈ idsOf tr, ∃ frame ∈ client.sentFrames begin,
    frame.type = FrameType.DATA ∧ frame.streamId = id &&& 0x7fffffff

theorem Numbered.other {es : List Event} (h : client.Numbered begin tr) (chunks : List Bytes)
    (hes : idsOf es = []) (hnext : client'.streamId = client.streamId)
    (hopened : ∀ id, (client'.getStream id).isSome = (client.getStream id).isSome)
    (hown : ∀ id stream', client'.getStream id = some stream' →
      ∃ stream, client.getStream id = some stream ∧ stream'.streamId = stream.streamId)
    (hsent : client'.sent = client.sent ++ chunks)
    (hchunks : ∀ bs ∈ chunks, (frameOf bs fun _ => false).type ≠ FrameType.HEADERS)
    : client'.Numbered begin (tr ++ es) := by
  have hids : idsOf (tr ++ es) = idsOf tr := by
    rw [idsOf, List.filterMap_append]
    change idsOf tr ++ idsOf es = _
    rw [hes, List.append_nil]
  have hframes := sentFrames_append hsent h.sent_le
  refine ⟨?_, ?_, ?_, ?_, ?_, ?_, ?_⟩
  . rw [hids]
    exact h.ids
  . rw [hnext, hids]
    exact h.next
  . intro id
    rw [hopened, hids]
    exact h.opened id
  . intro id stream' hstream'
    rcases hown id stream' hstream' with ⟨stream, hstream, hid⟩
    rw [hid]
    exact h.own id stream hstream
  . rw [hsent, List.length_append]
    exact Nat.le_add_right_of_le h.sent_le
  . rw [headersSent_append hsent h.sent_le hchunks, hids]
    exact h.headers
  . intro id hid
    rw [hids] at hid
    rcases h.data id hid with ⟨frame, hframe, hdata⟩
    refine ⟨frame, ?_, hdata⟩
    rw [hframes]
    exact List.mem_append_left _ hframe

theorem Numbered.sendRequest {u : Uninit} {req : Request} {ns : Nat × Nat} {streamId : BitVec 32}
    (h : client.Numbered begin tr) (hsuccessful : client.Successful (.sendRequest u req ns))
    (hsend : client.sendRequest u req ns = .ok (client', streamId))
    : client'.Numbered begin (tr ++ [.requested client.streamId u req.pipeline]) := by
  rcases sendRequest_eq hsend with ⟨deflater, bs, body, hdeflate, hcopy, _, _, _, hclient'⟩
  rcases hsuccessful with ⟨hn1, hn2⟩
  have hn1 := hn1 bs (by rw [hdeflate]; rfl)
  rw [← length_copyBody hcopy] at hn2
  have hids : idsOf (tr ++ [.requested client.streamId u req.pipeline])
    = idsOf tr ++ [client.streamId] := by
    rw [idsOf, List.filterMap_append]
    rfl
  have hsent : client'.sent = client.sent
    ++ [frameBytes FrameType.HEADERS req.headerFlags client.streamId bs,
      frameBytes FrameType.DATA req.bodyFlags client.streamId body] := by
    rw [hclient']
    dsimp only
    rw [List.take_of_length_le, List.take_of_length_le]
    . rw [length_frameBytes]
      exact hn2
    . rw [length_frameBytes]
      exact hn1
  have hframes := sentFrames_append hsent h.sent_le
  refine ⟨?_, ?_, ?_, ?_, ?_, ?_, ?_⟩
  . rw [hids, List.length_append, List.length_singleton, List.range_succ,
      List.map_append, ← h.ids, h.next]
    rfl
  . rw [hids, List.length_append, List.length_singleton, nthId_succ, ← h.next, hclient']
  . intro id
    rw [sendRequest_getStream hsend, getStream_emplace, hids, List.mem_append, List.mem_singleton]
    split
    . next hid => simp [hid]
    . next hid => simp [hid, h.opened]
  . intro id stream hstream
    rcases sendRequest_cases hsend hstream with hold | ⟨hid, _, hnew⟩
    . exact h.own id stream hold
    . rw [hnew, hid]
      rfl
  . rw [hsent, List.length_append]
    exact Nat.le_add_right_of_le h.sent_le
  . have hnew : (([frameBytes FrameType.HEADERS req.headerFlags client.streamId bs,
        frameBytes FrameType.DATA req.bodyFlags client.streamId body].map fun bs =>
          frameOf bs fun _ => false).filter
        fun frame => frame.type = FrameType.HEADERS).map (fun frame => frame.streamId)
        = [client.streamId &&& 0x7fffffff] := congrArg (fun id => [id]) frameOf_frameBytes_streamId
    rw [headersSent, hframes, List.filter_append, List.map_append, hnew,
      hids, List.map_append, ← h.headers]
    rfl
  . intro id hid
    rw [hids, List.mem_append, List.mem_singleton] at hid
    rw [hframes]
    rcases hid with hid | hid
    . rcases h.data id hid with ⟨frame, hframe, hdata⟩
      exact ⟨frame, List.mem_append_left _ hframe, hdata⟩
    . refine ⟨frameOf (frameBytes FrameType.DATA req.bodyFlags client.streamId body) fun _ => false,
        ?_, rfl, ?_⟩
      . exact List.mem_append_right _ (List.mem_cons_of_mem _ (List.mem_singleton_self _))
      . rw [frameOf_frameBytes_streamId, hid]

theorem Numbered.call {c : Call} {es : List Event} (h : client.Numbered begin tr)
    (hsuccessful : client.Successful c) (hcall : client.call c = .ok (client', es))
    : client'.Numbered begin (tr ++ es) := by
  cases Called.of_call hcall with
  | sendRequest hsend => exact h.sendRequest hsuccessful hsend
  | @writeData streamId data endStream n _ hwrite =>
    rcases writeData_eq hwrite with ⟨_, _, hclient'⟩
    apply h.other
      [(frameBytes FrameType.DATA (if endStream then FrameFlag.END_STREAM else 0)
      streamId data).take n] rfl
    . rw [hclient']
    . intro id
      rw [hclient']
      rfl
    . intro id stream' hstream'
      rw [hclient'] at hstream'
      exact ⟨stream', hstream', rfl⟩
    . rw [hclient']
    . rw [List.forall_mem_singleton]
      rcases type_frameOf_take with htype | htype
      . rw [htype]
        decide
      . rw [htype]
        decide
  | @parse frame n _ code hparse =>
    have hreceived := parseFrame_received hparse
    have hopened := hreceived.isSome_eq
    have hown (id : BitVec 32) (stream' : Stream) (hstream' : client'.getStream id = some stream')
        : ∃ stream, client.getStream id = some stream ∧ stream'.streamId = stream.streamId := by
      rcases hreceived.of_known hstream' with ⟨stream, hstream, hstreamId⟩
      exact ⟨stream, hstream, hstreamId.streamId⟩
    by_cases hsettings : frame.type = FrameType.SETTINGS
    . rcases parseFrame_settings_same hparse hsettings with ⟨hnext, _, ⟨hsent, _⟩ | ⟨hsent, _⟩⟩
      . rw [← List.append_nil client.sent] at hsent
        exact h.other [] rfl hnext hopened hown hsent (List.forall_mem_nil _)
      . apply h.other _ rfl hnext hopened hown hsent
        rw [List.forall_mem_singleton, settingAck_eq]
        rcases type_frameOf_take with htype | htype
        . rw [htype]
          decide
        . rw [htype]
          decide
    . have hsame := parseFrame_same hparse hsettings
      have hsent := hsame.sent
      rw [← List.append_nil client.sent] at hsent
      exact h.other [] rfl hsame.streamId hopened hown hsent (List.forall_mem_nil _)

section Run

variable {inflater : lib.Inflater} {deflater : lib.Deflater} {connected : Bool} {ns : Nat × Nat}

theorem run_numbered
    (hrun : (start inflater deflater connected ns).machine.Run Successful tr client)
    : client.Numbered (start inflater deflater connected ns) tr := by
  apply Machine.Run.invariant
    (I := fun tr client => client.Numbered (start inflater deflater connected ns) tr) _ _ hrun
  . rcases @start_eq lib inflater deflater connected ns with ⟨sent, hstart⟩
    have hframes : (start inflater deflater connected ns).sentFrames
      (start inflater deflater connected ns) = [] := by
      rw [sentFrames, List.drop_length, List.map_nil]
    refine ⟨rfl, ?_, ?_, ?_, Nat.le_refl _, ?_, ?_⟩
    . change (start inflater deflater connected ns).streamId = _
      rw [hstart]
      rfl
    . intro id
      change ((start inflater deflater connected ns).getStream id).isSome ↔ id ∈ []
      rw [getStream_start]
      simp
    . intro id stream hstream
      change (start inflater deflater connected ns).getStream id = _ at hstream
      rw [getStream_start] at hstream
      contradiction
    . change (start inflater deflater connected ns).headersSent _ = _
      rw [headersSent, hframes]
      rfl
    . intro id hid
      contradiction
  . intro tr client c client' es _ h hsuccessful hcall
    exact h.call hsuccessful hcall

theorem Numbered.mem_iff (h : client.Numbered begin tr)
    : id ∈ idsOf tr ↔ ∃ i < (idsOf tr).length, nthId i = id := by
  constructor
  . intro hid
    rw [h.ids] at hid
    rcases List.mem_map.mp hid with ⟨i, hi, hid⟩
    exact ⟨i, List.mem_range.mp hi, hid⟩
  . rintro ⟨i, hi, hid⟩
    rw [h.ids, ← hid]
    exact List.mem_map_of_mem (List.mem_range.mpr hi)

theorem Numbered.identified (h : client.Numbered begin tr) (hle : (idsOf tr).length ≤ 2 ^ 30)
    : client.Identified begin tr := by
  have hlt (id : BitVec 32) (hid : id ∈ idsOf tr) : ∃ i < (idsOf tr).length, nthId i = id
    ∧ id.toNat = 2 * i + 1 := by
    rcases h.mem_iff.mp hid with ⟨i, hi, rfl⟩
    exact ⟨i, hi, rfl, toNat_nthId (by omega)⟩
  have hvalid (id : BitVec 32) (hid : id ∈ idsOf tr) : id.toNat < 2 ^ 31 := by
    rcases hlt id hid with ⟨i, hi, _, hnat⟩
    omega
  refine ⟨?_, ?_, hvalid, ?_, ?_, ?_, ?_, ?_⟩
  . intro id hid
    rcases hlt id hid with ⟨i, _, _, hnat⟩
    omega
  . rw [h.ids, List.pairwise_map]
    apply List.pairwise_lt_range.imp_of_mem
    intro i j _ hj hij
    rw [List.mem_range] at hj
    rw [toNat_nthId (by omega), toNat_nthId (by omega)]
    omega
  . intro id hid
    rcases Option.isSome_iff_exists.mp ((h.opened id).mpr hid) with ⟨stream, hstream⟩
    exact ⟨stream, hstream, h.own id stream hstream⟩
  . cases hnext : client.getStream client.streamId with
    | none => rfl
    | some stream =>
      have hmem := (h.opened client.streamId).mp (by rw [hnext]; rfl)
      rcases hlt _ hmem with ⟨i, hi, _, hnat⟩
      rw [h.next, toNat_nthId hle] at hnat
      omega
  . rw [h.headers]
    conv => rhs; rw [← List.map_id (idsOf tr)]
    apply List.map_congr_left
    intro id hid
    exact and_mask_eq (hvalid id hid)
  . intro id hid
    rcases h.data id hid with ⟨frame, hframe, htype, hstreamId⟩
    rw [and_mask_eq (hvalid id hid)] at hstreamId
    exact ⟨frame, hframe, htype, hstreamId⟩
  . intro id hid type length flags rest
    rw [getStreamId_headerBytes, and_mask_eq (hvalid id hid)]

theorem identified_iff
    (hrun : (start inflater deflater connected ns).machine.Run Successful tr client)
    : client.Identified (start inflater deflater connected ns) tr ↔ (idsOf tr).length ≤ 2 ^ 30 := by
  have hnumbered := run_numbered hrun
  constructor
  . intro h
    by_contra hgt
    have hmem : nthId (2 ^ 30) ∈ idsOf tr := hnumbered.mem_iff.mpr ⟨2 ^ 30, by omega, rfl⟩
    have hlt := h.lt _ hmem
    rw [toNat_nthId (Nat.le_refl _)] at hlt
    omega
  . exact hnumbered.identified

end Run

theorem getRequest_successful (client : Client literalLib)
    : client.Successful (.sendRequest .zero getRequest (67, 9))
        ∧ ∃ client', client.call (.sendRequest .zero getRequest (67, 9))
          = .ok (client', [.requested client.streamId .zero false]) := by
  refine ⟨⟨?_, by decide⟩, _, rfl⟩
  intro bs hbs
  injection hbs with hbs
  rw [← hbs]
  decide

theorem exists_run_requests (n : Nat)
    : ∃ tr client, literalStart.machine.Run Successful tr client ∧ (idsOf tr).length = n := by
  induction n with
  | zero => exact ⟨[], literalStart, .init, rfl⟩
  | succ n ih =>
    rcases ih with ⟨tr, client, hrun, hlength⟩
    rcases getRequest_successful client with ⟨hsuccessful, client', hcall⟩
    refine ⟨_, client', .step hrun hsuccessful hcall, ?_⟩
    rw [idsOf, List.filterMap_append, List.length_append]
    change (idsOf tr).length + 1 = _
    rw [hlength]

theorem identified_twice
    : ∃ tr client, literalStart.machine.Run Successful tr client ∧ (idsOf tr).length = 2
        ∧ client.Identified literalStart tr := by
  rcases exists_run_requests 2 with ⟨tr, client, hrun, hlength⟩
  refine ⟨tr, client, hrun, hlength, (identified_iff hrun).mpr ?_⟩
  rw [hlength]
  decide

-- The identifier of the last request does not fit into 31 bits, in a frame it is the one of the
-- first request.
theorem identified_overflow
    : ∃ tr client, literalStart.machine.Run Successful tr client ∧ (idsOf tr).length = 2 ^ 30 + 1
        ∧ 0x80000001 ∈ idsOf tr
        ∧ getStreamId (headerBytes FrameType.DATA 0 FrameFlag.END_STREAM 0x80000001) = 1
        ∧ ¬client.Identified literalStart tr := by
  rcases exists_run_requests (2 ^ 30 + 1) with ⟨tr, client, hrun, hlength⟩
  have hmem : 0x80000001 ∈ idsOf tr := (run_numbered hrun).mem_iff.mpr ⟨2 ^ 30, by omega, by decide⟩
  refine ⟨tr, client, hrun, hlength, hmem, by decide, ?_⟩
  intro h
  exact absurd (h.lt _ hmem) (by decide)

end Client
end Http2
end Fsw
