import Fsw.Http2.Lemmas.Calls

namespace Fsw
namespace Http2

variable {lib : Nghttp2} {client client' : Client lib} {id : BitVec 32} {tr : List Event}

def statusName : Bytes := Buffer.str ":status"

def statusOf (hs : List (Bytes × Bytes)) : Option Int :=
  (hs.reverse.find? fun nv => nv.1 = statusName).map fun nv => atoi nv.2

def fieldsOf (hs : List (Bytes × Bytes)) : SortedMap Bytes Bytes :=
  (hs.filter fun nv => nv.1 ≠ statusName).foldl (fun header nv => header.insert nv.1 nv.2) []

structure Response.Carries (response : Response) (hs : List (Bytes × Bytes)) : Prop where
  statusCode : ∀ code ∈ statusOf hs, response.statusCode = code
  header : ∀ name value, (fieldsOf hs).find? name = some value
    → response.header.find? name = some value

def Frame.IsHeaders (frame : Frame) (id : BitVec 32) : Prop :=
  frame.type = FrameType.HEADERS ∧ frame.streamId = id

def Call.IsHeaders (call : Call) (id : BitVec 32) : Prop :=
  match call with
  | .parse frame _ => frame.IsHeaders id
  | _ => False

/--
The response of the stream has the fields, and so has every response that `recv_reponse` returns for
it until further header fields arrive, whatever is called and received in between.
-/
structure Client.Delivers (client : Client lib) (id : BitVec 32) (hs : List (Bytes × Bytes))
    : Prop where
  stream : ∃ stream, client.getStream id = some stream ∧ stream.response.Carries hs
  returned : ∀ tr client₁ frames client₂ frame response,
    client.machine.Run (fun _ call => ¬call.IsHeaders id) tr client₁
      → (∀ x ∈ frames, ¬x.1.IsHeaders id) →
    client₁.recvResponse frames = .ok (some (client₂, frame, response)) → frame.streamId = id
      → response.Carries hs

theorem exists_find?_fieldsOf {hs : List (Bytes × Bytes)} {nv : Bytes × Bytes} (hnv : nv ∈ hs)
    (hname : nv.1 ≠ statusName) : ∃ value, (fieldsOf hs).find? nv.1 = some value := by
  have hmem : nv ∈ (hs.filter fun nv => nv.1 ≠ statusName).reverse := by
    simp [hnv, hname]
  rw [fieldsOf, SortedMap.find?_foldl_insert]
  cases hfind : (hs.filter fun nv => nv.1 ≠ statusName).reverse.find? fun e => e.1 = nv.1 with
  | some e => exact ⟨e.2, rfl⟩
  | none =>
    rw [List.find?_eq_none] at hfind
    have := hfind nv hmem
    simp at this

theorem Response.carries_iff {response : Response} {hs : List (Bytes × Bytes)}
    (hheader : response.header = [])
    : response.Carries hs
        ↔ (∀ nv ∈ hs, nv.1 = statusName) ∧ ∀ code ∈ statusOf hs, response.statusCode = code := by
  constructor
  . intro h
    refine ⟨?_, h.statusCode⟩
    intro nv hnv
    by_contra hname
    rcases exists_find?_fieldsOf hnv hname with ⟨value, hvalue⟩
    have hfound := h.header _ _ hvalue
    rw [hheader] at hfound
    contradiction
  . intro h
    refine ⟨h.2, ?_⟩
    intro name value hvalue
    have hnil : (hs.filter fun nv => nv.1 ≠ statusName) = [] := by
      rw [List.filter_eq_nil_iff]
      intro nv hnv
      simp [h.1 nv hnv]
    rw [fieldsOf, hnil] at hvalue
    contradiction

namespace Client

section Step

variable {es : List Event} {c : Call} {m : Int × SortedMap Bytes Bytes}

theorem sendRequest_metadata {u : Uninit} {req : Request} {ns : Nat × Nat} {streamId : BitVec 32}
    (h : client.sendRequest u req ns = .ok (client', streamId))
    : client'.metadata id
        = (client.metadata id).or
            (if id = client.streamId then some (u.statusCode, []) else none) := by
  rcases sendRequest_eq h with ⟨deflater, bs, body, _, _, _, _, _, hclient'⟩
  rw [hclient']
  unfold metadata getStream emplace
  dsimp only
  by_cases hid : id = client.streamId
  . subst hid
    cases hstream : client.streams client.streamId with
    | none => simp [getStream, setStream, hstream, Stream.new]
    | some stream => simp [getStream, hstream]
  . split
    . simp
    . simp [setStream, hid]

theorem call_metadata (h : client.call c = .ok (client', es))
    : (client.metadata id = some m → client'.metadata id = some m)
      ∧ (client'.metadata id = some m → client.metadata id = some m
        ∨ ∃ u pipeline, .requested id u pipeline ∈ es ∧ m = (u.statusCode, [])) := by
  cases Called.of_call h with
  | @sendRequest u req ns _ hsend =>
    rw [sendRequest_metadata hsend]
    constructor
    . intro hm
      rw [hm, Option.some_or]
    . intro hm
      cases hold : client.metadata id with
      | some m' =>
        left
        rw [hold, Option.some_or] at hm
        exact hm
      | none =>
        right
        rw [hold, Option.none_or] at hm
        split at hm
        . next heq =>
          injection hm with hm
          refine ⟨u, req.pipeline, ?_, hm.symm⟩
          rw [heq]
          apply List.mem_singleton_self
        . contradiction
  | writeData hwrite =>
    rw [(writeData_eq hwrite).2.2]
    exact ⟨fun hm => hm, .inl⟩
  | parse hparse =>
    rw [parseFrame_metadata hparse]
    exact ⟨fun hm => hm, .inl⟩

end Step

section Run

variable {m : Int × SortedMap Bytes Bytes} {P : Client lib → Call → Prop}

theorem run_keeps (hrun : client.machine.Run P tr client') (hm : client.metadata id = some m)
    : client'.metadata id = some m := by
  apply hrun.invariant (I := fun _ client' => client'.metadata id = some m) hm
  intro tr client₁ c client₂ es _ ih _ hstep
  exact (call_metadata hstep).1 ih

/--
The metadata of every stream are what they were when it was opened: nothing but the value that
`status_code` had before.
-/
theorem run_metadata {inflater : lib.Inflater} {deflater : lib.Deflater}
    {connected : Bool} {ns : Nat × Nat}
    (hrun : (start inflater deflater connected ns).machine.Run P tr client)
    (hm : client.metadata id = some m)
    : ∃ u pipeline, .requested id u pipeline ∈ tr ∧ m = (u.statusCode, []) := by
  revert hm
  apply hrun.invariant (I := fun tr client => client.metadata id = some m →
    ∃ u pipeline, .requested id u pipeline ∈ tr ∧ m = (u.statusCode, []))
  . intro hm
    rcases start_eq with ⟨sent, hstart⟩
    have hinit : (start inflater deflater connected ns).metadata id = some m := hm
    rw [hstart] at hinit
    contradiction
  . intro tr client₁ c client₂ es _ ih _ hstep hm
    rcases (call_metadata hstep).2 hm with hold | ⟨u, pipeline, hmem, hm⟩
    . rcases ih hold with ⟨u, pipeline, hmem, hm⟩
      exact ⟨u, pipeline, List.mem_append_left _ hmem, hm⟩
    . exact ⟨u, pipeline, List.mem_append_right _ hmem, hm⟩

theorem recvResponse_metadata {frames : List (Frame × Nat)} {frame : Frame} {response : Response}
    (h : client.recvResponse frames = .ok (some (client', frame, response)))
    : client.metadata frame.streamId = some (response.statusCode, response.header) := by
  induction frames generalizing client with
  | nil =>
    injection h with h
    contradiction
  | cons x frames ih =>
    rcases x with ⟨frame', n⟩
    rcases bind_eq_ok h with ⟨⟨client₁, code⟩, hparse, h⟩
    rw [← parseFrame_metadata hparse]
    cases code with
    | fswContinue => exact ih h
    | fswReady =>
      dsimp only at h
      split at h
      . contradiction
      . next stream hstream =>
        injection h with h
        injection h with h
        injection h with _ h
        injection h with hframe hresponse
        subst hframe hresponse
        have hget : client₁.getStream frame'.streamId = some stream := by
          unfold found at hstream
          dsimp only at hstream
          split at hstream
          . exact hstream
          . contradiction
        show client₁.metadata frame'.streamId = _
        rw [metadata, hget]
        rfl

theorem delivers_iff {u : Uninit} {hs : List (Bytes × Bytes)}
    (hm : client.metadata id = some (u.statusCode, []))
    : client.Delivers id hs
        ↔ (∀ nv ∈ hs, nv.1 = statusName) ∧ ∀ code ∈ statusOf hs, u.statusCode = code := by
  have hcarries (response : Response) (h : some (response.statusCode, response.header)
    = some (u.statusCode, []))
      : response.Carries hs
        ↔ (∀ nv ∈ hs, nv.1 = statusName) ∧ ∀ code ∈ statusOf hs, u.statusCode = code := by
    injection h with h
    injection h with hstatus hheader
    rw [Response.carries_iff hheader, hstatus]
  rcases Option.map_eq_some_iff.mp hm with ⟨stream, hstream, hresponse⟩
  constructor
  . intro h
    rcases h.stream with ⟨stream', hstream', hcarry⟩
    rw [hstream] at hstream'
    injection hstream' with hstream'
    subst hstream'
    exact (hcarries _ (congrArg some hresponse)).mp hcarry
  . intro h
    refine ⟨⟨stream, hstream, (hcarries _ (congrArg some hresponse)).mpr h⟩, ?_⟩
    intro tr client₁ frames client₂ frame response hrun _ hrecv hid
    have hlater := recvResponse_metadata hrecv
    rw [hid, run_keeps hrun hm] at hlater
    exact (hcarries _ hlater.symm).mpr h

/--
The fields of a `HEADERS` frame get into the copy of the response. So the caller has them if and
only if there are none and the status is the value that `status_code`, which is not initialized, had
before.
-/
theorem parseFrame_delivers_iff {inflater : lib.Inflater} {deflater : lib.Deflater}
    {connected : Bool} {ns : Nat × Nat} (frame : Frame) {n : Nat} {bs : Bytes}
    {hs : List (Bytes × Bytes)} {stream : Stream}
    (hrun : (start inflater deflater connected ns).machine.Run (fun _ _ => True) tr client)
    (hstream : client.getStream frame.streamId = some stream)
    (htype : frame.type = FrameType.HEADERS)
    (hread : frame.payload.read? 0 frame.payloadLength = some bs)
    (hdecodes : Decodes client.inflater bs hs)
    : ∃ u pipeline client' code,
        .requested frame.streamId u pipeline ∈ tr
        ∧ client.parseFrame (client.found frame) n = .ok (client', code)
        ∧ (inflateHeaders client.inflater bs false stream.response).2
          = (hs.foldl emitHeader stream.response, true)
        ∧ (client'.Delivers frame.streamId hs
          ↔ (∀ nv ∈ hs, nv.1 = statusName) ∧ ∀ code ∈ statusOf hs, u.statusCode = code) := by
  have hm : client.metadata frame.streamId
    = some (stream.response.statusCode, stream.response.header) := by
    rw [metadata, hstream]
    rfl
  rcases run_metadata hrun hm with ⟨u, pipeline, hmem, hu⟩
  rcases parseFrame_headers_ok frame hstream htype hread with ⟨client₁, hparse⟩
  rcases hdecodes.inflateHeaders with ⟨inflater', hinflate⟩
  refine ⟨u, pipeline, _, _, hmem, hparse, by rw [hinflate], ?_⟩
  apply delivers_iff
  rw [parseFrame_metadata hparse, hm, hu]

end Run

end Client

def getRequest : Request := ⟨Buffer.str "GET", Buffer.str "/", none, 0, false, []⟩

-- `:status: 200` as a server sends it
def okFrame : Frame :=
  ⟨[0x88], 1, FrameType.HEADERS, FrameFlag.END_HEADERS ||| FrameFlag.END_STREAM, 1, none⟩

namespace Client

theorem okFrame_decodes : @Decodes literalLib () [0x88] [(statusName, Buffer.str "200")] := by
  apply Decodes.emit (n := 1)
  . rfl
  . apply Decodes.final (n := 0)
    rfl

theorem getRequest_run (u : Uninit)
    : ∃ client, literalStart.machine.Run (fun _ _ => True) [.requested 1 u false] client
        ∧ client.getStream 1 = some (Stream.new u 1 false) := by
  have hstep : ∃ client, literalStart.call (.sendRequest u getRequest (67, 9))
    = .ok (client, [.requested 1 u false])
      ∧ client.getStream 1 = some (Stream.new u 1 false) :=
    ⟨_, rfl, rfl⟩
  rcases hstep with ⟨client, hcall, hstream⟩
  exact ⟨client, .step (c := Call.sendRequest u getRequest (67, 9)) .init trivial hcall, hstream⟩

-- Only if the memory has had a 200 before
theorem okFrame_delivers
    : ∃ client client' : Client literalLib, ∃ code,
        literalStart.machine.Run (fun _ _ => True)
        [.requested 1 { Uninit.zero with statusCode := 200 } false] client
        ∧ client.parseFrame (client.found okFrame) 0 = .ok (client', code)
        ∧ client'.Delivers 1 [(statusName, Buffer.str "200")] := by
  rcases getRequest_run { Uninit.zero with statusCode := 200 } with ⟨client, hrun, hstream⟩
  rcases parseFrame_delivers_iff okFrame (n := 0) hrun hstream rfl rfl okFrame_decodes
    with ⟨u, pipeline, client', code, hmem, hparse, _, hiff⟩
  rw [List.mem_singleton] at hmem
  injection hmem with _ hu _
  refine ⟨client, client', code, hrun, hparse, hiff.mpr ?_⟩
  rw [hu]
  decide +kernel

theorem okFrame_not_delivered
    : ∃ client client' : Client literalLib, ∃ code,
        literalStart.machine.Run (fun _ _ => True) [.requested 1 .zero false] client
        ∧ Decodes client.inflater okFrame.payload [(statusName, Buffer.str "200")]
        ∧ client.parseFrame (client.found okFrame) 0 = .ok (client', code)
        ∧ ¬client'.Delivers 1 [(statusName, Buffer.str "200")] := by
  rcases getRequest_run .zero with ⟨client, hrun, hstream⟩
  have hparse : ∃ client' code, client.parseFrame (client.found okFrame) 0
    = .ok (client', code) := by
    rcases parseFrame_headers_ok okFrame hstream rfl rfl with ⟨client₁, hparse⟩
    exact ⟨_, _, hparse⟩
  rcases hparse with ⟨client', code, hparse⟩
  have hm : client'.metadata 1 = some ((Uninit.zero).statusCode, []) := by
    rw [parseFrame_metadata hparse, metadata, hstream]
    rfl
  refine ⟨client, client', code, hrun, okFrame_decodes, hparse, ?_⟩
  rw [delivers_iff hm]
  decide +kernel

end Client

end Http2
end Fsw
