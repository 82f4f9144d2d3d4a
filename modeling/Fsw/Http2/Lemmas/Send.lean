import Mathlib.Data.List.Induction
import Fsw.Http2.Lemmas.Metadata

namespace Fsw
namespace Http2

variable {lib : Nghttp2} {client client' begin : Client lib} {id : BitVec 32} {tr : List Event}

def Client.sentFrames (client begin : Client lib) : List Frame :=
  (client.sent.drop begin.sent.length).map fun bs => frameOf bs fun _ => false

def Client.streamFrames (client begin : Client lib) (id : BitVec 32) : List Frame :=
  (client.sentFrames begin).filter fun frame => frame.streamId = id

def Frame.CarriesEnd (frame : Frame) : Prop :=
  frame.flags &&& FrameFlag.END_STREAM ≠ 0

instance {frame : Frame} : Decidable frame.CarriesEnd :=
  inferInstanceAs (Decidable (_ ≠ _))

/--
`HEADERS`, then `DATA`, and nothing after the end of the stream.
-/
structure Disciplined (frames : List Frame) : Prop where
  shape : frames = [] ∨ ∃ head rest, frames = head :: rest ∧ head.type = FrameType.HEADERS
    ∧ ∀ frame ∈ rest, frame.type = FrameType.DATA
  once : (frames.filter fun frame => frame.CarriesEnd).length ≤ 1
  last : ∀ before frame after, frames = before ++ frame :: after → frame.CarriesEnd → after = []

def Legal (tr : List Event) : Prop :=
  ∀ before id endStream after, tr = before ++ .written id endStream :: after →
    (∃ u, .requested id u true ∈ before) ∧ .written id true ∉ before

/--
A request that is not pipelined has a body, its stream has an identifier of 31 bits, and all frames
get through.
-/
def Client.Proper (client : Client lib) : Call → Prop
  | .sendRequest u req ns =>
    (req.pipeline = false → req.body.isSome) ∧ client.streamId.toNat < 2 ^ 31
      ∧ (∀ bs ∈ (lib.deflateHd client.deflater (Client.headers u req)).2,
        ns.1 = FRAME_HEADER_SIZE + bs.length)
      ∧ ns.2 = FRAME_HEADER_SIZE + req.bodyLength
  | .writeData _ data _ n => n = FRAME_HEADER_SIZE + data.length
  | .parse _ _ => False

instance {call : Call} : Decidable (client.Proper call) :=
  match call with
  | .sendRequest _ _ _ => inferInstanceAs (Decidable (_ ∧ _ ∧ _ ∧ _))
  | .writeData _ _ _ _ => inferInstanceAs (Decidable (_ = _))
  | .parse _ _ => inferInstanceAs (Decidable False)

section Stages

variable {frames : List Frame} {frame : Frame}

structure Unended (frames : List Frame) : Prop where
  shape : ∃ head rest, frames = head :: rest ∧ head.type = FrameType.HEADERS
    ∧ ∀ frame ∈ rest, frame.type = FrameType.DATA
  unended : ∀ frame ∈ frames, ¬frame.CarriesEnd

def Ended (frames : List Frame) : Prop :=
  ∃ before frame, frames = before ++ [frame] ∧ Unended before ∧ frame.type = FrameType.DATA
    ∧ frame.CarriesEnd

theorem Unended.append (h : Unended frames) (htype : frame.type = FrameType.DATA)
    (hend : ¬frame.CarriesEnd)
    : Unended (frames ++ [frame]) := by
  rcases h.shape with ⟨head, rest, hframes, hhead, hrest⟩
  refine ⟨⟨head, rest ++ [frame], by rw [hframes, List.cons_append], hhead, ?_⟩, ?_⟩
  . intro f hf
    rcases List.mem_append.mp hf with hf | hf
    . apply hrest f hf
    . rw [List.mem_singleton.mp hf, htype]
  . intro f hf
    rcases List.mem_append.mp hf with hf | hf
    . apply h.unended f hf
    . rw [List.mem_singleton.mp hf]
      exact hend

theorem disciplined_nil : Disciplined [] := by
  refine ⟨.inl rfl, by simp, ?_⟩
  intro before frame after h
  simp at h

theorem Unended.disciplined (h : Unended frames) : Disciplined frames := by
  refine ⟨.inr h.shape, ?_, ?_⟩
  . have hnil : (frames.filter fun frame => frame.CarriesEnd) = [] := by
      rw [List.filter_eq_nil_iff]
      intro frame hframe
      simp [h.unended frame hframe]
    rw [hnil]
    apply Nat.zero_le
  . intro before frame after hframes hend
    exact absurd hend (h.unended frame (by simp [hframes]))

theorem Ended.disciplined (h : Ended frames) : Disciplined frames := by
  rcases h with ⟨before, last, hframes, hbefore, htype, hend⟩
  subst hframes
  have hnil : (before.filter fun frame => frame.CarriesEnd) = [] := by
    rw [List.filter_eq_nil_iff]
    intro frame hframe
    simp [hbefore.unended frame hframe]
  refine ⟨.inr ?_, ?_, ?_⟩
  . rcases hbefore.shape with ⟨head, rest, heq, hhead, hrest⟩
    refine ⟨head, rest ++ [last], by rw [heq, List.cons_append], hhead, ?_⟩
    intro f hf
    rcases List.mem_append.mp hf with hf | hf
    . apply hrest f hf
    . rw [List.mem_singleton.mp hf, htype]
  . rw [List.filter_append, hnil, List.nil_append]
    apply List.length_filter_le
  . intro before' frame after heq hframe
    -- If something came after it the frame would be one of those before the last.
    cases after using List.reverseRecOn with
    | nil => rfl
    | append_singleton after x _ =>
      rw [← List.cons_append, ← List.append_assoc] at heq
      have hbefore' := (List.append_inj' heq rfl).1
      exact absurd hframe (hbefore.unended frame (by simp [hbefore']))

end Stages

section Wire

theorem frameOf_frameBytes (type flags : UInt8) (bs : Bytes) (hbs : bs.length < 2 ^ 24)
    (hid : id.toNat < 2 ^ 31)
    : SameHeader (frameOf (frameBytes type flags id bs) fun _ => false)
        ⟨bs, bs.length, type, flags, id, none⟩ := by
  let frame : Frame := ⟨bs, bs.length, type, flags, id, none⟩
  have h : SameHeader
    (frameOf (headerBytes frame.type frame.payloadLength frame.flags frame.streamId ++ bs)
      fun _ => false) frame := frameOf_headerBytes _ hbs hid
  exact h

theorem Client.streamFrames_append {chunks : List Bytes}
    (hsent : client'.sent = client.sent ++ chunks) (hle : begin.sent.length ≤ client.sent.length)
    : client'.streamFrames begin id = client.streamFrames begin id
        ++ (chunks.map fun bs => frameOf bs fun _ => false).filter fun frame =>
          frame.streamId = id := by
  rw [streamFrames, streamFrames, sentFrames, sentFrames, hsent, List.drop_append_of_le_length hle,
    List.map_append, List.filter_append]

end Wire

namespace Client

structure Orderly (client begin : Client lib) (tr : List Event) : Prop where
  sent_le : begin.sent.length ≤ client.sent.length
  lt : ∀ id u pipeline, .requested id u pipeline ∈ tr → id.toNat < client.streamId.toNat
    ∧ id.toNat < 2 ^ 31
  unique : ∀ id u u' pipeline pipeline', .requested id u pipeline ∈ tr
    → .requested id u' pipeline' ∈ tr →
    pipeline = pipeline'
  unused : ∀ id, (∀ u pipeline, .requested id u pipeline ∉ tr) →
    client.streamFrames begin id = [] ∧ ∀ endStream, .written id endStream ∉ tr
  unended : ∀ id u, .requested id u true ∈ tr → .written id true ∉ tr
    → Unended (client.streamFrames begin id)
  ended : ∀ id u, .requested id u true ∈ tr → .written id true ∈ tr
    → Ended (client.streamFrames begin id)
  single : ∀ id u, .requested id u false ∈ tr → Ended (client.streamFrames begin id)

theorem headerFlags_not_end {req : Request} (h : req.pipeline = false → req.body.isSome)
    : req.headerFlags &&& FrameFlag.END_STREAM = 0 := by
  have hflags : req.headerFlags = FrameFlag.END_HEADERS := by
    unfold Request.headerFlags
    rw [if_neg]
    cases hpipeline : req.pipeline with
    | false =>
      have := h hpipeline
      cases hbody : req.body with
      | none =>
        rw [hbody] at this
        contradiction
      | some body => simp
    | true => simp
  rw [hflags]
  decide

theorem mem_requested {event : Event} {u : Uninit} {pipeline : Bool}
    (h : .requested id u pipeline ∈ tr ++ [event])
    : .requested id u pipeline ∈ tr ∨ event = .requested id u pipeline := by
  rcases List.mem_append.mp h with h | h
  . exact .inl h
  . exact .inr (List.mem_singleton.mp h).symm

theorem mem_written {event : Event} {endStream : Bool} (h : .written id endStream ∈ tr ++ [event])
    : .written id endStream ∈ tr ∨ event = .written id endStream := by
  rcases List.mem_append.mp h with h | h
  . exact .inl h
  . exact .inr (List.mem_singleton.mp h).symm

theorem Orderly.requested {u : Uninit} {pipeline : Bool} (head data : Frame)
    (h : client.Orderly begin tr) (hlt : client.streamId.toNat < 2 ^ 31)
    (hnext : client'.streamId = client.streamId + 2) (hle : begin.sent.length ≤ client'.sent.length)
    (hframes : ∀ id, client'.streamFrames begin id
      = client.streamFrames begin id ++ if id = client.streamId then [head, data] else [])
    (hhead : head.type = FrameType.HEADERS ∧ ¬head.CarriesEnd) (hdata : data.type = FrameType.DATA)
    (hend : data.CarriesEnd ↔ pipeline = false)
    : client'.Orderly begin (tr ++ [.requested client.streamId u pipeline]) := by
  have hnextNat : client'.streamId.toNat = client.streamId.toNat + 2 := by
    rw [hnext, BitVec.toNat_add]
    apply Nat.mod_eq_of_lt
    change client.streamId.toNat + 2 < _
    omega
  have hfresh (u : Uninit) (pipeline : Bool) : .requested client.streamId u pipeline ∉ tr := by
    intro hmem
    have := (h.lt _ _ _ hmem).1
    omega
  rcases h.unused client.streamId hfresh with ⟨hnil, hunwritten⟩
  have hunended : Unended [head] := by
    refine ⟨⟨head, [], rfl, hhead.1, by simp⟩, ?_⟩
    intro f hf
    rw [List.mem_singleton.mp hf]
    exact hhead.2
  have hopened : client'.streamFrames begin client.streamId = [head] ++ [data] := by
    rw [hframes, hnil, if_pos rfl]
    rfl
  have hsame (id : BitVec 32) (u : Uninit) (pipeline : Bool) (hmem : .requested id u pipeline ∈ tr)
      : client'.streamFrames begin id = client.streamFrames begin id := by
    rw [hframes, if_neg, List.append_nil]
    intro hid
    rw [hid] at hmem
    exact hfresh u pipeline hmem
  have hwritten (id : BitVec 32) (endStream : Bool) (u : Uninit) (pipeline : Bool)
      (hmem : .written id endStream ∈ tr ++ [.requested client.streamId u pipeline])
      : .written id endStream ∈ tr := by
    rcases mem_written hmem with hmem | hmem
    . exact hmem
    . contradiction
  refine ⟨hle, ?_, ?_, ?_, ?_, ?_, ?_⟩
  . intro id u' pipeline' hmem
    rcases mem_requested hmem with hmem | hmem
    . have := h.lt _ _ _ hmem
      omega
    . injection hmem with hid _ _
      rw [← hid]
      omega
  . intro id u₁ u₂ pipeline₁ pipeline₂ hmem₁ hmem₂
    rcases mem_requested hmem₁ with hmem₁ | hmem₁
    . rcases mem_requested hmem₂ with hmem₂ | hmem₂
      . exact h.unique _ _ _ _ _ hmem₁ hmem₂
      . injection hmem₂ with hid _ _
        rw [← hid] at hmem₁
        exact absurd hmem₁ (hfresh _ _)
    . injection hmem₁ with hid _ hpipeline
      rcases mem_requested hmem₂ with hmem₂ | hmem₂
      . rw [← hid] at hmem₂
        exact absurd hmem₂ (hfresh _ _)
      . injection hmem₂ with _ _ hpipeline'
        rw [← hpipeline, hpipeline']
  . intro id hunused
    have hne : id ≠ client.streamId := by
      intro hid
      apply hunused u pipeline
      rw [hid]
      simp
    rcases h.unused id (fun u pipeline hmem => hunused u pipeline (List.mem_append_left _ hmem))
      with ⟨hframes', hnever⟩
    refine ⟨by rw [hframes, if_neg hne, List.append_nil, hframes'], ?_⟩
    intro endStream hmem
    exact hnever endStream (hwritten _ _ _ _ hmem)
  . intro id u' hmem hnever
    rcases mem_requested hmem with hmem | hmem
    . rw [hsame id _ _ hmem]
      exact h.unended id u' hmem fun hmem => hnever (List.mem_append_left _ hmem)
    . injection hmem with hid _ hpipeline
      rw [← hid, hopened]
      apply hunended.append hdata
      rw [hend, hpipeline]
      decide
  . intro id u' hmem hmem'
    rcases mem_requested hmem with hmem | hmem
    . rw [hsame id _ _ hmem]
      exact h.ended id u' hmem (hwritten _ _ _ _ hmem')
    . injection hmem with hid _ _
      rw [← hid] at hmem'
      exact absurd (hwritten _ _ _ _ hmem') (hunwritten true)
  . intro id u' hmem
    rcases mem_requested hmem with hmem | hmem
    . rw [hsame id _ _ hmem]
      exact h.single id u' hmem
    . injection hmem with hid _ hpipeline
      rw [← hid]
      exact ⟨[head], data, hopened, hunended, hdata, hend.mpr hpipeline⟩

theorem Orderly.written {endStream : Bool} (data : Frame) (h : client.Orderly begin tr)
    (hlegal : Legal (tr ++ [.written id endStream])) (hnext : client'.streamId = client.streamId)
    (hle : begin.sent.length ≤ client'.sent.length)
    (hframes : ∀ id', client'.streamFrames begin id'
      = client.streamFrames begin id' ++ if id' = id then [data] else [])
    (hdata : data.type = FrameType.DATA) (hend : data.CarriesEnd ↔ endStream = true)
    : client'.Orderly begin (tr ++ [.written id endStream]) := by
  rcases hlegal tr id endStream [] rfl with ⟨⟨u, hopened⟩, hopen⟩
  have hunended := h.unended id u hopened hopen
  have hrequested (id' : BitVec 32) (u : Uninit) (pipeline : Bool)
      (hmem : .requested id' u pipeline ∈ tr ++ [.written id endStream])
        : .requested id' u pipeline ∈ tr := by
    rcases mem_requested hmem with hmem | hmem
    . exact hmem
    . contradiction
  have hother (id' : BitVec 32) (hne : id' ≠ id)
      : client'.streamFrames begin id' = client.streamFrames begin id' := by
    rw [hframes, if_neg hne, List.append_nil]
  have hthis : client'.streamFrames begin id = client.streamFrames begin id ++ [data] := by
    rw [hframes, if_pos rfl]
  refine ⟨hle, ?_, ?_, ?_, ?_, ?_, ?_⟩
  . intro id' u' pipeline hmem
    rw [hnext]
    exact h.lt _ _ _ (hrequested _ _ _ hmem)
  . intro id' u₁ u₂ pipeline₁ pipeline₂ hmem₁ hmem₂
    exact h.unique _ _ _ _ _ (hrequested _ _ _ hmem₁) (hrequested _ _ _ hmem₂)
  . intro id' hunused
    have hunused' (u : Uninit) (pipeline : Bool) : .requested id' u pipeline ∉ tr := by
      intro hmem
      exact hunused u pipeline (List.mem_append_left _ hmem)
    have hne : id' ≠ id := by
      intro hid
      rw [hid] at hunused'
      exact hunused' u true hopened
    rcases h.unused id' hunused' with ⟨hnil, hnever⟩
    refine ⟨by rw [hother id' hne, hnil], ?_⟩
    intro endStream' hmem
    rcases mem_written hmem with hmem | hmem
    . exact hnever _ hmem
    . injection hmem with hid _
      exact hne hid.symm
  . intro id' u' hmem hnever
    have hold := h.unended id' u' (hrequested _ _ _ hmem) fun hmem =>
      hnever (List.mem_append_left _ hmem)
    by_cases hid : id' = id
    . rw [hid, hthis]
      apply hunended.append hdata
      rw [hend]
      intro htrue
      apply hnever
      rw [hid, htrue]
      simp
    . rw [hother id' hid]
      exact hold
  . intro id' u' hmem hmem'
    by_cases hid : id' = id
    . subst hid
      have htrue : endStream = true := by
        rcases mem_written hmem' with hmem' | hmem'
        . exact absurd hmem' hopen
        . injection hmem' with _ htrue
      exact ⟨_, data, hthis, hunended, hdata, hend.mpr htrue⟩
    . rw [hother id' hid]
      apply h.ended id' u' (hrequested _ _ _ hmem)
      rcases mem_written hmem' with hmem' | hmem'
      . exact hmem'
      . injection hmem' with hid' _
        exact absurd hid'.symm hid
  . intro id' u' hmem
    have hmem' := hrequested _ _ _ hmem
    have hne : id' ≠ id := by
      intro hid
      rw [hid] at hmem'
      have := h.unique _ _ _ _ _ hmem' hopened
      contradiction
    rw [hother id' hne]
    exact h.single id' u' hmem'

theorem sendRequest_orderly {u : Uninit} {req : Request} {ns : Nat × Nat} {streamId : BitVec 32}
    (h : client.Orderly begin tr) (hproper : client.Proper (.sendRequest u req ns))
    (hsend : client.sendRequest u req ns = .ok (client', streamId))
    : client'.Orderly begin (tr ++ [.requested streamId u req.pipeline]) := by
  rcases sendRequest_eq hsend with ⟨deflater, bs, body, hdeflate, hcopy, hbs, hbody, hid, hclient'⟩
  rcases hproper with ⟨hbodied, hlt, hn1, hn2⟩
  have hn1 := hn1 bs (by rw [hdeflate]; rfl)
  rw [← length_copyBody hcopy] at hn2
  have hlarge : STACK_BUFFER_SIZE + 1 < 2 ^ 24 := by decide
  have hhead := frameOf_frameBytes FrameType.HEADERS req.headerFlags bs (by omega) hlt
  have hdata := frameOf_frameBytes FrameType.DATA req.bodyFlags body (by omega) hlt
  have hsent : client'.sent = client.sent
    ++ [frameBytes FrameType.HEADERS req.headerFlags client.streamId bs,
      frameBytes FrameType.DATA req.bodyFlags client.streamId body] := by
    rw [hclient']
    dsimp only
    rw [List.take_of_length_le, List.take_of_length_le]
    . rw [length_frameBytes, hn2]
    . rw [length_frameBytes, hn1]
  rw [hid]
  apply Orderly.requested
    (frameOf (frameBytes FrameType.HEADERS req.headerFlags client.streamId bs) fun _ => false)
    (frameOf (frameBytes FrameType.DATA req.bodyFlags client.streamId body) fun _ => false) h hlt
  . rw [hclient']
  . rw [hsent, List.length_append]
    have := h.sent_le
    omega
  . intro id
    rw [streamFrames_append hsent h.sent_le]
    congr 1
    by_cases hid' : id = client.streamId
    . simp [hid', hhead.streamId, hdata.streamId]
    . simp [hid', Ne.symm hid', hhead.streamId, hdata.streamId]
  . refine ⟨hhead.type, ?_⟩
    rw [Frame.CarriesEnd, hhead.flags, headerFlags_not_end hbodied]
    simp
  . exact hdata.type
  . rw [Frame.CarriesEnd, hdata.flags, Request.bodyFlags]
    dsimp only
    cases req.pipeline with
    | false => decide
    | true => decide

theorem writeData_orderly {data : Bytes} {endStream : Bool} {n : Nat} {streamId : BitVec 32}
    (h : client.Orderly begin tr) (hproper : client.Proper (.writeData id data endStream n))
    (hlegal : Legal (tr ++ [.written id endStream]))
    (hwrite : client.writeData id data endStream n = .ok (client', streamId))
    : client'.Orderly begin (tr ++ [.written id endStream]) := by
  rcases writeData_eq hwrite with ⟨hle, _, hclient'⟩
  rcases hlegal tr id endStream [] rfl with ⟨⟨u, hopened⟩, _⟩
  have hlt := (h.lt _ _ _ hopened).2
  have hn : n = FRAME_HEADER_SIZE + data.length := hproper
  have hlarge : STACK_BUFFER_SIZE + 1 < 2 ^ 24 := by decide
  have hdata :=
    frameOf_frameBytes FrameType.DATA (if endStream then FrameFlag.END_STREAM else 0) data
    (by omega) hlt
  have hsent : client'.sent = client.sent
      ++ [frameBytes FrameType.DATA (if endStream then FrameFlag.END_STREAM else 0) id data] := by
    rw [hclient']
    dsimp only
    rw [List.take_of_length_le]
    rw [length_frameBytes, hn]
  apply Orderly.written
    (frameOf (frameBytes FrameType.DATA (if endStream then FrameFlag.END_STREAM else 0) id data)
    fun _ => false) h hlegal
  . rw [hclient']
  . rw [hsent, List.length_append]
    have := h.sent_le
    omega
  . intro id'
    rw [streamFrames_append hsent h.sent_le]
    congr 1
    by_cases hid : id' = id
    . simp [hid, hdata.streamId]
    . simp [hid, Ne.symm hid, hdata.streamId]
  . exact hdata.type
  . rw [Frame.CarriesEnd, hdata.flags]
    dsimp only
    cases endStream with
    | false => decide
    | true => decide

theorem Legal.of_append {es : List Event} (h : Legal (tr ++ es)) : Legal tr := by
  intro before id endStream after htr
  apply h before id endStream (after ++ es)
  rw [htr, List.append_assoc, List.cons_append]

theorem run_orderly {inflater : lib.Inflater} {deflater : lib.Deflater}
    {connected : Bool} {ns : Nat × Nat}
    (hrun : (start inflater deflater connected ns).machine.Run Proper tr client) (hlegal : Legal tr)
    : client.Orderly (start inflater deflater connected ns) tr := by
  revert hlegal
  apply hrun.invariant (I := fun tr client => Legal tr
    → client.Orderly (start inflater deflater connected ns) tr)
  . intro _
    refine ⟨Nat.le_refl _, by simp, by simp, ?_, by simp, by simp, by simp⟩
    intro id _
    refine ⟨?_, by simp⟩
    simp [streamFrames, sentFrames, machine]
  . intro tr client₁ c client₂ es _ ih hproper hstep hlegal
    have horderly := ih (Legal.of_append hlegal)
    cases Called.of_call hstep with
    | sendRequest hsend => exact sendRequest_orderly horderly hproper hsend
    | writeData hwrite => exact writeData_orderly horderly hproper hlegal hwrite
    | parse hparse => exact absurd hproper id

/--
If all requests that are not pipelined have a body, the frames of each stream are in order, and a
request that is not pipelined has ended its stream.
-/
theorem endStream_discipline {inflater : lib.Inflater} {deflater : lib.Deflater}
    {connected : Bool} {ns : Nat × Nat}
    (hrun : (start inflater deflater connected ns).machine.Run Proper tr client) (hlegal : Legal tr)
    : (∀ id, Disciplined (client.streamFrames (start inflater deflater connected ns) id))
      ∧ ∀ id u, .requested id u false ∈ tr →
        ∃ frame, (client.streamFrames (start inflater deflater connected ns) id).getLast?
          = some frame
          ∧ frame.CarriesEnd := by
  have h := run_orderly hrun hlegal
  constructor
  . intro id
    by_cases hunused : ∀ u pipeline, .requested id u pipeline ∉ tr
    . rw [(h.unused id hunused).1]
      exact disciplined_nil
    . simp only [not_forall, not_not] at hunused
      rcases hunused with ⟨u, pipeline, hmem⟩
      cases pipeline with
      | false => exact (h.single id u hmem).disciplined
      | true =>
        by_cases hwritten : .written id true ∈ tr
        . exact (h.ended id u hmem hwritten).disciplined
        . exact (h.unended id u hmem hwritten).disciplined
  . intro id u hmem
    rcases h.single id u hmem with ⟨before, frame, hframes, _, _, hend⟩
    exact ⟨frame, by rw [hframes, List.getLast?_concat], hend⟩

-- A pipelined request, one with a body, and the end of the first
def threeCalls : List Call :=
  [.sendRequest .zero ⟨Buffer.str "POST", Buffer.str "/", none, 0, true, []⟩ (68, 9),
    .sendRequest .zero ⟨Buffer.str "POST", Buffer.str "/", some [97], 1, false, []⟩ (68, 10),
    .writeData 1 [98] true 10]

theorem threeCalls_run
    : ∃ client, literalStart.machine.Run Proper
        [.requested 1 .zero true, .requested 3 .zero false, .written 1 true] client := by
  have hexec : ∃ client, literalStart.machine.exec Proper threeCalls
      = some (client, [.requested 1 .zero true, .requested 3 .zero false, .written 1 true]) :=
        ⟨_, rfl⟩
  rcases hexec with ⟨client, hexec⟩
  exact ⟨client, Machine.run_of_exec hexec⟩

theorem endStream_discipline_threeCalls
    : ∃ tr client, literalStart.machine.Run Proper tr client ∧ Legal tr
        ∧ (∀ id, Disciplined (client.streamFrames literalStart id))
        ∧ ∃ frame, (client.streamFrames literalStart 3).getLast? = some frame
        ∧ frame.CarriesEnd := by
  rcases threeCalls_run with ⟨client, hrun⟩
  have hlegal : Legal [.requested 1 .zero true, .requested 3 .zero false, .written 1 true] := by
    intro before id endStream after htr
    rcases before with _ | ⟨_, _ | ⟨_, _ | ⟨_, before⟩⟩⟩
    . simp at htr
    . simp at htr
    . simp only [List.cons_append, List.nil_append, List.cons.injEq, Event.written.injEq] at htr
      rcases htr with ⟨hfirst, hsecond, ⟨hid, _⟩, _⟩
      rw [← hfirst, ← hsecond, ← hid]
      exact ⟨⟨.zero, by simp⟩, by simp⟩
    . simp at htr
  rcases endStream_discipline hrun hlegal with ⟨hdisciplined, hended⟩
  exact ⟨_, client, hrun, hlegal, hdisciplined, hended 3 .zero (by simp)⟩

-- The body of a request that has none is sent as well.
theorem getRequest_ends_twice
    : ∃ tr client, literalStart.machine.Run (fun _ _ => True) tr client ∧ Legal tr
        ∧ (client.streamFrames literalStart 1).map (fun frame => (frame.type, frame.flags))
          = [(FrameType.HEADERS, FrameFlag.END_HEADERS ||| FrameFlag.END_STREAM),
            (FrameType.DATA, FrameFlag.END_STREAM)]
        ∧ ¬Disciplined (client.streamFrames literalStart 1) := by
  have hstep : ∃ client, literalStart.call (.sendRequest .zero getRequest (67, 9))
      = .ok (client, [.requested 1 .zero false])
      ∧ (client.streamFrames literalStart 1).map (fun frame => (frame.type, frame.flags))
        = [(FrameType.HEADERS, FrameFlag.END_HEADERS ||| FrameFlag.END_STREAM),
          (FrameType.DATA, FrameFlag.END_STREAM)] :=
    ⟨_, rfl, rfl⟩
  rcases hstep with ⟨client, hcall, hframes⟩
  refine ⟨_, client, .step (c := Call.sendRequest .zero getRequest (67, 9)) .init trivial hcall,
    ?_, hframes, ?_⟩
  . intro before id endStream after htr
    rcases before with _ | ⟨_, before⟩
    . simp at htr
    . simp at htr
  . intro h
    match hsent : client.streamFrames literalStart 1 with
    | [head, data] =>
      rw [hsent] at hframes h
      simp only [List.map_cons, List.map_nil, List.cons.injEq, Prod.mk.injEq] at hframes
      have hend : head.CarriesEnd := by
        rw [Frame.CarriesEnd, hframes.1.2]
        decide
      have := h.last [] head [data] rfl hend
      contradiction
    | [] =>
      rw [hsent] at hframes
      contradiction
    | [_] =>
      rw [hsent] at hframes
      simp at hframes
    | _ :: _ :: _ :: _ =>
      rw [hsent] at hframes
      simp at hframes

end Client

end Http2
end Fsw
