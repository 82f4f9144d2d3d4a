import Fsw.Event.Lemmas.Transfer
import Fsw.Http2.Impl.Connect
import Fsw.Http2.Lemmas.Calls
import Fsw.Http2.Lemmas.Literal

namespace Fsw
namespace Http2
namespace Connection

variable {lib : Nghttp2} {c : Connection lib} {inflater : lib.Inflater}
  {deflater : lib.Deflater} {o : Outcome}

def settingFrame (settings : Settings) : Bytes :=
  frameBytes FrameType.SETTINGS 0 0 (Client.setting 0x1 settings.headerTableSize
    ++ Client.setting 0x3 settings.maxConcurrentStreams ++ Client.setting 0x4 settings.windowSize)

structure Established (c : Connection lib) : Prop where
  connected : c.sock = some true
  sent : c.client.sent = [PRI_STRING, settingFrame c.client.localSettings]

-- After a call that failed the next one tries again, or it fails, too.
def Retries (call next : Call lib) : Prop :=
  call.ret = false → next.ret = false ∨ next.after.attempts = next.before.attempts + 1

structure Truthful (calls : List (Call lib)) : Prop where
  established : ∀ call ∈ calls, call.ret = true → call.after.Established
  retries : calls.IsChain Retries

-- The socket is connected, and all that is to be sent gets through.
def Outcome.Complete (o : Outcome) : Prop :=
  o.connected = true ∧ o.ns = (PRI_STRING.length, FRAME_HEADER_SIZE + 3 * 6)

/--
`send` of the client is `send_all` on the memory `bs` is in, where `n` is how much the kernel takes
in all.
-/
theorem send_eq_sendAll (client : Client lib) {mem bs : Bytes} {buf : Nat}
    {script : List Transfer.Result} {t : Transfer Bytes} (hmem : (mem.drop buf).take bs.length = bs)
    (hpos : 0 < bs.length) (hlen : bs.length < 2 ^ 64) (hfits : Transfer.Fits bs.length 0 script)
    (h : Transfer.sendAll mem buf bs.length script = .ok t)
    : ∃ n, client.send bs n = ({ client with sent := client.sent ++ [t.state] },
        decide (t.ret = bs.length)) := by
  rcases Transfer.sendAll_account hlen hfits h with ⟨n, haccount, hstate⟩
  have htake : (mem.drop buf).take n = bs.take n := by
    conv => rhs; rw [← hmem]
    rw [List.take_take, Nat.min_eq_left haccount.le]
  refine ⟨n, ?_⟩
  rw [Client.send, hstate, htake]
  simp only [haccount.ret_eq_iff hpos]

theorem Outcome.Complete.of_connect {client : Client lib}
    (h : (client.connect o.connected o.ns).2 = true)
    : o.Complete := by
  unfold Client.connect at h
  split at h
  . next hconnected =>
    split at h
    . contradiction
    . next hsend =>
      have hpri : o.ns.1 = PRI_STRING.length := by
        injection hsend with _ hsend
        exact of_decide_eq_true hsend
      have hsetting : o.ns.2 = FRAME_HEADER_SIZE + 3 * 6 := of_decide_eq_true h
      exact ⟨hconnected, Prod.ext hpri hsetting⟩
  . contradiction

theorem connect_of_complete (h : o.Complete)
    : (new inflater deflater).connect o
        = (⟨{ Client.new lib inflater deflater with sent := [PRI_STRING, settingFrame .default] },
          some true, 1⟩,
            true) := by
  rcases o with ⟨connected, ns⟩
  obtain ⟨rfl, rfl⟩ := h
  rfl

theorem calls_cons {os : List Outcome}
    : c.calls (o :: os) = ⟨c, (c.connect o).2, (c.connect o).1⟩ :: (c.connect o).1.calls os := rfl

section Again

variable (hsock : c.sock.isSome)
include hsock

theorem connect_again : c.connect o = (c, true) := by
  rw [connect, if_pos hsock]

theorem mem_calls_again {os : List Outcome} {call : Call lib} (h : call ∈ c.calls os)
    : call = ⟨c, true, c⟩ := by
  induction os with
  | nil => contradiction
  | cons o os ih =>
    rw [calls_cons, connect_again hsock] at h
    rcases List.mem_cons.mp h with h | h
    . exact h
    . exact ih h

theorem isChain_calls_again {os : List Outcome} {call : Call lib} (hret : call.ret)
    : (call :: c.calls os).IsChain Retries := by
  induction os generalizing call with
  | nil => exact .singleton call
  | cons o os ih =>
    rw [calls_cons, connect_again hsock]
    refine .cons_cons ?_ (ih rfl)
    intro hfalse
    rw [hret] at hfalse
    contradiction

end Again

theorem isSome_connect : ((new inflater deflater).connect o).1.sock.isSome := rfl

/--
A client whose first call fails never tries again, and it never says so either.
-/
theorem truthful_iff (inflater : lib.Inflater) (deflater : lib.Deflater) (os : List Outcome)
    : Truthful ((new inflater deflater).calls os) ↔ ∀ o rest, os = o :: rest
        → rest = [] ∨ o.Complete := by
  constructor
  . rintro h o rest rfl
    cases rest with
    | nil => exact .inl rfl
    | cons o' rest =>
      have hretries := h.retries
      rw [calls_cons, calls_cons, connect_again isSome_connect] at hretries
      have hnext := (List.isChain_cons_cons.mp hretries).1
      have hret : ((new inflater deflater).connect o).2 = true := by
        by_contra hret
        rcases hnext (Bool.eq_false_iff.mpr hret) with hfalse | hattempts
        . contradiction
        . exact absurd hattempts (by simp)
      exact .inr (.of_connect hret)
  . intro h
    cases os with
    | nil => exact ⟨by simp [calls], .nil⟩
    | cons o rest =>
      rcases h o rest rfl with rfl | hcomplete
      . refine ⟨?_, .singleton _⟩
        intro call hcall hret
        rw [calls_cons] at hcall
        rw [List.mem_singleton.mp hcall] at hret ⊢
        have hcomplete := Outcome.Complete.of_connect hret
        simp only [connect_of_complete hcomplete]
        exact ⟨rfl, rfl⟩
      . rw [calls_cons, connect_of_complete hcomplete]
        refine ⟨?_, isChain_calls_again rfl rfl⟩
        intro call hcall _
        rcases List.mem_cons.mp hcall with rfl | hcall
        . exact ⟨rfl, rfl⟩
        . rw [mem_calls_again rfl hcall]
          exact ⟨rfl, rfl⟩

-- The server refuses the connection, and the client asks again.
theorem refused_not_truthful
    : ¬Truthful ((@new literalLib () ()).calls [⟨false, (0, 0)⟩, ⟨true, (24, 27)⟩]) := by
  intro h
  have hestablished := h.established _ (List.mem_cons_of_mem _ (List.mem_singleton_self _)) rfl
  exact absurd hestablished.connected (by decide)

end Connection
end Http2
end Fsw
