import Fsw.Http.Impl.Transfer
import Fsw.Http.Lemmas.Server

namespace Fsw
namespace Http

open Buffer (str)

def Answer.bytes (answer : Answer) : Bytes :=
  answer.outputs.flatMap Output.data

-- The first result of `send` that is not `EAGAIN`, and the first result of `sendfile`, is for all
-- of the data.
inductive AtOnce : List Output → List Call → Prop where
  | nil {calls : List Call} : AtOnce [] calls
  | again {data : Bytes} {os : List Output} {calls : List Call}
      (h : AtOnce (.send data :: os) calls)
      : AtOnce (.send data :: os) (.again :: calls)
  | send {data : Bytes} {os : List Output} {calls : List Call} (h : AtOnce os calls)
      : AtOnce (.send data :: os) (.transfers data.length :: calls)
  | sendfile {data : Bytes} {os : List Output} {calls : List Call} (hne : data ≠ [])
      (h : AtOnce os calls)
      : AtOnce (.sendfile data :: os) (.transfers data.length :: calls)
  | empty {os : List Output} {calls : List Call} (h : AtOnce os calls)
      : AtOnce (.sendfile [] :: os) calls

section Send

variable {data wire : Bytes} {calls rest : List Call}

theorem send_ok (h : Socket.send data calls = some (wire, rest))
    : ∃ n, wire = data.take n ∧ 0 < n ∧ n ≤ data.length
        ∧ ∃ k, calls = List.replicate k .again ++ .transfers n :: rest := by
  induction calls with
  | nil => contradiction
  | cons call calls ih =>
    cases call with
    | again =>
      rcases ih h with ⟨n, hwire, hpos, hle, k, hcalls⟩
      refine ⟨n, hwire, hpos, hle, k + 1, ?_⟩
      rw [hcalls, List.replicate_succ, List.cons_append]
    | transfers n =>
      unfold Socket.send at h
      split at h
      . next hn =>
        injection h with h
        injection h with hwire hrest
        rw [← hwire, ← hrest]
        exact ⟨n, rfl, hn.1, hn.2, 0, rfl⟩
      . contradiction

theorem sendfile_ok (h : sendfile data calls = some (wire, rest))
    : data = [] ∧ wire = [] ∧ rest = calls ∨ data ≠ [] ∧ wire = [] ∧ calls = .again :: rest
        ∨ data ≠ [] ∧ ∃ n, wire = data.take n ∧ n ≤ data.length ∧ calls = .transfers n :: rest := by
  unfold sendfile at h
  split at h
  . next hnil =>
    injection h with h
    injection h with hwire hrest
    exact .inl ⟨hnil, hwire.symm, hrest.symm⟩
  . next hne =>
    cases calls with
    | nil => contradiction
    | cons call calls =>
      cases call with
      | again =>
        injection h with h
        injection h with hwire hrest
        rw [hrest]
        exact .inr (.inl ⟨hne, hwire.symm, rfl⟩)
      | transfers n =>
        dsimp only at h
        split at h
        . next hn =>
          injection h with h
          injection h with hwire hrest
          rw [hrest]
          exact .inr (.inr ⟨hne, n, hwire.symm, hn.2, rfl⟩)
        . contradiction

end Send

section AtOnce

variable {o : Output} {os : List Output} {wire : Bytes} {calls rest : List Call}

theorem take_eq_self_iff {data : Bytes} {n : Nat} (hn : n ≤ data.length)
    : data.take n = data ↔ n = data.length := by
  constructor
  . intro h
    have hlength := congrArg List.length h
    rw [List.length_take] at hlength
    omega
  . intro h
    rw [h, List.take_length]

theorem atOnce_send_iff {data : Bytes} {n k : Nat}
    : AtOnce (.send data :: os) (List.replicate k .again ++ .transfers n :: rest)
        ↔ n = data.length ∧ AtOnce os rest := by
  induction k with
  | zero =>
    rw [List.replicate_zero, List.nil_append]
    constructor
    . intro h
      cases h with
      | send h => exact ⟨rfl, h⟩
    . rintro ⟨rfl, h⟩
      apply AtOnce.send h
  | succ k ih =>
    rw [List.replicate_succ, List.cons_append]
    constructor
    . intro h
      cases h with
      | again h => apply ih.mp h
    . intro h
      apply AtOnce.again (ih.mpr h)

theorem transmit_le (h : o.transmit calls = some (wire, rest)) : wire.length ≤ o.data.length := by
  cases o with
  | send data =>
    rcases send_ok h with ⟨n, rfl, _⟩
    rw [List.length_take]
    apply Nat.min_le_right
  | sendfile data =>
    rcases sendfile_ok h with ⟨_, rfl, _⟩ | ⟨_, rfl, _⟩ | ⟨_, n, rfl, _⟩
    . apply Nat.zero_le
    . apply Nat.zero_le
    . rw [List.length_take]
      apply Nat.min_le_right

theorem atOnce_cons_iff (h : o.transmit calls = some (wire, rest))
    : AtOnce (o :: os) calls ↔ wire = o.data ∧ AtOnce os rest := by
  cases o with
  | send data =>
    rcases send_ok h with ⟨n, rfl, _, hle, k, rfl⟩
    rw [atOnce_send_iff, Output.data, take_eq_self_iff hle]
  | sendfile data =>
    rcases sendfile_ok h with ⟨rfl, rfl, rfl⟩ | ⟨hne, rfl, rfl⟩ | ⟨hne, n, rfl, hle, rfl⟩
    . constructor
      . intro h
        cases h with
        | sendfile hne h => contradiction
        | empty h => exact ⟨rfl, h⟩
      . rintro ⟨_, h⟩
        apply AtOnce.empty h
    . constructor
      . intro h
        cases h with
        | empty h => contradiction
      . rintro ⟨hdata, _⟩
        exact absurd hdata.symm hne
    . rw [Output.data, take_eq_self_iff hle]
      constructor
      . intro h
        cases h with
        | sendfile _ h => exact ⟨rfl, h⟩
        | empty h => contradiction
      . rintro ⟨rfl, hrest⟩
        apply AtOnce.sendfile hne hrest

theorem transmitAll_cons (h : transmitAll (o :: os) calls = some (wire, rest))
    : ∃ first calls' wires, o.transmit calls = some (first, calls')
        ∧ transmitAll os calls' = some (wires, rest)
        ∧ wire = first ++ wires := by
  rcases Option.bind_eq_some_iff.mp h with ⟨⟨first, calls'⟩, hfirst, h⟩
  rcases Option.bind_eq_some_iff.mp h with ⟨⟨wires, rest'⟩, hwires, h⟩
  injection h with h
  injection h with hwire hrest
  rw [← hrest]
  exact ⟨first, calls', wires, hfirst, hwires, hwire.symm⟩

theorem transmitAll_le (h : transmitAll os calls = some (wire, rest))
    : wire.length ≤ (os.flatMap Output.data).length := by
  induction os generalizing calls wire with
  | nil =>
    injection h with h
    injection h with hwire _
    rw [← hwire]
    exact Nat.le_refl 0
  | cons o os ih =>
    rcases transmitAll_cons h with ⟨first, calls', wires, hfirst, hwires, rfl⟩
    have hle := transmit_le hfirst
    have hles := ih hwires
    rw [List.flatMap_cons, List.length_append, List.length_append]
    omega

theorem append_eq_append_iff_of_le {a b a' b' : Bytes} (ha : a.length ≤ a'.length)
    (hb : b.length ≤ b'.length)
    : a ++ b = a' ++ b' ↔ a = a' ∧ b = b' := by
  constructor
  . intro h
    have hlength := congrArg List.length h
    rw [List.length_append, List.length_append] at hlength
    apply List.append_inj h
    omega
  . rintro ⟨rfl, rfl⟩
    rfl

theorem transmitAll_iff (h : transmitAll os calls = some (wire, rest)) (os' : List Output)
    : AtOnce (os ++ os') calls ↔ wire = os.flatMap Output.data ∧ AtOnce os' rest := by
  induction os generalizing calls wire with
  | nil =>
    injection h with h
    injection h with hwire hrest
    rw [← hwire, ← hrest]
    simp
  | cons o os ih =>
    rcases transmitAll_cons h with ⟨first, calls', wires, hfirst, hwires, rfl⟩
    rw [List.cons_append, atOnce_cons_iff hfirst, ih hwires, List.flatMap_cons,
      append_eq_append_iff_of_le (transmit_le hfirst) (transmitAll_le hwires), and_assoc]

end AtOnce

theorem transmitAnswers_iff {answers : List Answer} {calls : List Call} {wires : List Bytes}
    (h : transmitAnswers answers calls = some wires)
    : wires = answers.map Answer.bytes ↔ AtOnce (answers.flatMap Answer.outputs) calls := by
  induction answers generalizing calls wires with
  | nil =>
    injection h with h
    rw [← h]
    simp only [List.map_nil, List.flatMap_nil, true_iff]
    exact .nil
  | cons answer answers ih =>
    rcases Option.bind_eq_some_iff.mp h with ⟨⟨wire, rest⟩, hwire, h⟩
    rcases Option.bind_eq_some_iff.mp h with ⟨wires', hwires, h⟩
    injection h with h
    rw [← h, List.map_cons, List.flatMap_cons, transmitAll_iff hwire, ← ih hwires, List.cons.injEq]
    rfl

theorem onAccept_transmits_iff (server : Server) (u : Uninit) (rs : List Read) (calls : List Call)
    (wires : List Bytes) (h : transmitAnswers (server.onAccept u rs).answers calls = some wires)
    : wires = (server.onAccept u rs).answers.map Answer.bytes
        ↔ AtOnce ((server.onAccept u rs).answers.flatMap Answer.outputs) calls := by
  apply transmitAnswers_iff h

theorem onAccept_transmits_again
    : (serverA.onAccept .zero [getA.read]).answers.map Answer.bytes
        = [str "HTTP/1.1 200 OK\r\nConnection: Keep-Alive\r\nContent-Length: 0\r\n\r\n"] := by
  have houtputs : (serverA.onAccept .zero [getA.read]).answers.flatMap Answer.outputs
      = [.send (str "HTTP/1.1 200 OK\r\nConnection: Keep-Alive\r\nContent-Length: 0\r\n\r\n")] := by
    decide +kernel
  have hiff := onAccept_transmits_iff serverA .zero [getA.read] [.again, .transfers 62]
    [str "HTTP/1.1 200 OK\r\nConnection: Keep-Alive\r\nContent-Length: 0\r\n\r\n"]
    (by decide +kernel)
  rw [houtputs] at hiff
  exact (hiff.mpr (.again (.send .nil))).symm

def fileServer : Server where
  settings := [(str "document_root", str "/srv")]
  httpHandlers := []
  websocketHandlers := []
  fs := ⟨fun _ => true, fun _ => 3, fun _ => str "abc"⟩
  sha1 := fun _ => []

-- The kernel takes ten bytes of a response, and the header of a file but nothing of the file.
theorem onAccept_cut_off
    : transmitAnswers (serverA.onAccept .zero [getA.read]).answers [.transfers 10]
        = some [str "HTTP/1.1 2"]
        ∧ (serverA.onAccept .zero [getA.read]).answers.map Answer.bytes ≠ [str "HTTP/1.1 2"]
        ∧ transmitAnswers (fileServer.onAccept .zero [getA.read]).answers [.transfers 62, .again]
          = some [str "HTTP/1.1 200 OK\r\nConnection: Keep-Alive\r\nContent-Length: 3\r\n\r\n"]
        ∧ (fileServer.onAccept .zero [getA.read]).answers.map Answer.bytes
          = [str "HTTP/1.1 200 OK\r\nConnection: Keep-Alive\r\nContent-Length: 3\r\n\r\nabc"] := by
  decide +kernel

end Http
end Fsw
