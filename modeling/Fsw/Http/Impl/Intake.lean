import Fsw.Http.Impl.Server
import Fsw.Lib.Machine

/-!
This module contains how connections and their requests come in: `Server::start` and the loop of
`on_accept` of `server.cc`, `Socket::accept` and `Socket::recv` of `socket.cc`. A command is a
result of one of the system calls `accept` and `recv`, the events are what the server does with
them. The coroutines of the connections take turns in any order.
-/

namespace Fsw
namespace Http

-- `accept` and `recv` return -1: whether `errno` is `EAGAIN`, and what `wait_event` returns then
structure Failure where
  again : Bool
  waited : Bool
  deriving DecidableEq, Repr

inductive AcceptResult where
  | connected (fd : Nat)
  | failed (failure : Failure)
  deriving DecidableEq, Repr

-- `recv` is asked for at most `READ_BUF_MAX_SIZE` bytes.
structure Received extends Read where
  pos : 0 < data.length
  le : data.length ≤ READ_BUF_MAX_SIZE
  deriving DecidableEq, Repr

inductive RecvResult where
  | received (r : Received)
  | closed
  | failed (failure : Failure)
  deriving DecidableEq, Repr

inductive Intake where
  | accept (u : Uninit) (result : AcceptResult)
  | recv (id : Nat) (result : RecvResult)
  | shutdown
  deriving DecidableEq, Repr

-- The connections are numbered in the order of their coroutines. `recved` is what `Socket::recv`
-- returns.
inductive IntakeEvent where
  | coroutine (fd : Int)
  | recved (id : Nat) (n : Int)
  | parse (id : Nat) (n : Int)
  | lookup (id : Nat) (path : Option Bytes)
  deriving DecidableEq, Repr

structure Conn where
  fd : Int
  ctx : Ctx
  live : Bool
  deriving DecidableEq, Repr

structure IntakeState where
  running : Bool
  accepting : Bool
  conns : List Conn
  deriving DecidableEq, Repr

def Failure.retry (failure : Failure) : Bool :=
  failure.again && failure.waited

namespace Server

-- `accept` always returns a `Socket`, whatever it is for.
def intakeAccept (s : IntakeState) (u : Uninit) (result : AcceptResult)
    : Except Unit (IntakeState × List IntakeEvent) :=
  let create (fd : Int) : IntakeState × List IntakeEvent :=
    ({ s with accepting := s.running, conns := s.conns ++ [⟨fd, .new u, true⟩] }, [.coroutine fd])
  match result with
  | .connected fd => .ok (create fd)
  | .failed failure => if failure.retry then .ok (s, []) else .ok (create (-1))

-- After `parse(-1)` and with a null `path`, nothing is known about what the process does.
def intakeRecv (server : Server) (s : IntakeState) (id : Nat) (conn : Conn) (result : RecvResult)
    : Except Unit (IntakeState × List IntakeEvent) :=
  let update (conn : Conn) : IntakeState := { s with conns := s.conns.set id conn }
  let gone : IntakeState :=
    { s with accepting := false, conns := s.conns.map ({ · with live := false }) }
  match result with
  | .closed => .ok (update { conn with live := false }, [.recved id 0])
  | .failed failure =>
    if failure.retry then .ok (s, []) else .ok (gone, [.recved id (-1), .parse id (-1)])
  | .received r =>
    let events := [.recved id r.data.length, .parse id r.data.length,
      .lookup id ((conn.ctx.recv r.data).parse r.callbacks).request.path]
    match (server.turn conn.ctx r.toRead).2 with
    | .next ctx => .ok (update { conn with ctx := ctx }, events)
    | .done => .ok (update { conn with live := false }, events)
    | .trap _ => .ok (gone, events)

-- A result for a call that nobody has made is an error.
def intakeStep (server : Server) (s : IntakeState)
    : Intake → Except Unit (IntakeState × List IntakeEvent)
  | .shutdown => .ok ({ s with running := false }, [])
  | .accept u result => if s.accepting then intakeAccept s u result else .error ()
  | .recv id result =>
    match s.conns[id]? with
    | none => .error ()
    | some conn => if conn.live then server.intakeRecv s id conn result else .error ()

def intake (server : Server) : Machine IntakeState Intake IntakeEvent Unit where
  init := ⟨true, true, []⟩
  step := server.intakeStep

end Server
end Http
end Fsw
