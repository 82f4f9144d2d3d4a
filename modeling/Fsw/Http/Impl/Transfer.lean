import Fsw.Http.Impl.Server

/-!
This module contains how the outputs of `on_accept` get onto the wire: `send` of `socket.cc`, and
the call of `sendfile` in `server.cc`. What the kernel makes of the system calls is given as the
list of their results. There is no transfer as long as the list is not long enough, or a call
transfers nothing or more than it has been asked for.
-/

namespace Fsw
namespace Http

-- `again` is `EAGAIN`, after which `wait_event` returns true.
inductive Call where
  | transfers (n : Nat)
  | again
  deriving DecidableEq, Repr

namespace Socket

-- What has been transferred, and the results that are left
def send (data : Bytes) : List Call → Option (Bytes × List Call)
  | [] => none
  | .again :: calls => send data calls
  | .transfers n :: calls => if 0 < n ∧ n ≤ data.length then some (data.take n, calls) else none

end Socket

-- The result of `sendfile` is not looked at. It transfers nothing of an empty file.
def sendfile (data : Bytes) (calls : List Call) : Option (Bytes × List Call) :=
  if data = [] then
    some ([], calls)
  else
    match calls with
    | [] => none
    | .again :: calls => some ([], calls)
    | .transfers n :: calls => if 0 < n ∧ n ≤ data.length then some (data.take n, calls) else none

def Output.transmit : Output → List Call → Option (Bytes × List Call)
  | send data, calls => Socket.send data calls
  | sendfile data, calls => Http.sendfile data calls

def transmitAll : List Output → List Call → Option (Bytes × List Call)
  | [], calls => some ([], calls)
  | o :: os, calls => do
    let (wire, calls) ← o.transmit calls
    let (wires, calls) ← transmitAll os calls
    return (wire ++ wires, calls)

-- What is on the wire when the next request is handled, for each of the answers on a connection
def transmitAnswers : List Answer → List Call → Option (List Bytes)
  | [], _ => some []
  | answer :: answers, calls => do
    let (wire, calls) ← transmitAll answer.outputs calls
    let wires ← transmitAnswers answers calls
    return wire :: wires

end Http
end Fsw
