import Fsw.Http.Impl.Ctx
import Fsw.Websocket.Impl.Frame

namespace Fsw
namespace Websocket

-- What `Socket::recv` has put into `buf`, `none` if it returns `-1`, which `append` takes for a
-- `size_t`.
def recvFrame (frame : Frame) (readBuf : Buffer) (recved : Option Bytes)
    : Except Trap (Frame × Buffer) := do
  let readBuf := readBuf.clear
  match recved with
  | none => .error .exit
  | some bs =>
    let readBuf ← readBuf.append bs
    frame.decode readBuf

-- A call is given the object to decode into and what its `recv` returns.
def recvFrames (readBuf : Buffer) : List (Frame × Bytes) → List (Frame × Buffer)
  | [] => []
  | (frame, bs) :: calls =>
    match recvFrame frame readBuf (some bs) with
    | .ok (frame, readBuf) => (frame, readBuf) :: recvFrames readBuf calls
    | .error _ => []

end Websocket
end Fsw
