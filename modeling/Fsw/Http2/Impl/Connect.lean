import Fsw.Http2.Impl.Client

namespace Fsw
namespace Http2

-- What `Socket::connect` returns, and how much the two calls of `send_all` get through
structure Connection.Outcome where
  connected : Bool
  ns : Nat × Nat
  deriving DecidableEq, Repr

-- `sock` is `none` if it is `nullptr`, and else whether the socket has been connected.
structure Connection (lib : Nghttp2) where
  client : Client lib
  sock : Option Bool
  attempts : Nat -- How often `Socket::connect` has been called

namespace Connection

variable {lib : Nghttp2}

def new (inflater : lib.Inflater) (deflater : lib.Deflater) : Connection lib :=
  ⟨.new lib inflater deflater, none, 0⟩

def connect (c : Connection lib) (o : Outcome) : Connection lib × Bool :=
  if c.sock.isSome then
    (c, true)
  else
    let (client, ret) := c.client.connect o.connected o.ns
    (⟨client, some o.connected, c.attempts + 1⟩, ret)

structure Call (lib : Nghttp2) where
  before : Connection lib
  ret : Bool
  after : Connection lib

def calls (c : Connection lib) : List Outcome → List (Call lib)
  | [] => []
  | o :: os =>
    let (c', ret) := c.connect o
    ⟨c, ret, c'⟩ :: c'.calls os

end Connection
end Http2
end Fsw
