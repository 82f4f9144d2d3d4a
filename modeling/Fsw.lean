import Fsw.Lib.Machine
import Fsw.Lib.Bits
import Fsw.Lib.PrefixCode
import Fsw.Lib.Fifo
import Fsw.Buffer.Impl.Buffer
import Fsw.Buffer.Impl.Pool
import Fsw.Buffer.Lemmas.Buffer
import Fsw.Buffer.Lemmas.Pool
import Fsw.Coroutine.Impl.Runtime
import Fsw.Coroutine.Impl.Timer
import Fsw.Coroutine.Impl.System
import Fsw.Coroutine.Impl.TimerManager
import Fsw.Coroutine.Impl.Defer
import Fsw.Coroutine.Lemmas.Runtime
import Fsw.Coroutine.Lemmas.StackDiscipline
import Fsw.Coroutine.Lemmas.Step
import Fsw.Coroutine.Lemmas.Shape
import Fsw.Coroutine.Lemmas.Log
import Fsw.Coroutine.Lemmas.Conservation
import Fsw.Coroutine.Lemmas.Assertion
import Fsw.Coroutine.Lemmas.HandOff
import Fsw.Coroutine.Lemmas.StaleWaiter
import Fsw.Coroutine.Lemmas.Alarm
import Fsw.Coroutine.Lemmas.Timeout
import Fsw.Coroutine.Lemmas.TimerManager
import Fsw.Coroutine.Lemmas.Defer
import Fsw.Coroutine.Lemmas.DeferOrder
import Fsw.Coroutine.Lemmas.DeferDrain
import Fsw.Event.Impl.Event
import Fsw.Event.Impl.Socket
import Fsw.Event.Impl.Transfer
import Fsw.Event.Lemmas.Step
import Fsw.Event.Lemmas.Exit
import Fsw.Event.Lemmas.Help
import Fsw.Event.Lemmas.Timeout
import Fsw.Event.Lemmas.Dispatch
import Fsw.Event.Lemmas.Socket
import Fsw.Event.Lemmas.Readiness
import Fsw.Event.Lemmas.Waiters
import Fsw.Event.Lemmas.Transfer
import Fsw.Websocket.Impl.Frame
import Fsw.Websocket.Impl.Connection
import Fsw.Websocket.Impl.Mask
import Fsw.Websocket.Lemmas.Frame
import Fsw.Websocket.Lemmas.Masked
import Fsw.Websocket.Lemmas.Client
import Fsw.Websocket.Lemmas.Bounds
import Fsw.Websocket.Lemmas.Lost
import Fsw.Websocket.Lemmas.Segmentation
import Fsw.Websocket.Lemmas.Mask
import Fsw.Http.Impl.Ctx
import Fsw.Http.Impl.Response
import Fsw.Http.Impl.Server
import Fsw.Http.Impl.Transfer
import Fsw.Http.Impl.Intake
import Fsw.Http.Lemmas.Ctx
import Fsw.Http.Lemmas.Isolation
import Fsw.Http.Lemmas.Fragments
import Fsw.Http.Lemmas.Response
import Fsw.Http.Lemmas.Capacity
import Fsw.Http.Lemmas.Delimited
import Fsw.Http.Lemmas.Server
import Fsw.Http.Lemmas.Reply
import Fsw.Http.Lemmas.DocumentRoot
import Fsw.Http.Lemmas.Routes
import Fsw.Http.Lemmas.Handshake
import Fsw.Http.Lemmas.Transfer
import Fsw.Http.Lemmas.Intake
import Fsw.Http.Lemmas.Segmentation
import Fsw.Hpack.Impl.Integer
import Fsw.Hpack.Impl.Bufs
import Fsw.Hpack.Impl.HuffmanData
import Fsw.Hpack.Impl.Huffman
import Fsw.Hpack.Impl.Ring
import Fsw.Hpack.Impl.Static
import Fsw.Hpack.Impl.Table
import Fsw.Hpack.Impl.Deflate
import Fsw.Hpack.Impl.Inflate
import Fsw.Hpack.Lemmas.Integer
import Fsw.Hpack.Lemmas.Bufs
import Fsw.Hpack.Lemmas.HuffmanCode
import Fsw.Hpack.Lemmas.Huffman
import Fsw.Hpack.Lemmas.Ring
import Fsw.Hpack.Lemmas.Static
import Fsw.Hpack.Lemmas.Table
import Fsw.Hpack.Lemmas.Search
import Fsw.Hpack.Lemmas.Block
import Fsw.Hpack.Lemmas.Deflate
import Fsw.Hpack.Lemmas.Inflate
import Fsw.Hpack.Lemmas.Decode
import Fsw.Hpack.Lemmas.Pieces
import Fsw.Hpack.Lemmas.Session
import Fsw.Http2.Impl.Frame
import Fsw.Http2.Impl.Client
import Fsw.Http2.Impl.Connect
import Fsw.Http2.Lemmas.Frame
import Fsw.Http2.Lemmas.Recv
import Fsw.Http2.Lemmas.Bounds
import Fsw.Http2.Lemmas.Client
import Fsw.Http2.Lemmas.Unknown
import Fsw.Http2.Lemmas.Streams
import Fsw.Http2.Lemmas.Body
import Fsw.Http2.Lemmas.Calls
import Fsw.Http2.Lemmas.Metadata
import Fsw.Http2.Lemmas.Terminate
import Fsw.Http2.Lemmas.Send
import Fsw.Http2.Lemmas.Headers
import Fsw.Http2.Lemmas.DataFrames
import Fsw.Http2.Lemmas.Settings
import Fsw.Http2.Lemmas.Entries
import Fsw.Http2.Lemmas.Remainder
import Fsw.Http2.Lemmas.Identifiers
import Fsw.Http2.Lemmas.Windows
import Fsw.Http2.Lemmas.Connect
import Fsw.Http2.Lemmas.Blocks
import Fsw.Http2.Lemmas.Library
import Fsw.Http2.Lemmas.Requests
import Fsw.Http2.Lemmas.Responses
