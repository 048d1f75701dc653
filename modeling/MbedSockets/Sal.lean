import MbedSockets.Lib.Heap

/-!
The types of the socket abstraction layer and of the scheduler, as the C++
classes use them. The stacks themselves are not part of the repository. What
a stack does when it is called is therefore an input: every step of the model
comes with an `Env` that answers each call, and only the fields through which
an answer can reach the C++ object are recorded.
-/

namespace MbedSockets

/-- Identity of a C++ object, never reused. -/
abbrev ObjId := Nat

/-- A stack's control block, the target of `_socket.impl`. -/
abbrev Impl := Nat

abbrev Stack := Nat

/-- Pointers that the C++ layer only hands on: buffers, lengths and texts. -/
abbrev Ptr := Nat

/-- The handle of a scheduled callback; a null handle is `none`. -/
abbrev Handle := Nat

/-- A `void (*)()` periodic task of a stack. -/
abbrev Task := Nat

/-- A handler given by the application. `none` is a function pointer that is
false when cast to a boolean. -/
abbrev FunctionPointer := Option Nat

/-- `socket_error_t`. The codes the C++ layer itself returns are named; the
remaining codes of a stack are `other`. -/
inductive SocketError
  | none
  | unknown
  | unimplemented
  | nullPtr
  | badStack
  | badAddress
  | badArgument
  | closed
  | other (code : Nat)
  deriving DecidableEq, Repr

inductive AddressFamily
  | inet4
  | inet6
  deriving DecidableEq, Repr

inductive ProtoFamily
  | dgram
  | stream
  deriving DecidableEq, Repr

/-- `struct socket_addr`: the sixteen bytes of `ipv6be`, in network order. -/
abbrev RawAddr := Fin 16 → UInt8

/-- The class `SocketAddr`. A `SocketAddr *` argument is an
`Option SocketAddr`, `none` being `NULL`. -/
structure SocketAddr where
  addr : RawAddr
  deriving DecidableEq

def SocketAddr.getAddr (a : SocketAddr) : RawAddr := a.addr

/-- `SocketAddr::setAddr(const struct socket_addr *)`. -/
def SocketAddr.setAddr (_self : SocketAddr) (addr : RawAddr) : SocketAddr := ⟨addr⟩

/-- `struct socket_event`, each kind with the union member read for it. An
event code outside the enumeration is `other`. -/
inductive SocketEvent
  | rxError (e : SocketError)
  | txError (e : SocketError)
  | error (e : SocketError)
  | rxDone
  | txDone (sentbytes : UInt16)
  | dns (addr : RawAddr) (domain : Ptr)
  | connect
  | disconnect
  | accept (newimpl : Option Impl)
  | none
  | other (code : UInt8)
  deriving DecidableEq

/-- `struct socket_api`, as far as the C++ layer reads it without calling
into the stack: whether `destroy` is set, and the two periodic queries. -/
structure SocketApi where
  hasDestroy : Bool
  periodicInterval : UInt32
  periodicTask : Task
  deriving DecidableEq

/-- `struct socket`. `handler` names the object whose thunk is installed. -/
structure StructSocket where
  handler : Option ObjId
  impl : Option Impl
  stack : Stack
  api : Option SocketApi
  family : ProtoFamily
  event : Option SocketEvent
  deriving DecidableEq

/-- The calls into a stack, with the arguments passed by value or by const
pointer. `socketAccept` is the function of that name in the abstraction layer;
all others go through `_socket.api`. -/
inductive ApiCall
  | create (af : AddressFamily) (pf : ProtoFamily) (handler : ObjId)
  | destroy
  | resolve (address : Ptr)
  | str2addr (addr : Ptr)
  | bind (addr : RawAddr) (port : UInt16)
  | close
  | recv (buf len : Ptr)
  | recvFrom (buf len port : Ptr)
  | send (buf : Ptr) (len : Nat)
  | sendTo (buf : Ptr) (len : Nat) (addr : RawAddr) (port : UInt16)
  | isConnected
  | getLocalAddr
  | getLocalPort (port : Ptr)
  | getRemoteAddr
  | getRemotePort (port : Ptr)
  | connect (addr : RawAddr) (port : UInt16)
  | setNagle (enable : Bool)
  | startListen (backlog : UInt32)
  | stopListen
  | accept (handler : ObjId)
  | socketAccept (listener : StructSocket) (handler : ObjId)
  deriving DecidableEq

/-- What the stack does on a call: its result, what it writes to the fields
of `struct socket` that belong to it (`none` leaves a field alone), and what
it writes through an address pointer. -/
structure Answer where
  err : SocketError := .none
  impl : Option (Option Impl) := none
  handler : Option (Option ObjId) := none
  family : Option ProtoFamily := none
  addr : Option RawAddr := none
  yes : Bool := false

/-- The behaviour of the stacks during one step. -/
abbrev Env := ApiCall → Answer

/-- A stack that accepts every call and writes nothing. -/
def Env.quiet : Env := fun _ => {}

/-- The same, but `create` stores the given control block. -/
def Env.creating (i : Impl) : Env
  | .create _ _ _ => { impl := some (some i) }
  | _ => {}

def Answer.store (a : Answer) (s : StructSocket) : StructSocket :=
  { s with
    impl := a.impl.getD s.impl
    handler := a.handler.getD s.handler
    family := a.family.getD s.family }

/-- One call into a stack, with the `impl` of the structure it was given, the
result and the `impl` it left there. -/
structure ApiEntry where
  call : ApiCall
  impl : Option Impl
  err : SocketError
  implAfter : Option Impl
  deriving DecidableEq

/-- The handler members of the three socket classes. -/
inductive Slot
  | onDNS
  | onError
  | onReadable
  | onSent
  | onConnect
  | onDisconnect
  | onIncoming
  deriving DecidableEq, Repr

/-- The arguments bound to a handler besides the socket itself. -/
inductive Args
  | onDNS (addr : RawAddr) (domain : Ptr)
  | onError (err : SocketError)
  | onReadable
  | onSent (sentbytes : UInt16)
  | onConnect
  | onDisconnect
  | onIncoming (newimpl : Option Impl)
  deriving DecidableEq

def Args.slot : Args → Slot
  | .onDNS _ _ => .onDNS
  | .onError _ => .onError
  | .onReadable => .onReadable
  | .onSent _ => .onSent
  | .onConnect => .onConnect
  | .onDisconnect => .onDisconnect
  | .onIncoming _ => .onIncoming

/-- A callback bound to a socket, `handler.bind(this, args…)`: it holds a copy
of the handler as it was when the callback was posted. -/
structure Bound where
  this : ObjId
  fn : FunctionPointer
  args : Args
  deriving DecidableEq

/-- A periodic callback in the scheduler, with its handle. -/
structure Tick where
  handle : Handle
  task : Task
  period : UInt32
  tolerance : UInt32
  deriving DecidableEq

end MbedSockets
