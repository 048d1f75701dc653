import MbedSockets.Sal

/-!
The class `Socket` and the members of its derived classes that work on one
object. A member function runs on a `Frame`: the object, the calls it has made
into its stack and the callbacks it has posted. A call through a null
`_socket.api`, or of a member of a null `SocketAddr`, is a `Fault`.
-/

namespace MbedSockets

/-- The concrete classes. `TCPAsynch` is the common base of the last two. -/
inductive Class
  | udp
  | stream
  | listener
  deriving DecidableEq, Repr

def Class.isTCPAsynch : Class → Bool
  | .udp => false
  | .stream | .listener => true

structure SocketObj where
  cls : Class
  handlers : Slot → FunctionPointer
  socket : StructSocket
  event : Option SocketEvent

structure Frame where
  this : ObjId
  obj : SocketObj
  calls : List ApiEntry
  posted : List Bound

inductive Fault
  | nullApi
  | nullAddr
  | nullEvent
  deriving DecidableEq, Repr

def ApiCall.entry (c : ApiCall) (env : Env) (s : StructSocket) : ApiEntry :=
  ⟨c, s.impl, (env c).err, ((env c).store s).impl⟩

namespace Frame

def start (this : ObjId) (obj : SocketObj) : Frame := ⟨this, obj, [], []⟩

/-- Assign a handler member. -/
def register (f : Frame) (slot : Slot) (h : FunctionPointer) : Frame :=
  { f with obj.handlers := Function.update f.obj.handlers slot h }

/-- `postCallback(handler.bind(this, args…))`, whatever the handler is. -/
def post (f : Frame) (args : Args) : Frame :=
  { f with posted := f.posted ++ [⟨f.this, f.obj.handlers args.slot, args⟩] }

/-- The same behind `if (handler)`. -/
def postIfSet (f : Frame) (args : Args) : Frame :=
  if (f.obj.handlers args.slot).isSome then f.post args else f

/-- Pass `&_socket` to the stack. -/
def call (f : Frame) (env : Env) (c : ApiCall) : Answer × Frame :=
  (env c, { f with
    obj.socket := (env c).store f.obj.socket
    calls := f.calls ++ [c.entry env f.obj.socket] })

/-- A call through `_socket.api`. -/
def api (f : Frame) (env : Env) (c : ApiCall) : Except Fault (Answer × Frame) :=
  match f.obj.socket.api with
  | none => .error .nullApi
  | some _ => .ok (f.call env c)

def apiErr (f : Frame) (env : Env) (c : ApiCall) : Except Fault (SocketError × Frame) := do
  let (a, f) ← f.api env c
  return (a.err, f)

/-- A call through `_socket.api` on a structure that the stack does not write
back to the object: a const `_socket`, or a local copy. -/
def query (f : Frame) (env : Env) (c : ApiCall) (s : StructSocket) :
    Except Fault (Answer × Frame) :=
  match s.api with
  | none => .error .nullApi
  | some _ => .ok (env c, { f with calls := f.calls ++ [c.entry env s] })

end Frame

namespace Socket

/-- The base constructor. The derived constructors set `family` at once, so
its value is a parameter here. -/
def init (registry : Stack → Option SocketApi) (this : ObjId) (cls : Class)
    (stack : Stack) (family : ProtoFamily) : SocketObj where
  cls := cls
  handlers := fun _ => none
  socket :=
    { handler := some this
      impl := none
      stack := stack
      api := registry stack
      family := family
      event := none }
  event := none

def openAfPf (env : Env) (af : AddressFamily) (pf : ProtoFamily) (f : Frame) :
    Except Fault (SocketError × Frame) :=
  if f.obj.socket.api = none then
    .ok (.badStack, f)
  else
    f.apiErr env (.create af pf f.this)

def errorCheck (err : SocketError) (f : Frame) : Bool × Frame :=
  if err = .none then
    (false, f)
  else
    (true, f.post (.onError err))

/-- The destructor. `destroy` is called whether or not there is an `impl`. -/
def deinit (env : Env) (f : Frame) : Frame :=
  match f.obj.socket.api with
  | some api =>
    if api.hasDestroy then
      let (a, f) := f.call env .destroy
      (errorCheck a.err f).2
    else f
  | none => f

def eventHandler (ev : SocketEvent) (f : Frame) : Frame :=
  match ev with
  | .rxError e | .txError e | .error e => f.postIfSet (.onError e)
  | .rxDone => f.postIfSet .onReadable
  | .txDone sentbytes => f.postIfSet (.onSent sentbytes)
  | .dns addr domain => f.postIfSet (.onDNS addr domain)
  | .connect | .disconnect | .accept _ | .none | .other _ => f

def setOnError (h : FunctionPointer) (f : Frame) : Frame := f.register .onError h
def setOnReadable (h : FunctionPointer) (f : Frame) : Frame := f.register .onReadable h
def setOnSent (h : FunctionPointer) (f : Frame) : Frame := f.register .onSent h

def resolve (env : Env) (address : Ptr) (onDNS : FunctionPointer) (f : Frame) :
    Except Fault (SocketError × Frame) :=
  if f.obj.socket.impl = none then
    .ok (.nullPtr, f)
  else if f.obj.socket.handler = none then
    .ok (.closed, f)
  else
    (f.register .onDNS onDNS).apiErr env (.resolve address)

end Socket

/-- The private overrides of the virtual `open(af, pf)`. -/
def UDPSocket.openAfPf (_af : AddressFamily) (_pf : ProtoFamily) (f : Frame) :
    Except Fault (SocketError × Frame) :=
  .ok (.unimplemented, f)

def TCPAsynch.openAfPf (_af : AddressFamily) (_pf : ProtoFamily) (f : Frame) :
    Except Fault (SocketError × Frame) :=
  .ok (.unimplemented, f)

namespace Socket

/-- What a call of `open(af, pf)` through a `Socket` runs. -/
def virtualOpen (af : AddressFamily) (pf : ProtoFamily) (f : Frame) :
    Except Fault (SocketError × Frame) :=
  match f.obj.cls with
  | .udp => UDPSocket.openAfPf af pf f
  | .stream | .listener => TCPAsynch.openAfPf af pf f

def bindAddr (env : Env) (addr : Option SocketAddr) (port : UInt16) (f : Frame) :
    Except Fault (SocketError × Frame) :=
  match addr with
  | none => .ok (.nullPtr, f)
  | some addr =>
    if f.obj.socket.impl = none then do
      let (err, f) ← virtualOpen .inet4 f.obj.socket.family f
      if err ≠ .none then
        return (err, f)
      else
        f.apiErr env (.bind addr.getAddr port)
    else
      f.apiErr env (.bind addr.getAddr port)

/-- `bind(const char *, uint16_t)`; `tmp` is the uninitialised local. -/
def bindText (env : Env) (addr : Ptr) (port : UInt16) (tmp : SocketAddr) (f : Frame) :
    Except Fault (SocketError × Frame) :=
  if f.obj.socket.impl = none then
    .ok (.nullPtr, f)
  else do
    let (a, f) ← f.api env (.str2addr addr)
    if a.err ≠ .none then
      return (a.err, f)
    else
      bindAddr env (some ⟨a.addr.getD tmp.addr⟩) port f

def close (env : Env) (f : Frame) : Except Fault (SocketError × Frame) :=
  if f.obj.socket.impl = none then .ok (.nullPtr, f) else f.apiErr env .close

def recv (env : Env) (buf len : Ptr) (f : Frame) : Except Fault (SocketError × Frame) :=
  if f.obj.socket.impl = none then .ok (.nullPtr, f) else f.apiErr env (.recv buf len)

/-- `addr` is the uninitialised local that the stack fills. The caller's
`*remote_addr` is returned beside the error code. -/
def recvFrom (env : Env) (buf len : Ptr) (remoteAddr : Option SocketAddr)
    (remotePort : Ptr) (addr : RawAddr) (f : Frame) :
    Except Fault ((SocketError × Option SocketAddr) × Frame) :=
  match remoteAddr with
  | none => .ok ((.nullPtr, none), f)
  | some remote =>
    if f.obj.socket.impl = none then
      .ok ((.nullPtr, some remote), f)
    else do
      let (a, f) ← f.api env (.recvFrom buf len remotePort)
      return ((a.err, some (remote.setAddr (a.addr.getD addr))), f)

def send (env : Env) (buf : Ptr) (len : Nat) (f : Frame) : Except Fault (SocketError × Frame) :=
  if f.obj.socket.impl = none then .ok (.nullPtr, f) else f.apiErr env (.send buf len)

def sendTo (env : Env) (buf : Ptr) (len : Nat) (remoteAddr : Option SocketAddr)
    (remotePort : UInt16) (f : Frame) : Except Fault (SocketError × Frame) :=
  match remoteAddr with
  | none => .ok (.nullPtr, f)
  | some remote =>
    if f.obj.socket.impl = none then
      .ok (.nullPtr, f)
    else
      f.apiErr env (.sendTo buf len remote.getAddr remotePort)

def isConnected (env : Env) (f : Frame) : Except Fault (Bool × Frame) :=
  if f.obj.socket.impl = none then
    .ok (false, f)
  else do
    let (a, f) ← f.query env .isConnected f.obj.socket
    return (a.yes, f)

/-- `getLocalAddr` and `getRemoteAddr` differ in the stack's function only. -/
def addrGetter (c : ApiCall) (env : Env) (addr : Option SocketAddr) (f : Frame) :
    Except Fault ((SocketError × Option SocketAddr) × Frame) :=
  match addr with
  | none => .ok ((.nullPtr, none), f)
  | some addr =>
    if f.obj.socket.impl = none then
      .ok ((.nullPtr, some addr), f)
    else do
      let (a, f) ← f.query env c f.obj.socket
      return ((a.err, some ⟨a.addr.getD addr.addr⟩), f)

def getLocalAddr : Env → Option SocketAddr → Frame →
    Except Fault ((SocketError × Option SocketAddr) × Frame) :=
  addrGetter .getLocalAddr

def getRemoteAddr : Env → Option SocketAddr → Frame →
    Except Fault ((SocketError × Option SocketAddr) × Frame) :=
  addrGetter .getRemoteAddr

def portGetter (c : ApiCall) (env : Env) (f : Frame) : Except Fault (SocketError × Frame) :=
  if f.obj.socket.impl = none then
    .ok (.nullPtr, f)
  else do
    let (a, f) ← f.query env c f.obj.socket
    return (a.err, f)

def getLocalPort (env : Env) (port : Ptr) : Frame → Except Fault (SocketError × Frame) :=
  portGetter (.getLocalPort port) env

def getRemotePort (env : Env) (port : Ptr) : Frame → Except Fault (SocketError × Frame) :=
  portGetter (.getRemotePort port) env

end Socket

namespace UDPSocket

def openAf (env : Env) (af : AddressFamily) : Frame → Except Fault (SocketError × Frame) :=
  Socket.openAfPf env af .dgram

/-- `address->getAddr()` is evaluated without a check of `address`. -/
def connect (env : Env) (address : Option SocketAddr) (port : UInt16) (f : Frame) :
    Except Fault (SocketError × Frame) :=
  if f.obj.socket.api = none then
    .ok (.badStack, f)
  else
    match address with
    | none => .error .nullAddr
    | some address => f.apiErr env (.connect address.getAddr port)

end UDPSocket

def TCPAsynch.openAf (env : Env) (af : AddressFamily) :
    Frame → Except Fault (SocketError × Frame) :=
  Socket.openAfPf env af .stream

namespace TCPStream

def connect (env : Env) (address : SocketAddr) (port : UInt16)
    (onConnect : FunctionPointer) (f : Frame) : Except Fault (SocketError × Frame) :=
  if f.obj.socket.api = none then
    .ok (.badStack, f)
  else
    (f.register .onConnect onConnect).apiErr env (.connect address.getAddr port)

def setOnDisconnect (h : FunctionPointer) (f : Frame) : Frame :=
  f.register .onDisconnect h

def setNagle (env : Env) (enable : Bool) (f : Frame) : Except Fault (Unit × Frame) := do
  let (_, f) ← f.apiErr env (.setNagle enable)
  return ((), f)

def eventHandler (ev : SocketEvent) (f : Frame) : Frame :=
  match ev with
  | .connect => f.postIfSet .onConnect
  | .disconnect => f.postIfSet .onDisconnect
  | ev => Socket.eventHandler ev f

end TCPStream

namespace TCPListener

def startListening (env : Env) (listenHandler : FunctionPointer) (backlog : UInt32)
    (f : Frame) : Except Fault (SocketError × Frame) :=
  if f.obj.socket.api = none then
    .ok (.badStack, f)
  else
    (f.register .onIncoming listenHandler).apiErr env (.startListen backlog)

def stopListening (env : Env) (f : Frame) : Except Fault (SocketError × Frame) :=
  if f.obj.socket.api = none then
    .ok (.badStack, f)
  else
    f.apiErr env .stopListen

/-- The connection is closed through a local structure; its error is dropped. -/
def reject (env : Env) (impl : Option Impl) (f : Frame) : Except Fault (Unit × Frame) := do
  let s := { f.obj.socket with impl := impl }
  let (_, f) ← f.query env .close s
  return ((), f)

def eventHandler (ev : SocketEvent) (f : Frame) : Frame :=
  match ev with
  | .rxError e | .txError e | .error e => f.postIfSet (.onError e)
  | .rxDone | .txDone _ | .connect | .disconnect => f.postIfSet (.onError .unimplemented)
  | .dns addr domain => f.postIfSet (.onDNS addr domain)
  | .accept newimpl => f.postIfSet (.onIncoming newimpl)
  | .none | .other _ => f

end TCPListener

namespace Socket

/-- The virtual `_eventHandler`. -/
def virtualEventHandler (ev : SocketEvent) (f : Frame) : Frame :=
  match f.obj.cls with
  | .udp => Socket.eventHandler ev f
  | .stream => TCPStream.eventHandler ev f
  | .listener => TCPListener.eventHandler ev f

/-- The entry point installed in the stack: the event is taken from
`_socket.event` and kept in `_event` while it is handled. -/
def nvEventHandler (f : Frame) : Except Fault (Unit × Frame) :=
  let f := { f with obj.event := f.obj.socket.event }
  match f.obj.event with
  | none => .error .nullEvent
  | some ev =>
    let f := virtualEventHandler ev f
    .ok ((), { f with obj.event := none })

end Socket

end MbedSockets
