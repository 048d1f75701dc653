import MbedSockets.Lib.Run
import MbedSockets.Socket

/-!
The whole layer as one state machine. A `World` holds the live objects, the
static members of `TCPAsynch`, the callbacks in the scheduler and, as history,
what has been dispatched and which calls were made into the stacks. An
`Action` is one construction, destruction, public operation, stack event or
scheduler dispatch. It carries what the environment decides: the arguments,
the stacks' answers, the address a new object is placed at and the handle a
posted tick gets.

The word width `n` of `uintptr_t` is a parameter throughout.
-/

namespace MbedSockets

/-- The static members of `TCPAsynch` with the periodic callbacks they are
about. `posts` and `cancels` are history; a cancel records whether its handle
was scheduled at that moment. -/
structure Ticker (n : Nat) where
  tcpSockets : BitVec n
  tickHandle : Option Handle
  ticks : List Tick
  posts : List Handle
  cancels : List (Handle × Bool)

namespace Ticker

variable {n : Nat}

def init : Ticker n := ⟨0, none, [], [], []⟩

def scheduled (t : Ticker n) (h : Handle) : Bool := t.ticks.any (·.handle == h)

/-- `postCallback(f).period(…).tolerance(…).getHandle()`. -/
def postTick (t : Ticker n) (h : Handle) (api : SocketApi) : Ticker n :=
  let timeout := api.periodicInterval
  { t with
    ticks := t.ticks ++ [⟨h, api.periodicTask, timeout, timeout / 2⟩]
    posts := t.posts ++ [h] }

def cancelCallback (t : Ticker n) (h : Handle) : Ticker n :=
  { t with
    ticks := t.ticks.filter (·.handle != h)
    cancels := t.cancels ++ [(h, t.scheduled h)] }

/-- The scheduler runs a tick; a callback without a period is then gone. -/
def fire (t : Ticker n) (h : Handle) : Ticker n :=
  { t with ticks := t.ticks.filter fun tick => tick.handle != h || tick.period != 0 }

end Ticker

/-- What the constructor of `TCPAsynch` does to the statics. -/
def TCPAsynch.retain {n : Nat} (api : Option SocketApi) (h : Handle) (t : Ticker n) :
    Ticker n :=
  let t :=
    if t.tcpSockets = 0 then
      match api with
      | some api => { t.postTick h api with tickHandle := some h }
      | none => t
    else t
  { t with tcpSockets := t.tcpSockets + 1 }

/-- What the destructor of `TCPAsynch` does to the statics. -/
def TCPAsynch.release {n : Nat} (t : Ticker n) : Ticker n :=
  let t := { t with tcpSockets := t.tcpSockets - 1 }
  if t.tcpSockets = 0 then
    match t.tickHandle with
    | some h => { t.cancelCallback h with tickHandle := none }
    | none => t
  else t

structure World (n : Nat) where
  registry : Stack → Option SocketApi
  objs : Lib.Heap SocketObj
  location : ObjId → BitVec n
  ticker : Ticker n
  pending : List Bound
  dispatched : List Bound
  calls : List ApiEntry

/-- The public member operations that involve one object only. -/
inductive Op
  | openAf (af : AddressFamily)
  | openAfPf (af : AddressFamily) (pf : ProtoFamily)
  | resolve (address : Ptr) (onDNS : FunctionPointer)
  | bindText (addr : Ptr) (port : UInt16) (tmp : SocketAddr)
  | bindAddr (addr : Option SocketAddr) (port : UInt16)
  | setOnError (h : FunctionPointer)
  | setOnReadable (h : FunctionPointer)
  | setOnSent (h : FunctionPointer)
  | close
  | recv (buf len : Ptr)
  | recvFrom (buf len : Ptr) (remoteAddr : Option SocketAddr) (remotePort : Ptr)
      (addr : RawAddr)
  | send (buf : Ptr) (len : Nat)
  | sendTo (buf : Ptr) (len : Nat) (remoteAddr : Option SocketAddr) (remotePort : UInt16)
  | errorCheck (err : SocketError)
  | isConnected
  | getLocalAddr (addr : Option SocketAddr)
  | getLocalPort (port : Ptr)
  | getRemoteAddr (addr : Option SocketAddr)
  | getRemotePort (port : Ptr)
  | udpConnect (address : Option SocketAddr) (port : UInt16)
  | streamConnect (address : SocketAddr) (port : UInt16) (onConnect : FunctionPointer)
  | setOnDisconnect (h : FunctionPointer)
  | setNagle (enable : Bool)
  | startListening (listenHandler : FunctionPointer) (backlog : UInt32)
  | stopListening
  | reject (impl : Option Impl)

/-- What an operation hands back to the application. -/
inductive Ret
  | unit
  | bool (b : Bool)
  | code (err : SocketError)
  | codeAddr (err : SocketError) (out : Option SocketAddr)
  | stream (s : Option ObjId)
  deriving DecidableEq

/-- Which classes have the operation. -/
def Op.typed : Op → Class → Bool
  | .udpConnect _ _, cls => cls = .udp
  | .streamConnect _ _ _, cls | .setOnDisconnect _, cls | .setNagle _, cls => cls = .stream
  | .startListening _ _, cls | .stopListening, cls | .reject _, cls => cls = .listener
  | _, _ => true

def Ret.ofCode (r : Except Fault (SocketError × Frame)) : Except Fault (Ret × Frame) := do
  let (err, f) ← r
  return (.code err, f)

def Ret.ofCodeAddr (r : Except Fault ((SocketError × Option SocketAddr) × Frame)) :
    Except Fault (Ret × Frame) := do
  let ((err, out), f) ← r
  return (.codeAddr err out, f)

def Ret.ofUnit (r : Except Fault (Unit × Frame)) : Except Fault (Ret × Frame) := do
  let (_, f) ← r
  return (.unit, f)

def Op.exec (env : Env) (f : Frame) : Op → Except Fault (Ret × Frame)
  | .openAf af =>
    match f.obj.cls with
    | .udp => Ret.ofCode (UDPSocket.openAf env af f)
    | .stream | .listener => Ret.ofCode (TCPAsynch.openAf env af f)
  | .openAfPf af pf => Ret.ofCode (Socket.virtualOpen af pf f)
  | .resolve address onDNS => Ret.ofCode (Socket.resolve env address onDNS f)
  | .bindText addr port tmp => Ret.ofCode (Socket.bindText env addr port tmp f)
  | .bindAddr addr port => Ret.ofCode (Socket.bindAddr env addr port f)
  | .setOnError h => .ok (.unit, Socket.setOnError h f)
  | .setOnReadable h => .ok (.unit, Socket.setOnReadable h f)
  | .setOnSent h => .ok (.unit, Socket.setOnSent h f)
  | .close => Ret.ofCode (Socket.close env f)
  | .recv buf len => Ret.ofCode (Socket.recv env buf len f)
  | .recvFrom buf len remoteAddr remotePort addr =>
    Ret.ofCodeAddr (Socket.recvFrom env buf len remoteAddr remotePort addr f)
  | .send buf len => Ret.ofCode (Socket.send env buf len f)
  | .sendTo buf len remoteAddr remotePort =>
    Ret.ofCode (Socket.sendTo env buf len remoteAddr remotePort f)
  | .errorCheck err =>
    let (b, f) := Socket.errorCheck err f
    .ok (.bool b, f)
  | .isConnected => do
    let (b, f) ← Socket.isConnected env f
    return (.bool b, f)
  | .getLocalAddr addr => Ret.ofCodeAddr (Socket.getLocalAddr env addr f)
  | .getLocalPort port => Ret.ofCode (Socket.getLocalPort env port f)
  | .getRemoteAddr addr => Ret.ofCodeAddr (Socket.getRemoteAddr env addr f)
  | .getRemotePort port => Ret.ofCode (Socket.getRemotePort env port f)
  | .udpConnect address port => Ret.ofCode (UDPSocket.connect env address port f)
  | .streamConnect address port onConnect =>
    Ret.ofCode (TCPStream.connect env address port onConnect f)
  | .setOnDisconnect h => .ok (.unit, TCPStream.setOnDisconnect h f)
  | .setNagle enable => Ret.ofUnit (TCPStream.setNagle env enable f)
  | .startListening h backlog => Ret.ofCode (TCPListener.startListening env h backlog f)
  | .stopListening => Ret.ofCode (TCPListener.stopListening env f)
  | .reject impl => Ret.ofUnit (TCPListener.reject env impl f)

/-- The declared constructors. `adopt` is the deprecated one-argument form. -/
inductive Ctor
  | udp (stack : Stack)
  | stream (stack : Stack)
  | listener (stack : Stack)
  | adopt (sock : StructSocket)
  | adoptFrom (listener sock : StructSocket)

inductive Action (n : Nat)
  | register (stack : Stack) (api : SocketApi)
  | construct (loc : BitVec n) (handle : Handle) (ctor : Ctor) (env : Env)
  | destruct (id : ObjId) (env : Env)
  | op (id : ObjId) (op : Op) (env : Env)
  | accept (id : ObjId) (newImpl : Option Impl) (loc : BitVec n) (handle : Handle) (env : Env)
  | event (id : ObjId) (ev : SocketEvent)
  | dispatch (i : Nat)
  | tick (handle : Handle)

variable {n : Nat}

namespace World

/-- No object and no registered stack: program start. -/
def init : World n where
  registry := fun _ => none
  objs := .empty
  location := fun _ => 0
  ticker := .init
  pending := []
  dispatched := []
  calls := []

/-- Add the calls and posted callbacks of a member function. -/
def absorb (w : World n) (f : Frame) : World n :=
  { w with calls := w.calls ++ f.calls, pending := w.pending ++ f.posted }

def commit (w : World n) (f : Frame) : World n :=
  { w.absorb f with objs := w.objs.set f.this f.obj }

def place (w : World n) (loc : BitVec n) (f : Frame) : World n :=
  { w.absorb f with
    objs := w.objs.alloc f.obj
    location := Function.update w.location w.objs.next loc }

/-- The allocator returns neither null nor the address of a live object. -/
def vacant (w : World n) (loc : BitVec n) : Prop :=
  loc ≠ 0 ∧ ∀ i < w.objs.next, (w.objs.cell i).isSome → w.location i ≠ loc

instance (w : World n) (loc : BitVec n) : Decidable (w.vacant loc) :=
  inferInstanceAs (Decidable (_ ∧ _))

end World

def UDPSocket.init (w : World n) (stack : Stack) : Frame :=
  .start w.objs.next (Socket.init w.registry w.objs.next .udp stack .dgram)

def TCPAsynch.init (w : World n) (h : Handle) (cls : Class) (stack : Stack) :
    World n × Frame :=
  let o := Socket.init w.registry w.objs.next cls stack .stream
  ({ w with ticker := TCPAsynch.retain o.socket.api h w.ticker }, .start w.objs.next o)

def TCPStream.init (w : World n) (h : Handle) (stack : Stack) : World n × Frame :=
  TCPAsynch.init w h .stream stack

def TCPListener.init (w : World n) (h : Handle) (stack : Stack) : World n × Frame :=
  TCPAsynch.init w h .listener stack

/-- `family` and `impl` are taken over from the adopted structure. -/
def TCPStream.takeOver (sock : StructSocket) (f : Frame) : Frame :=
  { f with obj.socket := { f.obj.socket with family := sock.family, impl := sock.impl } }

/-- `TCPStream(const struct socket *)`. -/
def TCPStream.adopt (w : World n) (h : Handle) (sock : StructSocket) (env : Env) :
    Except Fault (World n × Frame) := do
  let (w, f) := TCPAsynch.init w h .stream sock.stack
  let (a, f) ← (TCPStream.takeOver sock f).api env (.accept f.this)
  let (_, f) := Socket.errorCheck a.err f
  return (w, f)

/-- `TCPStream(struct socket *, const struct socket *, socket_error_t &)`. -/
def TCPStream.adoptFrom (w : World n) (h : Handle) (listener sock : StructSocket)
    (env : Env) : SocketError × World n × Frame :=
  let (w, f) := TCPAsynch.init w h .stream sock.stack
  let (a, f) := (TCPStream.takeOver sock f).call env (.socketAccept listener f.this)
  (a.err, w, f)

namespace World

def construct (w : World n) (loc : BitVec n) (h : Handle) (env : Env) :
    Ctor → Except Fault (Ret × World n)
  | .udp stack => .ok (.unit, w.place loc (UDPSocket.init w stack))
  | .stream stack =>
    let (w, f) := TCPStream.init w h stack
    .ok (.unit, w.place loc f)
  | .listener stack =>
    let (w, f) := TCPListener.init w h stack
    .ok (.unit, w.place loc f)
  | .adopt sock => do
    let (w, f) ← TCPStream.adopt w h sock env
    return (.unit, w.place loc f)
  | .adoptFrom listener sock =>
    let (err, w, f) := TCPStream.adoptFrom w h listener sock env
    .ok (.code err, w.place loc f)

/-- The destructors, derived class first: `~TCPListener`, `~TCPAsynch`,
`~Socket`. -/
def destruct (w : World n) (id : ObjId) (o : SocketObj) (env : Env) :
    Except Fault (World n) := do
  let (_, f) ←
    if o.cls = .listener then TCPListener.stopListening env (.start id o)
    else .ok (.none, .start id o)
  let w := if o.cls.isTCPAsynch then { w with ticker := TCPAsynch.release w.ticker } else w
  return { w.absorb (Socket.deinit env f) with objs := w.objs.free id }

/-- `TCPListener::accept`: a stream is built and, on error, deleted again. -/
def accept (w : World n) (self : SocketObj) (newImpl : Option Impl) (loc : BitVec n)
    (h : Handle) (env : Env) : Except Fault (Ret × World n) := do
  let newSocket := { self.socket with impl := newImpl }
  let (err, w, f) := TCPStream.adoptFrom w h self.socket newSocket env
  let w := w.place loc f
  if err ≠ .none then
    let w ← w.destruct f.this f.obj env
    return (.stream none, w)
  else
    return (.stream (some f.this), w)

/-- One step. `none` is an action that is not possible: of an object that is
not live, of another class, or at an address or handle in use. -/
def step (w : World n) : Action n → Option (Except Fault (Ret × World n))
  | .register stack api =>
    if w.registry stack = none then
      some (.ok (.unit, { w with registry := Function.update w.registry stack (some api) }))
    else none
  | .construct loc h ctor env =>
    if w.vacant loc ∧ w.ticker.scheduled h = false then some (w.construct loc h env ctor)
    else none
  | .destruct id env =>
    (w.objs.cell id).map fun o => do
      let w ← w.destruct id o env
      return (.unit, w)
  | .op id op env =>
    (w.objs.cell id).bind fun o =>
      if op.typed o.cls then
        some do
          let (r, f) ← op.exec env (.start id o)
          return (r, w.commit f)
      else none
  | .accept id newImpl loc h env =>
    (w.objs.cell id).bind fun o =>
      if o.cls = .listener ∧ w.vacant loc ∧ w.ticker.scheduled h = false then
        some (w.accept o newImpl loc h env)
      else none
  | .event id ev =>
    (w.objs.cell id).map fun o => do
      let (_, f) ← Socket.nvEventHandler (.start id { o with socket.event := some ev })
      return (.unit, w.commit f)
  | .dispatch i =>
    (w.pending[i]?).map fun b =>
      .ok (.unit, { w with
        pending := w.pending.eraseIdx i
        dispatched := w.dispatched ++ [b] })
  | .tick h =>
    if w.ticker.scheduled h then some (.ok (.unit, { w with ticker := w.ticker.fire h }))
    else none

/-- The world after an action that is possible and does not fault. -/
def next (w : World n) (a : Action n) : Option (World n) :=
  match w.step a with
  | some (.ok (_, w')) => some w'
  | _ => none

end World

end MbedSockets
