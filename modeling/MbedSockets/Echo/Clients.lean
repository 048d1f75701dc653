import MbedSockets.SocketAddr
import MbedSockets.Echo.Program

/-!
The clients of the two echo tests. The TCP client sends a greeting, takes the
first echo of it as success and reports once everything it has sent is
acknowledged. The UDP client sends random datagrams, one for each echo that
comes back, and reports after a hundred of them.
-/

namespace MbedSockets.Echo

variable {n : Nat}

/-- The terminator of a C string. -/
def nul : Char := Char.ofNat 0

/-- A C string in an array: the characters before the terminator. -/
def cString (array : List Char) : List Char := array.takeWhile (· ≠ nul)

/-- Write at the start of an array. -/
def overwrite (text array : List Char) : List Char := text ++ array.drop text.length

/-- `TEST_ASSERT_EQUAL_STRING_LEN` compares at most `len` characters of two
strings. -/
def equalStringLen (expected actual : List Char) (len : Nat) : Prop :=
  (cString expected).take len = (cString actual).take len

instance (expected actual : List Char) (len : Nat) :
    Decidable (equalStringLen expected actual len) :=
  inferInstanceAs (Decidable (_ = _))

/-- `fmtIPv6` into an array. -/
def formatInto (inet : Inet) (addr : SocketAddr) (array : List Char) : List Char :=
  match addr.fmtIPv6 inet (some array) array.length with
  | (0, some text) => overwrite (text ++ [nul]) array
  | _ => array

/-- The stack's part of `recv(buf, &len)`: what is there, up to the size of the
array. On an error neither the array nor the length is changed. -/
def received (size : Nat) (err : Ret) (data array : List Char) : List Char × Nat :=
  if err = .code .none then (overwrite (data.take size) array, (data.take size).length)
  else (array, size)

/-! ### TCP -/

/-- The members of the class, and the global `buffer`, which only they use. -/
structure TCPEchoClient (n : Nat) where
  stream : ObjId
  resolvedAddr : SocketAddr
  port : UInt16
  done : Bool
  disconnected : Bool
  unacked : BitVec n
  buffer : List Char

namespace TCPEchoClient

def outBuffer : List Char := "Hello World\n".toList

def outSuccess : List Char := "\x7b\x7bsuccess\x7d\x7d\n\x7b\x7bend\x7d\x7d\n".toList

/-! Where the globals are, and the local `n` of `onRx`. -/

def outBufferPtr : Ptr := 1
def outSuccessPtr : Ptr := 2
def bufferPtr : Ptr := 3
def lenPtr : Ptr := 4

def startTest (bails : Bool) (hostAddr : Ptr) (port : UInt16) (input : Input) :
    Handler n (TCPEchoClient n) :=
  assign (fun c => { c with port := port, done := false, disconnected := true }) <|
  ask stream (fun _ => .openAf .inet4) input.env fun err =>
  check bails (fun _ => err = .code .none) <|
  ask stream (fun _ => .resolve hostAddr Slot.onDNS.member) input.env fun err =>
  check bails (fun _ => err = .code .none) finish

def onError (bails : Bool) (err : SocketError) : Handler n (TCPEchoClient n) :=
  check bails (fun _ => err ≠ .none) <|
  assign (fun c => { c with done := true }) <|
  postTerminate false finish

def onDNS (inet : Inet) (bails : Bool) (sa : RawAddr) (input : Input) :
    Handler n (TCPEchoClient n) :=
  assign (fun c => { c with resolvedAddr := c.resolvedAddr.setAddr sa }) <|
  assign (fun c => { c with buffer := formatInto inet c.resolvedAddr c.buffer }) <|
  ask stream (fun _ => .setOnReadable Slot.onReadable.member) input.env fun _ =>
  ask stream (fun _ => .setOnSent Slot.onSent.member) input.env fun _ =>
  ask stream (fun _ => .setOnDisconnect Slot.onDisconnect.member) input.env fun _ =>
  ask stream (fun c => .streamConnect c.resolvedAddr c.port Slot.onConnect.member)
    input.env fun err =>
  check bails (fun _ => err = .code .none) finish

def onConnect (bails : Bool) (input : Input) : Handler n (TCPEchoClient n) :=
  assign (fun c => { c with disconnected := false }) <|
  assign (fun c => { c with unacked := BitVec.ofNat n outBuffer.length }) <|
  ask stream (fun _ => .send outBufferPtr outBuffer.length) input.env fun err =>
  check bails (fun _ => err = .code .none) finish

/-- The end of `onRx`: it is reached with `_done` unset when nothing was read. -/
def giveUp : Handler n (TCPEchoClient n) :=
  branch (fun c => !c.done) (postTerminate false finish) finish

def onRx (bails : Bool) (input : Input) : Handler n (TCPEchoClient n) :=
  ask stream (fun _ => .recv bufferPtr lenPtr) input.env fun err =>
  let len := (received 255 err input.data []).2
  assign (fun c => { c with buffer := (received 255 err input.data c.buffer).1 }) <|
  check bails (fun _ => err = .code .none) <|
  assign (fun c => { c with buffer := c.buffer.set len nul }) <|
  branch (fun c => !c.done && 0 < len)
    (check bails (fun c => equalStringLen outBuffer c.buffer len) <|
      assign (fun c => { c with unacked := c.unacked + BitVec.ofNat n outSuccess.length }) <|
      ask stream (fun _ => .send outSuccessPtr outSuccess.length) input.env fun err =>
      assign (fun c => { c with done := true }) <|
      check bails (fun _ => err = .code .none) giveUp)
    giveUp

def onSent (nbytes : UInt16) : Handler n (TCPEchoClient n) :=
  assign (fun c => { c with unacked := c.unacked - BitVec.ofNat n nbytes.toNat }) <|
  branch (fun c => c.done && c.unacked == 0) (postTerminate true finish) finish

def onDisconnect : Handler n (TCPEchoClient n) :=
  assign (fun c => { c with disconnected := true }) finish

/-- The members by what they are called with. A stream has no handler for
incoming connections. -/
def call (inet : Inet) (bails : Bool) (args : Args) (input : Input) :
    Handler n (TCPEchoClient n) :=
  match args with
  | .onDNS sa _ => onDNS inet bails sa input
  | .onError err => onError bails err
  | .onReadable => onRx bails input
  | .onSent sentbytes => onSent sentbytes
  | .onConnect => onConnect bails input
  | .onDisconnect => onDisconnect
  | .onIncoming _ => finish

theorem giveUp_safe : SafeMember .stream stream (giveUp (n := n)) :=
  .branch (.postTerminate .finish) .finish

theorem startTest_safe (bails : Bool) (hostAddr : Ptr) (port : UInt16) (input : Input) :
    SafeMember .stream stream (startTest (n := n) bails hostAddr port input) :=
  .assign (fun _ => rfl) <| .ask fun _ => .check <| .ask fun _ => .check .finish

theorem onRx_safe (bails : Bool) (input : Input) :
    SafeMember .stream stream (onRx (n := n) bails input) := by
  refine .ask fun err => .assign (fun _ => rfl) <| .check <| .assign (fun _ => rfl) <|
    .branch ?_ giveUp_safe
  refine .check <| .assign (fun _ => rfl) <| .ask fun err => ?_
  exact .assign (fun _ => rfl) (.check giveUp_safe)

theorem onDNS_safe (inet : Inet) (bails : Bool) (sa : RawAddr) (input : Input) :
    SafeMember .stream stream (onDNS (n := n) inet bails sa input) :=
  .assign (fun _ => rfl) <| .assign (fun _ => rfl) <| .ask fun _ => .ask fun _ =>
    .ask fun _ => .ask fun _ => .check .finish

theorem onError_safe (bails : Bool) (err : SocketError) :
    SafeMember .stream stream (onError (n := n) bails err) :=
  .check <| .assign (fun _ => rfl) <| .postTerminate .finish

theorem onConnect_safe (bails : Bool) (input : Input) :
    SafeMember .stream stream (onConnect (n := n) bails input) :=
  .assign (fun _ => rfl) <| .assign (fun _ => rfl) <| .ask fun _ => .check .finish

theorem onSent_safe (nbytes : UInt16) : SafeMember .stream stream (onSent (n := n) nbytes) :=
  .assign (fun _ => rfl) <| .branch (.postTerminate .finish) .finish

theorem onDisconnect_safe : SafeMember .stream stream (onDisconnect (n := n)) :=
  .assign (fun _ => rfl) .finish

theorem call_safe (inet : Inet) (bails : Bool) (args : Args) (input : Input) :
    SafeMember .stream stream (call (n := n) inet bails args input) := by
  cases args with
  | onDNS sa domain => exact onDNS_safe inet bails sa input
  | onError err => exact onError_safe bails err
  | onReadable => exact onRx_safe bails input
  | onSent sentbytes => exact onSent_safe sentbytes
  | onConnect => exact onConnect_safe bails input
  | onDisconnect => exact onDisconnect_safe
  | onIncoming newimpl => exact .finish

end TCPEchoClient

def tcpEchoClient (inet : Inet) : Client n (TCPEchoClient n) where
  cls := .stream
  socket := TCPEchoClient.stream
  startTest := TCPEchoClient.startTest
  call := TCPEchoClient.call inet
  startTest_safe := TCPEchoClient.startTest_safe
  call_safe := TCPEchoClient.call_safe inet

/-! ### UDP -/

/-- The members of the class; nothing uses its `done`. -/
structure UDPEchoClient where
  usock : ObjId
  resolvedAddr : SocketAddr
  port : UInt16
  outBuffer : List Char
  buffer : List Char
  loopCtr : UInt32

/-- `char_rand`: a printable character other than the last one. -/
def charRand (r : Nat) : Char := Char.ofNat (r % ('~'.toNat - ' '.toNat) + ' '.toNat)

namespace UDPEchoClient

def bufferSize : Nat := 64
def maxEchoLoops : UInt32 := 100

/-- `sizeof(BUFFER_SIZE)`, the size of an `int` and not of the buffer. -/
def sizeofBufferSize : Nat := 4

def outBufferPtr : Ptr := 1
def bufferPtr : Ptr := 2
def lenPtr : Ptr := 3

def sendTest (bails : Bool) (input : Input) : Handler n UDPEchoClient :=
  assign (fun c => { c with outBuffer := (List.range bufferSize).map (charRand ∘ input.rand) }) <|
  ask usock (fun c => .sendTo outBufferPtr sizeofBufferSize (some c.resolvedAddr) c.port)
    input.env fun err =>
  check bails (fun _ => err = .code .none) finish

def startTest (bails : Bool) (hostAddr : Ptr) (port : UInt16) (input : Input) :
    Handler n UDPEchoClient :=
  assign (fun c => { c with loopCtr := 0, port := port }) <|
  ask usock (fun _ => .openAf .inet4) input.env fun err =>
  check bails (fun _ => err = .code .none) <|
  ask usock (fun _ => .resolve hostAddr Slot.onDNS.member) input.env fun err =>
  check bails (fun _ => err = .code .none) finish

def onError (bails : Bool) (err : SocketError) : Handler n UDPEchoClient :=
  check bails (fun _ => err ≠ .none) <|
  postTerminate false finish

/-- The socket that `start_test` has opened is opened again. -/
def onDNS (inet : Inet) (bails : Bool) (sa : RawAddr) (input : Input) : Handler n UDPEchoClient :=
  assign (fun c => { c with resolvedAddr := c.resolvedAddr.setAddr sa }) <|
  assign (fun c => { c with outBuffer := formatInto inet c.resolvedAddr c.outBuffer }) <|
  ask usock (fun _ => .openAf .inet4) input.env fun err =>
  check bails (fun _ => err = .code .none) <|
  ask usock (fun _ => .setOnReadable Slot.onReadable.member) input.env fun _ =>
  sendTest bails input

/-- `strlen` of an array. -/
def strlen (input : Input) (array : List Char) : Nat :=
  if nul ∈ array then (cString array).length else array.length + input.overrun

def onRx (bails : Bool) (input : Input) : Handler n UDPEchoClient :=
  ask usock (fun _ => .recv bufferPtr lenPtr) input.env fun err =>
  let len := (received bufferSize err input.data []).2
  assign (fun c => { c with buffer := (received bufferSize err input.data c.buffer).1 }) <|
  check bails (fun _ => err = .code .none) <|
  check bails
    (fun c => c.buffer.take (min bufferSize len) = c.outBuffer.take (min bufferSize len)) <|
  assign (fun c => { c with loopCtr := c.loopCtr + 1 }) <|
  branch (fun c => c.loopCtr < maxEchoLoops) (sendTest bails input) <|
  ask usock (fun c => .sendTo bufferPtr (strlen input c.buffer) (some c.resolvedAddr) c.port)
    input.env fun _ =>
  postTerminate true finish

/-- The members by what they are called with. -/
def call (inet : Inet) (bails : Bool) (args : Args) (input : Input) : Handler n UDPEchoClient :=
  match args with
  | .onDNS sa _ => onDNS inet bails sa input
  | .onError err => onError bails err
  | .onReadable => onRx bails input
  | .onSent _ | .onConnect | .onDisconnect | .onIncoming _ => finish

theorem sendTest_safe (bails : Bool) (input : Input) :
    SafeMember .udp usock (sendTest (n := n) bails input) :=
  .assign (fun _ => rfl) <| .ask fun _ => .check .finish

theorem startTest_safe (bails : Bool) (hostAddr : Ptr) (port : UInt16) (input : Input) :
    SafeMember .udp usock (startTest (n := n) bails hostAddr port input) :=
  .assign (fun _ => rfl) <| .ask fun _ => .check <| .ask fun _ => .check .finish

theorem onDNS_safe (inet : Inet) (bails : Bool) (sa : RawAddr) (input : Input) :
    SafeMember .udp usock (onDNS (n := n) inet bails sa input) :=
  .assign (fun _ => rfl) <| .assign (fun _ => rfl) <| .ask fun _ => .check <|
    .ask fun _ => sendTest_safe bails input

theorem onError_safe (bails : Bool) (err : SocketError) :
    SafeMember .udp usock (onError (n := n) bails err) :=
  .check <| .postTerminate .finish

theorem onRx_safe (bails : Bool) (input : Input) :
    SafeMember .udp usock (onRx (n := n) bails input) := by
  refine .ask fun _ => .assign (fun _ => rfl) <| .check <| .check <| .assign (fun _ => rfl) ?_
  exact .branch (sendTest_safe bails input) <| .ask fun _ => .postTerminate .finish

theorem call_safe (inet : Inet) (bails : Bool) (args : Args) (input : Input) :
    SafeMember .udp usock (call (n := n) inet bails args input) := by
  cases args with
  | onDNS sa domain => exact onDNS_safe inet bails sa input
  | onError err => exact onError_safe bails err
  | onReadable => exact onRx_safe bails input
  | _ => exact .finish

end UDPEchoClient

def udpEchoClient (inet : Inet) : Client n UDPEchoClient where
  cls := .udp
  socket := UDPEchoClient.usock
  startTest := UDPEchoClient.startTest
  call := UDPEchoClient.call inet
  startTest_safe := UDPEchoClient.startTest_safe
  call_safe := UDPEchoClient.call_safe inet

end MbedSockets.Echo
