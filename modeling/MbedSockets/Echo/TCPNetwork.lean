import MbedSockets.Echo.Network

/-!
The TCP echo test with its host. The client's stack and the host's are
connected by a byte stream in each direction, cut into pieces anywhere: what
the host reads at once, what is acknowledged at once, what arrives at once and
what a read returns are all up to the network, and so is the order in which the
callbacks run. The stack grants every request, answers the one lookup, reports
the one connection, and reports neither more nor less than what it did.
-/

namespace MbedSockets.Echo

open Lib.Run

variable {n : Nat}

namespace TCPEchoClient

/-! ### Outcomes of the members -/

variable {g : Granting} {bails : Bool} {input : Input}

theorem startTest_yields (c : TCPEchoClient n) (hostAddr : Ptr) (port : UInt16)
    (henv : input.env = g.env) :
    Yields n .stream stream false (startTest bails hostAddr port input) { client := c }
      { client := { c with port := port, done := false, disconnected := true }
        slots := [.onDNS]
        calls := [.create .inet4 .stream c.stream, .resolve hostAddr] } := by
  obtain ⟨env, data, rand, overrun⟩ := input
  subst henv
  exact .assign <| .ask (.create .inet4 .stream c.stream) <| .check rfl <|
    .ask (.resolve hostAddr) <| .check rfl .finish

theorem onDNS_yields (inet : Inet) (c : TCPEchoClient n) (sa : RawAddr)
    (henv : input.env = g.env) :
    Yields n .stream stream true (onDNS inet bails sa input) { client := c }
      { client := { c with resolvedAddr := ⟨sa⟩, buffer := formatInto inet ⟨sa⟩ c.buffer }
        slots := [.onReadable, .onSent, .onDisconnect, .onConnect]
        calls := [.connect sa c.port] } := by
  obtain ⟨env, data, rand, overrun⟩ := input
  subst henv
  exact .assign <| .assign <| .ask_set <| .ask_set <| .ask_set <|
    .ask (.connect sa c.port) <| .check rfl .finish

theorem onConnect_yields (c : TCPEchoClient n) (henv : input.env = g.env) :
    Yields n .stream stream true (onConnect bails input) { client := c }
      { client := { c with disconnected := false, unacked := BitVec.ofNat n outBuffer.length }
        calls := [.send outBufferPtr outBuffer.length] } := by
  obtain ⟨env, data, rand, overrun⟩ := input
  subst henv
  exact .assign <| .assign <| .ask (.send outBufferPtr outBuffer.length) <| .check rfl .finish

theorem onSent_yields (c : TCPEchoClient n) (nbytes : UInt16) :
    Yields n .stream stream true (onSent nbytes) { client := c }
      { client := { c with unacked := c.unacked - BitVec.ofNat n nbytes.toNat }
        posted := if c.done && c.unacked - BitVec.ofNat n nbytes.toNat == 0 then
          [.terminate true] else [] } := by
  refine .assign ?_
  split
  · rename_i hlast
    exact .branch_yes hlast (.postTerminate .finish)
  · rename_i hlast
    exact .branch_no (by simpa using hlast) .finish

/-- What a read leaves in the buffer. -/
def readInto (data buffer : List Char) : List Char := (overwrite data buffer).set data.length nul

theorem cString_readInto {data buffer : List Char} (hdata : nul ∉ data)
    (hlength : data.length < buffer.length) : cString (readInto data buffer) = data := by
  have hsplit : readInto data buffer = data ++ nul :: buffer.drop (data.length + 1) := by
    rw [readInto, overwrite, List.set_append_right _ _ (Nat.le_refl _), Nat.sub_self,
      List.drop_eq_getElem_cons hlength, List.set_cons_zero]
  rw [hsplit, cString, List.takeWhile_append_of_pos]
  · simp
  · intro ch hch
    simpa using fun heq : ch = nul => hdata (heq ▸ hch)

theorem equal_of_echo {data buffer : List Char} (hecho : data <+: outBuffer)
    (hlength : data.length < buffer.length) :
    equalStringLen outBuffer (readInto data buffer) data.length := by
  have hnul : nul ∉ outBuffer := by decide
  have hwhole : cString outBuffer = outBuffer := by decide
  rw [equalStringLen, cString_readInto (fun h => hnul (hecho.subset h)) hlength, hwhole,
    List.take_length]
  exact (List.prefix_iff_eq_take.mp hecho).symm

theorem received_all {data : List Char} (hlength : data.length ≤ 255) (array : List Char) :
    received 255 (.code .none) data array = (overwrite data array, data.length) := by
  simp [received, List.take_of_length_le hlength]

/-- The first read, of a part of the echo. -/
theorem onRx_yields_first (c : TCPEchoClient n) (henv : input.env = g.env) (hdone : c.done = false)
    (hdata : input.data ≠ []) (hecho : input.data <+: outBuffer)
    (hlength : input.data.length < c.buffer.length) :
    Yields n .stream stream true (onRx bails input) { client := c }
      { client := { c with
          done := true
          unacked := c.unacked + BitVec.ofNat n outSuccess.length
          buffer := readInto input.data c.buffer }
        calls := [.recv bufferPtr lenPtr, .send outSuccessPtr outSuccess.length] } := by
  obtain ⟨env, data, rand, overrun⟩ := input
  subst henv
  have hpos : 0 < data.length := List.length_pos_iff.mpr hdata
  have hread (array : List Char) :
      received 255 (.code .none) data array = (overwrite data array, data.length) :=
    received_all (hecho.length_le.trans (by decide)) array
  have hequal : equalStringLen outBuffer (readInto data c.buffer)
      (received 255 (.code .none) data []).2 := by
    rw [hread]
    exact equal_of_echo hecho hlength
  refine .ask (.recv bufferPtr lenPtr) ?_
  simp only [hread]
  refine .assign <| .check rfl <| .assign <| .branch_yes (by simp [hdone, hpos]) ?_
  refine .check hequal <| .assign <|
    .ask (.send outSuccessPtr outSuccess.length) <| .assign <| .check rfl ?_
  exact .branch_no rfl .finish

/-- Every later one. -/
theorem onRx_yields_later (c : TCPEchoClient n) (henv : input.env = g.env) (hdone : c.done = true)
    (hlength : input.data.length ≤ 255) :
    Yields n .stream stream true (onRx bails input) { client := c }
      { client := { c with buffer := readInto input.data c.buffer }
        calls := [.recv bufferPtr lenPtr] } := by
  obtain ⟨env, data, rand, overrun⟩ := input
  subst henv
  refine .ask (.recv bufferPtr lenPtr) ?_
  simp only [received_all hlength]
  refine .assign <| .check rfl <| .assign <| .branch_no (by simp [hdone]) ?_
  exact .branch_no (by simp [hdone]) .finish

/-- What a call puts into the stream to the host. -/
def text : ApiCall → List Char
  | .send buf len =>
    if buf = outBufferPtr then outBuffer.take len
    else if buf = outSuccessPtr then outSuccess.take len
    else []
  | _ => []

end TCPEchoClient

/-! ### The network -/

/-- `{{end}}`. -/
def TCPEchoClientHandler.endMark : List Char := "\x7b\x7bend\x7d\x7d".toList

/-- What the host sends back for the data of one `recv`. -/
def TCPEchoClientHandler.handle (data : List Char) : List Char :=
  if endMark <:+: data then [] else data

/-- `resolved` and `connected` tell whether the lookup and the connection have
been reported, `acked` how many bytes. The host has read `hostRead` bytes and
sent back `echoed`, of which `arrived` bytes are at the client's stack and
`read` bytes were read. -/
structure TCPNet (n : Nat) where
  program : Program n (TCPEchoClient n)
  resolved : Bool
  connected : Bool
  acked : Nat
  hostRead : Nat
  echoed : List Char
  arrived : Nat
  read : Nat

namespace TCPNet

/-- A callback of the program or of the layer, a report of the stack, a `recv` of
the host, a segment that arrives at the client. -/
inductive Action
  | own (i : Nat) (g : Granting)
  | dispatch (i size : Nat) (g : Granting)
  | resolve (addr : RawAddr) (domain : Ptr)
  | connect
  | acknowledge (nbytes : UInt16)
  | hostRecv (size : Nat)
  | arrive (size : Nat)
  | tick (h : Handle)

/-- The periodic task may run any time; everything else is part of the test. -/
def Action.isTest : Action → Bool
  | .tick _ => false
  | _ => true

/-- What the client has sent so far. -/
def sent (s : TCPNet n) : List Char := s.program.world.grantedCalls.flatMap TCPEchoClient.text

/-- What a read of at most `size` bytes returns. -/
def chunk (s : TCPNet n) (size : Nat) : List Char :=
  ((s.echoed.take s.arrived).drop s.read).take (min size 255)

/-- What the host's `recv` returns. -/
def hostChunk (s : TCPNet n) (size : Nat) : List Char :=
  (s.sent.drop s.hostRead).take (min size 1024)

variable (inet : Inet) (bails : Bool)

def next (s : TCPNet n) : Action → Option (TCPNet n)
  | .own i g =>
    (s.program.next (tcpEchoClient inet) bails (.own i { env := g.env })).map fun p =>
      { s with program := p }
  | .dispatch i size g =>
    (s.program.world.pending[i]?).bind fun b =>
      if size = 0 then none
      else
        (s.program.next (tcpEchoClient inet) bails
          (.dispatch i { env := g.env, data := s.chunk size })).map fun p =>
            { s with
              program := p
              read := if b.args = .onReadable then s.read + (s.chunk size).length else s.read }
  | .resolve addr domain =>
    (s.program.answerLookup (tcpEchoClient inet) bails s.resolved addr domain).map fun p =>
      { s with program := p, resolved := true }
  | .connect =>
    if s.connected = false ∧ s.program.world.grantedCalls.any ApiCall.isConnect then
      (s.program.notify (tcpEchoClient inet) bails .connect).map fun p =>
        { s with program := p, connected := true }
    else none
  | .acknowledge nbytes =>
    if 0 < nbytes.toNat ∧ s.acked + nbytes.toNat ≤ s.sent.length then
      (s.program.notify (tcpEchoClient inet) bails (.txDone nbytes)).map fun p =>
        { s with program := p, acked := s.acked + nbytes.toNat }
    else none
  | .hostRecv size =>
    if s.hostChunk size = [] then none
    else
      some { s with
        hostRead := s.hostRead + (s.hostChunk size).length
        echoed := s.echoed ++ TCPEchoClientHandler.handle (s.hostChunk size) }
  | .arrive size =>
    if 0 < size ∧ s.arrived + size ≤ s.echoed.length then
      (s.program.notify (tcpEchoClient inet) bails .rxDone).map fun p =>
        { s with program := p, arrived := s.arrived + size }
    else none
  | .tick h =>
    (s.program.next (tcpEchoClient inet) bails (.tick h)).map fun p => { s with program := p }

/-- Nothing has happened on the network yet. -/
def idle (p : Program n (TCPEchoClient n)) : TCPNet n := ⟨p, false, false, 0, 0, [], 0, 0⟩

/-- The test is about to start, with the buffer as it is declared. -/
structure Starts (s : TCPNet n) : Prop where
  program : s.program.Starts (tcpEchoClient inet)
  buffer : ∀ c, s.program.client = some c → c.buffer.length = 256
  idle : s = .idle s.program

end TCPNet

end MbedSockets.Echo
