import MbedSockets.Echo.Network

/-!
The UDP echo test with its host. Datagrams go to the host and their echoes come
back, each on its own and in any order. The network may lose one at any time; it
neither changes nor repeats any. The stack grants every request, answers the
one lookup and reports each datagram that arrives. The step function leaves the
order of the callbacks open; `InOrder` is what the results assume of it.
-/

namespace MbedSockets.Echo

open Lib.Run

variable {n : Nat}

namespace UDPEchoClient

/-! ### Outcomes of the members -/

variable {g : Granting} {bails : Bool} {input : Input}

/-- The characters that `send_test` generates. -/
def testData (rand : Nat → Nat) : List Char := (List.range bufferSize).map (charRand ∘ rand)

theorem startTest_yields (c : UDPEchoClient) (hostAddr : Ptr) (port : UInt16)
    (henv : input.env = g.env) :
    Yields n .udp usock false (startTest bails hostAddr port input) { client := c }
      { client := { c with loopCtr := 0, port := port }
        slots := [.onDNS]
        calls := [.create .inet4 .dgram c.usock, .resolve hostAddr] } := by
  obtain ⟨env, data, rand, overrun⟩ := input
  subst henv
  exact .assign <| .ask (.create .inet4 .dgram c.usock) <| .check rfl <|
    .ask (.resolve hostAddr) <| .check rfl .finish

theorem onDNS_yields (inet : Inet) (c : UDPEchoClient) (sa : RawAddr) (henv : input.env = g.env) :
    Yields n .udp usock true (onDNS inet bails sa input) { client := c }
      { client := { c with resolvedAddr := ⟨sa⟩, outBuffer := testData input.rand }
        slots := [.onReadable]
        calls := [.create .inet4 .dgram c.usock,
          .sendTo outBufferPtr sizeofBufferSize sa c.port] } := by
  obtain ⟨env, data, rand, overrun⟩ := input
  subst henv
  refine .assign <| .assign <| .ask (.create .inet4 .dgram c.usock) <| .check rfl <| .ask_set ?_
  exact .assign <| .ask (.sendTo outBufferPtr sizeofBufferSize sa c.port) <| .check rfl .finish

theorem short_of_echo {data array : List Char} (hecho : data = array.take sizeofBufferSize) :
    data.length ≤ sizeofBufferSize := by
  rw [hecho, List.length_take]
  exact Nat.min_le_left _ _

theorem received_all {data : List Char} (hshort : data.length ≤ sizeofBufferSize)
    (array : List Char) :
    received bufferSize (.code .none) data array = (overwrite data array, data.length) := by
  have hwhole : data.take bufferSize = data :=
    List.take_of_length_le (hshort.trans (show 4 ≤ 64 by decide))
  rw [received, if_pos rfl, hwhole]

/-- The beginning of the array that was sent is what comes back. -/
theorem equal_of_echo {data array : List Char} (hecho : data = array.take sizeofBufferSize)
    (buffer : List Char) :
    (overwrite data buffer).take (min bufferSize (received bufferSize (.code .none) data []).2) =
      array.take (min bufferSize (received bufferSize (.code .none) data []).2) := by
  have hshort := short_of_echo hecho
  have hmin : min bufferSize data.length = data.length :=
    Nat.min_eq_right (hshort.trans (show 4 ≤ 64 by decide))
  rw [received_all hshort, hmin, overwrite, List.take_left]
  conv_lhs => rw [hecho]
  rw [hecho, List.length_take, ← List.take_eq_take_min]

/-- An echo that is answered by the next datagram. -/
theorem onRx_yields_next (c : UDPEchoClient) (henv : input.env = g.env)
    (hecho : input.data = c.outBuffer.take sizeofBufferSize)
    (hloops : c.loopCtr + 1 < maxEchoLoops) :
    Yields n .udp usock true (onRx bails input) { client := c }
      { client := { c with
          buffer := overwrite input.data c.buffer
          loopCtr := c.loopCtr + 1
          outBuffer := testData input.rand }
        calls := [.recv bufferPtr lenPtr,
          .sendTo outBufferPtr sizeofBufferSize c.resolvedAddr.addr c.port] } := by
  obtain ⟨env, data, rand, overrun⟩ := input
  subst henv
  refine .ask (.recv bufferPtr lenPtr) ?_
  simp only [received_all (short_of_echo hecho)]
  refine .assign <| .check rfl <| .check (equal_of_echo hecho c.buffer) <| .assign <|
    .branch_yes (by simpa using hloops) ?_
  exact .assign <| .ask (.sendTo outBufferPtr sizeofBufferSize c.resolvedAddr.addr c.port) <|
    .check rfl .finish

/-- The last one: the program thanks the host and posts its verdict. -/
theorem onRx_yields_last (c : UDPEchoClient) (henv : input.env = g.env)
    (hecho : input.data = c.outBuffer.take sizeofBufferSize)
    (hloops : ¬ c.loopCtr + 1 < maxEchoLoops) :
    Yields n .udp usock true (onRx bails input) { client := c }
      { client := { c with
          buffer := overwrite input.data c.buffer
          loopCtr := c.loopCtr + 1 }
        posted := [.terminate true]
        calls := [.recv bufferPtr lenPtr,
          .sendTo bufferPtr (strlen input (overwrite input.data c.buffer)) c.resolvedAddr.addr
            c.port] } := by
  obtain ⟨env, data, rand, overrun⟩ := input
  subst henv
  refine .ask (.recv bufferPtr lenPtr) ?_
  simp only [received_all (short_of_echo hecho)]
  refine .assign <| .check rfl <| .check (equal_of_echo hecho c.buffer) <| .assign <|
    .branch_no (by simpa using hloops) ?_
  exact .ask (.sendTo bufferPtr _ c.resolvedAddr.addr c.port) <| .postTerminate .finish

/-- The datagram of a call, with the arrays of the client as they are after the
member that made it. What `strlen` finds past the array is not part of it. -/
def datagram (c : UDPEchoClient) : ApiCall → Option (List Char)
  | .sendTo buf len _ _ =>
    some (if buf = outBufferPtr then c.outBuffer.take len else c.buffer.take len)
  | _ => none

end UDPEchoClient

/-! ### The network -/

/-- `resolved` tells whether the lookup has been answered. The datagrams are on
their way to the host or back, or at the client's stack; `lost` counts those
that are nowhere. -/
structure UDPNet (n : Nat) where
  program : Program n UDPEchoClient
  resolved : Bool
  toHost : List (List Char)
  toClient : List (List Char)
  inbox : List (List Char)
  lost : Nat

namespace UDPNet

/-- A callback of the program or of the layer, the answer to the lookup, a
datagram that the host handles, an echo that arrives, and what the network
loses. -/
inductive Action
  | own (i : Nat) (g : Granting)
  | dispatch (i : Nat) (g : Granting) (rand : Nat → Nat) (overrun : Nat)
  | resolve (addr : RawAddr) (domain : Ptr)
  | handle (i : Nat)
  | arrive (i : Nat)
  | loseToHost (i : Nat)
  | loseToClient (i : Nat)

/-- Everything but a loss is part of the test. -/
def Action.isTest : Action → Bool
  | .loseToHost _ | .loseToClient _ => false
  | _ => true

/-- What the client sends on its way to the state `p`. -/
def launched (s : UDPNet n) (p : Program n UDPEchoClient) : List (List Char) :=
  p.client.elim [] fun c =>
    (p.world.grantedCalls.drop s.program.world.grantedCalls.length).filterMap c.datagram

variable (inet : Inet) (bails : Bool)

def next (s : UDPNet n) : Action → Option (UDPNet n)
  | .own i g =>
    (s.program.next (udpEchoClient inet) bails (.own i { env := g.env })).map fun p =>
      { s with program := p, toHost := s.toHost ++ s.launched p }
  | .dispatch i g rand overrun =>
    (s.program.world.pending[i]?).bind fun b =>
      (s.program.next (udpEchoClient inet) bails
        (.dispatch i ⟨g.env, s.inbox.headD [], rand, overrun⟩)).map fun p =>
          { s with
            program := p
            toHost := s.toHost ++ s.launched p
            inbox := if b.args = .onReadable then s.inbox.tail else s.inbox }
  | .resolve addr domain =>
    (s.program.answerLookup (udpEchoClient inet) bails s.resolved addr domain).map fun p =>
      { s with program := p, resolved := true }
  | .handle i =>
    (s.toHost[i]?).map fun data =>
      { s with toHost := s.toHost.eraseIdx i, toClient := s.toClient ++ [data] }
  | .arrive i =>
    (s.toClient[i]?).bind fun data =>
      (s.program.notify (udpEchoClient inet) bails .rxDone).map fun p =>
        { s with
          program := p
          toClient := s.toClient.eraseIdx i
          inbox := s.inbox ++ [data] }
  | .loseToHost i =>
    (s.toHost[i]?).map fun _ => { s with toHost := s.toHost.eraseIdx i, lost := s.lost + 1 }
  | .loseToClient i =>
    (s.toClient[i]?).map fun _ => { s with toClient := s.toClient.eraseIdx i, lost := s.lost + 1 }

/-- The order of the scheduler, as far as it matters here: a callback of the layer
does not overtake one that the program has posted itself. When the program posts,
nothing of the layer is pending, so whatever waits beside it was posted later. -/
def InOrder (s : UDPNet n) : Action → Prop
  | .dispatch _ _ _ _ => s.program.posted = []
  | _ => True

instance (s : UDPNet n) : (a : Action) → Decidable (s.InOrder a)
  | .dispatch _ _ _ _ => inferInstanceAs (Decidable (_ = _))
  | .own _ _ | .resolve _ _ | .handle _ | .arrive _ | .loseToHost _ | .loseToClient _ =>
    isTrue trivial

/-- Nothing has happened on the network yet. -/
def idle (p : Program n UDPEchoClient) : UDPNet n := ⟨p, false, [], [], [], 0⟩

/-- The test is about to start. -/
structure Starts (s : UDPNet n) : Prop where
  program : s.program.Starts (udpEchoClient inet)
  idle : s = .idle s.program

end UDPNet

end MbedSockets.Echo
