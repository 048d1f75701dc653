import MbedSockets.Echo.TCPEvents

/-!
The TCP echo test is correct on a working network. Whatever the interleaving
and however the streams are cut, no assertion fails, the test ends after a
bounded number of steps, and it can only end by passing: with both texts sent
and acknowledged, and with a part of the echo read and found right. A run goes
up to a callback that `terminate` has left behind: that one finds the client
deleted, which `Termination` is about, and is not a possible step here.
-/

namespace MbedSockets.Echo.TCPNet

open Lib.Run TCPEchoClient

variable {n : Nat}

section steps

variable {inet : Inet} {st : Stage} {s : TCPNet n}

theorem Starts.inv (h : s.Starts inet) : Inv inet .waiting s := by
  obtain ⟨c, hostAddr, port, hwaiting⟩ := h.program.waiting
  have hidle := h.idle
  have hsent : s.sent = [] := by simp [TCPNet.sent, hwaiting.granted]
  refine ⟨h.program.sound, h.program.failures, hsent, ?_, ?_, ?_, ?_, ?_, ?_⟩
  · rw [hidle]; exact Nat.zero_le _
  · rw [hidle]; exact Nat.zero_le _
  · rw [hidle]; exact Nat.zero_le _
  · rw [hidle]; exact Nat.zero_le _
  · simp [hwaiting.pending, hwaiting.dispatched]
  · refine .waiting c hostAddr port hwaiting ?_ (by rw [hidle]; rfl) (by rw [hidle]; rfl)
      (by rw [hidle]; rfl)
    rw [h.buffer c hwaiting.fitted.client]
    decide

/-- As long as there is no verdict, the test can go on. -/
theorem Inv.possible (h : Inv inet st s) (bails : Bool) :
    s.program.verdicts = [true] ∨ ∃ a : Action, a.isTest = true ∧ (s.next inet bails a).isSome := by
  have hdispatch {c : TCPEchoClient n} (hc : s.program.client = some c)
      (hpending : s.program.world.pending ≠ []) :
      ∃ a : Action, a.isTest = true ∧ (s.next inet bails a).isSome := by
    refine ⟨.dispatch 0 1 .plain, rfl, ?_⟩
    have hpos := List.length_pos_iff.mpr hpending
    obtain ⟨p, hp⟩ := h.sound.dispatchable bails hc hpos
      { env := Granting.plain.env, data := s.chunk 1 }
    simp [TCPNet.next, List.getElem?_eq_getElem hpos, hp]
  cases h.stage with
  | waiting c hostAddr port hwaiting =>
      obtain ⟨p, hp⟩ := h.sound.ownable bails (i := 0) hwaiting.fitted.client
        (by simp [hwaiting.posted]) { env := Granting.plain.env }
      exact .inr ⟨.own 0 .plain, rfl, by simp [TCPNet.next, hp]⟩
  | resolving c addr domain hresolving =>
      cases hresolved : s.resolved with
      | true =>
          exact .inr (hdispatch hresolving.fitted.client (by simp [hresolving.pending, hresolved]))
      | false =>
          obtain ⟨p, hp⟩ := hresolving.answerable bails hresolved
          exact .inr ⟨.resolve (fun _ => 0) 0, rfl, by simp [TCPNet.next, hp]⟩
  | connecting c hfit hdone hbuffer hposted hpending hasked =>
      cases hconnected : s.connected with
      | true => exact .inr (hdispatch hfit.client (by simp [hpending, hconnected]))
      | false =>
          obtain ⟨p, hp⟩ := hfit.notifiable bails .connect
          exact .inr ⟨.connect, rfl, by simp [TCPNet.next, hconnected, hasked, hp]⟩
  | talking c hfit hdone hbuffer hposted htalk hcounts hechoed hreadable =>
      right
      by_cases hpending : s.program.world.pending = []
      · -- Nothing has arrived; so either something is on its way, or the host has not read yet.
        have harrived : s.arrived = 0 := by
          by_contra hne
          obtain ⟨b, hb, _⟩ := hreadable.mp (Nat.pos_of_ne_zero hne)
          simp [hpending] at hb
        by_cases hempty : s.echoed = []
        · refine ⟨.hostRecv 1, rfl, ?_⟩
          have hhost : s.hostRead = 0 := by
            have hlength := congrArg List.length (hechoed.symm.trans hempty)
            have htwelve : outBuffer.length = 12 := rfl
            rw [List.length_take, List.length_nil] at hlength
            omega
          have hsome : s.hostChunk 1 ≠ [] := by
            rw [TCPNet.hostChunk, hhost, show s.sent = outBuffer from h.sent]
            decide
          simp [TCPNet.next, hsome]
        · obtain ⟨p, hp⟩ := hfit.notifiable bails .rxDone
          have hpos := List.length_pos_iff.mpr hempty
          exact ⟨.arrive 1, rfl, by simp [TCPNet.next, harrived, hp]; omega⟩
      · exact hdispatch hfit.client hpending
  | finishing c hfit hdone hposted htalk hcounts =>
      right
      by_cases hpending : s.program.world.pending = []
      · by_cases hzero : c.unacked = 0
        · obtain ⟨p, hp⟩ := h.sound.ownable bails (i := 0) hfit.client
            (by simp [hposted, hzero]) { env := Granting.plain.env }
          exact ⟨.own 0 .plain, rfl, by simp [TCPNet.next, hp]⟩
        · -- Some byte is neither acknowledged nor reported.
          have hcount := hcounts.unacked
          have hpos : c.unacked.toNat ≠ 0 := fun hnone => hzero (BitVec.eq_of_toNat_eq (by simpa))
          have hreported : s.reported = 0 := by simp [TCPNet.reported, hpending]
          obtain ⟨p, hp⟩ := hfit.notifiable bails (.txDone 1)
          have hroom : s.acked + 1 ≤ s.sent.length := by omega
          exact ⟨.acknowledge 1, rfl, by simp [TCPNet.next, hp]; exact hroom⟩
      · exact hdispatch hfit.client hpending
  | passed hclient hverdicts => exact .inl hverdicts

theorem Inv.posts_no_failure (h : Inv inet st s) : .terminate false ∉ s.program.posted := by
  cases h.stage with
  | waiting c hostAddr port hwaiting => simp [hwaiting.posted]
  | resolving c addr domain hresolving => simp [hresolving.posted]
  | connecting c hfit hdone hbuffer hposted => simp [hposted]
  | talking c hfit hdone hbuffer hposted => simp [hposted]
  | finishing c hfit hdone hposted =>
      rw [hposted]
      split <;> simp
  | passed hclient hverdicts hposted => simp [hposted]

end steps

/-- The greeting is read by the host at once and echoed in two segments; the
final text is read in two pieces that hide its end from the host. -/
def passingActions : List Action :=
  [.own 0 .plain, .resolve (fun _ => 1) 3, .dispatch 0 1 .plain, .connect, .dispatch 0 1 .plain,
    .hostRecv 1024, .acknowledge 5, .arrive 4, .dispatch 1 255 .plain, .acknowledge 27,
    .hostRecv 15, .dispatch 0 1 .plain, .arrive 8, .dispatch 1 255 .plain, .hostRecv 1024,
    .dispatch 0 1 .plain, .own 0 .plain]

theorem starts_idle {p : Program 32 (TCPEchoClient 32)}
    (h : Program.Begins (tcpEchoClient Inet.usual) Program.newTCPEchoClient p) :
    (idle p).Starts Inet.usual := by
  refine ⟨h.starts rfl, fun c hc => ?_, rfl⟩
  rw [idle, h.2, Option.some.injEq] at hc
  subst hc
  exact List.length_replicate

section results

variable (inet : Inet) (bails : Bool)

theorem inv_run (hwide : 32 < 2 ^ n) {s : TCPNet n} (hstart : s.Starts inet) (as : List Action) :
    EachState (next inet bails) (fun s' => ∃ st, Inv inet st s') s as := by
  apply eachState_exists (A := fun _ _ => True) _ hstart.inv
    (eachStep_true _ _)
  intro st s a s' hinv _ hnext
  obtain ⟨st', hinv', _⟩ := hinv.step hwide hnext
  exact ⟨st', hinv'⟩

/-- On a working network no assertion of the TCP test fails and no failing
verdict is given or posted, in any interleaving and however the streams are
cut. As long as the client is there no callback crashes; when it is deleted, one
that is left may. The passing verdict is given only when both texts have been sent
and acknowledged and a part of the echo has been read. -/
theorem never_fails (hwide : 32 < 2 ^ n) (s : TCPNet n) (hstart : s.Starts inet)
    (as : List Action) :
    EachState (next inet bails) (fun s' =>
      s'.program.failures = 0 ∧ .terminate false ∉ s'.program.posted ∧
        (s'.program.client ≠ none → s'.program.NoCrash (tcpEchoClient inet) bails) ∧
        (s'.program.verdicts = [] ∨
          s'.program.verdicts = [true] ∧ s'.sent = outBuffer ++ outSuccess ∧
            s'.acked = s'.sent.length ∧ 0 < s'.read)) s as := by
  apply (inv_run inet bails hwide hstart as).mono
  rintro s' ⟨st, hinv⟩
  refine ⟨hinv.failures, hinv.posts_no_failure, hinv.sound.noCrash, ?_⟩
  cases hinv.stage with
  | waiting c hostAddr port hwaiting => exact .inl (hinv.sound.undecided hwaiting.fitted.client)
  | resolving c addr domain hresolving =>
      exact .inl (hinv.sound.undecided hresolving.fitted.client)
  | connecting c hfit | talking c hfit | finishing c hfit =>
      exact .inl (hinv.sound.undecided hfit.client)
  | passed hclient hverdicts hposted hacked hread =>
      exact .inr ⟨hverdicts, hinv.sent, hacked, hread⟩

theorem passingActions_never_fail :
    ∃ (p : Program 32 (TCPEchoClient 32)) (s : TCPNet 32),
      p.Begins (tcpEchoClient Inet.usual) Program.newTCPEchoClient ∧
      run (next Inet.usual true) (idle p) passingActions = some s ∧
      s.program.failures = 0 ∧ s.acked = s.sent.length ∧ 0 < s.read := by
  have hend : ∃ (p : Program 32 (TCPEchoClient 32)) (s : TCPNet 32),
      p.Begins (tcpEchoClient Inet.usual) Program.newTCPEchoClient ∧
      run (next Inet.usual true) (idle p) passingActions = some s ∧ s.program.verdicts = [true] :=
    ⟨⟨_, _, _, _, _⟩, _, ⟨rfl, rfl⟩, rfl, rfl⟩
  obtain ⟨p, s, hbegins, hrun, hverdict⟩ := hend
  have hgood := eachState_last
    (never_fails Inet.usual true (by decide) _ (starts_idle hbegins) passingActions) hrun
  rcases hgood.2.2.2 with hnone | ⟨_, _, hacked, hread⟩
  · simp [hverdict] at hnone
  · exact ⟨p, s, hbegins, hrun, hgood.1, hacked, hread⟩

/-- The TCP test takes at most 166 steps, and as long as it has not passed, there
is one to take: it cannot get stuck, and it can only end by passing. -/
theorem ends_by_passing (hwide : 32 < 2 ^ n) (s s' : TCPNet n) (hstart : s.Starts inet)
    (as : List Action) (hrun : run (next inet bails) s as = some s') :
    as.countP Action.isTest ≤ 166 ∧
      (s'.program.verdicts = [true] ∨
        ∃ a : Action, a.isTest = true ∧ (s'.next inet bails a).isSome) := by
  obtain ⟨st, hinv, hpaid⟩ := potential (A := fun _ _ => True) Action.isTest
    (fun _ _ _ _ hinv _ hnext => hinv.step hwide hnext) hstart.inv
    (eachStep_true _ _) hrun
  have hbound := hinv.progress_le
  exact ⟨by omega, hinv.possible bails⟩

/-- After its first read the test goes on. -/
theorem passingActions_go_on :
    ∃ (p : Program 32 (TCPEchoClient 32)) (s : TCPNet 32),
      p.Begins (tcpEchoClient Inet.usual) Program.newTCPEchoClient ∧
      run (next Inet.usual true) (idle p) (passingActions.take 9) = some s ∧
      ∃ a : Action, a.isTest = true ∧ (s.next Inet.usual true a).isSome := by
  have hmiddle : ∃ (p : Program 32 (TCPEchoClient 32)) (s : TCPNet 32),
      p.Begins (tcpEchoClient Inet.usual) Program.newTCPEchoClient ∧
      run (next Inet.usual true) (idle p) (passingActions.take 9) = some s ∧
      s.program.verdicts = [] := ⟨⟨_, _, _, _, _⟩, _, ⟨rfl, rfl⟩, rfl, rfl⟩
  obtain ⟨p, s, hbegins, hrun, hverdict⟩ := hmiddle
  have hgoes := ends_by_passing Inet.usual true (by decide) _ s (starts_idle hbegins) _ hrun
  refine ⟨p, s, hbegins, hrun, hgoes.2.resolve_left ?_⟩
  simp [hverdict]

/-- While the client is connected, `_unacked` is what it has sent less what has
been reported to it; nothing is counted twice or lost, and the counter never
wraps around. -/
theorem unacked_counts (hwide : 32 < 2 ^ n) (s : TCPNet n) (hstart : s.Starts inet)
    (as : List Action) :
    EachState (next inet bails) (fun s' => s'.sent ≠ [] → ∀ c, s'.program.client = some c →
      c.unacked.toNat + (s'.acked - s'.reported) = s'.sent.length ∧ s'.reported ≤ s'.acked ∧
        s'.acked ≤ s'.sent.length) s as := by
  apply (inv_run inet bails hwide hstart as).mono
  rintro s' ⟨st, hinv⟩ hsent c hc
  have hacked := hinv.acked
  have hcount {c' : TCPEchoClient n} (hc' : s'.program.client = some c')
      (hcounts : s'.Counts c'.unacked) :
      c.unacked.toNat + (s'.acked - s'.reported) = s'.sent.length ∧ s'.reported ≤ s'.acked ∧
        s'.acked ≤ s'.sent.length := by
    obtain rfl : c = c' := Option.some.inj (hc.symm.trans hc')
    have hunacked := hcounts.unacked
    have hreported := hcounts.reported
    exact ⟨by omega, hreported, hacked⟩
  cases hinv.stage with
  | talking c' hfit hdone hbuffer hposted htalk hcounts => exact hcount hfit.client hcounts
  | finishing c' hfit hdone hposted htalk hcounts => exact hcount hfit.client hcounts
  | passed hclient => simp [hclient] at hc
  | _ => exact absurd hinv.sent hsent

/-- The report of five bytes has not reached the client when it has sent all. -/
theorem passingActions_count :
    ∃ (p : Program 32 (TCPEchoClient 32)) (s : TCPNet 32) (c : TCPEchoClient 32),
      p.Begins (tcpEchoClient Inet.usual) Program.newTCPEchoClient ∧
      run (next Inet.usual true) (idle p) (passingActions.take 9) = some s ∧
      s.program.client = some c ∧ s.acked = 5 ∧ c.unacked.toNat = 32 := by
  have hmiddle : ∃ (p : Program 32 (TCPEchoClient 32)) (s : TCPNet 32) (c : TCPEchoClient 32),
      p.Begins (tcpEchoClient Inet.usual) Program.newTCPEchoClient ∧
      run (next Inet.usual true) (idle p) (passingActions.take 9) = some s ∧
      s.program.client = some c ∧ s.acked = 5 ∧ s.reported = 5 ∧ s.sent.length = 32 :=
    ⟨⟨_, _, _, _, _⟩, _, _, ⟨rfl, rfl⟩, rfl, rfl, rfl, rfl, rfl⟩
  obtain ⟨p, s, c, hbegins, hrun, hc, hacked, hreported, hsent⟩ := hmiddle
  have hcounts := eachState_last
    (unacked_counts Inet.usual true (by decide) _ (starts_idle hbegins) _) hrun
    (fun hnil => by simp [hnil] at hsent) c hc
  exact ⟨p, s, c, hbegins, hrun, hc, hacked, by omega⟩

end results

end MbedSockets.Echo.TCPNet
