import MbedSockets.Echo.UDPStages

/-!
The UDP echo test on a network that may lose datagrams, with callbacks that run in
order. No assertion fails, and the test passes after exactly a hundred echoes.
Nothing is sent again, so the first loss before the last echo stops the test for
good, and nothing else does. Here too a run goes up to a callback that finds the
client deleted.
-/

namespace MbedSockets.Echo.UDPNet

open Lib.Run UDPEchoClient

variable {n : Nat}

section steps

variable {inet : Inet} {bails : Bool} {st : Stage} {s s' : UDPNet n}

/-- An action that is part of the test, in order and possible. -/
def Enabled (inet : Inet) (bails : Bool) (s : UDPNet n) (a : Action) : Prop :=
  a.isTest = true ∧ s.InOrder a ∧ (s.next inet bails a).isSome

theorem Inv.can_dispatch {c : UDPEchoClient} (h : Inv inet st s) (bails : Bool)
    (hc : s.program.client = some c) (hposted : s.program.posted = [])
    (hpos : 0 < s.program.world.pending.length) : ∃ a, Enabled inet bails s a := by
  obtain ⟨p, hp⟩ := h.sound.dispatchable bails hc hpos
    ⟨Granting.plain.env, s.inbox.headD [], fun _ => 0, 0⟩
  refine ⟨.dispatch 0 .plain (fun _ => 0) 0, rfl, hposted, ?_⟩
  rw [next, List.getElem?_eq_getElem hpos, Option.bind_some, hp]
  rfl

theorem Inv.can_own {opened : Bool} {set : List Slot} {c : UDPEchoClient} {post : Post}
    (h : Inv inet st s) (bails : Bool)
    (hfit : s.program.Fitted (udpEchoClient inet) opened set c)
    (hposted : s.program.posted = [post]) : Enabled inet bails s (.own 0 .plain) := by
  obtain ⟨p, hp⟩ := h.sound.ownable bails (i := 0) hfit.client (by simp [hposted])
    { env := Granting.plain.env }
  exact ⟨rfl, trivial, by simp [next, hp]⟩

/-- The one datagram, unless it is lost, can move on. -/
theorem Inv.can_move {opened : Bool} {set : List Slot} {c : UDPEchoClient} {b : Bound}
    (h : Inv inet st s) (bails : Bool)
    (hfit : s.program.Fitted (udpEchoClient inet) opened set c) (hposted : s.program.posted = [])
    (hpending : s.program.world.pending = s.inbox.map fun _ => b)
    (hone : s.traffic = 1) (hlost : s.lost = 0) : ∃ a, Enabled inet bails s a := by
  cases htoHost : s.toHost with
  | cons data rest => exact ⟨.handle 0, rfl, trivial, by simp [next, htoHost]⟩
  | nil =>
      cases htoClient : s.toClient with
      | cons data rest =>
          obtain ⟨p, hp⟩ := hfit.notifiable bails .rxDone
          exact ⟨.arrive 0, rfl, trivial, by simp [next, htoClient, hp]⟩
      | nil =>
          apply h.can_dispatch bails hfit.client hposted
          rw [hpending, List.length_map]
          rw [traffic, htoHost, htoClient] at hone
          simp only [List.length_nil] at hone
          omega

theorem Inv.goes_on (h : Inv inet st s) (bails : Bool) (hlost : s.lost = 0) :
    s.program.verdicts = [true] ∨ ∃ a, Enabled inet bails s a := by
  cases h.stage with
  | waiting c hostAddr port hwaiting =>
      exact .inr ⟨_, h.can_own bails hwaiting.fitted hwaiting.posted⟩
  | resolving c addr domain hresolving =>
      right
      cases hresolved : s.resolved with
      | true =>
          apply h.can_dispatch bails hresolving.fitted.client hresolving.posted
          simp [hresolving.pending, hresolved]
      | false =>
          obtain ⟨p, hp⟩ := hresolving.answerable bails hresolved
          exact ⟨.resolve (fun _ => 0) 0, rfl, trivial, by simp [next, hp]⟩
  | looping c hfit hloops hposted hpending hecho hresolved hreads hsends hone =>
      exact .inr (h.can_move bails hfit hposted hpending hone hlost)
  | finishing c hfit hposted => exact .inr ⟨_, h.can_own bails hfit hposted⟩
  | passed hclient hverdicts => exact .inl hverdicts

/-- With the only datagram lost, nothing is left that could move. -/
theorem Inv.stuck (h : Inv inet st s) (bails : Bool) (hreads : s.reads < 100)
    (hlost : s.lost ≠ 0) : s.program.verdicts = [] ∧ ∀ a, s.next inet bails a = none := by
  cases h.stage with
  | waiting c hostAddr port hwaiting hresolved hquiet =>
      unfold traffic at hquiet
      omega
  | resolving c addr domain hresolving hloops hquiet =>
      unfold traffic at hquiet
      omega
  | looping c hfit hloops hposted hpending hecho hresolved _ hsends hone =>
      refine ⟨h.sound.undecided hfit.client, fun a => ?_⟩
      have hle := s.lost_le_traffic
      obtain ⟨htoHost, htoClient, hinbox⟩ := empty_of_traffic (s := s) (by omega)
      cases a with
      | own i g => simp [next, Program.next, Program.step, hposted]
      | dispatch i g rand overrun => simp [next, hpending, hinbox]
      | resolve addr domain => simp [next, Program.answerLookup, hresolved]
      | handle i | loseToHost i => simp [next, htoHost]
      | arrive i | loseToClient i => simp [next, htoClient]
  | finishing c hfit hposted hresolved hhundred => omega
  | passed hclient hverdicts hposted hresolved hhundred => omega

theorem lost_of_next {a : Action} (htest : a.isTest = true)
    (hnext : s.next inet bails a = some s') : s'.lost = s.lost := by
  cases a with
  | own i g =>
      obtain ⟨p, _, rfl⟩ := Option.map_eq_some_iff.mp hnext
      rfl
  | dispatch i g rand overrun =>
      obtain ⟨b, hrun⟩ := dispatched_of_next hnext
      exact hrun.lost
  | resolve addr domain =>
      obtain ⟨p, _, rfl⟩ := Option.map_eq_some_iff.mp hnext
      rfl
  | handle i =>
      obtain ⟨data, _, rfl⟩ := Option.map_eq_some_iff.mp hnext
      rfl
  | arrive i =>
      obtain ⟨data, _, hrest⟩ := Option.bind_eq_some_iff.mp hnext
      obtain ⟨p, _, rfl⟩ := Option.map_eq_some_iff.mp hrest
      rfl
  | loseToHost i | loseToClient i => simp [Action.isTest] at htest

/-- A run in order leads from `s` to the passing verdict. -/
def CanPass (inet : Inet) (bails : Bool) (s : UDPNet n) : Prop :=
  ∃ as s', EachStep (next inet bails) InOrder s as ∧ run (next inet bails) s as = some s' ∧
    s'.program.verdicts = [true]

/-- Without a loss the test can pass. -/
theorem Inv.passes (h : Inv inet st s) (bails : Bool) (hlost : s.lost = 0) :
    CanPass inet bails s := by
  apply reaches_goal (I := fun st s => Inv inet st s ∧ s.lost = 0) (V := progress)
    (fun _ _ hinv => hinv.1.progress_le) _ ⟨h, hlost⟩
  rintro st s ⟨hinv, hlost⟩
  refine (hinv.goes_on bails hlost).imp_right ?_
  rintro ⟨a, htest, hordered, hsome⟩
  obtain ⟨s', hnext⟩ := Option.isSome_iff_exists.mp hsome
  obtain ⟨st', hinv', hmore⟩ := hinv.step hordered hnext
  rw [htest] at hmore
  exact ⟨a, s', st', hordered, hnext, ⟨hinv', (lost_of_next htest hnext).trans hlost⟩, hmore⟩

/-- A loss after the hundredth echo does no harm. -/
theorem Inv.passes_late (h : Inv inet st s) (bails : Bool) (hreads : s.reads = 100) :
    CanPass inet bails s := by
  cases h.stage with
  | finishing c hfit hposted =>
      obtain ⟨_, hordered, hsome⟩ := h.can_own bails hfit hposted
      obtain ⟨s', hnext⟩ := Option.isSome_iff_exists.mp hsome
      obtain ⟨p, hp, rfl⟩ := Option.map_eq_some_iff.mp hnext
      obtain ⟨_, hverdicts, _⟩ := hfit.ended (by rw [hposted]; rfl) rfl hp
      rw [h.sound.undecided hfit.client, List.nil_append] at hverdicts
      exact ⟨[.own 0 .plain], _, .cons hnext hordered trivial, by rw [run, hnext]; rfl, hverdicts⟩
  | passed hclient hverdicts => exact ⟨[], s, trivial, rfl, hverdicts⟩
  | waiting c hostAddr port hwaiting =>
      have := reads_eq_zero hwaiting.dispatched
      omega
  | resolving c addr domain hresolving =>
      have := reads_eq_zero hresolving.dispatched
      omega
  | looping c hfit hloops hposted hpending hecho hresolved hsome => omega

theorem Inv.passes_iff (h : Inv inet st s) (bails : Bool) :
    CanPass inet bails s ↔ s.lost = 0 ∨ s.reads = 100 := by
  constructor
  · rintro ⟨as, s', _, hrun, hverdicts⟩
    by_contra hbad
    have hreads := h.traffic_le.2
    obtain ⟨hnone, hstuck⟩ := h.stuck bails (by omega) (by omega)
    cases as with
    | nil =>
        obtain rfl : s = s' := Option.some.inj hrun
        simp [hnone] at hverdicts
    | cons a as => simp [run, hstuck a] at hrun
  · rintro (hlost | hreads)
    · exact h.passes bails hlost
    · exact h.passes_late bails hreads

theorem Inv.posts_no_failure (h : Inv inet st s) : .terminate false ∉ s.program.posted := by
  cases h.stage with
  | waiting c hostAddr port hwaiting => simp [hwaiting.posted]
  | resolving c addr domain hresolving => simp [hresolving.posted]
  | looping c hfit hloops hposted => simp [hposted]
  | finishing c hfit hposted => simp [hposted]
  | passed hclient hverdicts hposted => simp [hposted]

theorem no_data (hquiet : s.traffic = 0) {data' : List Char} :
    ∀ data ∈ s.toHost ++ s.toClient ++ s.inbox, data = data' := by
  have hle := s.lost_le_traffic
  obtain ⟨htoHost, htoClient, hinbox⟩ := empty_of_traffic (s := s) (by omega)
  simp [htoHost, htoClient, hinbox]

theorem Starts.inv (h : s.Starts inet) : Inv inet .waiting s := by
  obtain ⟨c, hostAddr, port, hwaiting⟩ := h.program.waiting
  refine ⟨h.program.sound, h.program.failures, ?_⟩
  exact .waiting c hostAddr port hwaiting (by rw [h.idle]; rfl) (by rw [h.idle]; rfl)

end steps

theorem starts_idle {p : Program 32 UDPEchoClient}
    (h : Program.Begins (udpEchoClient Inet.usual) Program.newUDPEchoClient p) :
    (idle p).Starts Inet.usual :=
  ⟨h.starts rfl, rfl⟩

/-- One echo is read; the next datagram gets to the host, but its echo is lost. -/
def losingActions : List Action :=
  [.own 0 .plain, .resolve (fun _ => 1) 3, .dispatch 0 .plain (fun i => i) 0, .handle 0, .arrive 0,
    .dispatch 0 .plain (fun i => i + 40) 0, .handle 0, .loseToClient 0]

section results

variable (inet : Inet) (bails : Bool)

/-- No assertion of the UDP test fails and no failing verdict is given or posted,
whatever the network loses, if the callbacks run in order, and as long as the
client is there none of them crashes. The client sends a datagram only when it has
read the echo of the last one; so there is never more than one, and until the
hundredth echo it holds what `onRx` will compare it with. The passing verdict is
given only after a hundred echoes. -/
theorem stop_and_wait (s : UDPNet n) (hstart : s.Starts inet) (as : List Action)
    (hordered : EachStep (next inet bails) InOrder s as) :
    EachState (next inet bails) (fun s' =>
      s'.program.failures = 0 ∧ .terminate false ∉ s'.program.posted ∧
        (s'.program.client ≠ none → s'.program.NoCrash (udpEchoClient inet) bails) ∧
        s'.toHost.length + s'.toClient.length + s'.inbox.length + s'.lost ≤ 1 ∧
        s'.reads ≤ s'.sends ∧ s'.sends ≤ s'.reads + 1 ∧
        (s'.reads < 100 → ∀ c, s'.program.client = some c →
          ∀ data ∈ s'.toHost ++ s'.toClient ++ s'.inbox, data = c.outBuffer.take 4) ∧
        (s'.program.verdicts = [] ∨
          s'.program.verdicts = [true] ∧ s'.reads = 100 ∧ s'.sends = 101)) s as := by
  refine (eachState_exists (I := Inv inet) (fun st s a s' hinv ha hnext => ?_) hstart.inv
    hordered).mono ?_
  · obtain ⟨st', hinv', _⟩ := hinv.step ha hnext
    exact ⟨st', hinv'⟩
  rintro s' ⟨st, hinv⟩
  refine ⟨hinv.failures, hinv.posts_no_failure, hinv.sound.noCrash, hinv.traffic_le.1, ?_⟩
  cases hinv.stage with
  | waiting c hostAddr port hwaiting hresolved hquiet =>
      have hreads := reads_eq_zero hwaiting.dispatched
      have hsends : s'.sends = 0 := by rw [sends, hwaiting.granted]; rfl
      exact ⟨by omega, by omega, fun _ _ _ => no_data hquiet,
        .inl (hinv.sound.undecided hwaiting.fitted.client)⟩
  | resolving c addr domain hresolving hloops hquiet =>
      have hreads := reads_eq_zero hresolving.dispatched
      have hsends := sends_eq_zero hresolving
      exact ⟨by omega, by omega, fun _ _ _ => no_data hquiet,
        .inl (hinv.sound.undecided hresolving.fitted.client)⟩
  | looping c hfit hloops hposted hpending hecho hresolved hreads hsends hone =>
      refine ⟨by omega, by omega, fun _ c' hc => ?_, .inl (hinv.sound.undecided hfit.client)⟩
      obtain rfl : c = c' := Option.some.inj (hfit.client.symm.trans hc)
      exact hecho
  | finishing c hfit hposted hresolved hreads hsends hone =>
      exact ⟨by omega, by omega, by omega, .inl (hinv.sound.undecided hfit.client)⟩
  | passed hclient hverdicts hposted hresolved hreads hsends hone =>
      exact ⟨by omega, by omega, by omega, .inr ⟨hverdicts, hreads, hsends⟩⟩

/-- The second echo is lost after the first one has been read. -/
theorem losingActions_wait :
    ∃ (p : Program 32 UDPEchoClient) (s : UDPNet 32),
      p.Begins (udpEchoClient Inet.usual) Program.newUDPEchoClient ∧
      run (next Inet.usual true) (idle p) losingActions = some s ∧
      s.program.failures = 0 ∧ s.lost = 1 ∧ s.inbox = [] := by
  have hend : ∃ (p : Program 32 UDPEchoClient) (s : UDPNet 32),
      p.Begins (udpEchoClient Inet.usual) Program.newUDPEchoClient ∧
      EachStep (next Inet.usual true) InOrder (idle p) losingActions ∧
      run (next Inet.usual true) (idle p) losingActions = some s ∧ s.lost = 1 :=
    ⟨⟨_, _, _, _, _⟩, _, ⟨rfl, rfl⟩, by decide, rfl, rfl⟩
  obtain ⟨p, s, hbegins, hordered, hrun, hlost⟩ := hend
  obtain ⟨hfailures, _, _, hone, _⟩ := eachState_last
    (stop_and_wait Inet.usual true _ (starts_idle hbegins) losingActions hordered) hrun
  exact ⟨p, s, hbegins, hrun, hfailures, hlost, List.eq_nil_of_length_eq_zero (by omega)⟩

/-- In order, a UDP test takes at most 306 steps, not counting losses. From every
state that it reaches, it can still pass exactly if no datagram has been lost, or
if the hundred echoes had been read by then. The client never sends anything
again: after an earlier loss no action is possible, in order or not. -/
theorem passes_iff_unlost (s s' : UDPNet n) (hstart : s.Starts inet) (as : List Action)
    (hordered : EachStep (next inet bails) InOrder s as)
    (hrun : run (next inet bails) s as = some s') :
    as.countP Action.isTest ≤ 306 ∧ (CanPass inet bails s' ↔ s'.lost = 0 ∨ s'.reads = 100) ∧
      (s'.reads < 100 → s'.lost ≠ 0 → ∀ a, s'.next inet bails a = none) := by
  obtain ⟨st, hinv, hpaid⟩ := potential Action.isTest
    (fun _ _ _ _ hinv ha hnext => hinv.step ha hnext) hstart.inv hordered hrun
  have hbound := hinv.progress_le
  exact ⟨by omega, hinv.passes_iff bails, fun hreads hlost => (hinv.stuck bails hreads hlost).2⟩

/-- Before the loss the test could still pass; after it, it cannot. -/
theorem losingActions_stop :
    ∃ (p : Program 32 UDPEchoClient) (s s' : UDPNet 32),
      p.Begins (udpEchoClient Inet.usual) Program.newUDPEchoClient ∧
      run (next Inet.usual true) (idle p) (losingActions.take 7) = some s ∧
      run (next Inet.usual true) (idle p) losingActions = some s' ∧
      CanPass Inet.usual true s ∧ ¬ CanPass Inet.usual true s' := by
  have hend : ∃ (p : Program 32 UDPEchoClient) (s s' : UDPNet 32),
      p.Begins (udpEchoClient Inet.usual) Program.newUDPEchoClient ∧
      EachStep (next Inet.usual true) InOrder (idle p) (losingActions.take 7) ∧
      run (next Inet.usual true) (idle p) (losingActions.take 7) = some s ∧ s.lost = 0 ∧
      EachStep (next Inet.usual true) InOrder (idle p) losingActions ∧
      run (next Inet.usual true) (idle p) losingActions = some s' ∧ s'.lost = 1 ∧ s'.reads = 1 :=
    ⟨⟨_, _, _, _, _⟩, _, _, ⟨rfl, rfl⟩, by decide, rfl, rfl, by decide, rfl, rfl, rfl⟩
  obtain ⟨p, s, s', hbegins, hordered, hrun, hnone, hordered', hrun', hlost, hreads⟩ := hend
  have hstarts := starts_idle hbegins
  have hpasses := (passes_iff_unlost Inet.usual true _ s hstarts _ hordered hrun).2.1
  have hstops := (passes_iff_unlost Inet.usual true _ s' hstarts _ hordered' hrun').2.1
  refine ⟨p, s, s', hbegins, hrun, hrun', hpasses.mpr (.inl hnone), fun hcan => ?_⟩
  rcases hstops.mp hcan with hzero | hhundred <;> omega

end results

end MbedSockets.Echo.UDPNet
