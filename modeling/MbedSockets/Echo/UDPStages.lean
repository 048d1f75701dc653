import MbedSockets.Echo.UDPNetwork

/-!
The stages of the UDP echo test. At any time there is at most one datagram of the
test anywhere, in flight or lost: the client sends the next one only when the echo
of the last has been read. So every echo is compared with what was sent last. In
order, every action leads from a stage to the same or to the next one, and except
for a loss it makes progress.
-/

namespace MbedSockets.Echo.UDPNet

open Lib.Run UDPEchoClient

variable {n : Nat}

/-- The echoes that were read. -/
def reads (s : UDPNet n) : Nat := s.program.world.dispatched.countP (·.args = .onReadable)

/-- The datagrams that were sent. -/
def sends (s : UDPNet n) : Nat := s.program.world.grantedCalls.countP ApiCall.isSendTo

/-- The datagrams that are somewhere, and those that are lost. -/
def traffic (s : UDPNet n) : Nat :=
  s.toHost.length + s.toClient.length + s.inbox.length + s.lost

inductive Stage
  | waiting
  | resolving
  | looping
  | finishing
  | passed

/-- The callbacks that have run so far, other than those for an echo. -/
def Stage.rank : Stage → Nat
  | .waiting => 0
  | .resolving => 1
  | .looping | .finishing => 2
  | .passed => 3

/-- What distinguishes the stages. -/
inductive At (inet : Inet) (s : UDPNet n) : Stage → Prop
  | waiting (c : UDPEchoClient) (hostAddr : Ptr) (port : UInt16)
      (hwaiting : s.program.Waiting (udpEchoClient inet) c hostAddr port)
      (hresolved : s.resolved = false) (hquiet : s.traffic = 0) : At inet s .waiting
  | resolving (c : UDPEchoClient) (addr : RawAddr) (domain : Ptr)
      (hresolving : s.program.Resolving (udpEchoClient inet) s.resolved c addr domain)
      (hloops : c.loopCtr = 0) (hquiet : s.traffic = 0) : At inet s .resolving
  | looping (c : UDPEchoClient)
      (hfit : s.program.Fitted (udpEchoClient inet) true [.onReadable, .onDNS] c)
      (hloops : c.loopCtr.toNat < 100) (hposted : s.program.posted = [])
      (hpending : s.program.world.pending =
        s.inbox.map fun _ => ⟨c.usock, Slot.onReadable.member, .onReadable⟩)
      (hecho : ∀ data ∈ s.toHost ++ s.toClient ++ s.inbox,
        data = c.outBuffer.take sizeofBufferSize)
      (hresolved : s.resolved = true) (hreads : s.reads = c.loopCtr.toNat)
      (hsends : s.sends = c.loopCtr.toNat + 1) (hone : s.traffic = 1) : At inet s .looping
  | finishing (c : UDPEchoClient)
      (hfit : s.program.Fitted (udpEchoClient inet) true [.onReadable, .onDNS] c)
      (hposted : s.program.posted = [.terminate true]) (hresolved : s.resolved = true)
      (hreads : s.reads = 100) (hsends : s.sends = 101) (hone : s.traffic = 1) :
      At inet s .finishing
  | passed (hclient : s.program.client = none) (hverdicts : s.program.verdicts = [true])
      (hposted : s.program.posted = []) (hresolved : s.resolved = true)
      (hreads : s.reads = 100) (hsends : s.sends = 101) (hone : s.traffic = 1) :
      At inet s .passed

structure Inv (inet : Inet) (st : Stage) (s : UDPNet n) : Prop where
  sound : s.program.Sound (udpEchoClient inet)
  failures : s.program.failures = 0
  stage : At inet s st

/-- How far a test has come: a datagram counts one when it is on its way back, two
when it has arrived or is lost, and three when it has been read. -/
def progress (st : Stage) (s : UDPNet n) : Nat :=
  st.rank + s.resolved.toNat + s.toClient.length + 2 * (s.inbox.length + s.lost) + 3 * s.reads

theorem reads_eq_zero {s : UDPNet n} (h : s.program.world.dispatched = []) : s.reads = 0 := by
  rw [reads, h]
  rfl

/-- No datagram is sent before the address is known. -/
theorem sends_eq_zero {inet : Inet} {s : UDPNet n} {c : UDPEchoClient} {addr : RawAddr}
    {domain : Ptr} (h : s.program.Resolving (udpEchoClient inet) s.resolved c addr domain) :
    s.sends = 0 := by
  obtain ⟨family, id, hostAddr, hgranted⟩ := h.granted
  rw [sends, hgranted]
  rfl

theorem Inv.traffic_le {inet : Inet} {st : Stage} {s : UDPNet n} (h : Inv inet st s) :
    s.traffic ≤ 1 ∧ s.reads ≤ 100 := by
  cases h.stage with
  | waiting c hostAddr port hwaiting hresolved hquiet =>
      have hreads := reads_eq_zero hwaiting.dispatched
      omega
  | resolving c addr domain hresolving hloops hquiet =>
      have hreads := reads_eq_zero hresolving.dispatched
      omega
  | looping c hfit hloops hposted hpending hecho hresolved hreads hsends hone => omega
  | finishing c hfit hposted hresolved hreads hsends hone => omega
  | passed hclient hverdicts hposted hresolved hreads hsends hone => omega

theorem Inv.progress_le {inet : Inet} {st : Stage} {s : UDPNet n} (h : Inv inet st s) :
    progress st s ≤ 306 := by
  obtain ⟨htraffic, hreads⟩ := h.traffic_le
  have hrank : st.rank ≤ 3 := by cases st <;> decide
  have hresolved : s.resolved.toNat ≤ 1 := Bool.toNat_le _
  unfold traffic at htraffic
  unfold progress
  omega

section steps

theorem empty_of_traffic {s : UDPNet n} (h : s.traffic = s.lost) :
    s.toHost = [] ∧ s.toClient = [] ∧ s.inbox = [] := by
  unfold traffic at h
  refine ⟨?_, ?_, ?_⟩ <;> exact List.eq_nil_of_length_eq_zero (by omega)

theorem lost_le_traffic (s : UDPNet n) : s.lost ≤ s.traffic := Nat.le_add_left _ _

variable {inet : Inet} {bails : Bool} {st : Stage} {s s' : UDPNet n}
  {p : Program n UDPEchoClient}

theorem sends_of_granted {calls : List ApiCall}
    (hgranted : s'.program.world.grantedCalls = s.program.world.grantedCalls ++ calls) :
    s'.sends = s.sends + calls.countP ApiCall.isSendTo := by
  rw [sends, sends, hgranted, List.countP_append]

/-- What a member sends, by its outcome. -/
theorem launched_eq {out : Outcome UDPEchoClient} (hafter : Program.After out s.program p)
    (hclient : p.client = some out.client) :
    s.launched p = out.calls.filterMap out.client.datagram := by
  rw [launched, hclient, Option.elim_some, hafter.granted, List.drop_left]

theorem reads_append {b : Bound}
    (hdispatched : s'.program.world.dispatched = s.program.world.dispatched ++ [b]) :
    s'.reads = s.reads + if b.args = .onReadable then 1 else 0 := by
  rw [reads, reads, hdispatched, List.countP_append]
  simp [List.countP_cons]

/-- A callback of the program itself: the start or the end of the test. -/
theorem Inv.own (h : Inv inet st s) {i : Nat} {g : Granting}
    (hnext : s.next inet bails (.own i g) = some s') :
    ∃ st', Inv inet st' s' ∧ progress st s + 1 ≤ progress st' s' := by
  obtain ⟨p, hp, rfl⟩ := Option.map_eq_some_iff.mp hnext
  obtain ⟨post, hpost⟩ := Program.posted_of_own hp
  have hsound := h.sound.step (Program.next_stepped hp)
  cases h.stage with
  | waiting c hostAddr port hwaiting hresolved hquiet =>
      obtain ⟨hresolving, hfailures⟩ :=
        hwaiting.started (startTest_yields c hostAddr port rfl) hp hresolved (fun _ => 0) 0
      have hnothing : s.launched p = [] := by
        obtain ⟨family, id, host, hgranted⟩ := hresolving.granted
        rw [launched, hresolving.fitted.client, Option.elim_some, hgranted, hwaiting.granted]
        rfl
      have hreads : reads { s with program := p } = s.reads := by
        rw [reads_eq_zero hresolving.dispatched, reads_eq_zero hwaiting.dispatched]
      rw [hnothing, List.append_nil]
      refine ⟨.resolving, ⟨hsound, hfailures.trans h.failures, ?_⟩, ?_⟩
      · exact .resolving _ _ _ hresolving rfl hquiet
      · simp only [progress, hreads, Stage.rank]
        omega
  | finishing c hfit hposted hresolved hreads hsends hone =>
      obtain ⟨rfl, rfl⟩ : i = 0 ∧ post = .terminate true := by
        rw [hposted] at hpost
        cases i <;> simp_all
      obtain ⟨hclient, hverdicts, hfailures, hposted', hpending', hdispatched, calls, hgranted,
        hquiet⟩ := hfit.ended hpost rfl hp
      have hnothing : s.launched p = [] := by rw [launched, hclient, Option.elim_none]
      have hsends' : sends { s with program := p } = s.sends := by
        rw [sends_of_granted hgranted, List.countP_eq_zero.mpr, Nat.add_zero]
        intro call hcall
        simp [ApiCall.isSendTo_of_sends (hquiet call hcall)]
      rw [hnothing, List.append_nil]
      have hreads' : reads { s with program := p } = s.reads := by rw [reads, hdispatched, reads]
      refine ⟨.passed, ⟨hsound, by simpa using hfailures.trans h.failures, ?_⟩, ?_⟩
      · have hnone := h.sound.undecided hfit.client
        refine .passed hclient (by simp [hverdicts, hnone]) ?_ hresolved (hreads'.trans hreads)
          (hsends'.trans hsends) hone
        simp [hposted', hposted]
      · simp only [progress, hreads', Stage.rank]
        omega
  | resolving c addr domain hresolving => simp [hresolving.posted] at hpost
  | looping c hfit hloops hposted => simp [hposted] at hpost
  | passed hclient hverdicts hposted => simp [hposted] at hpost

/-- A callback of the layer that has run. -/
structure Dispatched (inet : Inet) (bails : Bool) (i : Nat) (b : Bound) (g : Granting)
    (input : Input) (s s' : UDPNet n) : Prop where
  bound : s.program.world.pending[i]? = some b
  env : input.env = g.env
  data : input.data = s.inbox.headD []
  program : s.program.next (udpEchoClient inet) bails (.dispatch i input) = some s'.program
  toHost : s'.toHost = s.toHost ++ s.launched s'.program
  toClient : s'.toClient = s.toClient
  inbox : s'.inbox = if b.args = .onReadable then s.inbox.tail else s.inbox
  resolved : s'.resolved = s.resolved
  lost : s'.lost = s.lost

theorem dispatched_of_next {i : Nat} {g : Granting} {rand : Nat → Nat} {overrun : Nat}
    (hnext : s.next inet bails (.dispatch i g rand overrun) = some s') :
    ∃ b, Dispatched inet bails i b g ⟨g.env, s.inbox.headD [], rand, overrun⟩ s s' := by
  obtain ⟨b, hb, hrest⟩ := Option.bind_eq_some_iff.mp hnext
  obtain ⟨p, hp, rfl⟩ := Option.map_eq_some_iff.mp hrest
  exact ⟨b, hb, rfl, rfl, hp, rfl, rfl, rfl, rfl, rfl⟩

/-- The one datagram has arrived; so it is nowhere else. -/
theorem inbox_eq {i : Nat} {b b' : Bound} (hone : s.traffic = 1)
    (hpending : s.program.world.pending = s.inbox.map fun _ => b')
    (hb : s.program.world.pending[i]? = some b) :
    i = 0 ∧ b = b' ∧ s.toHost = [] ∧ s.toClient = [] ∧ s.lost = 0 ∧
      s.inbox = [s.inbox.headD []] := by
  rw [hpending, List.getElem?_map] at hb
  obtain ⟨data, hdata, rfl⟩ := Option.map_eq_some_iff.mp hb
  obtain ⟨hi, _⟩ := List.getElem?_eq_some_iff.mp hdata
  unfold traffic at hone
  have hinbox : s.inbox.length = 1 := by omega
  obtain ⟨data', hdata'⟩ := List.length_eq_one_iff.mp hinbox
  refine ⟨by omega, rfl, List.eq_nil_of_length_eq_zero (by omega),
    List.eq_nil_of_length_eq_zero (by omega), by omega, ?_⟩
  rw [hdata']
  rfl

theorem toNat_succ {ctr : UInt32} (hctr : ctr.toNat < 100) : (ctr + 1).toNat = ctr.toNat + 1 := by
  rw [UInt32.toNat_add]
  exact Nat.mod_eq_of_lt (show ctr.toNat + 1 < 2 ^ 32 by omega)

variable {i : Nat} {b : Bound} {g : Granting} {input : Input}

/-- The address is known: the first datagram is sent. -/
theorem Inv.lookedUp (h : Inv inet .resolving s)
    (hrun : Dispatched inet bails i b g input s s') :
    Inv inet .looping s' ∧ progress .resolving s + 1 ≤ progress .looping s' := by
  cases h.stage with
  | resolving c addr domain hresolving hloops hquiet =>
      obtain ⟨rfl, rfl, hresolved⟩ := hresolving.bound hrun.bound
      obtain ⟨hfit', hafter, hposted', hpending', hdispatched⟩ :=
        hresolving.fitted.called hrun.bound rfl (onDNS_yields inet c addr hrun.env) hrun.program
      have hreads := reads_eq_zero hresolving.dispatched
      have hsends := sends_eq_zero hresolving
      have hreads' := reads_append hdispatched
      have hsends' := sends_of_granted hafter.granted
      rw [if_neg (by simp), hreads] at hreads'
      have hlost := s.lost_le_traffic
      have hnothing := empty_of_traffic (s := s) (by omega)
      have hinbox : s'.inbox = [] := by simpa [hnothing] using hrun.inbox
      have htoClient : s'.toClient = [] := hrun.toClient.trans hnothing.2.1
      have htoHost : s'.toHost = [(testData input.rand).take sizeofBufferSize] := by
        rw [hrun.toHost, hnothing.1, launched_eq hafter hfit'.client]
        rfl
      have hlost' : s'.lost = 0 := by rw [hrun.lost]; omega
      refine ⟨⟨h.sound.step (Program.next_stepped hrun.program),
        hafter.failures.trans h.failures, ?_⟩, ?_⟩
      · refine .looping _ hfit' ?_ ?_ ?_ ?_ (hrun.resolved.trans hresolved) ?_ ?_ ?_
        · simp [hloops]
        · simp [hposted', hresolving.posted]
        · simp [hpending', hresolving.pending, hresolved, hinbox]
        · simp [htoClient, hinbox, htoHost]
        · simp [hreads', hloops]
        · simp [hsends', hsends, hloops, ApiCall.isSendTo]
        · simp [traffic, htoClient, hinbox, htoHost, hlost']
      · simp only [progress, hreads', hreads, hrun.resolved, Stage.rank, hinbox, htoClient,
          hnothing]
        omega

/-- An echo is read: the next datagram is sent, or the last one with the verdict. -/
theorem Inv.echoRead (h : Inv inet .looping s)
    (hrun : Dispatched inet bails i b g input s s') :
    ∃ st', Inv inet st' s' ∧ progress .looping s + 1 ≤ progress st' s' := by
  cases h.stage with
  | looping c hfit hloops hposted hpending hecho hresolved hreads hsends hone =>
      obtain ⟨rfl, rfl, htoHost, htoClient, hlost, hinbox⟩ := inbox_eq hone hpending hrun.bound
      have hdata : input.data = c.outBuffer.take sizeofBufferSize := by
        apply hecho
        rw [hrun.data, hinbox]
        simp
      have hctr := toNat_succ hloops
      have hlength : s.inbox.length = 1 := by rw [hinbox, List.length_singleton]
      have hsound := h.sound.step (Program.next_stepped hrun.program)
      have hinbox' : s'.inbox = [] := by
        rw [hrun.inbox, if_pos rfl, hinbox, List.tail_cons]
      have htoClient' := hrun.toClient.trans htoClient
      have hresolved' := hrun.resolved.trans hresolved
      have hlost' := hrun.lost.trans hlost
      by_cases hmore : c.loopCtr + 1 < maxEchoLoops
      · obtain ⟨hfit', hafter, hposted', hpending', hdispatched⟩ :=
          hfit.called hrun.bound rfl (onRx_yields_next c hrun.env hdata hmore) hrun.program
        have hreads' := reads_append hdispatched
        have hsends' := sends_of_granted hafter.granted
        have htoHost' : s'.toHost = [(testData input.rand).take sizeofBufferSize] := by
          rw [hrun.toHost, htoHost, launched_eq hafter hfit'.client]
          rfl
        rw [if_pos rfl] at hreads'
        refine ⟨.looping, ⟨hsound, hafter.failures.trans h.failures, ?_⟩, ?_⟩
        · refine .looping _ hfit' (UInt32.lt_iff_toNat_lt.mp hmore) ?_ ?_ ?_ hresolved' ?_ ?_ ?_
          · simp [hposted', hposted]
          · rw [hpending', hpending, hinbox, hinbox']
            rfl
          · simp [htoClient', hinbox', htoHost']
          · simp [hreads', hreads, hctr]
          · simp [hsends', hsends, hctr, ApiCall.isSendTo]
          · simp [traffic, htoClient', hinbox', htoHost', hlost']
        · simp [progress, hreads', hrun.resolved, hinbox', hlength, htoClient', htoClient, hlost,
            hlost']
          omega
      · obtain ⟨hfit', hafter, hposted', hpending', hdispatched⟩ :=
          hfit.called hrun.bound rfl (onRx_yields_last c hrun.env hdata hmore) hrun.program
        have hreads' := reads_append hdispatched
        have hsends' := sends_of_granted hafter.granted
        have htoHost' : s'.toHost.length = 1 := by
          rw [hrun.toHost, htoHost, launched_eq hafter hfit'.client]
          rfl
        have hhundred : c.loopCtr.toNat = 99 := by
          have hlast : ¬ (c.loopCtr + 1).toNat < 100 :=
            fun hlt => hmore (UInt32.lt_iff_toNat_lt.mpr hlt)
          omega
        rw [if_pos rfl] at hreads'
        refine ⟨.finishing, ⟨hsound, hafter.failures.trans h.failures, ?_⟩, ?_⟩
        · refine .finishing _ hfit' ?_ hresolved' ?_ ?_ ?_
          · simp [hposted', hposted]
          · simp [hreads', hreads, hhundred]
          · simp [hsends', hsends, hhundred, ApiCall.isSendTo]
          · simp [traffic, htoClient', hinbox', htoHost', hlost']
        · simp [progress, hreads', hrun.resolved, hinbox', hlength, htoClient', htoClient, hlost,
            hlost', Stage.rank]
          omega

/-- A callback of the layer, which does not overtake one of the program. -/
theorem Inv.dispatch (h : Inv inet st s) {rand : Nat → Nat} {overrun : Nat}
    (hordered : s.InOrder (.dispatch i g rand overrun))
    (hnext : s.next inet bails (.dispatch i g rand overrun) = some s') :
    ∃ st', Inv inet st' s' ∧ progress st s + 1 ≤ progress st' s' := by
  obtain ⟨b, hrun⟩ := dispatched_of_next hnext
  have hnone : s.program.posted = [] := hordered
  cases st with
  | waiting =>
      cases h.stage with
      | waiting c hostAddr port hwaiting => simp [hwaiting.posted] at hnone
  | resolving => exact ⟨_, h.lookedUp hrun⟩
  | looping => exact h.echoRead hrun
  | finishing =>
      cases h.stage with
      | finishing c hfit hposted => simp [hposted] at hnone
  | passed =>
      cases h.stage with
      | passed hclient => exact absurd hclient (Program.client_of_dispatch hrun.program)

/-- After an event, what is left to show is that the stage is the same. -/
theorem Inv.notified (h : Inv inet st s) {c : UDPEchoClient} {args : Args} {set : List Slot}
    (hnotified : s.program.Notified (udpEchoClient inet) true set c args s'.program)
    (hmore : s.resolved.toNat + s.toClient.length + 2 * (s.inbox.length + s.lost) + 1 ≤
      s'.resolved.toNat + s'.toClient.length + 2 * (s'.inbox.length + s'.lost))
    (hstage : s'.reads = s.reads → s'.sends = s.sends → At inet s' st) :
    Inv inet st s' ∧ progress st s + 1 ≤ progress st s' := by
  have hreads : s'.reads = s.reads := by rw [reads, hnotified.dispatched, reads]
  have hsends : s'.sends = s.sends := by rw [sends, hnotified.granted, sends]
  refine ⟨⟨hnotified.sound h.sound, hnotified.failures.trans h.failures, hstage hreads hsends⟩, ?_⟩
  rw [progress, progress, hreads]
  omega

/-- The answer to the lookup. -/
theorem Inv.resolve (h : Inv inet st s) {addr : RawAddr} {domain : Ptr}
    (hnext : s.next inet bails (.resolve addr domain) = some s') :
    ∃ st', Inv inet st' s' ∧ progress st s + 1 ≤ progress st' s' := by
  obtain ⟨p, hp, rfl⟩ := Option.map_eq_some_iff.mp hnext
  have hunresolved := (Program.answerLookup_eq_some hp).1
  cases h.stage with
  | waiting c hostAddr port hwaiting => simp [hwaiting.not_answered] at hp
  | resolving c _ _ hresolving hloops hquiet =>
      obtain ⟨_, hresolving', hnotified⟩ := hresolving.answered hp
      refine ⟨.resolving, h.notified hnotified ?_ fun _ _ => ?_⟩
      · simp [hunresolved]
      · exact .resolving c addr domain hresolving' hloops hquiet
  | looping c hfit hloops hposted hpending hecho hresolved => simp [hresolved] at hunresolved
  | finishing c hfit hposted hresolved => simp [hresolved] at hunresolved
  | passed hclient hverdicts hposted hresolved => simp [hresolved] at hunresolved

/-- An echo arrives at the client. -/
theorem Inv.arrive (h : Inv inet st s) (hnext : s.next inet bails (.arrive i) = some s') :
    ∃ st', Inv inet st' s' ∧ progress st s + 1 ≤ progress st' s' := by
  obtain ⟨data, hdata, hrest⟩ := Option.bind_eq_some_iff.mp hnext
  obtain ⟨p, hp, rfl⟩ := Option.map_eq_some_iff.mp hrest
  obtain ⟨hi, _⟩ := List.getElem?_eq_some_iff.mp hdata
  have herased := List.length_eraseIdx_of_lt hi
  have hmore : s.toClient.length + 2 * (s.inbox.length + s.lost) + 1 ≤
      (s.toClient.eraseIdx i).length + 2 * ((s.inbox ++ [data]).length + s.lost) := by
    rw [List.length_append, List.length_singleton]
    omega
  have htraffic : s.toHost.length + (s.toClient.eraseIdx i).length +
      (s.inbox ++ [data]).length + s.lost = s.traffic := by
    rw [List.length_append, List.length_singleton, traffic]
    omega
  cases h.stage with
  | looping c hfit hloops hposted hpending hecho hresolved hreads hsends hone =>
      have hnotified := hfit.notified hp rfl (by simp [Args.slot])
      refine ⟨.looping, h.notified hnotified (by simp only; omega) fun hreads' hsends' => ?_⟩
      refine .looping c hnotified.fitted hloops (hnotified.posted.trans hposted) ?_ ?_ hresolved
        (hreads'.trans hreads) (hsends'.trans hsends) (htraffic.trans hone)
      · rw [hnotified.pending, hpending, List.map_append]
        rfl
      · intro data' hdata'
        apply hecho
        have hmem := List.mem_of_getElem? hdata
        have hleft : data' ∈ s.toClient.eraseIdx i → data' ∈ s.toClient := List.mem_of_mem_eraseIdx
        simp only [List.mem_append, List.mem_singleton] at hdata' ⊢
        grind
  | finishing c hfit hposted hresolved hreads hsends hone =>
      have hnotified := hfit.notified hp rfl (by simp [Args.slot])
      refine ⟨.finishing, h.notified hnotified (by simp only; omega) fun hreads' hsends' => ?_⟩
      exact .finishing c hnotified.fitted (hnotified.posted.trans hposted) hresolved
        (hreads'.trans hreads) (hsends'.trans hsends) (htraffic.trans hone)
  | passed hclient => exact absurd hclient (Program.client_of_notify hp)
  | waiting c hostAddr port hwaiting hresolved hquiet =>
      unfold traffic at hquiet
      omega
  | resolving c addr domain hresolving hloops hquiet =>
      unfold traffic at hquiet
      omega

/-- What happens on the way, to a datagram or to its echo, does not concern the
client. -/
theorem Inv.moved (h : Inv inet st s) (hprogram : s'.program = s.program)
    (hresolved : s'.resolved = s.resolved) (hinbox : s'.inbox = s.inbox)
    (htraffic : s'.traffic = s.traffic) (hsome : s.traffic ≠ 0)
    (hsame : ∀ data ∈ s'.toHost ++ s'.toClient, data ∈ s.toHost ++ s.toClient) :
    Inv inet st s' := by
  have hreads' : s'.reads = s.reads := by rw [reads, hprogram, reads]
  have hsends' : s'.sends = s.sends := by rw [sends, hprogram, sends]
  refine ⟨hprogram ▸ h.sound, hprogram ▸ h.failures, ?_⟩
  cases h.stage with
  | waiting c hostAddr port hwaiting _ hquiet => exact absurd hquiet hsome
  | resolving c addr domain hresolving hloops hquiet => exact absurd hquiet hsome
  | looping c hfit hloops hposted hpending hecho hanswered hreads hsends hone =>
      refine .looping c (hprogram ▸ hfit) hloops (hprogram ▸ hposted) ?_ ?_
        (hresolved.trans hanswered) (hreads'.trans hreads) (hsends'.trans hsends)
        (htraffic.trans hone)
      · rw [hprogram, hpending, hinbox]
      · intro data hdata
        apply hecho
        rw [hinbox] at hdata
        rcases List.mem_append.mp hdata with hway | hthere
        · exact List.mem_append_left _ (hsame data hway)
        · exact List.mem_append_right _ hthere
  | finishing c hfit hposted hanswered hreads hsends hone =>
      exact .finishing c (hprogram ▸ hfit) (hprogram ▸ hposted) (hresolved.trans hanswered)
        (hreads'.trans hreads) (hsends'.trans hsends) (htraffic.trans hone)
  | passed hclient hverdicts hposted hanswered hreads hsends hone =>
      exact .passed (hprogram ▸ hclient) (hprogram ▸ hverdicts) (hprogram ▸ hposted)
        (hresolved.trans hanswered) (hreads'.trans hreads) (hsends'.trans hsends)
        (htraffic.trans hone)

theorem Inv.handle (h : Inv inet st s) (hnext : s.next inet bails (.handle i) = some s') :
    Inv inet st s' ∧ progress st s + 1 ≤ progress st s' := by
  obtain ⟨data, hdata, rfl⟩ := Option.map_eq_some_iff.mp hnext
  obtain ⟨hi, _⟩ := List.getElem?_eq_some_iff.mp hdata
  have herased := List.length_eraseIdx_of_lt hi
  refine ⟨h.moved rfl rfl rfl ?_ ?_ ?_, ?_⟩
  · simp only [traffic, List.length_append, List.length_singleton]
    omega
  · rw [traffic]
    omega
  · intro data' hdata'
    have hmem := List.mem_of_getElem? hdata
    have hleft : data' ∈ s.toHost.eraseIdx i → data' ∈ s.toHost := List.mem_of_mem_eraseIdx
    simp only [List.mem_append, List.mem_singleton] at hdata' ⊢
    grind
  · simp only [progress, reads, List.length_append, List.length_singleton]
    omega

theorem Inv.loseToHost (h : Inv inet st s) (hnext : s.next inet bails (.loseToHost i) = some s') :
    Inv inet st s' ∧ progress st s ≤ progress st s' := by
  obtain ⟨data, hdata, rfl⟩ := Option.map_eq_some_iff.mp hnext
  obtain ⟨hi, _⟩ := List.getElem?_eq_some_iff.mp hdata
  have herased := List.length_eraseIdx_of_lt hi
  refine ⟨h.moved rfl rfl rfl ?_ ?_ ?_, ?_⟩
  · simp only [traffic]
    omega
  · rw [traffic]
    omega
  · intro data' hdata'
    rcases List.mem_append.mp hdata' with hleft | hback
    · exact List.mem_append_left _ (List.mem_of_mem_eraseIdx hleft)
    · exact List.mem_append_right _ hback
  · simp only [progress, reads]
    omega

theorem Inv.loseToClient (h : Inv inet st s)
    (hnext : s.next inet bails (.loseToClient i) = some s') :
    Inv inet st s' ∧ progress st s ≤ progress st s' := by
  obtain ⟨data, hdata, rfl⟩ := Option.map_eq_some_iff.mp hnext
  obtain ⟨hi, _⟩ := List.getElem?_eq_some_iff.mp hdata
  have herased := List.length_eraseIdx_of_lt hi
  refine ⟨h.moved rfl rfl rfl ?_ ?_ ?_, ?_⟩
  · simp only [traffic]
    omega
  · rw [traffic]
    omega
  · intro data' hdata'
    rcases List.mem_append.mp hdata' with hout | hleft
    · exact List.mem_append_left _ hout
    · exact List.mem_append_right _ (List.mem_of_mem_eraseIdx hleft)
  · simp only [progress, reads]
    omega

theorem Inv.step (h : Inv inet st s) {a : Action} (hordered : s.InOrder a)
    (hnext : s.next inet bails a = some s') :
    ∃ st', Inv inet st' s' ∧ progress st s + a.isTest.toNat ≤ progress st' s' := by
  cases a with
  | own i g => exact h.own hnext
  | dispatch i g rand overrun => exact h.dispatch hordered hnext
  | resolve addr domain => exact h.resolve hnext
  | handle i => exact ⟨st, h.handle hnext⟩
  | arrive i => exact h.arrive hnext
  | loseToHost i => exact ⟨st, h.loseToHost hnext⟩
  | loseToClient i => exact ⟨st, h.loseToClient hnext⟩

end steps

end MbedSockets.Echo.UDPNet
