import MbedSockets.Echo.TCPStages

/-!
The rest of the steps of the TCP echo test: what the stack reports, what the host
does and the periodic task. They add callbacks or move data, and stay in the stage.
-/

namespace MbedSockets.Echo.TCPNet

open Lib.Run TCPEchoClient

variable {n : Nat}

section steps

variable {inet : Inet} {bails : Bool} {st : Stage} {s s' : TCPNet n}
  {p : Program n (TCPEchoClient n)}

/-- After an event, what is left to show is that the stage is the same. -/
theorem Inv.notified (h : Inv inet st s) {c : TCPEchoClient n} {args : Args} {set : List Slot}
    (hnotified : s.program.Notified (tcpEchoClient inet) true set c args s'.program)
    (hhost : s'.hostRead = s.hostRead) (hechoed : s'.echoed = s.echoed)
    (hacked : s'.acked ≤ s.sent.length) (harrived : s'.arrived ≤ s.echoed.length)
    (hmore : s.resolved.toNat + s.connected.toNat + s.acked + s.arrived + 1 ≤
      s'.resolved.toNat + s'.connected.toNat + s'.acked + s'.arrived)
    (hstage : s'.sent = s.sent → At inet s' st) :
    Inv inet st s' ∧ progress st s + 1 ≤ progress st s' := by
  have hsent : s'.sent = s.sent := by rw [TCPNet.sent, hnotified.granted, TCPNet.sent]
  refine ⟨⟨hnotified.sound h.sound, hnotified.failures.trans h.failures, hsent.trans h.sent,
    hsent ▸ hacked, ?_, ?_, ?_, ?_, hstage hsent⟩, ?_⟩
  · rw [hsent, hhost]
    exact h.hostRead
  · rw [hhost, hechoed]
    exact h.echoed
  · rw [hechoed]
    exact harrived
  · have hqueue := h.queue
    rw [hnotified.dispatched, hnotified.pending, List.length_append, List.length_singleton]
    omega
  · simp only [progress, hnotified.dispatched, hhost]
    omega

/-- The answer to the lookup. -/
theorem Inv.resolve (h : Inv inet st s) {addr : RawAddr} {domain : Ptr}
    (hnext : s.next inet bails (.resolve addr domain) = some s') :
    ∃ st', Inv inet st' s' ∧ progress st s + 1 ≤ progress st' s' := by
  obtain ⟨p, hp, rfl⟩ := Option.map_eq_some_iff.mp hnext
  obtain ⟨hunresolved, _, hnotify⟩ := Program.answerLookup_eq_some hp
  cases h.stage with
  | waiting c hostAddr port hwaiting => simp [hwaiting.not_answered] at hp
  | resolving c _ _ hresolving hdone hbuffer hconnected hread =>
      obtain ⟨_, hresolving', hnotified⟩ := hresolving.answered hp
      refine ⟨.resolving, h.notified hnotified rfl rfl h.acked h.arrived ?_ fun _ => ?_⟩
      · simp [hunresolved]
      · exact .resolving c addr domain hresolving' hdone hbuffer hconnected hread
  | connecting c hfit hdone hbuffer hposted hpending hasked hresolved =>
      simp [hresolved] at hunresolved
  | talking c hfit hdone hbuffer hposted htalk hcounts hechoed hreadable hresolved =>
      simp [hresolved] at hunresolved
  | finishing c hfit hdone hposted htalk hcounts hresolved => simp [hresolved] at hunresolved
  | passed hclient => exact absurd hclient (Program.client_of_notify hnotify)

/-- The connection is there. -/
theorem Inv.connect (h : Inv inet st s) (hnext : s.next inet bails .connect = some s') :
    ∃ st', Inv inet st' s' ∧ progress st s + 1 ≤ progress st' s' := by
  simp only [TCPNet.next] at hnext
  split at hnext
  · rename_i hguard
    obtain ⟨p, hp, rfl⟩ := Option.map_eq_some_iff.mp hnext
    cases h.stage with
    | waiting c hostAddr port hwaiting => simp [hwaiting.granted] at hguard
    | resolving c addr domain hresolving =>
        obtain ⟨family, id, host, hgranted⟩ := hresolving.granted
        simp [hgranted, ApiCall.isConnect] at hguard
    | connecting c hfit hdone hbuffer hposted hpending hasked hresolved hread =>
        have hnotified := hfit.notified hp rfl (by simp [Args.slot, talkSlots])
        refine ⟨.connecting, h.notified hnotified rfl rfl h.acked h.arrived ?_ fun _ => ?_⟩
        · simp [hguard.1]
        · refine .connecting c hnotified.fitted hdone hbuffer (hnotified.posted.trans hposted) ?_
            (hnotified.granted ▸ hasked) hresolved hread
          rw [hnotified.pending, hpending, hguard.1]
          rfl
    | talking c hfit hdone hbuffer hposted htalk hcounts hechoed hreadable hresolved hconnected =>
        simp [hconnected] at hguard
    | finishing c hfit hdone hposted htalk hcounts hresolved hconnected =>
        simp [hconnected] at hguard
    | passed hclient => exact absurd hclient (Program.client_of_notify hp)
  · cases hnext

theorem talk_append {b : Bound} (hb : b.args.isTalk = true)
    (htalk : ∀ b ∈ s.program.world.pending, b.args.isTalk = true)
    (hpending : s'.program.world.pending = s.program.world.pending ++ [b]) :
    ∀ b ∈ s'.program.world.pending, b.args.isTalk = true := by
  intro b' hb'
  rw [hpending] at hb'
  rcases List.mem_append.mp hb' with hold | hnew
  · exact htalk b' hold
  · rw [List.mem_singleton.mp hnew]
    exact hb

theorem readable_append {b : Bound}
    (hpending : s'.program.world.pending = s.program.world.pending ++ [b]) :
    (∃ b' ∈ s'.program.world.pending, b'.args = .onReadable) ↔
      (∃ b' ∈ s.program.world.pending, b'.args = .onReadable) ∨ b.args = .onReadable := by
  rw [hpending]
  simp [or_and_right, exists_or]

/-- A report of the stack to the layer. -/
theorem Inv.acknowledge (h : Inv inet st s) {nbytes : UInt16}
    (hnext : s.next inet bails (.acknowledge nbytes) = some s') :
    ∃ st', Inv inet st' s' ∧ progress st s + 1 ≤ progress st' s' := by
  simp only [TCPNet.next] at hnext
  split at hnext
  · rename_i hguard
    obtain ⟨p, hp, rfl⟩ := Option.map_eq_some_iff.mp hnext
    have hquiet : st.sent ≠ [] := by
      intro hnil
      rw [h.sent, hnil] at hguard
      have := hguard.2
      simp at this
      omega
    have htalks : (Args.onSent nbytes).isTalk = true := by simpa [Args.isTalk] using hguard.1
    cases h.stage with
    | talking c hfit hdone hbuffer hposted htalk hcounts hechoed hreadable hresolved hconnected
        hread =>
        have hnotified := hfit.notified hp rfl (by simp [Args.slot, talkSlots])
        have hpending := hnotified.pending
        refine ⟨.talking, h.notified hnotified rfl rfl hguard.2 h.arrived ?_ fun hsent' => ?_⟩
        · simp only
          omega
        · refine .talking c hnotified.fitted hdone hbuffer (hnotified.posted.trans hposted)
            (talk_append htalks htalk hpending) (hcounts.notified hsent' rfl hpending) hechoed ?_
            hresolved hconnected hread
          rw [readable_append hpending]
          simpa using hreadable
    | finishing c hfit hdone hposted htalk hcounts hresolved hconnected hread =>
        have hnotified := hfit.notified hp rfl (by simp [Args.slot, talkSlots])
        have hpending := hnotified.pending
        refine ⟨.finishing, h.notified hnotified rfl rfl hguard.2 h.arrived ?_ fun hsent' => ?_⟩
        · simp only
          omega
        · exact .finishing c hnotified.fitted hdone (hnotified.posted.trans hposted)
            (talk_append htalks htalk hpending) (hcounts.notified hsent' rfl hpending)
            hresolved hconnected hread
    | passed hclient => exact absurd hclient (Program.client_of_notify hp)
    | _ => exact absurd rfl hquiet
  · cases hnext

/-- A segment that arrives at the client. -/
theorem Inv.arrive (h : Inv inet st s) {size : Nat}
    (hnext : s.next inet bails (.arrive size) = some s') :
    ∃ st', Inv inet st' s' ∧ progress st s + 1 ≤ progress st' s' := by
  simp only [TCPNet.next] at hnext
  split at hnext
  · rename_i hguard
    obtain ⟨p, hp, rfl⟩ := Option.map_eq_some_iff.mp hnext
    have hquiet : st.sent ≠ [] := by
      intro hnil
      have hlength := hguard.2
      rw [(h.quiet hnil).2.2.1, List.length_nil] at hlength
      omega
    cases h.stage with
    | talking c hfit hdone hbuffer hposted htalk hcounts hechoed hreadable hresolved hconnected
        hread =>
        have hnotified := hfit.notified hp rfl (by simp [Args.slot, talkSlots])
        have hpending := hnotified.pending
        refine ⟨.talking, h.notified hnotified rfl rfl h.acked hguard.2 ?_ fun hsent' => ?_⟩
        · simp only
          omega
        · refine .talking c hnotified.fitted hdone hbuffer (hnotified.posted.trans hposted)
            (talk_append rfl htalk hpending) (hcounts.notified hsent' rfl hpending) hechoed ?_
            hresolved hconnected hread
          rw [readable_append hpending]
          simp [Nat.add_pos_right _ hguard.1]
    | finishing c hfit hdone hposted htalk hcounts hresolved hconnected hread =>
        have hnotified := hfit.notified hp rfl (by simp [Args.slot, talkSlots])
        have hpending := hnotified.pending
        refine ⟨.finishing, h.notified hnotified rfl rfl h.acked hguard.2 ?_ fun hsent' => ?_⟩
        · simp only
          omega
        · exact .finishing c hnotified.fitted hdone (hnotified.posted.trans hposted)
            (talk_append rfl htalk hpending) (hcounts.notified hsent' rfl hpending)
            hresolved hconnected hread
    | passed hclient => exact absurd hclient (Program.client_of_notify hp)
    | _ => exact absurd rfl hquiet
  · cases hnext

/-- As long as the final text is not sent, the host echoes all it reads. -/
theorem handle_of_part {data : List Char} (hdata : data <:+: outBuffer) :
    TCPEchoClientHandler.handle data = data := by
  have hnone : ¬ TCPEchoClientHandler.endMark <:+: outBuffer := by decide
  exact if_neg fun hend => hnone (hend.trans hdata)

theorem length_handle_le (data : List Char) :
    (TCPEchoClientHandler.handle data).length ≤ data.length := by
  unfold TCPEchoClientHandler.handle
  split <;> simp

/-- The host reads, and echoes what it has read. -/
theorem Inv.hostRecv (h : Inv inet st s) {size : Nat}
    (hnext : s.next inet bails (.hostRecv size) = some s') :
    ∃ st', Inv inet st' s' ∧ progress st s + 1 ≤ progress st' s' := by
  simp only [TCPNet.next] at hnext
  split at hnext
  · cases hnext
  rename_i hchunk
  obtain rfl := Option.some.inj hnext
  have hpos : 0 < (s.hostChunk size).length := List.length_pos_iff.mpr hchunk
  have hsize : (s.hostChunk size).length ≤ s.sent.length - s.hostRead := by
    rw [TCPNet.hostChunk, List.length_take, List.length_drop]
    omega
  have hhandled := length_handle_le (s.hostChunk size)
  have hquiet : st.sent ≠ [] := by
    intro hnil
    rw [h.sent, hnil, List.length_nil] at hsize
    omega
  refine ⟨st, ⟨h.sound, h.failures, h.sent, h.acked, ?_, ?_, ?_, h.queue, ?_⟩, ?_⟩
  · have := h.hostRead
    show s.hostRead + (s.hostChunk size).length ≤ s.sent.length
    omega
  · have := h.echoed
    simp only [List.length_append]
    omega
  · have := h.arrived
    simp only [List.length_append]
    omega
  · cases h.stage with
    | talking c hfit hdone hbuffer hposted htalk hcounts hechoed hreadable hresolved hconnected
        hread =>
        refine .talking c hfit hdone hbuffer hposted htalk ⟨hcounts.unacked, hcounts.reported⟩ ?_
          hreadable hresolved hconnected hread
        have hrest : s.hostChunk size <+: outBuffer.drop s.hostRead := by
          rw [← show s.sent = outBuffer from h.sent]
          exact List.take_prefix _ _
        have hinfix := hrest.isInfix.trans (List.drop_suffix _ _).isInfix
        simp only [handle_of_part hinfix, hechoed, List.take_add]
        rw [← List.prefix_iff_eq_take.mp hrest]
    | finishing c hfit hdone hposted htalk hcounts hresolved hconnected hread =>
        exact .finishing c hfit hdone hposted htalk ⟨hcounts.unacked, hcounts.reported⟩ hresolved
          hconnected hread
    | passed hclient hverdicts hposted hacked hread =>
        exact .passed hclient hverdicts hposted hacked hread
    | _ => exact absurd rfl hquiet
  · simp only [progress]
    omega

/-- The periodic task does not concern the test. -/
theorem Inv.tick (h : Inv inet st s) {hd : Handle}
    (hnext : s.next inet bails (.tick hd) = some s') :
    Inv inet st s' ∧ progress st s ≤ progress st s' := by
  obtain ⟨p, hp, rfl⟩ := Option.map_eq_some_iff.mp hnext
  have hsound := h.sound.step (Program.next_stepped hp)
  cases Program.next_stepped hp with
  | fired _ =>
      refine ⟨⟨hsound, h.failures, h.sent, h.acked, h.hostRead, h.echoed, h.arrived, h.queue, ?_⟩,
        Nat.le_refl _⟩
      cases h.stage with
      | waiting c hostAddr port hwaiting hbuffer hresolved hconnected hread =>
          exact .waiting c hostAddr port ⟨⟨hwaiting.fitted.client, hwaiting.fitted.live⟩,
            hwaiting.posted, hwaiting.pending, hwaiting.dispatched, hwaiting.granted⟩ hbuffer
            hresolved hconnected hread
      | resolving c addr domain hresolving hdone hbuffer hconnected hread =>
          exact .resolving c addr domain ⟨⟨hresolving.fitted.client, hresolving.fitted.live⟩,
            hresolving.posted, hresolving.pending, hresolving.dispatched, hresolving.granted⟩ hdone
            hbuffer hconnected hread
      | connecting c hfit hdone hbuffer hposted hpending hasked hresolved hread =>
          exact .connecting c ⟨hfit.client, hfit.live⟩ hdone hbuffer hposted hpending hasked
            hresolved hread
      | talking c hfit hdone hbuffer hposted htalk hcounts hechoed hreadable hresolved hconnected
          hread =>
          exact .talking c ⟨hfit.client, hfit.live⟩ hdone hbuffer hposted htalk
            ⟨hcounts.unacked, hcounts.reported⟩ hechoed hreadable hresolved hconnected hread
      | finishing c hfit hdone hposted htalk hcounts hresolved hconnected hread =>
          exact .finishing c ⟨hfit.client, hfit.live⟩ hdone hposted htalk
            ⟨hcounts.unacked, hcounts.reported⟩ hresolved hconnected hread
      | passed hclient hverdicts hposted hacked hread =>
          exact .passed hclient hverdicts hposted hacked hread

theorem Inv.step (h : Inv inet st s) (hwide : 32 < 2 ^ n) {a : Action}
    (hnext : s.next inet bails a = some s') :
    ∃ st', Inv inet st' s' ∧ progress st s + a.isTest.toNat ≤ progress st' s' := by
  cases a with
  | own i g => exact h.own hnext
  | dispatch i size g => exact h.dispatch hwide hnext
  | resolve addr domain => exact h.resolve hnext
  | connect => exact h.connect hnext
  | acknowledge nbytes => exact h.acknowledge hnext
  | hostRecv size => exact h.hostRecv hnext
  | arrive size => exact h.arrive hnext
  | tick hd => exact ⟨st, h.tick hnext⟩

end steps

end MbedSockets.Echo.TCPNet
