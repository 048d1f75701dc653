import MbedSockets.Echo.Verdicts

/-!
What a passing verdict of the UDP test is worth. Unless an assertion has failed,
the test passes only after a hundred reads and a hundred datagrams that the stack
has granted.
-/

namespace MbedSockets.Echo

open Lib.Run

variable {n : Nat}

namespace UDPEchoClient

/-- The counter does not run ahead of the reads, and each read is ahead of the
next send. -/
structure VerdictInv (v : ClientView UDPEchoClient) : Prop where
  recvs : v.client.loopCtr.toNat ≤ v.granted.countP ApiCall.isRecv
  sends : min v.client.loopCtr.toNat 99 ≤ v.granted.countP ApiCall.isSendTo
  ahead : v.handlerSet .onReadable →
    min v.client.loopCtr.toNat 99 + 1 ≤ v.granted.countP ApiCall.isSendTo
  passed : .terminate true ∈ v.posted →
    100 ≤ v.granted.countP ApiCall.isRecv ∧ 100 ≤ v.granted.countP ApiCall.isSendTo

theorem VerdictInv.of_asked {s s' : Session n UDPEchoClient} {op : Op} {ret : Ret}
    (h : VerdictInv (s.view usock)) (hasked : s.Asked usock op ret s')
    (hslots : .onReadable ∉ op.slots) : VerdictInv (s'.view usock) := by
  have hrecvs := hasked.count_le ApiCall.isRecv
  have hsends := hasked.count_le ApiCall.isSendTo
  obtain ⟨hr, hs, ha, hp⟩ := h
  simp only [Session.view] at hr hs ha hp
  refine ⟨?_, ?_, fun hset' => ?_, fun htrue => ?_⟩
  all_goals simp only [Session.view, hasked.client]
  · exact hr.trans hrecvs
  · exact hs.trans hsends
  · rcases hasked.handlerSet _ hset' with hset | hbefore
    · exact absurd hset hslots
    · exact (ha hbefore).trans hsends
  · obtain ⟨hr', hs'⟩ := hp (by rwa [← hasked.posted])
    exact ⟨hr'.trans hrecvs, hs'.trans hsends⟩

theorem isSendTo_of_asks {buf : Ptr} {len : Nat} {addr : Option SocketAddr} {port : UInt16}
    (c : ApiCall) (hasks : (Op.sendTo buf len addr port).asks c = true) : c.isSendTo = true := by
  cases c <;> first | rfl | cases hasks

theorem startTest_triple (bails : Bool) (hostAddr : Ptr) (port : UInt16) (input : Input) :
    Triple (n := n) (fun s => (s.view usock).Fresh) (startTest bails hostAddr port input)
      (fun s => VerdictInv (s.view usock)) := by
  refine .consequence (.assign <| .ask fun _ => .check <| .ask fun _ => .check .finish) ?_
  intro s hfresh ret₁ s₁ h₁ _ ret₂ s₂ h₂ _
  refine VerdictInv.of_asked (VerdictInv.of_asked ?_ h₁ (by simp [Op.slots, Op.registers])) h₂
    (by simp [Op.slots, Op.registers])
  refine ⟨Nat.zero_le _, Nat.zero_le _, fun hset' => ?_, fun htrue => ?_⟩
  · exact absurd hset' (hfresh.unset .onReadable (by simp))
  · exact absurd htrue hfresh.unpassed

theorem onDNS_triple (inet : Inet) (bails : Bool) (sa : RawAddr) (input : Input) :
    Triple (n := n) (fun s => VerdictInv (s.view usock)) (onDNS inet bails sa input)
      (fun s => VerdictInv (s.view usock)) := by
  refine .consequence (.assign <| .assign <| .ask fun _ => .check <| .ask fun _ => .assign <|
    .ask fun _ => .check .finish) ?_
  intro s hinv ret₁ s₁ h₁ _ ret₂ s₂ h₂ ret₃ s₃ h₃ hsent
  have hrecvs := ((h₁.count_le ApiCall.isRecv).trans (h₂.count_le _)).trans (h₃.count_le _)
  have hsends := ((h₁.count_le ApiCall.isSendTo).trans (h₂.count_le _)).trans_lt
    (h₃.count_lt hsent isSendTo_of_asks)
  have hposted : s₃.posted = s.posted := h₃.posted.trans (h₂.posted.trans h₁.posted)
  have hloops : s₃.client.loopCtr = s.client.loopCtr := by rw [h₃.client, h₂.client, h₁.client]
  obtain ⟨hr, hs, _, hp⟩ := hinv
  simp only [Session.view] at hr hs hp hrecvs hsends
  refine ⟨?_, ?_, fun _ => ?_, fun htrue => ?_⟩
  all_goals simp only [Session.view, hloops, hposted] at *
  · omega
  · omega
  · omega
  · have := hp htrue
    omega

theorem onError_triple (bails : Bool) (err : SocketError) :
    Triple (n := n) (fun s => VerdictInv (s.view usock)) (onError bails err)
      (fun s => VerdictInv (s.view usock)) := by
  refine .consequence (.check <| .postTerminate .finish) ?_
  intro s hinv _
  refine ⟨hinv.recvs, hinv.sends, hinv.ahead, fun htrue => hinv.passed ?_⟩
  simpa [Session.view] using htrue

theorem onRx_triple (bails : Bool) (input : Input) :
    Triple (n := n) (fun s => VerdictInv (s.view usock) ∧ s.HandlerSet usock .onReadable)
      (onRx bails input) (fun s => VerdictInv (s.view usock)) := by
  refine .consequence (.ask fun _ => .assign <| .check <| .check <| .assign <|
    .branch (.assign <| .ask fun _ => .check .finish)
      (.ask fun _ => .postTerminate .finish)) ?_
  rintro s ⟨hinv, hset'⟩ ret₁ s₁ h₁ hread _
  have hrecvs := h₁.count_lt hread isRecv_of_asks
  have hsends := h₁.count_le ApiCall.isSendTo
  have hctr : (s.client.loopCtr + 1).toNat ≤ s.client.loopCtr.toNat + 1 := by
    rw [UInt32.toNat_add]
    exact Nat.mod_le _ _
  have hahead := hinv.ahead hset'
  obtain ⟨hr, hs, _, hp⟩ := hinv
  simp only [Session.view] at hr hs hp hahead
  refine ⟨fun hmore ret₂ s₂ h₂ hsent => ?_, fun hlast ret₂ s₂ h₂ => ?_⟩
  · have hloops : s₂.client.loopCtr = s.client.loopCtr + 1 := by rw [h₂.client, h₁.client]
    have hposted : s₂.posted = s.posted := h₂.posted.trans h₁.posted
    have hrecvs' := h₂.count_le ApiCall.isRecv
    have hsends' := h₂.count_lt hsent isSendTo_of_asks
    simp only at hrecvs' hsends'
    refine ⟨?_, ?_, fun _ => ?_, fun htrue => ?_⟩
    all_goals simp only [Session.view, hloops, hposted] at *
    · omega
    · omega
    · omega
    · have := hp htrue
      omega
  · have hloops : s₂.client.loopCtr = s.client.loopCtr + 1 := by rw [h₂.client, h₁.client]
    have hrecvs' := h₂.count_le ApiCall.isRecv
    have hsends' := h₂.count_le ApiCall.isSendTo
    have hhundred : ¬ (s.client.loopCtr + 1).toNat < 100 := by
      intro hlt
      have hmore : s.client.loopCtr + 1 < maxEchoLoops := UInt32.lt_iff_toNat_lt.mpr hlt
      simp [h₁.client, hmore] at hlast
    simp only at hrecvs' hsends'
    refine ⟨?_, ?_, fun _ => ?_, fun _ => ?_⟩
    all_goals simp only [Session.view, hloops]
    · omega
    · omega
    · omega
    · omega

theorem onError_fresh (bails : Bool) (err : SocketError) :
    Triple (n := n) (fun s => (s.view usock).Fresh) (onError bails err)
      (fun s => (s.view usock).Fresh) := by
  refine .consequence (.check <| .postTerminate .finish) ?_
  intro s hfresh _
  exact hfresh.failing rfl rfl

theorem call_triple (inet : Inet) (bails : Bool) (args : Args) (input : Input) :
    Triple (n := n) (fun s => VerdictInv (s.view usock) ∧ s.HandlerSet usock args.slot)
      (call inet bails args input) (fun s => VerdictInv (s.view usock)) := by
  cases args with
  | onDNS sa domain => exact .consequence (onDNS_triple inet bails sa input) fun _ h => h.1
  | onError err => exact .consequence (onError_triple bails err) fun _ h => h.1
  | onReadable => exact onRx_triple bails input
  | _ => exact .consequence .finish fun _ h => h.1

theorem verdictRules (inet : Inet) (bails : Bool) :
    VerdictRules (n := n) (udpEchoClient inet) bails (fun _ => True) VerdictInv (fun granted =>
      100 ≤ granted.countP ApiCall.isRecv ∧ 100 ≤ granted.countP ApiCall.isSendTo) where
  startTest := startTest_triple bails
  onError err _ := onError_fresh bails err
  call := call_triple inet bails
  passes v i hinv _ hpost := hinv.passed (List.mem_of_getElem? hpost)
  grows granted more h := by
    rw [List.countP_append, List.countP_append]
    omega

end UDPEchoClient

namespace Program

/-- Whatever the stack answers and reports, and in whatever order the callbacks
run, the UDP test has not passed without a failed assertion unless the stack has
granted a hundred reads and a hundred sends. -/
theorem udp_verdict_earned (inet : Inet) (bails : Bool) (p : Program n UDPEchoClient)
    (hstart : p.Starts (udpEchoClient inet)) (as : List (TestAction n)) :
    EachState (next (udpEchoClient inet) bails) (fun p' =>
      true ∈ p'.verdicts → p'.failures = 0 →
        100 ≤ p'.world.grantedCalls.countP ApiCall.isRecv ∧
          100 ≤ p'.world.grantedCalls.countP ApiCall.isSendTo) p as := by
  apply (hstart.verdictInvariant_run (UDPEchoClient.verdictRules inet bails)
    (eachStep_of_forall (fun _ _ _ _ _ _ => trivial) p)).mono
  intro p' hinv htrue hnone
  exact hinv.verdict hnone htrue

def plainInput : Input := { env := Granting.plain.env }

/-- `rand` always gives zero, so that every datagram is four blanks. -/
def hundredEchoes : List (TestAction 32) :=
  [.own 0 plainInput, .event 0 (.dns (fun _ => 1) 3), .dispatch 0 plainInput] ++
    (List.replicate 100
      [.event 0 .rxDone, .dispatch 0 { plainInput with data := List.replicate 4 ' ' }]).flatten ++
    [.own 0 plainInput]

theorem hundredEchoes_earn :
    ∃ p p', Begins (udpEchoClient Inet.usual) newUDPEchoClient p ∧
      run (next (udpEchoClient Inet.usual) true) p hundredEchoes = some p' ∧
      p'.verdicts = [true] ∧ 100 ≤ p'.world.grantedCalls.countP ApiCall.isRecv := by
  have hend : ((run World.next World.init
      [.register 0 ⟨true, 250, 7⟩, .construct 4096 1 (Class.plainCtor .udp 0) .quiet,
        .op 0 (.setOnError Slot.onError.member) .quiet]).bind fun w =>
      run (next (udpEchoClient Inet.usual) true)
        ⟨w, some newUDPEchoClient, [.startTest 3 7], 0, []⟩ hundredEchoes).any
      (fun p => p.verdicts = [true] ∧ p.failures = 0) = true := by decide +kernel
  obtain ⟨p', hends, hgood⟩ := (Option.any_eq_true _ _).mp hend
  obtain ⟨w, hw, hrun⟩ := Option.bind_eq_some_iff.mp hends
  obtain ⟨hverdict, hnone⟩ := of_decide_eq_true hgood
  have hbegins : Begins (udpEchoClient Inet.usual) newUDPEchoClient
      ⟨w, some newUDPEchoClient, [.startTest 3 7], 0, []⟩ := ⟨hw, rfl⟩
  have hearned := eachState_last
    (udp_verdict_earned Inet.usual true _ (hbegins.starts rfl) hundredEchoes) hrun
  exact ⟨_, p', hbegins, hrun, hverdict, (hearned (by simp [hverdict]) hnone).1⟩

end Program

end MbedSockets.Echo
