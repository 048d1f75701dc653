import MbedSockets.Echo.Verdicts

/-!
What a passing verdict of the TCP test is worth. Unless an assertion has failed,
the test passes only after a read and the final text. This needs that the callbacks
of the program run in the order in which they are posted: an error sets `_done` as
well, and only the failing verdict that it posts keeps a passing one from coming
first.
-/

namespace MbedSockets.Echo

open Lib.Run

variable {n : Nat}

namespace TCPEchoClient

/-- Something was read, and the final text was accepted. -/
def Exchanged (granted : List ApiCall) : Prop :=
  (∃ c ∈ granted, c.isRecv = true) ∧ .send outSuccessPtr outSuccess.length ∈ granted

/-- The first verdict that is posted is a failing one. -/
def FirstVerdictFails (posted : List Post) : Prop :=
  posted.find? Post.isTerminate = some (.terminate false)

/-- Unless an error came first, `_done` is set and a passing verdict is posted only
after the exchange. -/
def VerdictInv (v : ClientView (TCPEchoClient n)) : Prop :=
  FirstVerdictFails v.posted ∨
    (v.client.done = true → Exchanged v.granted) ∧
      (.terminate true ∈ v.posted → Exchanged v.granted)

theorem FirstVerdictFails.append {posted more : List Post} (h : FirstVerdictFails posted) :
    FirstVerdictFails (posted ++ more) := by
  rw [FirstVerdictFails, List.find?_append, show posted.find? _ = _ from h, Option.some_or]

/-- A failing verdict either comes first or comes after a passing one. -/
theorem firstVerdictFails_or_passed {posted : List Post} :
    FirstVerdictFails (posted ++ [.terminate false]) ∨ .terminate true ∈ posted := by
  rw [FirstVerdictFails, List.find?_append]
  cases hfirst : posted.find? Post.isTerminate with
  | none => exact .inl rfl
  | some post =>
      have hmem := List.mem_of_find?_eq_some hfirst
      cases post with
      | startTest hostAddr port => cases List.find?_some hfirst
      | terminate status =>
          cases status with
          | true => exact .inr hmem
          | false => exact .inl rfl

theorem VerdictInv.of_asked {s s' : Session n (TCPEchoClient n)} {op : Op} {ret : Ret}
    (h : VerdictInv (s.view stream)) (hasked : s.Asked stream op ret s') :
    VerdictInv (s'.view stream) := by
  have hgrows (hexchanged : Exchanged s.world.grantedCalls) :
      Exchanged s'.world.grantedCalls := by
    obtain ⟨⟨c, hc, hrecv⟩, hsent⟩ := hexchanged
    exact ⟨⟨c, hasked.mem_granted hc, hrecv⟩, hasked.mem_granted hsent⟩
  refine h.imp (fun hfails => ?_) (And.imp (fun hdone hset => ?_) fun hpassed htrue => ?_)
  · simpa [Session.view, hasked.posted] using hfails
  · exact hgrows (hdone (by simpa [Session.view, hasked.client] using hset))
  · exact hgrows (hpassed (by simpa [Session.view, hasked.posted] using htrue))

/-- Members of the client other than `_done` do not matter. -/
theorem VerdictInv.congr {v v' : ClientView (TCPEchoClient n)} (h : VerdictInv v)
    (hdone : v'.client.done = v.client.done) (hposted : v'.posted = v.posted)
    (hgranted : v'.granted = v.granted) : VerdictInv v' := by
  unfold VerdictInv
  rw [hdone, hposted, hgranted]
  exact h

theorem startTest_triple (bails : Bool) (hostAddr : Ptr) (port : UInt16) (input : Input) :
    Triple (n := n) (fun s => (s.view stream).Fresh) (startTest bails hostAddr port input)
      (fun s => VerdictInv (s.view stream)) := by
  refine .consequence (.assign <| .ask fun _ => .check <| .ask fun _ => .check .finish) ?_
  intro s hfresh ret₁ s₁ h₁ _ ret₂ s₂ h₂ _
  refine VerdictInv.of_asked (VerdictInv.of_asked (.inr ⟨fun hdone => ?_, fun htrue => ?_⟩) h₁) h₂
  · cases hdone
  · exact absurd htrue hfresh.unpassed

theorem onError_fresh (bails : Bool) (err : SocketError) :
    Triple (n := n) (fun s => (s.view stream).Fresh) (onError bails err)
      (fun s => (s.view stream).Fresh) := by
  refine .consequence (.check <| .assign <| .postTerminate .finish) ?_
  intro s hfresh _
  exact hfresh.failing rfl rfl

/-- An error sets `_done` without an exchange, but fails the test. -/
theorem onError_triple (bails : Bool) (err : SocketError) :
    Triple (n := n) (fun s => VerdictInv (s.view stream)) (onError bails err)
      (fun s => VerdictInv (s.view stream)) := by
  refine .consequence (.check <| .assign <| .postTerminate .finish) ?_
  rintro s (hfails | ⟨_, hpassed⟩) _
  · exact .inl hfails.append
  · rcases firstVerdictFails_or_passed with hfails | htrue
    · exact .inl hfails
    · exact .inr ⟨fun _ => hpassed htrue, fun _ => hpassed htrue⟩

theorem onDNS_triple (inet : Inet) (bails : Bool) (sa : RawAddr) (input : Input) :
    Triple (n := n) (fun s => VerdictInv (s.view stream)) (onDNS inet bails sa input)
      (fun s => VerdictInv (s.view stream)) := by
  refine .consequence (.assign <| .assign <| .ask fun _ => .ask fun _ => .ask fun _ =>
    .ask fun _ => .check .finish) ?_
  intro s hinv ret₁ s₁ h₁ ret₂ s₂ h₂ ret₃ s₃ h₃ ret₄ s₄ h₄ _
  refine (((VerdictInv.of_asked ?_ h₁).of_asked h₂).of_asked h₃).of_asked h₄
  exact hinv.congr rfl rfl rfl

theorem onConnect_triple (bails : Bool) (input : Input) :
    Triple (n := n) (fun s => VerdictInv (s.view stream)) (onConnect bails input)
      (fun s => VerdictInv (s.view stream)) := by
  refine .consequence (.assign <| .assign <| .ask fun _ => .check .finish) ?_
  intro s hinv ret₁ s₁ h₁ _
  refine VerdictInv.of_asked ?_ h₁
  exact hinv.congr rfl rfl rfl

theorem onSent_triple (nbytes : UInt16) :
    Triple (n := n) (fun s => VerdictInv (s.view stream)) (onSent nbytes)
      (fun s => VerdictInv (s.view stream)) := by
  refine .consequence (.assign <| .branch (.postTerminate .finish) .finish) ?_
  intro s hinv
  refine ⟨fun hpass => ?_, fun _ => hinv.congr rfl rfl rfl⟩
  have hdone : s.client.done = true := (Bool.and_eq_true_iff.mp hpass).1
  refine hinv.imp FirstVerdictFails.append fun ⟨hexchanged, _⟩ => ?_
  exact ⟨hexchanged, fun _ => hexchanged hdone⟩

theorem giveUp_triple : Triple (n := n) (fun s => VerdictInv (s.view stream)) giveUp
    (fun s => VerdictInv (s.view stream)) := by
  refine .consequence (.branch (.postTerminate .finish) .finish) ?_
  intro s hinv
  refine ⟨fun _ => hinv.imp FirstVerdictFails.append fun ⟨hexchanged, hpassed⟩ => ?_, fun _ => hinv⟩
  refine ⟨hexchanged, fun htrue => hpassed ?_⟩
  simpa [Session.view] using htrue

/-- The path on which `_done` is set: what was read has been found right, and the
final text has been accepted. -/
theorem onRx_triple (bails : Bool) (input : Input) :
    Triple (n := n) (fun s => VerdictInv (s.view stream)) (onRx bails input)
      (fun s => VerdictInv (s.view stream)) := by
  refine .consequence (.ask fun _ => .assign <| .check <| .assign <|
    .branch (.check <| .assign <| .ask fun _ => .assign <| .check giveUp_triple)
      giveUp_triple) ?_
  intro s hinv ret₁ s₁ h₁ hread
  refine ⟨fun _ _ ret₂ s₂ h₂ hsent => ?_, fun _ => ?_⟩
  · obtain ⟨c, hc, hasks⟩ := h₁.exists_granted hread
    obtain ⟨c', hc', hasks'⟩ := h₂.exists_granted hsent
    obtain rfl : c' = .send outSuccessPtr outSuccess.length := by simpa [Op.asks] using hasks'
    have hexchanged : Exchanged s₂.world.grantedCalls :=
      ⟨⟨c, h₂.mem_granted hc, isRecv_of_asks c hasks⟩, hc'⟩
    exact .inr ⟨fun _ => hexchanged, fun _ => hexchanged⟩
  · exact (hinv.of_asked h₁).congr rfl rfl rfl

theorem onDisconnect_triple : Triple (n := n) (fun s => VerdictInv (s.view stream)) onDisconnect
    (fun s => VerdictInv (s.view stream)) := by
  refine .consequence (.assign .finish) ?_
  intro s hinv
  exact hinv.congr rfl rfl rfl

theorem call_triple (inet : Inet) (bails : Bool) (args : Args) (input : Input) :
    Triple (n := n) (fun s => VerdictInv (s.view stream) ∧ s.HandlerSet stream args.slot)
      (call inet bails args input) (fun s => VerdictInv (s.view stream)) := by
  refine .consequence ?_ fun _ h => h.1
  cases args with
  | onDNS sa domain => exact onDNS_triple inet bails sa input
  | onError err => exact onError_triple bails err
  | onReadable => exact onRx_triple bails input
  | onSent sentbytes => exact onSent_triple sentbytes
  | onConnect => exact onConnect_triple bails input
  | onDisconnect => exact onDisconnect_triple
  | onIncoming newimpl => exact .finish

theorem verdictRules (inet : Inet) (bails : Bool) :
    VerdictRules (n := n) (tcpEchoClient inet) bails (fun i => i = 0) VerdictInv Exchanged where
  startTest := startTest_triple bails
  onError err _ := onError_fresh bails err
  call := call_triple inet bails
  passes v i hinv hfirst hpost := by
    subst hfirst
    rcases hinv with hfails | ⟨_, hpassed⟩
    · -- The first verdict would be another one.
      cases hposted : v.posted with
      | nil => simp [hposted] at hpost
      | cons post rest =>
          rw [hposted, List.getElem?_cons_zero, Option.some.injEq] at hpost
          simp [FirstVerdictFails, hposted, hpost, Post.isTerminate] at hfails
    · exact hpassed (List.mem_of_getElem? hpost)
  grows granted more h := by
    obtain ⟨⟨c, hc, hrecv⟩, hsent⟩ := h
    exact ⟨⟨c, List.mem_append_left _ hc, hrecv⟩, List.mem_append_left _ hsent⟩

end TCPEchoClient

/-- The program's own callbacks run in the order in which they were posted. -/
def TestAction.inOrder : TestAction n → Bool
  | .own i _ => i = 0
  | _ => true

namespace Program

/-- Whatever the stack answers and reports, if the callbacks of the program run in
order, the TCP test has not passed without a failed assertion unless the stack
has granted a read and accepted the final text. -/
theorem tcp_verdict_earned (inet : Inet) (bails : Bool) (p : Program n (TCPEchoClient n))
    (hstart : p.Starts (tcpEchoClient inet)) (as : List (TestAction n))
    (hordered : ∀ a ∈ as, a.inOrder = true) :
    EachState (next (tcpEchoClient inet) bails) (fun p' =>
      true ∈ p'.verdicts → p'.failures = 0 →
        (∃ c ∈ p'.world.grantedCalls, c.isRecv = true) ∧
          .send TCPEchoClient.outSuccessPtr TCPEchoClient.outSuccess.length ∈
            p'.world.grantedCalls) p as := by
  apply (hstart.verdictInvariant_run (TCPEchoClient.verdictRules inet bails)
    (eachStep_of_forall (fun a ha _ i input hown => ?_) p)).mono
  · intro p' hinv htrue hnone
    exact hinv.verdict hnone htrue
  · subst hown
    simpa [TestAction.inOrder] using hordered _ ha

theorem passingTest_earns :
    ∃ p p', Begins (tcpEchoClient Inet.usual) newTCPEchoClient p ∧
      run (next (tcpEchoClient Inet.usual) true) p passingTest = some p' ∧
      p'.verdicts = [true] ∧ ∃ c ∈ p'.world.grantedCalls, c.isRecv = true := by
  have hend : ∃ p p', Begins (tcpEchoClient Inet.usual) newTCPEchoClient p ∧
      run (next (tcpEchoClient Inet.usual) true) p passingTest = some p' ∧
      p'.verdicts = [true] ∧ p'.failures = 0 := ⟨⟨_, _, _, _, _⟩, _, ⟨rfl, rfl⟩, rfl, rfl, rfl⟩
  obtain ⟨p, p', hbegins, hrun, hverdict, hnone⟩ := hend
  have hearned := eachState_last (tcp_verdict_earned Inet.usual true p (hbegins.starts rfl)
    passingTest (by decide)) hrun
  exact ⟨p, p', hbegins, hrun, hverdict, (hearned (by simp [hverdict]) hnone).1⟩

end Program

end MbedSockets.Echo
