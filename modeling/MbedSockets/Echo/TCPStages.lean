import MbedSockets.Echo.TCPNetwork

/-!
The stages of the TCP echo test. At each stage, the invariant says which
handlers are set, what the client has sent, what is pending, and that
`_unacked` is what was sent less what the callbacks that have run reported.
Every action leads from a stage to the same or to the next one, and except for
the periodic task it makes progress.
-/

namespace MbedSockets

/-- The callbacks that come while data is exchanged. -/
def Args.isTalk : Args → Bool
  | .onReadable => true
  | .onSent nbytes => 0 < nbytes.toNat
  | _ => false

namespace Echo

open Lib.Run

namespace TCPNet

open TCPEchoClient

variable {n : Nat}

/-- The bytes reported by a callback that has not run yet. -/
def reports (b : Bound) : Nat :=
  match b.args with
  | .onSent nbytes => nbytes.toNat
  | _ => 0

def reported (s : TCPNet n) : Nat := (s.program.world.pending.map reports).sum

/-- `_unacked` counts what was sent and not yet reported to the client. -/
structure Counts (s : TCPNet n) (unacked : BitVec n) : Prop where
  unacked : unacked.toNat + s.acked = s.sent.length + s.reported
  reported : s.reported ≤ s.acked

inductive Stage
  | waiting
  | resolving
  | connecting
  | talking
  | finishing
  | passed

def Stage.sent : Stage → List Char
  | .waiting | .resolving | .connecting => []
  | .talking => outBuffer
  | .finishing | .passed => outBuffer ++ outSuccess

/-- The callbacks of the program itself that have run. -/
def Stage.rank : Stage → Nat
  | .waiting => 0
  | .resolving | .connecting | .talking | .finishing => 1
  | .passed => 2

/-- The handlers that are set once the address is known. -/
def talkSlots : List Slot := [.onReadable, .onSent, .onDisconnect, .onConnect, .onDNS]

/-- What distinguishes the stages. -/
inductive At (inet : Inet) (s : TCPNet n) : Stage → Prop
  | waiting (c : TCPEchoClient n) (hostAddr : Ptr) (port : UInt16)
      (hwaiting : s.program.Waiting (tcpEchoClient inet) c hostAddr port)
      (hbuffer : 32 < c.buffer.length) (hresolved : s.resolved = false)
      (hconnected : s.connected = false) (hread : s.read = 0) : At inet s .waiting
  | resolving (c : TCPEchoClient n) (addr : RawAddr) (domain : Ptr)
      (hresolving : s.program.Resolving (tcpEchoClient inet) s.resolved c addr domain)
      (hdone : c.done = false) (hbuffer : 32 < c.buffer.length)
      (hconnected : s.connected = false) (hread : s.read = 0) : At inet s .resolving
  | connecting (c : TCPEchoClient n)
      (hfit : s.program.Fitted (tcpEchoClient inet) true talkSlots c) (hdone : c.done = false)
      (hbuffer : 32 < c.buffer.length) (hposted : s.program.posted = [])
      (hpending : s.program.world.pending =
        if s.connected then [⟨c.stream, Slot.onConnect.member, .onConnect⟩] else [])
      (hasked : s.program.world.grantedCalls.any ApiCall.isConnect = true)
      (hresolved : s.resolved = true) (hread : s.read = 0) : At inet s .connecting
  | talking (c : TCPEchoClient n)
      (hfit : s.program.Fitted (tcpEchoClient inet) true talkSlots c) (hdone : c.done = false)
      (hbuffer : 32 < c.buffer.length) (hposted : s.program.posted = [])
      (htalk : ∀ b ∈ s.program.world.pending, b.args.isTalk = true) (hcounts : s.Counts c.unacked)
      (hechoed : s.echoed = outBuffer.take s.hostRead)
      (hreadable : 0 < s.arrived ↔ ∃ b ∈ s.program.world.pending, b.args = .onReadable)
      (hresolved : s.resolved = true) (hconnected : s.connected = true) (hread : s.read = 0) :
      At inet s .talking
  | finishing (c : TCPEchoClient n)
      (hfit : s.program.Fitted (tcpEchoClient inet) true talkSlots c) (hdone : c.done = true)
      (hposted : s.program.posted = if c.unacked = 0 then [.terminate true] else [])
      (htalk : ∀ b ∈ s.program.world.pending, b.args.isTalk = true) (hcounts : s.Counts c.unacked)
      (hresolved : s.resolved = true) (hconnected : s.connected = true) (hread : 0 < s.read) :
      At inet s .finishing
  | passed (hclient : s.program.client = none) (hverdicts : s.program.verdicts = [true])
      (hposted : s.program.posted = []) (hacked : s.acked = s.sent.length) (hread : 0 < s.read) :
      At inet s .passed

structure Inv (inet : Inet) (st : Stage) (s : TCPNet n) : Prop where
  sound : s.program.Sound (tcpEchoClient inet)
  failures : s.program.failures = 0
  sent : s.sent = st.sent
  acked : s.acked ≤ s.sent.length
  hostRead : s.hostRead ≤ s.sent.length
  echoed : s.echoed.length ≤ s.hostRead
  arrived : s.arrived ≤ s.echoed.length
  queue : s.program.world.dispatched.length + s.program.world.pending.length ≤
    s.resolved.toNat + s.connected.toNat + s.acked + s.arrived
  stage : At inet s st

/-- How far a test has come. -/
def progress (st : Stage) (s : TCPNet n) : Nat :=
  st.rank + s.resolved.toNat + s.connected.toNat + s.acked + s.hostRead + s.arrived +
    s.program.world.dispatched.length

theorem Inv.progress_le {inet : Inet} {st : Stage} {s : TCPNet n} (h : Inv inet st s) :
    progress st s ≤ 166 := by
  have hsent : s.sent.length ≤ 32 := by
    rw [h.sent]
    cases st <;> decide
  have hrank : st.rank ≤ 2 := by cases st <;> decide
  have hresolved : s.resolved.toNat ≤ 1 := Bool.toNat_le _
  have hconnected : s.connected.toNat ≤ 1 := Bool.toNat_le _
  have := h.acked
  have := h.hostRead
  have := h.echoed
  have := h.arrived
  have := h.queue
  unfold progress
  omega

section steps

variable {inet : Inet} {bails : Bool} {st : Stage} {s s' : TCPNet n}
  {p : Program n (TCPEchoClient n)}

theorem sent_of_granted {calls : List ApiCall}
    (hgranted : s'.program.world.grantedCalls = s.program.world.grantedCalls ++ calls) :
    s'.sent = s.sent ++ calls.flatMap text := by
  rw [TCPNet.sent, TCPNet.sent, hgranted, List.flatMap_append]

theorem reported_append {b : Bound}
    (hpending : s'.program.world.pending = s.program.world.pending ++ [b]) :
    s'.reported = s.reported + reports b := by
  rw [TCPNet.reported, TCPNet.reported, hpending]
  simp

theorem reported_erase {i : Nat} {b : Bound} (hb : s.program.world.pending[i]? = some b)
    (hpending : s'.program.world.pending = s.program.world.pending.eraseIdx i) :
    s'.reported + reports b = s.reported := by
  obtain ⟨hi, rfl⟩ := List.getElem?_eq_some_iff.mp hb
  have hperm := (List.getElem_cons_eraseIdx_perm hi).map reports
  rw [TCPNet.reported, TCPNet.reported, hpending, ← hperm.sum_eq, List.map_cons, List.sum_cons,
    Nat.add_comm]

/-- Before the greeting is sent, nothing has happened on the network. -/
theorem Inv.quiet (h : Inv inet st s) (hsent : st.sent = []) :
    s.acked = 0 ∧ s.hostRead = 0 ∧ s.echoed = [] ∧ s.arrived = 0 := by
  have hnil : s.sent.length = 0 := by rw [h.sent, hsent]; rfl
  have := h.acked
  have := h.hostRead
  have := h.echoed
  have := h.arrived
  exact ⟨by omega, by omega, List.eq_nil_of_length_eq_zero (by omega), by omega⟩

/-- A callback of the program itself: the start or the end of the test. -/
theorem Inv.own (h : Inv inet st s) {i : Nat} {g : Granting}
    (hnext : s.next inet bails (.own i g) = some s') :
    ∃ st', Inv inet st' s' ∧ progress st s + 1 ≤ progress st' s' := by
  obtain ⟨p, hp, rfl⟩ := Option.map_eq_some_iff.mp hnext
  obtain ⟨post, hpost⟩ := Program.posted_of_own hp
  have hsound := h.sound.step (Program.next_stepped hp)
  cases h.stage with
  | waiting c hostAddr port hwaiting hbuffer hresolved hconnected hread =>
      obtain ⟨hacked, hhost, hechoed, harrived⟩ := h.quiet rfl
      obtain ⟨hresolving, hfailures⟩ :=
        hwaiting.started (startTest_yields c hostAddr port rfl) hp hresolved (fun _ => 0) 0
      have hsent : TCPNet.sent { s with program := p } = [] := by
        obtain ⟨family, id, host, hgranted⟩ := hresolving.granted
        rw [TCPNet.sent, hgranted]
        rfl
      refine ⟨.resolving, ⟨hsound, hfailures.trans h.failures, hsent, by simp [hacked],
        by simp [hhost], h.echoed, h.arrived, ?_, ?_⟩, ?_⟩
      · simp [hresolving.dispatched, hresolving.pending, hresolved]
      · exact .resolving _ _ _ hresolving rfl hbuffer hconnected hread
      · simp [progress, Stage.rank, hresolving.dispatched, hwaiting.dispatched]
  | finishing c hfit hdone hposted htalk hcounts hresolved hconnected hread =>
      obtain ⟨rfl, rfl, hzero⟩ : i = 0 ∧ post = .terminate true ∧ c.unacked = 0 := by
        rw [hposted] at hpost
        split at hpost
        · cases i <;> simp_all
        · simp at hpost
      obtain ⟨hclient, hverdicts, hfailures, hposted', hpending', hdispatched, calls, hgranted,
        hquiet⟩ := hfit.ended hpost rfl hp
      have hsame : TCPNet.sent { s with program := p } = s.sent := by
        rw [sent_of_granted hgranted, List.append_right_eq_self, List.flatMap_eq_nil_iff]
        intro call hcall
        have hnone := hquiet call hcall
        cases call <;> first | rfl | cases hnone
      refine ⟨.passed, ⟨hsound, by simpa using hfailures.trans h.failures, hsame.trans h.sent,
        by simpa [hsame] using h.acked, by simpa [hsame] using h.hostRead, h.echoed, h.arrived,
        ?_, ?_⟩, ?_⟩
      · rw [hdispatched, hpending']
        exact h.queue
      · have hnone := h.sound.undecided hfit.client
        have hall : s.acked = s.sent.length := by
          have hcount := hcounts.unacked
          have hunacked : c.unacked.toNat = 0 := by simp [hzero]
          have := h.acked
          omega
        refine .passed hclient (by simp [hverdicts, hnone]) ?_ (by simpa [hsame] using hall) hread
        simp [hposted', hposted, hzero]
      · simp [progress, Stage.rank, hdispatched]
  | resolving c addr domain hresolving => simp [hresolving.posted] at hpost
  | connecting c hfit hdone hbuffer hposted => simp [hposted] at hpost
  | talking c hfit hdone hbuffer hposted => simp [hposted] at hpost
  | passed hclient hverdicts hposted => simp [hposted] at hpost

theorem toNat_sub_ofNat (x : BitVec n) {k : Nat} (hk : k ≤ x.toNat) :
    (x - BitVec.ofNat n k).toNat = x.toNat - k := by
  have hsmall : (BitVec.ofNat n k).toNat = k := by
    rw [BitVec.toNat_ofNat, Nat.mod_eq_of_lt (Nat.lt_of_le_of_lt hk x.isLt)]
  rw [BitVec.toNat_sub_of_le (by rw [BitVec.le_def, hsmall]; exact hk), hsmall]

theorem toNat_add_ofNat (x : BitVec n) {k : Nat} (hk : x.toNat + k < 2 ^ n) :
    (x + BitVec.ofNat n k).toNat = x.toNat + k := by
  rw [BitVec.toNat_add, BitVec.toNat_ofNat, Nat.mod_eq_of_lt (show k < 2 ^ n by omega),
    Nat.mod_eq_of_lt hk]

theorem mem_pending_iff {i : Nat} {b : Bound} (hb : s.program.world.pending[i]? = some b)
    (b' : Bound) :
    b' ∈ s.program.world.pending ↔ b' = b ∨ b' ∈ s.program.world.pending.eraseIdx i := by
  obtain ⟨hi, rfl⟩ := List.getElem?_eq_some_iff.mp hb
  rw [← (List.getElem_cons_eraseIdx_perm hi).mem_iff, List.mem_cons]

theorem le_length_formatInto (inet : Inet) (addr : SocketAddr) (array : List Char) :
    array.length ≤ (formatInto inet addr array).length := by
  unfold formatInto
  split
  · simp only [overwrite, List.length_append, List.length_drop]
    omega
  · exact Nat.le_refl _

/-- What the client reads first is the beginning of its own greeting. -/
theorem Inv.first_chunk (h : Inv inet st s) (hechoed : s.echoed = outBuffer.take s.hostRead)
    (hread : s.read = 0) (harrived : 0 < s.arrived) {size : Nat} (hsize : size ≠ 0) :
    s.chunk size ≠ [] ∧ s.chunk size <+: outBuffer := by
  have hchunk : s.chunk size = s.echoed.take (min (min size 255) s.arrived) := by
    rw [TCPNet.chunk, hread, List.drop_zero, List.take_take]
  constructor
  · have := h.arrived
    rw [hchunk, ← List.length_pos_iff, List.length_take]
    omega
  · rw [hchunk, hechoed, List.take_take]
    exact List.take_prefix _ _

/-- A report that the client gets: `_unacked` goes down by as much, and not
below zero. -/
theorem Counts.onSent {unacked : BitVec n} (hcounts : s.Counts unacked)
    (hacked : s.acked ≤ s.sent.length) {i : Nat} {b : Bound} {nbytes : UInt16}
    (hb : s.program.world.pending[i]? = some b) (hargs : b.args = .onSent nbytes)
    (hsent : s'.sent = s.sent) (hacked' : s'.acked = s.acked)
    (hpending : s'.program.world.pending = s.program.world.pending.eraseIdx i) :
    nbytes.toNat ≤ unacked.toNat ∧ s'.Counts (unacked - BitVec.ofNat n nbytes.toNat) := by
  have hreported := reported_erase hb hpending
  have hnow : reports b = nbytes.toNat := by rw [reports, hargs]
  have hunacked := hcounts.unacked
  have hle := hcounts.reported
  have henough : nbytes.toNat ≤ unacked.toNat := by omega
  refine ⟨henough, ⟨?_, by omega⟩⟩
  rw [toNat_sub_ofNat _ henough, hsent, hacked']
  omega

/-- A read, after which the client may have sent more. -/
theorem Counts.onRx {unacked : BitVec n} (hcounts : s.Counts unacked) {i k : Nat} {b : Bound}
    (hb : s.program.world.pending[i]? = some b) (hargs : b.args = .onReadable)
    (hwide : s.sent.length + k < 2 ^ n) (hsent : s'.sent.length = s.sent.length + k)
    (hacked' : s'.acked = s.acked)
    (hpending : s'.program.world.pending = s.program.world.pending.eraseIdx i) :
    s'.Counts (unacked + BitVec.ofNat n k) := by
  have hreported := reported_erase hb hpending
  have hnow : reports b = 0 := by rw [reports, hargs]
  have hunacked := hcounts.unacked
  have hle := hcounts.reported
  refine ⟨?_, by omega⟩
  rw [toNat_add_ofNat _ (show unacked.toNat + k < 2 ^ n by omega), hsent, hacked']
  omega

/-- A new report, or a segment that arrives. -/
theorem Counts.notified {unacked : BitVec n} (hcounts : s.Counts unacked) {b : Bound}
    (hsent : s'.sent = s.sent) (hacked : s'.acked = s.acked + reports b)
    (hpending : s'.program.world.pending = s.program.world.pending ++ [b]) :
    s'.Counts unacked := by
  have hreported := reported_append hpending
  have hcount := hcounts.unacked
  have hle := hcounts.reported
  exact ⟨by rw [hsent]; omega, by omega⟩

/-- After a callback of the layer, what is left to show is the stage. -/
theorem Inv.dispatched (h : Inv inet st s) {st' : Stage} {i : Nat} {input : Input} {b : Bound}
    {out : Outcome (TCPEchoClient n)} {read : Nat}
    (hp : s.program.next (tcpEchoClient inet) bails (.dispatch i input) = some p)
    (hb : s.program.world.pending[i]? = some b) (hafter : Program.After out s.program p)
    (hpending : p.world.pending = s.program.world.pending.eraseIdx i)
    (hdispatched : p.world.dispatched = s.program.world.dispatched ++ [b])
    (hsent : st.sent ++ out.calls.flatMap text = st'.sent) (hrank : st'.rank = st.rank)
    (hstage : TCPNet.sent { s with program := p, read := read } = st'.sent →
      At inet { s with program := p, read := read } st') :
    Inv inet st' { s with program := p, read := read } ∧
      progress st s + 1 ≤ progress st' { s with program := p, read := read } := by
  obtain ⟨hi, _⟩ := List.getElem?_eq_some_iff.mp hb
  have hnow : TCPNet.sent { s with program := p, read := read } = st'.sent := by
    rw [← hsent, ← h.sent]
    exact sent_of_granted hafter.granted
  have hgrown : s.sent.length ≤ st'.sent.length := by
    rw [← hsent, h.sent, List.length_append]
    omega
  refine ⟨⟨h.sound.step (Program.next_stepped hp), hafter.failures.trans h.failures, hnow, ?_, ?_,
    h.echoed, h.arrived, ?_, hstage hnow⟩, ?_⟩
  · rw [hnow]
    exact h.acked.trans hgrown
  · rw [hnow]
    exact h.hostRead.trans hgrown
  · have hqueue := h.queue
    simp only [hpending, hdispatched, List.length_append, List.length_singleton,
      List.length_eraseIdx_of_lt hi]
    omega
  · simp only [progress, hdispatched, hrank, List.length_append, List.length_singleton]
    omega

/-- The first read: it sends the final text. -/
theorem Inv.firstRead (h : Inv inet .talking s) (hwide : 32 < 2 ^ n) {i size : Nat} {b : Bound}
    {g : Granting} (hb : s.program.world.pending[i]? = some b) (hargs : b.args = .onReadable)
    (hsize : size ≠ 0)
    (hp : s.program.next (tcpEchoClient inet) bails
      (.dispatch i { env := g.env, data := s.chunk size }) = some p) :
    ∃ st', Inv inet st' { s with program := p, read := s.read + (s.chunk size).length } ∧
      progress .talking s + 1 ≤
        progress st' { s with program := p, read := s.read + (s.chunk size).length } := by
  cases h.stage with
  | talking c hfit hdone hbuffer hposted htalk hcounts hechoed hreadable hresolved hconnected
      hread =>
      have harrived := hreadable.mpr ⟨b, List.mem_of_getElem? hb, hargs⟩
      obtain ⟨hdata, hecho⟩ := h.first_chunk hechoed hread harrived hsize
      have hshort : (s.chunk size).length < c.buffer.length :=
        Nat.lt_of_le_of_lt (hecho.length_le.trans (by decide)) hbuffer
      obtain ⟨hfit', hafter, hposted', hpending', hdispatched⟩ :=
        hfit.called hb hargs (onRx_yields_first c rfl hdone hdata hecho hshort) hp
      have hgreeting : s.sent.length = 12 := by rw [h.sent]; rfl
      refine ⟨.finishing, h.dispatched hp hb hafter hpending' hdispatched rfl rfl fun hsent => ?_⟩
      have hcounts' : Counts { s with program := p, read := s.read + (s.chunk size).length }
          (c.unacked + BitVec.ofNat n 20) :=
        hcounts.onRx hb hargs (by omega) (by rw [hsent, hgreeting]; rfl) rfl hpending'
      refine .finishing _ hfit' rfl ?_ ?_ hcounts' hresolved hconnected ?_
      · rw [hposted', hposted]
        refine (if_neg fun hzero => ?_).symm
        -- Twenty bytes more than are acknowledged so far.
        have hnone : c.unacked + BitVec.ofNat n 20 = 0 := hzero
        have hcount := hcounts'.unacked
        rw [hnone, hsent] at hcount
        have htotal : Stage.finishing.sent.length = 32 := rfl
        have := h.acked
        simp only [BitVec.ofNat_eq_ofNat, BitVec.toNat_zero] at hcount
        omega
      · intro b' hb'
        exact htalk b' ((mem_pending_iff hb b').mpr (.inr (hpending' ▸ hb')))
      · have := List.length_pos_iff.mpr hdata
        simp only
        omega

/-- A report while the client waits for an echo, or for the last report. -/
theorem Inv.report (h : Inv inet st s) {i : Nat} {input : Input} {b : Bound} {nbytes : UInt16}
    (hb : s.program.world.pending[i]? = some b) (hargs : b.args = .onSent nbytes)
    (hp : s.program.next (tcpEchoClient inet) bails (.dispatch i input) = some p)
    (hst : st = .talking ∨ st = .finishing) :
    ∃ st', Inv inet st' { s with program := p, read := s.read } ∧
      progress st s + 1 ≤ progress st' { s with program := p, read := s.read } := by
  have hmem := mem_pending_iff hb
  cases h.stage with
  | talking c hfit hdone hbuffer hposted htalk hcounts hechoed hreadable hresolved hconnected
      hread =>
      obtain ⟨hfit', hafter, hposted', hpending', hdispatched⟩ :=
        hfit.called hb hargs (onSent_yields c nbytes) hp
      refine ⟨.talking, h.dispatched hp hb hafter hpending' hdispatched (by simp) rfl
        fun hsent => ?_⟩
      obtain ⟨_, hcounts'⟩ :=
        hcounts.onSent h.acked hb hargs (hsent.trans h.sent.symm) rfl hpending'
      refine .talking _ hfit' hdone hbuffer ?_ ?_ hcounts' hechoed ?_ hresolved hconnected hread
      · simp [hposted', hposted, hdone]
      · intro b' hb'
        exact htalk b' ((hmem b').mpr (.inr (hpending' ▸ hb')))
      · rw [hreadable, hpending']
        constructor
        · rintro ⟨b', hb', hargs'⟩
          rcases (hmem b').mp hb' with rfl | hleft
          · cases hargs.symm.trans hargs'
          · exact ⟨b', hleft, hargs'⟩
        · rintro ⟨b', hb', hargs'⟩
          exact ⟨b', (hmem b').mpr (.inr hb'), hargs'⟩
  | finishing c hfit hdone hposted htalk hcounts hresolved hconnected hread =>
      obtain ⟨hfit', hafter, hposted', hpending', hdispatched⟩ :=
        hfit.called hb hargs (onSent_yields c nbytes) hp
      refine ⟨.finishing, h.dispatched hp hb hafter hpending' hdispatched (by simp) rfl
        fun hsent => ?_⟩
      obtain ⟨henough, hcounts'⟩ :=
        hcounts.onSent h.acked hb hargs (hsent.trans h.sent.symm) rfl hpending'
      refine .finishing _ hfit' hdone ?_ ?_ hcounts' hresolved hconnected hread
      · -- The verdict is posted by the last report, and was not before it.
        have hpos : 0 < nbytes.toNat := by
          have htalks := htalk b (List.mem_of_getElem? hb)
          simpa [hargs, Args.isTalk] using htalks
        have hnonzero : c.unacked ≠ 0 := by
          rintro hzero
          simp [hzero] at henough
          omega
        rw [hposted', hposted, if_neg hnonzero]
        simp [hdone]
      · intro b' hb'
        exact htalk b' ((hmem b').mpr (.inr (hpending' ▸ hb')))
  | _ => simp at hst

/-- A callback of the layer. -/
theorem Inv.dispatch (h : Inv inet st s) (hwide : 32 < 2 ^ n) {i size : Nat} {g : Granting}
    (hnext : s.next inet bails (.dispatch i size g) = some s') :
    ∃ st', Inv inet st' s' ∧ progress st s + 1 ≤ progress st' s' := by
  obtain ⟨b, hb, hrest⟩ := Option.bind_eq_some_iff.mp hnext
  split at hrest
  · cases hrest
  rename_i hsize
  obtain ⟨p, hp, rfl⟩ := Option.map_eq_some_iff.mp hrest
  cases h.stage with
  | waiting c hostAddr port hwaiting => simp [hwaiting.pending] at hb
  | resolving c addr domain hresolving hdone hbuffer hconnected hread =>
      obtain ⟨rfl, rfl, hresolved⟩ := hresolving.bound hb
      obtain ⟨hfit', hafter, hposted', hpending', hdispatched⟩ :=
        hresolving.fitted.called hb rfl (onDNS_yields inet c addr rfl) hp
      refine ⟨.connecting, h.dispatched hp hb hafter hpending' hdispatched rfl rfl fun _ => ?_⟩
      refine .connecting _ hfit' hdone ?_ ?_ ?_ ?_ hresolved hread
      · exact Nat.lt_of_lt_of_le hbuffer (le_length_formatInto inet ⟨addr⟩ c.buffer)
      · simp [hposted', hresolving.posted]
      · simp [hpending', hresolving.pending, hresolved, hconnected]
      · simp [hafter.granted, ApiCall.isConnect]
  | connecting c hfit hdone hbuffer hposted hpending hasked hresolved hread =>
      obtain ⟨rfl, rfl, hconnected⟩ : i = 0 ∧
          b = ⟨c.stream, Slot.onConnect.member, .onConnect⟩ ∧ s.connected = true := by
        rw [hpending] at hb
        split at hb
        · cases i <;> simp_all
        · simp at hb
      obtain ⟨hfit', hafter, hposted', hpending', hdispatched⟩ :=
        hfit.called hb rfl (onConnect_yields c rfl) hp
      obtain ⟨hacked, hhost, hechoed, harrived⟩ := h.quiet rfl
      refine ⟨.talking, h.dispatched hp hb hafter hpending' hdispatched rfl rfl fun hsent => ?_⟩
      have hnone : p.world.pending = [] := by simp [hpending', hpending, hconnected]
      refine .talking _ hfit' hdone hbuffer ?_ ?_ ⟨?_, ?_⟩ ?_ ?_ hresolved hconnected hread
      · simp [hposted', hposted]
      · simp [hnone]
      · have htwelve : (BitVec.ofNat n outBuffer.length).toNat = 12 :=
          (BitVec.toNat_ofNat _ _).trans (Nat.mod_eq_of_lt (show 12 < 2 ^ n by omega))
        rw [hsent, htwelve]
        simp [hacked, TCPNet.reported, hnone]
        rfl
      · simp [TCPNet.reported, hnone]
      · simp [hechoed, hhost]
      · simp [harrived, hnone]
  | talking c hfit hdone hbuffer hposted htalk hcounts hechoed hreadable hresolved hconnected
      hread =>
      have htalks := htalk b (List.mem_of_getElem? hb)
      cases hargs : b.args with
      | onReadable =>
          simp only [if_true]
          exact h.firstRead hwide hb hargs hsize hp
      | onSent nbytes => simpa using h.report hb hargs hp (.inl rfl)
      | _ => simp [hargs, Args.isTalk] at htalks
  | finishing c hfit hdone hposted htalk hcounts hresolved hconnected hread =>
      have htalks := htalk b (List.mem_of_getElem? hb)
      cases hargs : b.args with
      | onReadable =>
          simp only [if_true]
          have hshort : (s.chunk size).length ≤ 255 := by
            rw [TCPNet.chunk, List.length_take]
            omega
          obtain ⟨hfit', hafter, hposted', hpending', hdispatched⟩ :=
            hfit.called hb hargs (onRx_yields_later c rfl hdone hshort) hp
          refine ⟨.finishing, h.dispatched hp hb hafter hpending' hdispatched rfl rfl
            fun hsent => ?_⟩
          have hlater : s.sent.length = 32 := by rw [h.sent]; rfl
          have hcounts' : Counts { s with program := p, read := s.read + (s.chunk size).length }
              (c.unacked + BitVec.ofNat n 0) :=
            hcounts.onRx hb hargs (by omega) (by rw [hsent, h.sent]; rfl) rfl hpending'
          refine .finishing _ hfit' hdone ?_ ?_ (by simpa using hcounts') hresolved hconnected ?_
          · simp [hposted', hposted]
          · intro b' hb'
            exact htalk b' ((mem_pending_iff hb b').mpr (.inr (hpending' ▸ hb')))
          · simp only
            omega
      | onSent nbytes => simpa using h.report hb hargs hp (.inr rfl)
      | _ => simp [hargs, Args.isTalk] at htalks
  | passed hclient => exact absurd hclient (Program.client_of_dispatch hp)

end steps

end TCPNet

end Echo

end MbedSockets
