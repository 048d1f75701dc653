import MbedSockets.Echo.Granting
import MbedSockets.Echo.Termination

/-!
What the two echo protocols share: how a test program moves on while its stack
grants every request. A member that runs leaves its outcome and nothing else, an
event that a handler is set for posts exactly that handler, and as long as the
client is there, everything that is posted can run.
-/

namespace MbedSockets

/-- The calls that put data on the wire. -/
def ApiCall.sends : ApiCall → Bool
  | .send _ _ | .sendTo _ _ _ _ => true
  | _ => false

def ApiCall.isSendTo : ApiCall → Bool
  | .sendTo _ _ _ _ => true
  | _ => false

theorem ApiCall.isSendTo_of_sends {c : ApiCall} (h : c.sends = false) : c.isSendTo = false := by
  cases c with
  | sendTo buf len addr port => cases h
  | _ => rfl

def ApiCall.isResolve : ApiCall → Bool
  | .resolve _ => true
  | _ => false

def ApiCall.isConnect : ApiCall → Bool
  | .connect _ _ => true
  | _ => false

namespace Echo

variable {n : Nat} {C : Type} {k : Client n C} {bails : Bool}

namespace Program

/-- The client `c` is there, its socket is backed and has the handlers of
the slots `set`. -/
structure Fitted (k : Client n C) (opened : Bool) (set : List Slot) (c : C) (p : Program n C) :
    Prop where
  client : p.client = some c
  live : ∃ o, p.world.objs.cell (k.socket c) = some o ∧ o.cls = k.cls ∧ o.Backed opened ∧
    ∀ slot ∈ set, o.handlers slot = slot.member

/-- What a member with the outcome `out` changes in the program, besides the
client and the two queues. -/
structure After (out : Outcome C) (p p' : Program n C) : Prop where
  failures : p'.failures = p.failures
  verdicts : p'.verdicts = p.verdicts
  granted : p'.world.grantedCalls = p.world.grantedCalls ++ out.calls

variable {opened : Bool} {set : List Slot} {c : C} {p p' : Program n C} {out : Outcome C}

/-- A member that has run from the session `s₀`. -/
theorem Fitted.resume (h : p.Fitted k opened set c) {m : Handler n C} {s₀ s : Session n C}
    (hclient : s₀.client = c) (hobjs : s₀.world.objs = p.world.objs)
    (hcalls : s₀.world.calls = p.world.calls) (hfailures : s₀.failures = p.failures)
    (hyields : Yields n k.cls k.socket opened m { client := c } out) (hrun : m s₀ = .ok s) :
    (p.resume s).Fitted k true (out.slots ++ set) out.client ∧ After out p (p.resume s) ∧
      (p.resume s).posted = s₀.posted ++ out.posted ∧
      (p.resume s).world.pending = s₀.world.pending ∧
      (p.resume s).world.dispatched = s₀.world.dispatched := by
  obtain ⟨o, hcell, hcls, hbacked, hset⟩ := h.live
  have hcell₀ : s₀.world.objs.cell (k.socket c) = some o := hobjs ▸ hcell
  subst hclient
  obtain ⟨s', hend, hreached, o', hcell', hcls', hbacked'⟩ :=
    hyields s₀ s₀ (.refl _ s₀) ⟨o, hcell₀, hcls, hbacked⟩
  obtain rfl : s' = s := Except.ok.inj (hend.symm.trans hrun)
  rw [hreached.client] at hcell'
  refine ⟨⟨congrArg some hreached.client, o', hcell', hcls', hbacked', ?_⟩,
    ⟨hreached.failures.trans hfailures, rfl, ?_⟩, hreached.posted, hreached.pending,
    hreached.dispatched⟩
  · intro slot hslot
    rw [hreached.handlers o o' hcell₀ (hreached.same ▸ hcell') slot]
    rcases List.mem_append.mp hslot with hout | hold
    · rw [if_pos hout]
    · split
      · rfl
      · exact hset slot hold
  · rw [Program.resume, hreached.granted, World.grantedCalls, hcalls, World.grantedCalls]

theorem Fitted.called (h : p.Fitted k opened set c) {i : Nat} {input : Input} {b : Bound}
    {args : Args} (hb : p.world.pending[i]? = some b) (hargs : b.args = args)
    (hyields : Yields n k.cls k.socket opened (k.call bails args input) { client := c } out)
    (hnext : p.next k bails (.dispatch i input) = some p') :
    p'.Fitted k true (out.slots ++ set) out.client ∧ After out p p' ∧
      p'.posted = p.posted ++ out.posted ∧
      p'.world.pending = p.world.pending.eraseIdx i ∧
      p'.world.dispatched = p.world.dispatched ++ [b] := by
  cases next_stepped hnext with
  | called _ _ b' c' s hb' hc hrun =>
      obtain rfl : b = b' := Option.some.inj (hb.symm.trans hb')
      obtain rfl : c = c' := Option.some.inj (h.client.symm.trans hc)
      rw [hargs] at hrun
      exact h.resume rfl rfl rfl rfl hyields hrun

theorem Fitted.started (h : p.Fitted k opened set c) {i : Nat} {input : Input} {hostAddr : Ptr}
    {port : UInt16} (hpost : p.posted[i]? = some (.startTest hostAddr port))
    (hyields : Yields n k.cls k.socket opened (k.startTest bails hostAddr port input)
      { client := c } out)
    (hnext : p.next k bails (.own i input) = some p') :
    p'.Fitted k true (out.slots ++ set) out.client ∧ After out p p' ∧
      p'.posted = p.posted.eraseIdx i ++ out.posted ∧
      p'.world.pending = p.world.pending ∧
      p'.world.dispatched = p.world.dispatched := by
  cases next_stepped hnext with
  | started _ _ hostAddr' port' c' s hpost' hc hrun =>
      obtain ⟨rfl, rfl⟩ : hostAddr = hostAddr' ∧ port = port' := by
        simpa using hpost.symm.trans hpost'
      obtain rfl : c = c' := Option.some.inj (h.client.symm.trans hc)
      exact h.resume rfl rfl rfl rfl hyields hrun
  | ended _ _ status _ _ _ hpost' => cases hpost.symm.trans hpost'
  | stale _ _ status hpost' => cases hpost.symm.trans hpost'

theorem posted_of_own {i : Nat} {input : Input} (hnext : p.next k bails (.own i input) = some p') :
    ∃ post, p.posted[i]? = some post := by
  cases next_stepped hnext with
  | started _ _ hostAddr port _ _ hpost => exact ⟨_, hpost⟩
  | ended _ _ status _ _ _ hpost => exact ⟨_, hpost⟩
  | stale _ _ status hpost => exact ⟨_, hpost⟩

theorem client_of_dispatch {i : Nat} {input : Input}
    (hnext : p.next k bails (.dispatch i input) = some p') : p.client ≠ none := by
  cases next_stepped hnext with
  | called _ _ b c s hb hc hrun => simp [hc]

/-- An event of the client's socket. -/
def notify (k : Client n C) (bails : Bool) (p : Program n C) (ev : SocketEvent) :
    Option (Program n C) :=
  p.client.bind fun c => p.next k bails (.event (k.socket c) ev)

theorem client_of_notify {ev : SocketEvent} (hp : p.notify k bails ev = some p') :
    p.client ≠ none := by
  intro hnone
  simp [notify, hnone] at hp

/-- What an event for the handler of `args` adds to the program. -/
structure Notified (k : Client n C) (opened : Bool) (set : List Slot) (c : C) (args : Args)
    (p p' : Program n C) : Prop where
  sound : p.Sound k → p'.Sound k
  fitted : p'.Fitted k opened set c
  failures : p'.failures = p.failures
  posted : p'.posted = p.posted
  granted : p'.world.grantedCalls = p.world.grantedCalls
  pending : p'.world.pending = p.world.pending ++ [⟨k.socket c, args.slot.member, args⟩]
  dispatched : p'.world.dispatched = p.world.dispatched

/-- An event for which the client has set a handler. -/
theorem Fitted.notified (h : p.Fitted k opened set c) {ev : SocketEvent} {args : Args}
    (hp : p.notify k bails ev = some p') (hroute : route k.cls ev = some args)
    (hslot : args.slot ∈ set) : Notified k opened set c args p p' := by
  rw [notify, h.client, Option.bind_some] at hp
  have hsound (hbefore : p.Sound k) : p'.Sound k := hbefore.step (next_stepped hp)
  cases next_stepped hp with
  | delivered _ o _ hcell =>
      obtain ⟨o', hcell', hcls, hbacked, hset⟩ := h.live
      obtain rfl : o = o' := Option.some.inj (hcell.symm.trans hcell')
      refine ⟨hsound, ⟨h.client, { o with socket.event := some ev, event := none }, ?_, hcls,
        ⟨hbacked.api, hbacked.handler, hbacked.impl⟩, hset⟩, rfl, rfl, ?_, ?_, rfl⟩
      · exact Lib.Heap.set_cell_self _ hcell
      · simp [World.grantedCalls]
      · simp [SocketObj.delivers, hcls, hroute, bindIfSet, hset _ hslot, Slot.member]

theorem Fitted.notifiable (h : p.Fitted k opened set c) (bails : Bool) (ev : SocketEvent) :
    ∃ p', p.notify k bails ev = some p' := by
  obtain ⟨o, hcell, _⟩ := h.live
  refine ⟨{ p with world := p.world.delivered (k.socket c) o ev }, ?_⟩
  simp [notify, h.client, next, step, World.step, hcell, Socket.nvEventHandler_eq, bind,
    Except.bind, pure, Except.pure, lift, World.delivered]

/-- The destructor of the client asks whether there is a connection to close. -/
theorem yields_deinit (k : Client n C) (g : Granting) (c : C) :
    ∃ calls : List ApiCall, (∀ call ∈ calls, call.sends = false) ∧
      Yields n k.cls k.socket true (k.deinit g.env) { client := c }
        { client := c, calls := calls } := by
  cases hyes : (g.env .isConnected).yes with
  | true =>
      refine ⟨[.isConnected, .close], by simp [ApiCall.sends], ?_⟩
      refine .ask_connected (g.err _) ?_
      rw [hyes, if_pos rfl]
      exact .ask .close .finish (.inl rfl) rfl rfl (by cases k.cls <;> rfl)
  | false =>
      refine ⟨[.isConnected], by simp [ApiCall.sends], ?_⟩
      refine .ask_connected (g.err _) ?_
      rw [hyes, if_neg (by simp)]
      exact .finish

theorem destructorFrame_sends (env : Env) (id : ObjId) (o : SocketObj) :
    ∀ e ∈ (destructorFrame env id o).calls, e.call.sends = false := by
  intro e he
  unfold destructorFrame at he
  rw [Socket.deinit_calls] at he
  rcases List.mem_append.mp he with hstop | hdestroy
  · split at hstop
    · obtain rfl : e = ApiCall.stopListen.entry env o.socket := by
        simpa [Frame.call, Frame.start] using hstop
      rfl
    · simp [Frame.start] at hstop
  · obtain ⟨_, rfl⟩ := (List.mem_ite_nil_right.mp hdestroy).imp_right List.mem_singleton.mp
    rfl

/-- `terminate` with the client still there. -/
theorem Fitted.ended (h : p.Fitted k true set c) {i : Nat} {g : Granting} {input : Input}
    {status : Bool} (hpost : p.posted[i]? = some (.terminate status)) (henv : input.env = g.env)
    (hnext : p.next k bails (.own i input) = some p') :
    p'.client = none ∧ p'.verdicts = p.verdicts ++ [status] ∧
      p'.failures = (if status then p.failures else p.failures + 1) ∧
      p'.posted = p.posted.eraseIdx i ∧ p'.world.pending = p.world.pending ∧
      p'.world.dispatched = p.world.dispatched ∧
      ∃ calls, p'.world.grantedCalls = p.world.grantedCalls ++ calls ∧
        ∀ call ∈ calls, call.sends = false := by
  cases next_stepped hnext with
  | started _ _ hostAddr port _ _ hpost' => cases hpost.symm.trans hpost'
  | stale _ _ status' _ hc => cases h.client.symm.trans hc
  | ended _ _ status' c' s o hpost' hc hdeinit hcell =>
      obtain rfl : status = status' := by simpa using hpost.symm.trans hpost'
      obtain rfl : c = c' := Option.some.inj (h.client.symm.trans hc)
      rw [henv] at hdeinit ⊢
      obtain ⟨calls, hquiet, hyields⟩ := yields_deinit k g c
      obtain ⟨_, hafter, _, hpending, hdispatched⟩ := h.resume rfl rfl rfl rfl hyields hdeinit
      refine ⟨rfl, rfl, ?_, rfl, ?_, ?_, ?_⟩
      · rw [show s.failures = p.failures from hafter.failures]
      · have hnone : o.lastPosts (k.socket s.client) g.env = [] := by
          rw [World.lastPosts_eq_nil_iff]
          exact fun hfails => hfails.2 (g.err _)
        rw [World.destructed_pending, hnone, List.append_nil]
        exact hpending
      · rw [World.destructed_dispatched]
        exact hdispatched
      · have hgranted : s.world.grantedCalls = p.world.grantedCalls ++ calls := hafter.granted
        refine ⟨calls ++ (destructorFrame g.env (k.socket s.client) o).calls.filterMap fun e =>
          if e.err = .none then some e.call else none, ?_, ?_⟩
        · rw [← List.append_assoc, ← hgranted]
          simp [World.grantedCalls]
        · intro call hcall
          rcases List.mem_append.mp hcall with hold | hlast
          · exact hquiet call hold
          · obtain ⟨e, he, hsome⟩ := List.mem_filterMap.mp hlast
            split at hsome
            · rw [← Option.some.inj hsome]
              exact destructorFrame_sends g.env _ o e he
            · cases hsome

/-- With a client, whatever is posted can run. -/
theorem Sound.possible (h : p.Sound k) (hc : p.client = some c) {a : TestAction n}
    {r : Except Crash (Program n C)} (hstep : p.step k bails a = some r) :
    ∃ p', p.next k bails a = some p' := by
  have hnone : p.NoCrash k bails := (noCrash_iff h).mpr fun hgone => by
    rw [hc] at hgone
    cases hgone
  cases r with
  | error crash => exact absurd hstep (hnone a crash)
  | ok p' => exact ⟨p', by rw [next, hstep]⟩

theorem Sound.dispatchable (h : p.Sound k) (bails : Bool) (hc : p.client = some c) {i : Nat}
    (hi : i < p.world.pending.length) (input : Input) :
    ∃ p', p.next k bails (.dispatch i input) = some p' := by
  apply h.possible hc
  rw [Program.step, List.getElem?_eq_getElem hi, Option.map_some]

theorem Sound.ownable (h : p.Sound k) (bails : Bool) (hc : p.client = some c) {i : Nat}
    (hi : i < p.posted.length) (input : Input) :
    ∃ p', p.next k bails (.own i input) = some p' := by
  apply h.possible hc
  rw [Program.step, List.getElem?_eq_getElem hi, Option.map_some]

/-! ### The lookup

Both tests begin in the same way: the test starts, opens its socket and asks for
the address of the host, and goes on when the answer is there. -/

/-- The answer to the lookup: it comes once, and not before it is asked for.
`resolved` tells whether it has come. -/
def answerLookup (k : Client n C) (bails resolved : Bool) (addr : RawAddr) (domain : Ptr)
    (p : Program n C) : Option (Program n C) :=
  if resolved = false ∧ p.world.grantedCalls.any ApiCall.isResolve then
    p.notify k bails (.dns addr domain)
  else none

/-- The start of the test is posted, and nothing else has happened. -/
structure Waiting (k : Client n C) (c : C) (hostAddr : Ptr) (port : UInt16) (p : Program n C) :
    Prop where
  fitted : p.Fitted k false [] c
  posted : p.posted = [.startTest hostAddr port]
  pending : p.world.pending = []
  dispatched : p.world.dispatched = []
  granted : p.world.grantedCalls = []

/-- The test has started and has asked for the address. -/
structure Resolving (k : Client n C) (resolved : Bool) (c : C) (addr : RawAddr) (domain : Ptr)
    (p : Program n C) : Prop where
  fitted : p.Fitted k true [.onDNS] c
  posted : p.posted = []
  pending : p.world.pending =
    if resolved then [⟨k.socket c, Slot.onDNS.member, .onDNS addr domain⟩] else []
  dispatched : p.world.dispatched = []
  granted : ∃ family id hostAddr,
    p.world.grantedCalls = [.create .inet4 family id, .resolve hostAddr]

variable {resolved : Bool} {addr : RawAddr} {domain hostAddr : Ptr} {port : UInt16}

theorem Starts.waiting (h : p.Starts k) : ∃ c hostAddr port, p.Waiting k c hostAddr port := by
  obtain ⟨o, hworld⟩ := h.unopened
  obtain ⟨c, hc, hsocket⟩ := h.client
  obtain ⟨hostAddr, port, hposted⟩ := h.posted
  refine ⟨c, hostAddr, port, ⟨hc, o, ?_, hworld.equipped.cls, ?_, by simp⟩, hposted,
    hworld.pending, hworld.dispatched, by simp [World.grantedCalls, hworld.calls]⟩
  · rw [hsocket, hworld.cell, if_pos rfl]
  · exact ⟨hworld.equipped.api, hworld.handler, by simp⟩

/-- The start of a test whose `start_test` opens the socket and resolves. -/
theorem Waiting.started (h : p.Waiting k c hostAddr port) {i : Nat} {input : Input} {c' : C}
    {family : ProtoFamily} {id : ObjId}
    (hyields : Yields n k.cls k.socket false (k.startTest bails hostAddr port input) { client := c }
      { client := c'
        slots := [.onDNS]
        calls := [.create .inet4 family id, .resolve hostAddr] })
    (hnext : p.next k bails (.own i input) = some p') (hresolved : resolved = false)
    (addr : RawAddr) (domain : Ptr) :
    p'.Resolving k resolved c' addr domain ∧ p'.failures = p.failures := by
  subst hresolved
  obtain ⟨post, hpost⟩ := posted_of_own hnext
  obtain ⟨rfl, rfl⟩ : i = 0 ∧ post = .startTest hostAddr port := by
    rw [h.posted] at hpost
    cases i <;> simp_all
  obtain ⟨hfit, hafter, hposted, hpending, hdispatched⟩ := h.fitted.started hpost hyields hnext
  refine ⟨⟨hfit, ?_, hpending.trans h.pending, hdispatched.trans h.dispatched, family, id,
    hostAddr, ?_⟩, hafter.failures⟩
  · simp [hposted, h.posted]
  · rw [hafter.granted, h.granted, List.nil_append]

theorem answerLookup_eq_some (hp : p.answerLookup k bails resolved addr domain = some p') :
    resolved = false ∧ p.world.grantedCalls.any ApiCall.isResolve = true ∧
      p.notify k bails (.dns addr domain) = some p' := by
  unfold answerLookup at hp
  split at hp
  · rename_i hguard
    exact ⟨hguard.1, hguard.2, hp⟩
  · cases hp

theorem Waiting.not_answered (h : p.Waiting k c hostAddr port) :
    p.answerLookup k bails resolved addr domain = none := by
  simp [answerLookup, h.granted]

theorem Resolving.asked (h : p.Resolving k resolved c addr domain) :
    p.world.grantedCalls.any ApiCall.isResolve = true := by
  obtain ⟨family, id, hostAddr, hgranted⟩ := h.granted
  rw [hgranted]
  rfl

theorem Resolving.answered (h : p.Resolving k resolved c addr domain) {addr' : RawAddr}
    {domain' : Ptr} (hp : p.answerLookup k bails resolved addr' domain' = some p') :
    resolved = false ∧ p'.Resolving k true c addr' domain' ∧
      p.Notified k true [.onDNS] c (.onDNS addr' domain') p' := by
  obtain ⟨hresolved, _, hnotify⟩ := answerLookup_eq_some hp
  have hnotified := h.fitted.notified hnotify rfl (by simp [Args.slot])
  refine ⟨hresolved, ⟨hnotified.fitted, hnotified.posted.trans h.posted, ?_,
    hnotified.dispatched.trans h.dispatched, hnotified.granted ▸ h.granted⟩, hnotified⟩
  rw [hnotified.pending, h.pending, hresolved]
  rfl

theorem Resolving.answerable (h : p.Resolving k resolved c addr domain) (bails : Bool)
    (hresolved : resolved = false) :
    ∃ p', p.answerLookup k bails resolved (fun _ => 0) 0 = some p' := by
  obtain ⟨p', hp⟩ := h.fitted.notifiable bails (.dns (fun _ => 0) 0)
  exact ⟨p', by rw [answerLookup, if_pos ⟨hresolved, h.asked⟩, hp]⟩

/-- The only callback at this stage is the answer. -/
theorem Resolving.bound (h : p.Resolving k resolved c addr domain) {i : Nat} {b : Bound}
    (hb : p.world.pending[i]? = some b) :
    i = 0 ∧ b = ⟨k.socket c, Slot.onDNS.member, .onDNS addr domain⟩ ∧ resolved = true := by
  rw [h.pending] at hb
  split at hb
  · cases i <;> simp_all
  · simp at hb

end Program

end Echo

end MbedSockets
