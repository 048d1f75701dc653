import MbedSockets.Echo.Triples

/-!
What a passing verdict is worth on any stack, however it answers and whatever it
reports: a rule that gets it from what each member of the client does. As long as
no assertion fails, an invariant of what the members see holds once the test has
started, and a verdict that is posted and may run implies what the invariant says
about the calls that the stack has granted.
-/

namespace MbedSockets

def ApiCall.isRecv : ApiCall → Bool
  | .recv _ _ => true
  | _ => false

theorem World.grantedCalls_grow {n : Nat} {w w' : World n} {log : List ApiEntry}
    (hcalls : w'.calls = w.calls ++ log) : ∃ more, w'.grantedCalls = w.grantedCalls ++ more := by
  refine ⟨log.filterMap fun e => if e.err = .none then some e.call else none, ?_⟩
  rw [World.grantedCalls, hcalls, List.filterMap_append, World.grantedCalls]

namespace Echo

open Lib.Run

variable {n : Nat} {C : Type}

/-- A handler that is set stays set. -/
theorem Session.Leads.handlerSet {socket : C → ObjId} {s s' : Session n C} (h : s.Leads socket s')
    {slot : Slot} (hset : s.HandlerSet socket slot) : s'.HandlerSet socket slot := by
  obtain ⟨o, hcell, hset⟩ := hset
  obtain ⟨o', hcell', _, _, hhandlers⟩ := h.ownOps.live o hcell
  refine ⟨o', h.same ▸ hcell', ?_⟩
  rcases hhandlers slot with hsame | hmember
  · rw [hsame]
    exact hset
  · simp [hmember, Slot.member]

theorem Session.Leads.grows {socket : C → ObjId} {s s' : Session n C} (h : s.Leads socket s') :
    ∃ more, s'.world.grantedCalls = s.world.grantedCalls ++ more := by
  obtain ⟨as, hrun, _⟩ := h.world
  have hlog : EachState World.next
      (fun w => ∃ more, w.grantedCalls = s.world.grantedCalls ++ more) s.world as := by
    apply eachState_of_step (A := fun _ _ => True) _ ⟨[], by simp⟩
      (eachStep_true _ _)
    rintro w a w' ⟨more, hmore⟩ _ hnext
    obtain ⟨log, hcalls⟩ := (World.next_stepped hnext).calls_grow
    obtain ⟨more', hmore'⟩ := World.grantedCalls_grow hcalls
    exact ⟨more ++ more', by rw [hmore', hmore, List.append_assoc]⟩
  obtain ⟨more, hmore⟩ := eachState_last hlog hrun
  exact ⟨more, hmore⟩

/-- What the members of a client depend on. -/
structure ClientView (C : Type) where
  client : C
  posted : List Post
  granted : List ApiCall
  handlerSet : Slot → Prop

def Session.view (socket : C → ObjId) (s : Session n C) : ClientView C :=
  ⟨s.client, s.posted, s.world.grantedCalls, fun slot => s.HandlerSet socket slot⟩

/-- Before the test starts, nothing but an error can be reported. -/
structure ClientView.Fresh (v : ClientView C) : Prop where
  unset : ∀ slot, slot ≠ .onError → ¬ v.handlerSet slot
  unpassed : .terminate true ∉ v.posted

theorem ClientView.Fresh.failing {v w : ClientView C} (h : v.Fresh)
    (hset : w.handlerSet = v.handlerSet) (hposted : w.posted = v.posted ++ [.terminate false]) :
    w.Fresh := by
  refine ⟨hset ▸ h.unset, fun htrue => h.unpassed ?_⟩
  simpa [hposted] using htrue

/-- As long as no assertion fails, `I` holds of a client whose test has started,
and a passing verdict that `may` run implies `E`. -/
structure VerdictRules (k : Client n C) (bails : Bool) (may : Nat → Prop) (I : ClientView C → Prop)
    (E : List ApiCall → Prop) : Prop where
  startTest : ∀ hostAddr port input, Triple (fun s => (s.view k.socket).Fresh)
    (k.startTest bails hostAddr port input) (fun s => I (s.view k.socket))
  onError : ∀ err input, Triple (fun s => (s.view k.socket).Fresh)
    (k.call bails (.onError err) input) (fun s => (s.view k.socket).Fresh)
  call : ∀ args input, Triple (fun s => I (s.view k.socket) ∧ s.HandlerSet k.socket args.slot)
    (k.call bails args input) (fun s => I (s.view k.socket))
  passes : ∀ v i, I v → may i → v.posted[i]? = some (.terminate true) → E v.granted
  grows : ∀ granted more, E granted → E (granted ++ more)

namespace Program

/-- Only the first callback that is posted can be the start of the test. -/
structure VerdictInvariant (k : Client n C) (I : ClientView C → Prop) (E : List ApiCall → Prop)
    (p : Program n C) : Prop where
  sound : p.Sound k
  handlerSet : ∀ c, p.client = some c → ∀ b ∈ p.world.pending,
    (p.session c).HandlerSet k.socket b.args.slot
  posted : ∀ post ∈ p.posted.tail, post.isTerminate = true
  fresh : p.failures = 0 → ∀ c, p.client = some c →
    (∃ post ∈ p.posted, post.isTerminate = false) → ((p.session c).view k.socket).Fresh
  kept : p.failures = 0 → ∀ c, p.client = some c →
    (∀ post ∈ p.posted, post.isTerminate = true) → I ((p.session c).view k.socket)
  verdict : p.failures = 0 → true ∈ p.verdicts → E p.world.grantedCalls

variable {k : Client n C} {bails : Bool} {may : Nat → Prop} {I : ClientView C → Prop}
  {E : List ApiCall → Prop} {p p' : Program n C}

theorem Starts.verdictInvariant (h : p.Starts k) : p.VerdictInvariant k I E := by
  obtain ⟨o, hworld⟩ := h.unopened
  obtain ⟨c, hc, hsocket⟩ := h.client
  obtain ⟨hostAddr, port, hposted⟩ := h.posted
  refine ⟨h.sound, ?_, ?_, ?_, ?_, ?_⟩
  · simp [hworld.pending]
  · simp [hposted]
  · intro _ c' hc' _
    obtain rfl : c = c' := Option.some.inj (hc.symm.trans hc')
    refine ⟨?_, by simp [Session.view, session, hposted]⟩
    rintro slot hslot ⟨o', hcell, hset⟩
    rw [session, hsocket, hworld.cell, if_pos rfl, Option.some.injEq] at hcell
    exact hset (hcell ▸ hworld.unset slot hslot)
  · intro _ c' _ hall
    simp [hposted, Post.isTerminate] at hall
  · simp [h.verdicts]

/-- An event changes no handler. -/
theorem handlerSet_delivered {id : ObjId} {o : SocketObj} (ev : SocketEvent)
    (hcell : p.world.objs.cell id = some o) (c : C) (slot : Slot) :
    (session { p with world := p.world.delivered id o ev } c).HandlerSet k.socket slot ↔
      (p.session c).HandlerSet k.socket slot := by
  simp only [Session.HandlerSet, session, World.delivered_objs]
  by_cases hid : k.socket c = id
  · subst hid
    rw [Lib.Heap.set_cell_self _ hcell, hcell]
    simp
  · rw [Lib.Heap.set_cell_of_ne _ _ hid]

theorem VerdictInvariant.delivered (h : p.VerdictInvariant k I E) {id : ObjId} {o : SocketObj}
    (ev : SocketEvent) (hcell : p.world.objs.cell id = some o) :
    VerdictInvariant k I E { p with world := p.world.delivered id o ev } := by
  have hset' := handlerSet_delivered (k := k) ev hcell
  have hgranted : (p.world.delivered id o ev).grantedCalls = p.world.grantedCalls := by
    simp [World.grantedCalls]
  have hview (c : C) : (session { p with world := p.world.delivered id o ev } c).view k.socket =
      (p.session c).view k.socket := by
    simp only [Session.view, ClientView.mk.injEq]
    exact ⟨rfl, rfl, hgranted, funext fun slot => propext (hset' c slot)⟩
  refine ⟨h.sound.delivered ev hcell, ?_, h.posted, ?_, ?_, ?_⟩
  · intro c hc b hb
    rw [hset']
    rcases List.mem_append.mp hb with hold | hnew
    · exact h.handlerSet c hc b hold
    · obtain ⟨args, _, hset, rfl⟩ := SocketObj.mem_delivers hnew
      obtain ⟨c', hc', rfl⟩ := h.sound.only id o hcell
      obtain rfl : c = c' := Option.some.inj (hc.symm.trans hc')
      exact ⟨o, hcell, Option.isSome_iff_ne_none.mp hset⟩
  · intro hnone c hc hstart
    rw [hview]
    exact h.fresh hnone c hc hstart
  · intro hnone c hc hstarted
    rw [hview]
    exact h.kept hnone c hc hstarted
  · intro hnone htrue
    rw [hgranted]
    exact h.verdict hnone htrue

/-- After a member has run from the session `t`. -/
theorem VerdictInvariant.resume (h : p.VerdictInvariant k I E) {c : C} (hc : p.client = some c)
    {t s : Session n C}
    (hsame : ∀ slot, t.HandlerSet k.socket slot ↔ (p.session c).HandlerSet k.socket slot)
    (hpending : ∀ b ∈ t.world.pending, b ∈ p.world.pending) (hleads : t.Leads k.socket s)
    (hsound : (p.resume s).Sound k) (hposted : ∀ post ∈ s.posted.tail, post.isTerminate = true)
    (hfresh : s.failures = 0 → (∃ post ∈ s.posted, post.isTerminate = false) →
      (s.view k.socket).Fresh)
    (hkept : s.failures = 0 → (∀ post ∈ s.posted, post.isTerminate = true) →
      I (s.view k.socket)) : (p.resume s).VerdictInvariant k I E := by
  refine ⟨hsound, ?_, hposted, ?_, ?_, ?_⟩
  · rintro c' ⟨⟩ b hb
    have hbefore : b ∈ p.world.pending := hpending b (hleads.ownOps.pending ▸ hb)
    exact hleads.handlerSet ((hsame _).mpr (h.handlerSet c hc b hbefore))
  · rintro hnone c' ⟨⟩ hstart
    exact hfresh hnone hstart
  · rintro hnone c' ⟨⟩ hstarted
    exact hkept hnone hstarted
  · intro _ htrue
    simp [Program.resume, h.sound.undecided hc] at htrue

theorem tail_append {posted more : List Post}
    (hposted : ∀ post ∈ posted.tail, post.isTerminate = true)
    (hmore : ∀ post ∈ more, post.isTerminate = true) :
    ∀ post ∈ (posted ++ more).tail, post.isTerminate = true := by
  cases posted with
  | nil => exact fun post hpost => hmore post (List.mem_of_mem_tail hpost)
  | cons first rest =>
      intro post hpost
      rcases List.mem_append.mp hpost with hrest | hnew
      · exact hposted post hrest
      · exact hmore post hnew

theorem tail_eraseIdx {posted : List Post} (i : Nat)
    (hposted : ∀ post ∈ posted.tail, post.isTerminate = true) :
    ∀ post ∈ (posted.eraseIdx i).tail, post.isTerminate = true := by
  cases posted with
  | nil => exact hposted
  | cons first rest =>
      cases i with
      | zero => exact fun post hpost => hposted post (List.mem_of_mem_tail hpost)
      | succ i => exact fun post hpost => hposted post (List.mem_of_mem_eraseIdx hpost)

/-- A callback of the layer. Before the start of the test it can only be `onError`. -/
theorem VerdictInvariant.called (h : p.VerdictInvariant k I E)
    (hmembers : VerdictRules k bails may I E) {i : Nat} {input : Input} {b : Bound} {c : C}
    {s : Session n C}
    (hb : p.world.pending[i]? = some b) (hc : p.client = some c)
    (hrun : k.call bails b.args input (p.dispatching i b c) = .ok s) :
    (p.resume s).VerdictInvariant k I E := by
  have hready := h.sound.ready hc (s := p.dispatching i b c) rfl rfl
  obtain ⟨s', hend, hleads⟩ := k.call_safe bails b.args input _ hready
  obtain rfl : s' = s := Except.ok.inj (hend.symm.trans hrun)
  obtain ⟨more, hmore, hall⟩ := hleads.posted
  have hset := h.handlerSet c hc b (List.mem_of_getElem? hb)
  have hstep : p.Stepped k bails (.dispatch i input) (p.resume s') :=
    .called i input b c s' hb hc hrun
  have hsound := h.sound.step hstep
  refine h.resume hc (t := p.dispatching i b c) (fun _ => Iff.rfl)
    (fun b hb => List.mem_of_mem_eraseIdx hb) hleads hsound ?_ ?_ ?_
  · rw [hmore]
    exact tail_append h.posted hall
  · rintro hnone ⟨post, hpost, hstart⟩
    have hold : post ∈ p.posted := by
      rw [hmore] at hpost
      rcases List.mem_append.mp hpost with hold | hnew
      · exact hold
      · simp [hall post hnew] at hstart
    have hfailures := (hmembers.call b.args input).unfailed hrun hnone
    have hfresh := h.fresh hfailures c hc ⟨post, hold, hstart⟩
    have honly := fun hslot => hfresh.unset b.args.slot hslot hset
    cases hargs : b.args with
    | onError err =>
        rw [hargs] at hrun
        exact (hmembers.onError err input).post hrun hnone hfresh
    | _ => exact absurd (by simp [hargs, Args.slot]) honly
  · intro hnone hstarted
    have hfailures := (hmembers.call b.args input).unfailed hrun hnone
    apply (hmembers.call b.args input).post hrun hnone
    refine ⟨h.kept hfailures c hc fun post hpost => ?_, hset⟩
    apply hstarted
    rw [hmore]
    exact List.mem_append_left _ hpost

/-- The start of the test. -/
theorem VerdictInvariant.started (h : p.VerdictInvariant k I E)
    (hmembers : VerdictRules k bails may I E) {i : Nat} {input : Input} {hostAddr : Ptr}
    {port : UInt16} {c : C} {s : Session n C}
    (hpost : p.posted[i]? = some (.startTest hostAddr port)) (hc : p.client = some c)
    (hrun : k.startTest bails hostAddr port input
      { p.session c with posted := p.posted.eraseIdx i } = .ok s) :
    (p.resume s).VerdictInvariant k I E := by
  have hready := h.sound.ready hc (s := { p.session c with posted := p.posted.eraseIdx i }) rfl rfl
  obtain ⟨s', hend, hleads⟩ := k.startTest_safe bails hostAddr port input _ hready
  obtain rfl : s' = s := Except.ok.inj (hend.symm.trans hrun)
  obtain ⟨more, hmore, hall⟩ := hleads.posted
  have hstep : p.Stepped k bails (.own i input) (p.resume s') :=
    .started i input hostAddr port c s' hpost hc hrun
  have hsound := h.sound.step hstep
  have herased : ∀ post ∈ p.posted.eraseIdx i, post.isTerminate = true := by
    have hposted := h.posted
    cases hlist : p.posted with
    | nil => simp
    | cons first rest =>
        rw [hlist] at hpost hposted
        cases i with
        | zero => exact hposted
        | succ i => cases hposted _ (List.mem_of_getElem? hpost)
  have hstarted : ∀ post ∈ s'.posted, post.isTerminate = true := by
    intro post hmem
    rw [hmore] at hmem
    exact (List.mem_append.mp hmem).elim (herased post) (hall post)
  refine h.resume hc (t := { p.session c with posted := p.posted.eraseIdx i }) (fun _ => Iff.rfl)
    (fun b hb => hb) hleads hsound
    (fun post hmem => hstarted post (List.mem_of_mem_tail hmem)) ?_ ?_
  · rintro _ ⟨post, hmem, hstart⟩
    simp [hstarted post hmem] at hstart
  · intro hnone _
    have hfailures := (hmembers.startTest hostAddr port input).unfailed hrun hnone
    have hfresh := h.fresh hfailures c hc ⟨_, List.mem_of_getElem? hpost, rfl⟩
    apply (hmembers.startTest hostAddr port input).post hrun hnone
    exact ⟨hfresh.unset, fun htrue => hfresh.unpassed (List.mem_of_mem_eraseIdx htrue)⟩

theorem deinit_triple (k : Client n C) (env : Env) :
    Triple (fun _ => True) (k.deinit env) (fun _ => True) := by
  refine .consequence (.ask (P := fun _ _ => True) fun connected => ?_) (fun _ _ _ _ _ => trivial)
  split
  · exact .consequence (.ask fun _ => .finish) (fun _ _ _ _ _ => trivial)
  · exact .finish

/-- The end of the test. -/
theorem VerdictInvariant.ended (h : p.VerdictInvariant k I E)
    (hmembers : VerdictRules k bails may I E) {i : Nat} {input : Input} {status : Bool} {c : C}
    {s : Session n C} {o : SocketObj} (hmay : may i)
    (hpost : p.posted[i]? = some (.terminate status)) (hc : p.client = some c)
    (hdeinit : k.deinit input.env { p.session c with posted := p.posted.eraseIdx i } = .ok s)
    (hcell : s.world.objs.cell (k.socket s.client) = some o) :
    VerdictInvariant k I E
      { world := s.world.destructed (k.socket s.client) o input.env
        client := none
        posted := p.posted.eraseIdx i
        failures := if status then s.failures else s.failures + 1
        verdicts := p.verdicts ++ [status] } := by
  have hready := h.sound.ready hc (s := { p.session c with posted := p.posted.eraseIdx i }) rfl rfl
  obtain ⟨s', hend, hleads⟩ := deinit_safe k input.env _ hready
  obtain rfl : s' = s := Except.ok.inj (hend.symm.trans hdeinit)
  have hstep : p.Stepped k bails (.own i input) _ :=
    .ended i input status c s' o hpost hc hdeinit hcell
  refine ⟨h.sound.step hstep, fun _ hnew => ?_, tail_eraseIdx i h.posted, fun _ _ hnew => ?_,
    fun _ _ hnew => ?_, ?_⟩
  · cases hnew
  · cases hnew
  · cases hnew
  · intro hnone htrue
    obtain rfl : status = true := by simpa [h.sound.undecided hc] using htrue
    have hfailures : p.failures = 0 := (deinit_triple k input.env).unfailed hdeinit hnone
    -- A test that has not started has not passed either.
    have hstarted : ∀ post ∈ p.posted, post.isTerminate = true := by
      intro post hmem
      by_contra hstart
      have hfresh := h.fresh hfailures c hc ⟨post, hmem, by simpa using hstart⟩
      exact hfresh.unpassed (List.mem_of_getElem? hpost)
    have hinv := hmembers.passes _ i (h.kept hfailures c hc hstarted) hmay hpost
    obtain ⟨more, hmore⟩ := hleads.grows
    obtain ⟨last, hlast⟩ := World.grantedCalls_grow
      (World.destructed_calls s'.world input.env (k.socket s'.client) o)
    rw [hlast, hmore]
    exact hmembers.grows _ _ (hmembers.grows _ _ hinv)

theorem VerdictInvariant.step (h : p.VerdictInvariant k I E)
    (hmembers : VerdictRules k bails may I E) {a : TestAction n}
    (hmay : ∀ i input, a = .own i input → may i)
    (hnext : p.next k bails a = some p') : p'.VerdictInvariant k I E := by
  have hstep := next_stepped hnext
  have hsound := h.sound.step hstep
  cases hstep with
  | delivered id o ev hcell => exact h.delivered ev hcell
  | fired hd => exact ⟨hsound, h.handlerSet, h.posted, h.fresh, h.kept, h.verdict⟩
  | called i input b c s hb hc hrun => exact h.called hmembers hb hc hrun
  | started i input hostAddr port c s hpost hc hrun => exact h.started hmembers hpost hc hrun
  | ended i input status c s o hpost hc hdeinit hcell =>
      exact h.ended hmembers (hmay i input rfl) hpost hc hdeinit hcell
  | stale i input status hpost hc =>
      refine ⟨hsound, fun c hc' => ?_, tail_eraseIdx i h.posted, fun _ c hc' => ?_,
        fun _ c hc' => ?_, h.verdict⟩
      · cases hc.symm.trans hc'
      · cases hc.symm.trans hc'
      · cases hc.symm.trans hc'

theorem Starts.verdictInvariant_run (hstart : p.Starts k) (hmembers : VerdictRules k bails may I E)
    {as : List (TestAction n)}
    (hmay : EachStep (next k bails) (fun _ a => ∀ i input, a = .own i input → may i) p as) :
    EachState (next k bails) (VerdictInvariant k I E) p as :=
  eachState_of_step (fun _ _ _ h hmay hnext => h.step hmembers hmay hnext)
    hstart.verdictInvariant hmay

end Program

theorem isRecv_of_asks {buf len : Ptr} (c : ApiCall) (hasks : (Op.recv buf len).asks c = true) :
    c.isRecv = true := by
  obtain rfl : c = .recv buf len := by simpa [Op.asks] using hasks
  rfl

end Echo

end MbedSockets
