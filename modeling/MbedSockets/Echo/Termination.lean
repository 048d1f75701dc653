import MbedSockets.Callbacks
import MbedSockets.Echo.Clients

/-!
How a test program ends, whichever client it has and whatever the stack does.
`terminate` may be posted many times and takes effect once: it reports once,
and the client and its socket go together. What it does not look after are the
callbacks that the layer still holds for the client. A run is free of dangling
calls exactly if nothing is pending at that moment, and nothing is posted by
the destructor itself.
-/

namespace MbedSockets.Echo

open Lib.Run

variable {n : Nat} {C : Type} {k : Client n C} {bails : Bool}

namespace Program

/-- The socket of a client that has its error handler set, and no handlers but
the client's members. -/
structure Equipped (cls : Class) (o : SocketObj) : Prop where
  cls : o.cls = cls
  api : o.socket.api ≠ none
  onError : o.handlers .onError = Slot.onError.member
  handlers : ∀ slot, o.handlers slot = none ∨ o.handlers slot = slot.member

/-- Nothing lives but the socket of a live client, every pending callback is of
a member, and there is a verdict exactly if the client is gone. -/
structure Sound (k : Client n C) (p : Program n C) : Prop where
  live : ∀ c, p.client = some c →
    ∃ o, p.world.objs.cell (k.socket c) = some o ∧ Equipped k.cls o
  only : ∀ i o, p.world.objs.cell i = some o → ∃ c, p.client = some c ∧ i = k.socket c
  member : ∀ b ∈ p.world.pending, b.fn = b.args.slot.member
  verdict : p.verdicts.length = if p.client.isSome then 0 else 1

theorem Sound.ready {p : Program n C} (h : p.Sound k) {c : C} (hc : p.client = some c)
    {s : Session n C} (hclient : s.client = c) (hobjs : s.world.objs = p.world.objs) :
    s.Ready k.cls k.socket := by
  obtain ⟨o, hcell, hequipped⟩ := h.live c hc
  exact ⟨o, by rw [hclient, hobjs]; exact hcell, hequipped.cls, hequipped.api⟩

theorem Sound.undecided {p : Program n C} (h : p.Sound k) {c : C} (hc : p.client = some c) :
    p.verdicts = [] :=
  List.eq_nil_of_length_eq_zero (by simpa [hc] using h.verdict)

theorem Equipped.ownOps {cls : Class} {o o' : SocketObj} (h : Equipped cls o)
    (hcls : o'.cls = o.cls) (hapi : o'.socket.api = o.socket.api)
    (hhandlers : ∀ slot, o'.handlers slot = o.handlers slot ∨ o'.handlers slot = slot.member) :
    Equipped cls o' := by
  refine ⟨hcls.trans h.cls, hapi ▸ h.api, ?_, ?_⟩
  · rcases hhandlers .onError with hsame | hown
    · exact hsame.trans h.onError
    · exact hown
  · intro slot
    rcases hhandlers slot with hsame | hown
    · rw [hsame]
      exact h.handlers slot
    · exact Or.inr hown

/-- After a member of the client has run from the session `s₀`. -/
theorem Sound.resume {p : Program n C} (h : p.Sound k) {c : C} (hc : p.client = some c)
    {s₀ s : Session n C} (hclient : s₀.client = c) (hobjs : s₀.world.objs = p.world.objs)
    (hpending : ∀ b ∈ s₀.world.pending, b ∈ p.world.pending) (hleads : s₀.Leads k.socket s) :
    (p.resume s).Sound k := by
  have hops := hleads.ownOps
  have hsocket : k.socket s.client = k.socket c := hclient ▸ hleads.same
  rw [hclient] at hops
  constructor
  · rintro c' ⟨⟩
    obtain ⟨o, hcell, hequipped⟩ := h.live c hc
    rw [← hobjs] at hcell
    obtain ⟨o', hcell', hcls, hapi, hhandlers⟩ := hops.live o hcell
    exact ⟨o', hsocket ▸ hcell', hequipped.ownOps hcls hapi hhandlers⟩
  · intro i o hcell
    refine ⟨s.client, rfl, ?_⟩
    by_contra hne
    rw [hsocket] at hne
    have hold : p.world.objs.cell i = some o := by
      rw [← hobjs, ← hops.other i hne]
      exact hcell
    obtain ⟨c', hc', rfl⟩ := h.only i o hold
    rw [hc, Option.some.injEq] at hc'
    exact hne (hc' ▸ rfl)
  · intro b hb
    exact h.member b (hpending b (hops.pending ▸ hb))
  · simpa [Program.resume, hc] using h.verdict

theorem Sound.delivered {p : Program n C} (h : p.Sound k) {id : ObjId} {o : SocketObj}
    (ev : SocketEvent) (hcell : p.world.objs.cell id = some o) :
    Sound k { p with world := p.world.delivered id o ev } := by
  obtain ⟨c, hc, rfl⟩ := h.only id o hcell
  obtain ⟨o', hcell', hequipped⟩ := h.live c hc
  obtain rfl : o = o' := Option.some.inj (hcell.symm.trans hcell')
  constructor
  · intro c' hc'
    obtain rfl : c = c' := Option.some.inj (hc.symm.trans hc')
    refine ⟨{ o with socket.event := some ev, event := none }, ?_,
      ⟨hequipped.cls, hequipped.api, hequipped.onError, hequipped.handlers⟩⟩
    exact Lib.Heap.set_cell_self _ hcell
  · intro i o' hcell''
    have hlive : (p.world.objs.cell i).isSome := by
      rw [← Lib.Heap.set_cell_isSome p.world.objs (k.socket c) i
        { o with socket.event := some ev, event := none }]
      exact Option.isSome_iff_exists.mpr ⟨o', hcell''⟩
    obtain ⟨o'', ho''⟩ := Option.isSome_iff_exists.mp hlive
    exact h.only i o'' ho''
  · intro b hb
    rcases List.mem_append.mp hb with hold | hnew
    · exact h.member b hold
    · obtain ⟨args, _, hset, rfl⟩ := SocketObj.mem_delivers hnew
      rcases hequipped.handlers args.slot with hunset | hown
      · simp [hunset] at hset
      · exact hown
  · exact h.verdict

/-- The session in which the destructor of the client ends. -/
theorem deinit_safe (k : Client n C) (env : Env) : SafeMember k.cls k.socket (k.deinit env) := by
  refine .ask (fun connected => ?_) (fun _ => rfl) (fun _ => by cases k.cls <;> rfl)
  split
  · exact .ask (fun _ => .finish) (fun _ => rfl) (fun _ => by cases k.cls <;> rfl)
  · exact .finish

theorem Sound.destructed {p : Program n C} (h : p.Sound k) {c : C} (hc : p.client = some c)
    {s₀ s : Session n C} (hclient : s₀.client = c) (hworld : s₀.world = p.world)
    (hleads : s₀.Leads k.socket s) {o : SocketObj}
    (hcell : s.world.objs.cell (k.socket s.client) = some o) (env : Env) (posted : List Post)
    (failures : Nat) (status : Bool) :
    Sound k
      { world := s.world.destructed (k.socket s.client) o env
        client := none
        posted := posted
        failures := failures
        verdicts := p.verdicts ++ [status] } := by
  have hresumed := h.resume hc hclient (by rw [hworld]) (by simp [hworld]) hleads
  obtain ⟨o', hcell', hequipped⟩ := hresumed.live s.client rfl
  obtain rfl : o = o' := Option.some.inj (hcell.symm.trans hcell')
  constructor
  · intro c' hc'
    cases hc'
  · intro i o' hcell''
    rw [World.destructed_objs, Lib.Heap.free_cell_eq_some] at hcell''
    obtain ⟨c', hc', rfl⟩ := hresumed.only i o' hcell''.2
    rw [Program.resume, Option.some.injEq] at hc'
    exact absurd (hc' ▸ rfl) hcell''.1
  · intro b hb
    rw [World.destructed_pending] at hb
    rcases List.mem_append.mp hb with hold | hlast
    · exact hresumed.member b hold
    · rw [SocketObj.mem_lastPosts hlast]
      exact hequipped.onError
  · simp [h.undecided hc]

theorem Sound.step {p p' : Program n C} {a : TestAction n} (h : p.Sound k)
    (hstep : p.Stepped k bails a p') : p'.Sound k := by
  cases hstep with
  | delivered id o ev hcell => exact h.delivered ev hcell
  | fired hd => exact ⟨h.live, h.only, h.member, h.verdict⟩
  | called i input b c s hb hc hrun =>
      have hready := h.ready hc (s := p.dispatching i b c) rfl rfl
      obtain ⟨s', hend, hleads⟩ := k.call_safe bails b.args input _ hready
      obtain rfl : s' = s := Except.ok.inj (hend.symm.trans hrun)
      exact h.resume hc rfl rfl (fun b hb => List.mem_of_mem_eraseIdx hb) hleads
  | started i input hostAddr port c s hpost hc hrun =>
      have hready := h.ready hc (s := { p.session c with posted := p.posted.eraseIdx i }) rfl rfl
      obtain ⟨s', hend, hleads⟩ := k.startTest_safe bails hostAddr port input _ hready
      obtain rfl : s' = s := Except.ok.inj (hend.symm.trans hrun)
      exact h.resume hc rfl rfl (fun b hb => hb) hleads
  | ended i input status c s o hpost hc hdeinit hcell =>
      have hready := h.ready hc (s := { p.session c with posted := p.posted.eraseIdx i }) rfl rfl
      obtain ⟨s', hend, hleads⟩ := deinit_safe k input.env _ hready
      obtain rfl : s' = s := Except.ok.inj (hend.symm.trans hdeinit)
      exact h.destructed hc rfl rfl hleads hcell input.env _ _ status
  | stale i input status hpost hc => exact ⟨h.live, h.only, h.member, h.verdict⟩

/-- The world in which a test starts: one socket that has done nothing yet. -/
structure Unopened (cls : Class) (w : World n) (o : SocketObj) : Prop where
  cell : ∀ i, w.objs.cell i = if i = 0 then some o else none
  equipped : Equipped cls o
  unset : ∀ slot, slot ≠ .onError → o.handlers slot = none
  impl : o.socket.impl = none
  handler : o.socket.handler ≠ none
  pending : w.pending = []
  dispatched : w.dispatched = []
  calls : w.calls = []

theorem Starts.unopened {p : Program n C} (h : p.Starts k) : ∃ o, Unopened k.cls p.world o := by
  obtain ⟨stack, api, loc, hd, hrun⟩ := h.world
  obtain ⟨w₁, h₁, hrun⟩ := Option.bind_eq_some_iff.mp hrun
  obtain ⟨w₂, h₂, hrun⟩ := Option.bind_eq_some_iff.mp hrun
  obtain ⟨w₃, h₃, hrun⟩ := Option.bind_eq_some_iff.mp hrun
  obtain rfl : w₃ = p.world := Option.some.inj hrun
  have hregistered : w₁.objs = .empty ∧ w₁.registry stack = some api ∧ w₁.pending = [] ∧
      w₁.dispatched = [] ∧ w₁.calls = [] := by
    cases World.next_stepped h₁
    simp [World.init]
  obtain ⟨hobjs, hapi, hpending, hdispatched, hcalls⟩ := hregistered
  generalize p.world = w at *
  cases World.next_stepped h₂ with
  | built _ _ _ _ _ _ _ =>
      cases World.next_stepped h₃ with
      | ran _ o _ _ ret f hcell _ hexec =>
          simp only [Op.exec, Except.ok.injEq, Prod.mk.injEq] at hexec
          obtain ⟨_, rfl⟩ := hexec
          have hframe : (Class.plainCtor k.cls stack).frame w₁.registry 0 .quiet =
              .start 0 (Socket.init w₁.registry 0 k.cls stack k.cls.protoFamily) := by
            cases k.cls <;> rfl
          have hposts : (Class.plainCtor k.cls stack).posts 0 .quiet = [] := by
            cases k.cls <;> rfl
          have hnext : w₁.objs.next = 0 := by rw [hobjs]; rfl
          rw [World.built_objs, hnext, hframe] at hcell
          obtain rfl : Socket.init w₁.registry 0 k.cls stack k.cls.protoFamily = o := by
            simpa [Frame.start, Lib.Heap.alloc, hnext] using hcell
          refine ⟨(Socket.setOnError Slot.onError.member (.start 0
            (Socket.init w₁.registry 0 k.cls stack k.cls.protoFamily))).obj, ?_, ⟨rfl, ?_, ?_, ?_⟩,
            ?_, rfl, by simp [Socket.setOnError, Frame.register, Frame.start, Socket.init],
            ?_, ?_, ?_⟩
          · intro i
            rw [World.commit_objs, World.built_objs, hnext, hframe, hobjs]
            by_cases hi : i = 0
            · subst hi
              rfl
            · simp [Lib.Heap.set, Lib.Heap.alloc, Socket.setOnError, Frame.register, Frame.start,
                Lib.Heap.empty, hi]
          · simp [Socket.setOnError, Frame.register, Frame.start, Socket.init, hapi]
          · simp [Socket.setOnError, Frame.register]
          · intro slot
            by_cases hslot : slot = .onError
            · subst hslot
              exact Or.inr (by simp [Socket.setOnError, Frame.register])
            · exact Or.inl (by
                simp [Socket.setOnError, Frame.register, Frame.start, Socket.init, hslot])
          · intro slot hslot
            simp [Socket.setOnError, Frame.register, Frame.start, Socket.init, hslot]
          · simp [Socket.setOnError, Frame.register, Frame.start, hpending, hnext, hposts]
          · simp [hdispatched]
          · simp [Socket.setOnError, Frame.register, Frame.start, hcalls, hnext, hframe]

theorem Starts.sound {p : Program n C} (h : p.Starts k) : p.Sound k := by
  obtain ⟨c, hc, hsocket⟩ := h.client
  obtain ⟨o, hworld⟩ := h.unopened
  constructor
  · intro c' hc'
    obtain rfl : c = c' := Option.some.inj (hc.symm.trans hc')
    exact ⟨o, by rw [hsocket, hworld.cell, if_pos rfl], hworld.equipped⟩
  · intro i o' hcell
    rw [hworld.cell] at hcell
    split at hcell
    · rename_i hi
      exact ⟨c, hc, hi.trans hsocket.symm⟩
    · cases hcell
  · simp [hworld.pending]
  · simp [h.verdicts, hc]

theorem Starts.sound_run {p : Program n C} (h : p.Starts k) (as : List (TestAction n)) :
    EachState (next k bails) (Sound k) p as :=
  eachState_of_step (A := fun _ _ => True)
    (fun _ _ _ hsound _ hnext => hsound.step (next_stepped hnext)) h.sound
    (eachStep_true _ _)

/-! ### Dangling calls -/

/-- No action crashes. -/
def NoCrash (k : Client n C) (bails : Bool) (p : Program n C) : Prop :=
  ∀ a crash, p.step k bails a ≠ some (.error crash)

/-- When the client is gone, nothing is left that would call it. -/
def NoCallbackLeft (p : Program n C) : Prop :=
  p.client = none → p.world.pending = [] ∧ ∀ post ∈ p.posted, post.isTerminate = true

theorem within_ok {p : Program n C} (h : p.Sound k) {c : C} (hc : p.client = some c)
    {m : Handler n C} (hsafe : SafeMember k.cls k.socket m) {q : Program n C}
    (hclient : q.client = some c)
    (hobjs : q.world.objs = p.world.objs) : ∃ p', q.within m = .ok p' := by
  obtain ⟨s, hs, _⟩ := hsafe (q.session c) (h.ready hc rfl hobjs)
  exact ⟨q.resume s, by simp [within, hclient, hs, bind, Except.bind, pure, Except.pure]⟩

theorem terminate_ok {p : Program n C} (h : p.Sound k) (status : Bool) (env : Env)
    {q : Program n C} (hclient : q.client = p.client) (hobjs : q.world.objs = p.world.objs) :
    ∃ p', q.terminate k status env = .ok p' := by
  cases hc : p.client with
  | none => exact ⟨q, by simp [terminate, hclient, hc]⟩
  | some c =>
      have hready : (q.session c).Ready k.cls k.socket := h.ready hc rfl hobjs
      obtain ⟨s, hs, hleads⟩ := deinit_safe k env _ hready
      obtain ⟨o, hcell, _⟩ := hleads.ready hready
      refine ⟨{ q with
        world := s.world.destructed (k.socket s.client) o env
        client := none
        failures := if status then s.failures else s.failures + 1
        verdicts := q.verdicts ++ [status] }, ?_⟩
      simp only [terminate, hclient, hc, hs, World.step, hcell, Option.map_some,
        World.destruct_eq, bind, Except.bind, pure, Except.pure]

theorem noCrash_iff {p : Program n C} (h : p.Sound k) : p.NoCrash k bails ↔ p.NoCallbackLeft := by
  constructor
  · intro hnone hc
    refine ⟨?_, ?_⟩
    · by_contra hne
      obtain ⟨b, rest, hpending⟩ := List.exists_cons_of_ne_nil hne
      have hmember := h.member b (by simp [hpending])
      apply hnone (.dispatch 0 ⟨.quiet, [], fun _ => 0, 0⟩) .dangling
      simp [step, hpending, hmember, within, hc]
    · intro post hpost
      cases post with
      | terminate status => rfl
      | startTest hostAddr port =>
          obtain ⟨i, hi⟩ := List.mem_iff_getElem?.mp hpost
          apply absurd _ (hnone (.own i ⟨.quiet, [], fun _ => 0, 0⟩) .dangling)
          simp [step, hi, within, hc]
  · intro hnoneLeft a crash hstep
    cases a with
    | event id ev =>
        cases hcell : p.world.objs.cell id with
        | none => simp [step, World.step, hcell] at hstep
        | some o =>
            simp [step, World.step, hcell, Socket.nvEventHandler_eq, bind, Except.bind, pure,
              Except.pure, lift] at hstep
    | tick hd =>
        simp only [step, World.step] at hstep
        split at hstep <;> simp [lift] at hstep
    | dispatch i input =>
        cases hb : p.world.pending[i]? with
        | none => simp [step, hb] at hstep
        | some b =>
            have hmem := List.mem_of_getElem? hb
            cases hc : p.client with
            | none => simp [(hnoneLeft hc).1] at hmem
            | some c =>
                simp only [step, hb, Option.map_some, h.member b hmem, if_true] at hstep
                obtain ⟨p'', hok⟩ := within_ok h hc (k.call_safe bails b.args input)
                  (q := { p with world := { p.world with
                    pending := p.world.pending.eraseIdx i
                    dispatched := p.world.dispatched ++ [b] } }) hc rfl
                cases hok.symm.trans (Option.some.inj hstep)
    | own i input =>
        cases hpost : p.posted[i]? with
        | none => simp [step, hpost] at hstep
        | some post =>
            have hmem := List.mem_of_getElem? hpost
            simp only [step, hpost, Option.map_some, Option.some.injEq] at hstep
            cases post with
            | terminate status =>
                obtain ⟨p'', hok⟩ := terminate_ok h status input.env
                  (q := { p with posted := p.posted.eraseIdx i }) rfl rfl
                cases hok.symm.trans hstep
            | startTest hostAddr port =>
                cases hc : p.client with
                | none =>
                    have hterminate := (hnoneLeft hc).2 _ hmem
                    cases hterminate
                | some c =>
                    obtain ⟨p'', hok⟩ := within_ok h hc
                      (k.startTest_safe bails hostAddr port input)
                      (q := { p with posted := p.posted.eraseIdx i }) hc rfl
                    cases hok.symm.trans hstep

theorem Sound.noCrash {p : Program n C} (h : p.Sound k) (hlive : p.client ≠ none) :
    p.NoCrash k bails :=
  (noCrash_iff h).mpr fun hgone => absurd hgone hlive

/-- `terminate` finds no callback in the scheduler that would call the client,
and the destructor of the socket posts none. -/
def EndsWithNoneLeft (k : Client n C) (p : Program n C) : TestAction n → Prop
  | .own i input =>
    match p.posted[i]?, p.client with
    | some (.terminate _), some c =>
      p.world.pending = [] ∧
        (∀ post ∈ p.posted.eraseIdx i, post.isTerminate = true) ∧
        ∀ o ∈ p.world.objs.cell (k.socket c), ¬ destroyFails o.socket.api input.env
    | _, _ => True
  | _ => True

instance (k : Client n C) (p : Program n C) :
    (a : TestAction n) → Decidable (p.EndsWithNoneLeft k a)
  | .own i input =>
    match hpost : p.posted[i]?, hc : p.client with
    | some (.terminate _), some c =>
      decidable_of_iff (p.world.pending = [] ∧
        (∀ post ∈ p.posted.eraseIdx i, post.isTerminate = true) ∧
        ∀ o ∈ p.world.objs.cell (k.socket c), ¬ destroyFails o.socket.api input.env)
        (by simp [EndsWithNoneLeft, hpost, hc])
    | some (.terminate _), none => isTrue (by simp [EndsWithNoneLeft, hpost, hc])
    | some (.startTest _ _), _ => isTrue (by simp [EndsWithNoneLeft, hpost])
    | none, _ => isTrue (by simp [EndsWithNoneLeft, hpost])
  | .event _ _ | .tick _ | .dispatch _ _ => isTrue trivial

theorem noCallbackLeft_step_iff {p p' : Program n C} {a : TestAction n} (h : p.Sound k)
    (hnoneLeft : p.NoCallbackLeft) (hstep : p.Stepped k bails a p') :
    p'.NoCallbackLeft ↔ p.EndsWithNoneLeft k a := by
  cases hstep with
  | delivered id o ev hcell =>
      obtain ⟨c, hc, _⟩ := h.only id o hcell
      exact ⟨fun _ => trivial, fun _ hnone => by rw [hc] at hnone; cases hnone⟩
  | fired hd => exact ⟨fun _ => trivial, fun _ => hnoneLeft⟩
  | called i input b c s hb hc hrun => exact ⟨fun _ => trivial, fun _ hnone => by cases hnone⟩
  | started i input hostAddr port c s hpost hc hrun =>
      exact ⟨fun _ => by simp [EndsWithNoneLeft, hpost], fun _ hnone => by cases hnone⟩
  | ended i input status c s o hpost hc hdeinit hcell =>
      have hready := h.ready hc (s := { p.session c with posted := p.posted.eraseIdx i }) rfl rfl
      obtain ⟨s', hend, hleads⟩ := deinit_safe k input.env _ hready
      obtain rfl : s' = s := Except.ok.inj (hend.symm.trans hdeinit)
      -- The destructor's operations leave the api of the socket and the queue as they were.
      obtain ⟨o₀, hcell₀, _⟩ := h.live c hc
      obtain ⟨o', hcell', _, hapi, _⟩ := hleads.ownOps.live o₀ hcell₀
      obtain rfl : o = o' := Option.some.inj (hcell.symm.trans (hleads.same ▸ hcell'))
      have hpending : s'.world.pending = p.world.pending := hleads.ownOps.pending
      simp only [NoCallbackLeft, EndsWithNoneLeft, hpost, hc, hcell₀, Option.mem_some_iff,
        forall_eq', World.destructed_pending, List.append_eq_nil_iff, World.lastPosts_eq_nil_iff,
        hpending, hapi, forall_const]
      tauto
  | stale i input status hpost hc =>
      refine ⟨fun _ => by simp [EndsWithNoneLeft, hpost, hc], fun _ _ => ?_⟩
      exact ⟨(hnoneLeft hc).1,
        fun post hmem => (hnoneLeft hc).2 post (List.mem_of_mem_eraseIdx hmem)⟩

/-- In every state of every run, `terminate` has reported at most once, and
exactly if the client is gone; and the socket of the client, and no other, is
live as long as the client is. -/
theorem terminates_once (k : Client n C) (bails : Bool) (p : Program n C) (hstart : p.Starts k)
    (as : List (TestAction n)) :
    EachState (next k bails) (fun p' =>
      p'.verdicts.length ≤ 1 ∧ (p'.client = none ↔ p'.verdicts ≠ []) ∧
        ∀ i, (p'.world.objs.cell i).isSome ↔ ∃ c, p'.client = some c ∧ i = k.socket c) p as := by
  apply (hstart.sound_run as).mono
  intro p' h
  refine ⟨?_, ?_, ?_⟩
  · rw [h.verdict]
    split <;> omega
  · have hlength := h.verdict
    cases hc : p'.client with
    | none =>
        rw [hc] at hlength
        refine ⟨fun _ hnil => ?_, fun _ => rfl⟩
        simp [hnil] at hlength
    | some c =>
        rw [hc] at hlength
        have hnil : p'.verdicts = [] := List.eq_nil_of_length_eq_zero (by simpa using hlength)
        simp [hnil]
  · intro i
    constructor
    · intro hlive
      obtain ⟨o, hcell⟩ := Option.isSome_iff_exists.mp hlive
      exact h.only i o hcell
    · rintro ⟨c, hc, rfl⟩
      obtain ⟨o, hcell, _⟩ := h.live c hc
      simp [hcell]

/-- A TCP client as its constructor leaves it; what it does not initialise is
given here as zero. -/
def newTCPEchoClient : TCPEchoClient 32 where
  stream := 0
  resolvedAddr := ⟨fun _ => 0⟩
  port := 0
  done := false
  disconnected := true
  unacked := 0
  buffer := List.replicate 256 nul

def newUDPEchoClient : UDPEchoClient where
  usock := 0
  resolvedAddr := ⟨fun _ => 0⟩
  port := 0
  outBuffer := List.replicate UDPEchoClient.bufferSize nul
  buffer := List.replicate UDPEchoClient.bufferSize nul
  loopCtr := 0

/-- The greeting is sent, acknowledged and echoed, the final text is sent and
acknowledged, and the test ends. -/
def passingTest : List (TestAction 32) :=
  [.own 0 ⟨.creating 5, [], fun _ => 0, 0⟩, .event 0 (.dns (fun _ => 1) 3),
    .dispatch 0 ⟨.quiet, [], fun _ => 0, 0⟩, .event 0 .connect,
    .dispatch 0 ⟨.quiet, [], fun _ => 0, 0⟩, .event 0 (.txDone 12),
    .dispatch 0 ⟨.quiet, [], fun _ => 0, 0⟩, .event 0 .rxDone,
    .dispatch 0 ⟨.quiet, TCPEchoClient.outBuffer, fun _ => 0, 0⟩, .event 0 (.txDone 20),
    .dispatch 0 ⟨.quiet, [], fun _ => 0, 0⟩, .own 0 ⟨.quiet, [], fun _ => 0, 0⟩]

/-- The test program with the given client, on a stack with a `destroy`. -/
def Begins (k : Client 32 C) (c : C) (p : Program 32 C) : Prop :=
  run World.next World.init
    [.register 0 ⟨true, 250, 7⟩, .construct 4096 1 (Class.plainCtor k.cls 0) .quiet,
      .op 0 (.setOnError Slot.onError.member) .quiet] = some p.world ∧
    p = { world := p.world
          client := some c
          posted := [.startTest 3 7]
          failures := 0
          verdicts := [] }

theorem Begins.starts {k : Client 32 C} {c : C} {p : Program 32 C} (h : Begins k c p)
    (hsocket : k.socket c = 0) : p.Starts k := by
  obtain ⟨hrun, hp⟩ := h
  rw [hp]
  exact ⟨⟨c, rfl, hsocket⟩, ⟨0, _, 4096, 1, hrun⟩, ⟨3, 7, rfl⟩, rfl, rfl⟩

theorem passingTest_reports_once :
    ∃ p p', Begins (tcpEchoClient Inet.usual) newTCPEchoClient p ∧
      run (next (tcpEchoClient Inet.usual) true) p passingTest = some p' ∧
      p'.verdicts = [true] ∧ p'.client = none ∧ ∀ i, p'.world.objs.cell i = none := by
  have hend : ∃ p p', Begins (tcpEchoClient Inet.usual) newTCPEchoClient p ∧
      run (next (tcpEchoClient Inet.usual) true) p passingTest = some p' ∧
      p'.verdicts = [true] := ⟨⟨_, _, _, _, _⟩, _, ⟨rfl, rfl⟩, rfl, rfl⟩
  obtain ⟨p, p', hbegins, hrun, hverdict⟩ := hend
  have honce := eachState_last (terminates_once _ true p (hbegins.starts rfl) passingTest) hrun
  have hgone : p'.client = none := honce.2.1.mpr (by simp [hverdict])
  refine ⟨p, p', hbegins, hrun, hverdict, hgone, ?_⟩
  intro i
  rw [← Option.not_isSome_iff_eq_none, honce.2.2 i]
  simp [hgone]

/-- A run never comes to a state in which a callback can crash exactly if
`terminate` takes effect with nothing left in the scheduler for the client and
with a `destroy` that succeeds. -/
theorem never_dangles_iff (k : Client n C) (bails : Bool) (p : Program n C) (hstart : p.Starts k)
    (as : List (TestAction n)) :
    EachState (next k bails) (NoCrash k bails) p as ↔
      EachStep (next k bails) (EndsWithNoneLeft k) p as := by
  have hfresh : p.NoCrash k bails := by
    obtain ⟨c, hc, _⟩ := hstart.client
    exact (noCrash_iff hstart.sound).mpr (fun hnone => by rw [hc] at hnone; cases hnone)
  apply eachState_iff_eachStep (J := Sound k) (A := fun _ _ => True) _ _ hstart.sound hfresh
    (eachStep_true _ _)
  · intro s a s' hsound _ hnext
    exact hsound.step (next_stepped hnext)
  · intro s a s' hsound hnone _ hnext
    have hstep := next_stepped hnext
    rw [noCrash_iff (hsound.step hstep)]
    exact noCallbackLeft_step_iff hsound ((noCrash_iff hsound).mp hnone) hstep

/-- Nothing is left in the scheduler when the passing test ends. -/
theorem passingTest_never_dangles :
    ∃ p, Begins (tcpEchoClient Inet.usual) newTCPEchoClient p ∧
      EachState (next (tcpEchoClient Inet.usual) true)
        (NoCrash (tcpEchoClient Inet.usual) true) p passingTest := by
  have hend : ∃ p, Begins (tcpEchoClient Inet.usual) newTCPEchoClient p ∧
      EachStep (next (tcpEchoClient Inet.usual) true) (EndsWithNoneLeft (tcpEchoClient Inet.usual))
        p passingTest := ⟨⟨_, _, _, _, _⟩, ⟨rfl, rfl⟩, by decide⟩
  obtain ⟨p, hbegins, hends⟩ := hend
  exact ⟨p, hbegins, (never_dangles_iff _ true p (hbegins.starts rfl) passingTest).mpr hends⟩

end Program

end MbedSockets.Echo
