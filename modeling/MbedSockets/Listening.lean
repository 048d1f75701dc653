import MbedSockets.Steps

/-!
Stopping a listener. An incoming connection is handed over in two stages: the
event posts a callback, and the scheduler calls it later. `stop_listening`
asks the stack for silence but leaves the queue alone, so a stop can fall
between the two. The runs in which a stopped listener stays silent are those
whose every successful stop finds nothing of that listener in the queue.

The stack is assumed to keep its side: it announces no connection to a
listener that is stopped.
-/

namespace MbedSockets

open Lib.Run

variable {n : Nat}

/-- What is remembered of the listeners: which are stopped, and the
`onIncoming` callbacks that were dispatched while theirs was. -/
structure Listening where
  stopped : ObjId → Bool
  late : List Bound

namespace World

def stopSucceeds (env : Env) (id : ObjId) (o : SocketObj) : Bool :=
  match TCPListener.stopListening env (.start id o) with
  | .ok (.none, _) => true
  | _ => false

/-- The listener whose `stop_listening` is called and returns no error. The
destructor of a listener calls it too. -/
def stops (w : World n) : Action n → Option ObjId
  | .op id .stopListening env | .destruct id env =>
    (w.objs.cell id).bind fun o =>
      if o.cls = .listener ∧ stopSucceeds env id o then some id else none
  | _ => none

/-- The listener whose `start_listening` is called, whatever it returns. -/
def starts : Action n → Option ObjId
  | .op id (.startListening _ _) _ => some id
  | _ => none

/-- The callback that the scheduler calls, if it is an `onIncoming` of a
listener that is stopped. -/
def lateCall (w : World n) (a : Action n) (stopped : ObjId → Bool) : Option Bound :=
  match a with
  | .dispatch k => (w.pending[k]?).filter fun b => b.args.slot = .onIncoming && stopped b.this
  | _ => none

def recordListening (w : World n) (a : Action n) (g : Listening) : Listening where
  stopped :=
    match w.stops a, starts a with
    | some id, _ => Function.update g.stopped id true
    | none, some id => Function.update g.stopped id false
    | none, none => g.stopped
  late := g.late ++ (w.lateCall a g.stopped).toList

def listened : World n × Listening → Action n → Option (World n × Listening) :=
  ghosted World.next recordListening

def listeningInit : World n × Listening := (World.init, ⟨fun _ => false, []⟩)

/-- No `onIncoming` handler of a stopped listener has been called, and none
is, whatever the scheduler dispatches next. -/
structure Silent (p : World n × Listening) : Prop where
  never : p.2.late = []
  next : ∀ k p', listened p (.dispatch k) = some p' → p'.2.late = []

/-- The side of the stacks. -/
def Orderly (p : World n × Listening) : Action n → Prop
  | .event id (.accept _) => p.2.stopped id = false
  | _ => True

/-- The condition on one step: a successful stop finds no connection of that
listener waiting in the queue. -/
def StopsDrained (p : World n × Listening) (a : Action n) : Prop :=
  ∀ id ∈ p.1.stops a, ∀ b ∈ p.1.pending, b.this = id → b.args.slot ≠ .onIncoming

instance (p : World n × Listening) : (a : Action n) → Decidable (Orderly p a)
  | .event id ev =>
    match ev with
    | .accept _ => inferInstanceAs (Decidable (p.2.stopped id = false))
    | .rxError _ | .txError _ | .error _ | .rxDone | .txDone _ | .dns _ _ | .connect
    | .disconnect | .none | .other _ => isTrue trivial
  | .register _ _ | .construct _ _ _ _ | .destruct _ _ | .op _ _ _ | .accept _ _ _ _ _
  | .dispatch _ | .tick _ => isTrue trivial

instance (p : World n × Listening) (a : Action n) : Decidable (StopsDrained p a) :=
  inferInstanceAs (Decidable (∀ id ∈ p.1.stops a, ∀ b ∈ p.1.pending, _))

/-! ### The queue of a stopped listener -/

/-- Nothing that waits in the queue is a connection of a stopped listener. -/
def Drained (w : World n) (stopped : ObjId → Bool) : Prop :=
  ∀ b ∈ w.pending, b.args.slot = .onIncoming → stopped b.this = false

theorem lateCall_dispatch {w : World n} {k : Nat} {b : Bound} (hb : w.pending[k]? = some b)
    (stopped : ObjId → Bool) :
    w.lateCall (.dispatch k) stopped =
      if b.args.slot = .onIncoming ∧ stopped b.this = true then some b else none := by
  simp only [lateCall, hb, Option.filter_some, Bool.and_eq_true, decide_eq_true_eq]

theorem lateCall_of_drained {w : World n} {stopped : ObjId → Bool} (hw : w.Drained stopped)
    (a : Action n) : w.lateCall a stopped = none := by
  cases a with
  | dispatch k =>
      cases hb : w.pending[k]? with
      | none => simp [lateCall, hb]
      | some b =>
          rw [lateCall_dispatch hb, if_neg]
          rintro ⟨hslot, hstopped⟩
          simp [hw b (List.mem_of_getElem? hb) hslot] at hstopped
  | _ => rfl

theorem listened_dispatch {p : World n × Listening} {k : Nat} {b : Bound}
    (hb : p.1.pending[k]? = some b) :
    listened p (.dispatch k) =
      some ({ p.1 with
          pending := p.1.pending.eraseIdx k
          dispatched := p.1.dispatched ++ [b] },
        p.1.recordListening (.dispatch k) p.2) := by
  simp [listened, ghosted, World.next, World.step, hb]

theorem silent_iff (p : World n × Listening) :
    Silent p ↔ p.2.late = [] ∧ p.1.Drained p.2.stopped := by
  constructor
  · intro hsilent
    refine ⟨hsilent.never, ?_⟩
    intro b hb hslot
    obtain ⟨k, hk⟩ := List.mem_iff_getElem?.mp hb
    have hlate := hsilent.next k _ (listened_dispatch hk)
    by_contra hstopped
    rw [Bool.not_eq_false] at hstopped
    simp [recordListening, lateCall_dispatch hk, hslot, hstopped] at hlate
  · rintro ⟨hnever, hdrained⟩
    refine ⟨hnever, ?_⟩
    intro k p' hstep
    rw [(ghosted_eq_some hstep).2]
    simp [recordListening, lateCall_of_drained hdrained, hnever]

/-- A step adds nothing to the queue of a listener that was stopped before. -/
theorem drained_after {p : World n × Listening} {a : Action n} {w' : World n}
    (hw : p.1.Drained p.2.stopped) (horderly : Orderly p a) (hstep : p.1.Stepped a w') :
    w'.Drained p.2.stopped := by
  intro b hb hslot
  rcases hstep.queue with ⟨k, _, rfl, _, hpending, _⟩ | ⟨_, hpending, _⟩
  · rw [hpending] at hb
    exact hw b (List.mem_of_mem_eraseIdx hb) hslot
  · rw [hpending] at hb
    rcases List.mem_append.mp hb with hold | hnew
    · exact hw b hold hslot
    · obtain ⟨_, newimpl, rfl, _⟩ := hstep.posts_onIncoming hnew hslot
      exact horderly

/-- The listener that an action stops is not the one that it is an event of,
so what it posts is no connection. -/
theorem drained_stop_iff {p : World n × Listening} {a : Action n} {w' : World n} {id : ObjId}
    (hafter : w'.Drained p.2.stopped) (hstep : p.1.Stepped a w') (hstop : p.1.stops a = some id) :
    w'.Drained (Function.update p.2.stopped id true) ↔ StopsDrained p a := by
  have hpending : w'.pending = p.1.pending ++ p.1.posts a := by
    rcases hstep.queue with ⟨k, _, rfl, _⟩ | ⟨_, hpending, _⟩
    · cases hstop
    · exact hpending
  constructor
  · intro hdrained id' hid' b hb hthis hslot
    rw [hstop, Option.mem_some_iff] at hid'
    have hfalse := hdrained b (by simp [hpending, hb]) hslot
    rw [hthis, ← hid', Function.update_self] at hfalse
    cases hfalse
  · intro hcond b hb hslot
    by_cases hthis : b.this = id
    · rw [hpending] at hb
      rcases List.mem_append.mp hb with hold | hnew
      · exact absurd hslot (hcond id hstop b hold hthis)
      · obtain ⟨_, newimpl, rfl, _⟩ := hstep.posts_onIncoming hnew hslot
        cases hstop
    · rw [Function.update_of_ne hthis]
      exact hafter b hb hslot

theorem silent_step_iff (p : World n × Listening) (a : Action n) (p' : World n × Listening)
    (hp : Silent p) (horderly : Orderly p a) (hnext : listened p a = some p') :
    Silent p' ↔ StopsDrained p a := by
  obtain ⟨hworld, hrecord⟩ := ghosted_eq_some hnext
  have hstep := next_stepped hworld
  rw [silent_iff] at hp ⊢
  obtain ⟨hnever, hdrained⟩ := hp
  have hafter := drained_after hdrained horderly hstep
  have hlate : p'.2.late = [] := by
    simp [hrecord, recordListening, hnever, lateCall_of_drained hdrained]
  rw [and_iff_right hlate, hrecord]
  cases hstop : p.1.stops a with
  | some id =>
      simp only [recordListening, hstop]
      exact drained_stop_iff hafter hstep hstop
  | none =>
      have hcond : StopsDrained p a := by
        intro id hid
        simp [hstop] at hid
      refine iff_of_true ?_ hcond
      intro b hb hslot
      have hold := hafter b hb hslot
      cases hstart : starts a with
      | none => simpa [recordListening, hstop, hstart] using hold
      | some id =>
          by_cases hthis : b.this = id
          · simp [recordListening, hstop, hstart, hthis]
          · simpa [recordListening, hstop, hstart, hthis] using hold

/-- In a run no connection reaches the application while its listener is
stopped, however the scheduler goes on, exactly when every successful stop
finds no connection of that listener in the queue. -/
theorem silent_iff_stops_drained (as : List (Action n))
    (horderly : EachStep listened Orderly listeningInit as) :
    EachState listened Silent listeningInit as ↔
      EachStep listened StopsDrained listeningInit as := by
  have hinit : Silent (listeningInit : World n × Listening) :=
    (silent_iff _).mpr ⟨rfl, by simp [Drained, listeningInit, init]⟩
  exact eachState_iff_eachStep (J := fun _ => True) (fun _ _ _ _ _ _ => trivial)
    (fun p a p' _ hp ha hnext => silent_step_iff p a p' hp ha hnext) trivial hinit horderly

/-- A connection is handed over before the listener stops; it is started
again, and stopped by its destructor. -/
def drainedStop : List (Action 32) :=
  [.register 0 ⟨true, 250, 7⟩, .construct 4096 1 (.listener 0) .quiet,
    .op 0 (.startListening (some 1) 5) .quiet, .event 0 (.accept (some 77)), .dispatch 0,
    .op 0 .stopListening .quiet, .op 0 (.startListening (some 2) 5) .quiet,
    .event 0 (.accept (some 78)), .dispatch 0, .destruct 0 .quiet]

theorem drainedStop_silent :
    EachState listened Silent listeningInit drainedStop ∧
      (run listened listeningInit drainedStop).map (·.1.dispatched.length) = some 2 :=
  ⟨(silent_iff_stops_drained drainedStop (by decide)).mpr (by decide), by decide⟩

/-- The stop falls between the event and the dispatch. -/
def stoppedBetween : List (Action 32) :=
  [.register 0 ⟨true, 250, 7⟩, .construct 4096 1 (.listener 0) .quiet,
    .op 0 (.startListening (some 1) 5) .quiet, .event 0 (.accept (some 77)),
    .op 0 .stopListening .quiet, .dispatch 0]

theorem stoppedBetween_not_silent :
    EachStep listened Orderly listeningInit stoppedBetween ∧
      ¬ EachState listened Silent listeningInit stoppedBetween := by
  refine ⟨by decide, ?_⟩
  intro h
  have hend : ∃ p, run listened listeningInit stoppedBetween = some p ∧
      p.2.late = [⟨0, some 1, .onIncoming (some 77)⟩] :=
    ⟨_, rfl, by decide⟩
  obtain ⟨p, hrun, hlate⟩ := hend
  have hnever := (eachState_last h hrun).never
  simp [hlate] at hnever

end World

end MbedSockets
