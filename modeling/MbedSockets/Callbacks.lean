import MbedSockets.Steps

/-!
What the scheduler is given to run. Every event and error path posts a
callback that holds a copy of the handler and the address of the socket. Two
things can go wrong with it later: the socket may be gone, or there may be no
handler. For each the runs in which it does not happen are characterised by a
condition on their steps. `error_check`, which posts without looking at the
handler and is also what the destructor calls, is at the root of both.
-/

namespace MbedSockets.World

open Lib.Run

variable {n : Nat}

/-! ### No callback outlives its socket -/

/-- Every pending callback is bound to a live socket. -/
def BoundLive (w : World n) : Prop :=
  ∀ b ∈ w.pending, (w.objs.cell b.this).isSome

/-- The condition on one step: a socket goes away only when nothing bound to
it is pending, and its destructor has no error to report. -/
def DiesUnbound (w : World n) : Action n → Prop
  | .destruct id env => (∀ b ∈ w.pending, b.this ≠ id) ∧
      ∀ o ∈ w.objs.cell id, ¬ destroyFails o.socket.api env
  | .accept id _ _ _ env => ∀ o ∈ w.objs.cell id,
      (env (.socketAccept o.socket w.objs.next)).err ≠ .none →
        ¬ destroyFails (w.registry o.socket.stack) env
  | _ => True

instance (w : World n) : (a : Action n) → Decidable (w.DiesUnbound a)
  | .destruct _ _ => inferInstanceAs (Decidable (_ ∧ _))
  | .accept id _ _ _ _ => inferInstanceAs (Decidable (∀ o ∈ w.objs.cell id, _))
  | .register _ _ | .construct _ _ _ _ | .op _ _ _ | .event _ _ | .dispatch _ | .tick _ =>
    isTrue trivial

theorem lastPosts_eq_nil_iff (o : SocketObj) (id : ObjId) (env : Env) :
    o.lastPosts id env = [] ↔ ¬ destroyFails o.socket.api env := by
  unfold SocketObj.lastPosts
  split <;> simp [*]

/-- A step that destroys nothing keeps callbacks bound to live sockets, if
its own posts are. -/
theorem BoundLive.append {w w' : World n} (hw : w.BoundLive) {new : List Bound}
    (hpending : w'.pending = w.pending ++ new)
    (hlive : ∀ i, (w.objs.cell i).isSome → (w'.objs.cell i).isSome)
    (hnew : ∀ b ∈ new, (w'.objs.cell b.this).isSome) : w'.BoundLive := by
  intro b hb
  rw [hpending] at hb
  rcases List.mem_append.mp hb with hold | hposted
  · exact hlive _ (hw b hold)
  · exact hnew b hposted

theorem boundLive_destructed_iff {w : World n} {id : ObjId} {o : SocketObj} (env : Env)
    (hother : ∀ b ∈ w.pending, b.this ≠ id → (w.objs.cell b.this).isSome) :
    (w.destructed id o env).BoundLive ↔
      (∀ b ∈ w.pending, b.this ≠ id) ∧ ¬ destroyFails o.socket.api env := by
  constructor
  · intro hlive
    constructor
    · intro b hb hid
      have hcell := hlive b (by simp [hb])
      simp [hid] at hcell
    · rw [← lastPosts_eq_nil_iff o id env]
      apply List.eq_nil_iff_forall_not_mem.mpr
      intro b hb
      have hcell := hlive b (by simp [hb])
      simp [SocketObj.mem_lastPosts hb] at hcell
  · rintro ⟨hfree, hquiet⟩ b hb
    rw [destructed_pending, (lastPosts_eq_nil_iff o id env).mpr hquiet, List.append_nil] at hb
    rw [destructed_objs, Lib.Heap.free_cell_of_ne _ (hfree b hb)]
    exact hother b hb (hfree b hb)

theorem boundLive_built {w : World n} (hw : w.BoundLive) (loc : BitVec n) (h : Handle)
    (env : Env) (ctor : Ctor) : (w.built loc h env ctor).BoundLive := by
  apply hw.append (built_pending w loc h env ctor)
  · intro i hi
    obtain ⟨o, ho⟩ := Option.isSome_iff_exists.mp hi
    rw [built_objs, Lib.Heap.alloc_cell_of_ne _ _ (w.objs.lt_next ho).ne]
    exact hi
  · intro b hb
    obtain ⟨err, rfl⟩ := Ctor.mem_posts hb
    simp

theorem boundLive_commit {w : World n} (hw : w.BoundLive) {f : Frame}
    (hlive : (w.objs.cell f.this).isSome) (hthis : ∀ b ∈ f.posted, b.this = f.this) :
    (w.commit f).BoundLive := by
  apply hw.append (commit_pending w f)
  · intro i hi
    simpa using hi
  · intro b hb
    rw [hthis b hb]
    simpa using hlive

theorem boundLive_step_iff (w : World n) (a : Action n) (w' : World n)
    (hw : w.BoundLive) (hstep : w.next a = some w') :
    w'.BoundLive ↔ w.DiesUnbound a := by
  cases next_stepped hstep with
  | registered stack api hnew => exact ⟨fun _ => trivial, fun _ => hw⟩
  | built loc h ctor env _ _ _ =>
      exact ⟨fun _ => trivial, fun _ => boundLive_built hw loc h env ctor⟩
  | destructed id o env hcell =>
      rw [boundLive_destructed_iff env (fun b hb _ => hw b hb)]
      simp [DiesUnbound, hcell]
  | ran id o op env ret f hcell _ hexec =>
      have hran := Op.exec_ran hexec
      have hthis : f.this = id := hran.same.this
      refine ⟨fun _ => trivial, fun _ => boundLive_commit hw (by simp [hthis, hcell]) ?_⟩
      intro b hb
      rw [hran.posted] at hb
      obtain ⟨err, rfl⟩ := Op.mem_posts (by simpa [Frame.start] using hb)
      rw [hthis]
  | accepted id o newImpl loc h env hcell _ _ _ hok =>
      refine ⟨fun _ => ?_, fun _ => boundLive_built hw loc h env _⟩
      intro o' ho' hfail
      rw [hcell, Option.mem_some_iff] at ho'
      exact absurd (ho' ▸ hok) hfail
  | refused id o newImpl loc h env hcell _ _ _ hfail =>
      -- The stream has a new identity, so no callback was bound to it before.
      have hbuilt := boundLive_built hw loc h env (acceptCtor o newImpl)
      rw [boundLive_destructed_iff env (fun b hb _ => hbuilt b hb)]
      have hfresh : ∀ b ∈ (w.built loc h env (acceptCtor o newImpl)).pending,
          b.this ≠ w.objs.next := by
        intro b hb hid
        have hpending : b ∈ w.pending := by simpa [acceptCtor, Ctor.posts] using hb
        have hlive := hw b hpending
        rw [hid, w.objs.fresh _ le_rfl] at hlive
        simp at hlive
      simp only [Ctor.frame_api, DiesUnbound, hcell, Option.mem_some_iff, forall_eq']
      exact ⟨fun hquiet _ => hquiet.2, fun hquiet => ⟨hfresh, hquiet hfail⟩⟩
  | delivered id o ev hcell =>
      refine ⟨fun _ => trivial, fun _ => boundLive_commit hw (by simp [hcell]) ?_⟩
      intro b hb
      obtain ⟨args, _, _, rfl⟩ := SocketObj.mem_delivers hb
      rfl
  | dispatched i b hb =>
      refine ⟨fun _ => trivial, fun _ c hc => hw c ?_⟩
      exact List.mem_of_mem_eraseIdx hc
  | fired h hs => exact ⟨fun _ => trivial, fun _ => hw⟩

/-- In a run, no callback is ever left bound to a destroyed socket exactly if
every destruction finds nothing pending for its socket and posts nothing. -/
theorem boundLive_iff_dies_unbound (as : List (Action n)) :
    EachState World.next BoundLive World.init as ↔
      EachStep World.next DiesUnbound World.init as :=
  eachState_iff_eachStep_of_local boundLive_step_iff as (by simp [BoundLive, init])

/-- The condition can be checked by running: here the callback is dispatched
before the socket goes. -/
example : EachStep World.next DiesUnbound (World.init : World 32)
    [.register 0 ⟨true, 250, 7⟩, .construct 4096 1 (.udp 0) .quiet,
      .op 0 (.setOnReadable (some 9)) .quiet, .event 0 .rxDone, .dispatch 0,
      .destruct 0 .quiet] := by
  decide

/-- A datagram arrives and the socket is destroyed before the scheduler runs. -/
def readableThenGone : List (Action 32) :=
  [.register 0 ⟨true, 250, 7⟩, .construct 4096 1 (.udp 0) .quiet,
    .op 0 (.setOnReadable (some 9)) .quiet, .event 0 .rxDone, .destruct 0 .quiet]

theorem readableThenGone_not_boundLive :
    ¬ EachState World.next BoundLive World.init readableThenGone := by
  intro h
  have hend : ∃ w, run World.next World.init readableThenGone = some w ∧
      w.pending = [⟨0, some 9, .onReadable⟩] ∧ w.objs.cell 0 = none := ⟨_, rfl, rfl, rfl⟩
  obtain ⟨w, hrun, hpending, hgone⟩ := hend
  have hlive := eachState_last h hrun ⟨0, some 9, .onReadable⟩ (by simp [hpending])
  simp [hgone] at hlive

/-! ### No unset handler is posted -/

/-- Every callback posted so far carries a handler. -/
def PostedSet (w : World n) : Prop :=
  ∀ b ∈ w.pending ++ w.dispatched, b.fn.isSome

/-- The condition on one step: wherever `error_check` is given an error,
`onError` is set. In a constructor it never is. -/
def ChecksHandled (w : World n) : Action n → Prop
  | .op id (.errorCheck err) _ => ∀ o ∈ w.objs.cell id,
      err ≠ .none → (o.handlers .onError).isSome
  | .construct _ _ (.adopt _) env => (env (.accept w.objs.next)).err = .none
  | .destruct id env => ∀ o ∈ w.objs.cell id,
      destroyFails o.socket.api env → (o.handlers .onError).isSome
  | .accept id _ _ _ env => ∀ o ∈ w.objs.cell id,
      (env (.socketAccept o.socket w.objs.next)).err ≠ .none →
        ¬ destroyFails (w.registry o.socket.stack) env
  | _ => True

/-- The posting sites one by one: the event dispatchers all look at the
handler first, `error_check` does not. -/
theorem posts_set_iff {w w' : World n} {a : Action n} (h : w.Stepped a w') :
    (∀ b ∈ w.posts a, b.fn.isSome) ↔ w.ChecksHandled a := by
  cases h with
  | registered stack api hnew => simp [posts, ChecksHandled]
  | built loc h ctor env _ _ _ =>
      cases ctor with
      | adopt sock =>
          simp only [posts, Ctor.posts, ChecksHandled]
          split <;> simp [*]
      | _ => simp [posts, Ctor.posts, ChecksHandled]
  | destructed id o env hcell =>
      simp only [posts, hcell, Option.elim_some, SocketObj.lastPosts, ChecksHandled,
        Option.mem_some_iff, forall_eq']
      split <;> simp [*]
  | ran id o op env ret f hcell _ _ =>
      cases op with
      | errorCheck err =>
          simp only [posts, hcell, Option.elim_some, Op.posts, ChecksHandled,
            Option.mem_some_iff, forall_eq']
          split <;> simp [*]
      | _ => simp [posts, hcell, Op.posts, ChecksHandled]
  | accepted id o newImpl loc h env hcell _ _ _ hok => simp [posts, hcell, hok, ChecksHandled]
  | refused id o newImpl loc h env hcell _ _ _ hfail =>
      simp only [posts, hcell, Option.elim_some, if_neg hfail, SocketObj.lastPosts,
        Ctor.frame_api, Ctor.frame_handlers, ChecksHandled, Option.mem_some_iff, forall_eq']
      have hstack : (acceptCtor o newImpl).stack = o.socket.stack := rfl
      rw [hstack]
      split <;> simp [*]
  | delivered id o ev hcell =>
      simp only [posts, hcell, Option.elim_some, ChecksHandled, iff_true]
      intro b hb
      obtain ⟨args, _, hset, rfl⟩ := SocketObj.mem_delivers hb
      exact hset
  | dispatched i b hb => simp [posts, ChecksHandled]
  | fired h hs => simp [posts, ChecksHandled]

theorem postedSet_step_iff (w : World n) (a : Action n) (w' : World n)
    (hw : w.PostedSet) (hstep : w.next a = some w') :
    w'.PostedSet ↔ w.ChecksHandled a := by
  have hstepped := next_stepped hstep
  rw [← posts_set_iff hstepped]
  rcases hstepped.queue with ⟨i, b, rfl, hb, hpending, hdispatched⟩ | ⟨_, hpending, hdispatched⟩
  · refine ⟨fun _ => by simp [posts], fun _ c hc => ?_⟩
    rw [hpending, hdispatched] at hc
    rcases List.mem_append.mp hc with hleft | hright
    · exact hw c (List.mem_append_left _ (List.mem_of_mem_eraseIdx hleft))
    · rcases List.mem_append.mp hright with hold | hnew
      · exact hw c (List.mem_append_right _ hold)
      · rw [List.mem_singleton.mp hnew]
        exact hw b (List.mem_append_left _ (List.mem_of_getElem? hb))
  · unfold PostedSet
    rw [hpending, hdispatched]
    constructor
    · intro hset b hb
      exact hset b (by simp [hb])
    · intro hnew b hb
      rcases List.mem_append.mp hb with hleft | hright
      · rcases List.mem_append.mp hleft with hold | hposted
        · exact hw b (List.mem_append_left _ hold)
        · exact hnew b hposted
      · exact hw b (List.mem_append_right _ hright)

/-- In a run, only set handlers are ever posted exactly if no step hands an
error to `error_check` on a socket without an `onError` handler. -/
theorem postedSet_iff_checks_handled (as : List (Action n)) :
    EachState World.next PostedSet World.init as ↔
      EachStep World.next ChecksHandled World.init as :=
  eachState_iff_eachStep_of_local postedSet_step_iff as (by simp [PostedSet, init])

/-- The application checks an error before it has set a handler. -/
def uncheckedError : List (Action 32) :=
  [.register 0 ⟨true, 250, 7⟩, .construct 4096 1 (.udp 0) .quiet,
    .op 0 (.errorCheck .unknown) .quiet]

theorem uncheckedError_posts_unset :
    ¬ EachState World.next PostedSet World.init uncheckedError := by
  intro h
  have hend : ∃ w, run World.next World.init uncheckedError = some w ∧
      w.pending = [⟨0, none, .onError .unknown⟩] := ⟨_, rfl, rfl⟩
  obtain ⟨w, hrun, hpending⟩ := hend
  have hset := eachState_last h hrun ⟨0, none, .onError .unknown⟩ (by simp [hpending])
  simp at hset

end MbedSockets.World
