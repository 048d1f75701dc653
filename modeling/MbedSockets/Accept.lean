import MbedSockets.Tick

/-!
`TCPListener::accept` as a transaction. It builds a stream around the new
control block and, when the stack refuses the connection, deletes the stream
again. The three constructors and three destructors all touch the statics of
`TCPAsynch`; that they cancel out rests on the counter being exact and on the
listener itself being counted. No assumption on the periods of the stacks is
needed for that, so the invariant here is weaker than the one behind the tick.
-/

namespace MbedSockets

open Lib.Run

variable {n : Nat}

namespace World

/-- The counter counts the live TCP sockets, and a socket's api is still the
one registered for its stack. -/
structure Counted (w : World n) : Prop where
  count : w.ticker.tcpSockets.toNat = w.tcpLive
  placed : w.Placed
  registered : ∀ id o api, w.objs.cell id = some o → o.socket.api = some api →
    w.registry o.socket.stack = some api

theorem init_counted : (init : World n).Counted where
  count := by simp [init, Ticker.init, tcpLive]
  placed := init_tickInv.placed
  registered := by simp [init]

theorem Counted.built {w : World n} (hw : w.Counted) {loc : BitVec n} (hvacant : w.vacant loc)
    (h : Handle) (env : Env) (ctor : Ctor) : (w.built loc h env ctor).Counted := by
  refine ⟨?_, hw.placed.alloc hvacant h env ctor, ?_⟩
  · rw [built_ticker, tcpLive_built]
    split
    · rw [TCPAsynch.retain_tcpSockets]
      exact toNat_add_one hw.count (hw.placed.room hvacant)
    · exact hw.count
  · intro id o api hcell hapi
    rw [built_objs, Lib.Heap.alloc_cell_eq_some] at hcell
    rw [built_registry]
    rcases hcell with ⟨_, rfl⟩ | hold
    · simpa using hapi
    · exact hw.registered id o api hold hapi

theorem Counted.destructed {w : World n} (hw : w.Counted) {id : ObjId} {o : SocketObj}
    (hcell : w.objs.cell id = some o) (env : Env) : (w.destructed id o env).Counted := by
  refine ⟨?_, hw.placed.destructed id o env, ?_⟩
  · have hlive := tcpLive_destructed hcell env
    rw [destructed_ticker]
    unfold SocketObj.tcpWeight at hlive
    split at hlive
    · rename_i htcp
      rw [if_pos htcp, TCPAsynch.release_tcpSockets]
      exact toNat_sub_one (hw.count.trans hlive.symm)
    · rename_i hudp
      rw [if_neg hudp]
      exact hw.count.trans hlive.symm
  · intro i p api hp hapi
    rw [destructed_objs, Lib.Heap.free_cell_eq_some] at hp
    rw [destructed_registry]
    exact hw.registered i p api hp.2 hapi

theorem Counted.commit {w : World n} (hw : w.Counted) {o : SocketObj} {f : Frame}
    (hcell : w.objs.cell f.this = some o) (hsame : (Frame.start f.this o).SameObject f) :
    (w.commit f).Counted := by
  refine ⟨?_, hw.placed.commit f, ?_⟩
  · rw [commit_ticker, tcpLive_commit hcell hsame.cls]
    exact hw.count
  · intro i p api hp hapi
    rw [commit_objs, Lib.Heap.set_cell_eq_some _ hcell] at hp
    rw [commit_registry]
    rcases hp with ⟨rfl, rfl⟩ | ⟨_, hold⟩
    · rw [hsame.api] at hapi
      rw [hsame.stack]
      exact hw.registered _ o api hcell hapi
    · exact hw.registered i p api hold hapi

theorem counted_step (w : World n) (a : Action n) (w' : World n) (hw : w.Counted) (_ : True)
    (hstep : w.next a = some w') : w'.Counted := by
  cases next_stepped hstep with
  | registered stack api hnew =>
      refine ⟨hw.count, ⟨hw.placed.distinct, hw.placed.nonnull⟩, ?_⟩
      intro id o api' hcell hapi
      have hold := hw.registered id o api' hcell hapi
      have hne : o.socket.stack ≠ stack := by
        rintro rfl
        simp [hnew] at hold
      simpa [Function.update_of_ne hne] using hold
  | built loc h ctor env hvacant _ _ => exact hw.built hvacant h env ctor
  | destructed id o env hcell => exact hw.destructed hcell env
  | ran id o op env ret f hcell _ hexec =>
      have hsame := (Op.exec_ran hexec).same
      obtain rfl : f.this = id := hsame.this
      exact hw.commit hcell hsame
  | accepted id o newImpl loc h env _ _ hvacant _ _ => exact hw.built hvacant h env _
  | refused id o newImpl loc h env _ _ hvacant _ _ =>
      exact (hw.built hvacant h env _).destructed (by simp) env
  | delivered id o ev hcell =>
      exact hw.commit (f := ⟨id, _, [], o.delivers id ev⟩) hcell ⟨rfl, rfl, rfl, rfl⟩
  | dispatched i b hb => exact ⟨hw.count, ⟨hw.placed.distinct, hw.placed.nonnull⟩, hw.registered⟩
  | fired h hs => exact ⟨hw.count, ⟨hw.placed.distinct, hw.placed.nonnull⟩, hw.registered⟩

theorem counted_of_run {as : List (Action n)} {w : World n}
    (hrun : run World.next World.init as = some w) : w.Counted :=
  eachState_last (eachState_of_step counted_step init_counted
    (eachStep_true _ _)) hrun

/-! ### All or nothing -/

/-- Assumed of `socket_accept`: the control block of the socket it is given stays
as it is, and when it succeeds, the family too. -/
structure AcceptLeaves (a : Answer) (s : StructSocket) : Prop where
  impl : (a.store s).impl = s.impl
  family : a.err = .none → (a.store s).family = s.family

/-- A live stream is returned that has the stack of the listener, the new
control block and no handlers, and it is counted. -/
structure Handed (w : World n) (listener : SocketObj) (newImpl : Option Impl) (ret : Ret)
    (w' : World n) : Prop where
  stream : ∃ id o, ret = .stream (some id) ∧ w.objs.cell id = none ∧ w'.objs.cell id = some o ∧
    o.cls = .stream ∧ o.socket.stack = listener.socket.stack ∧
    o.socket.api = listener.socket.api ∧ o.socket.family = listener.socket.family ∧
    o.socket.impl = newImpl ∧ ∀ slot, o.handlers slot = none
  counted : w'.ticker.tcpSockets.toNat = w.ticker.tcpSockets.toNat + 1

/-- Nothing is returned, `newImpl` has been passed to `destroy` so many times,
and the rest is as before: every object with its fields and handlers, and of
the statics the history of the tick too. -/
structure Undone (w : World n) (newImpl : Option Impl) (times : Nat) (ret : Ret)
    (w' : World n) : Prop where
  ret : ret = .stream none
  destroyed : ∃ es, w'.calls = w.calls ++ es ∧
    es.countP (fun e => e.call = .destroy && e.impl = newImpl) = times
  ticker : w'.ticker = w.ticker
  objs : ∀ id, w'.objs.cell id = w.objs.cell id

section accept

variable {w : World n} {o : SocketObj} {newImpl : Option Impl} {env : Env}

theorem acceptCtor_impl_of_leaves
    (hleaves : AcceptLeaves (env (.socketAccept o.socket w.objs.next))
      { o.socket with impl := newImpl }) :
    ((acceptCtor o newImpl).frame w.registry w.objs.next env).obj.socket.impl = newImpl :=
  hleaves.impl

theorem acceptCtor_family_of_leaves
    (hleaves : AcceptLeaves (env (.socketAccept o.socket w.objs.next))
      { o.socket with impl := newImpl })
    (herr : (env (.socketAccept o.socket w.objs.next)).err = .none) :
    ((acceptCtor o newImpl).frame w.registry w.objs.next env).obj.socket.family =
      o.socket.family :=
  hleaves.family herr

theorem handed_of_built (hw : w.Counted) {loc : BitVec n} (hvacant : w.vacant loc) (h : Handle)
    {id : ObjId} {api : SocketApi} (hcell : w.objs.cell id = some o)
    (hapi : o.socket.api = some api)
    (hleaves : AcceptLeaves (env (.socketAccept o.socket w.objs.next))
      { o.socket with impl := newImpl })
    (herr : (env (.socketAccept o.socket w.objs.next)).err = .none) :
    w.Handed o newImpl (.stream (some w.objs.next)) (w.built loc h env (acceptCtor o newImpl)) := by
  have hregistered : w.registry o.socket.stack = o.socket.api := by
    rw [hapi]
    exact hw.registered id o api hcell hapi
  constructor
  · refine ⟨w.objs.next, _, rfl, w.objs.fresh _ le_rfl, by simp, Ctor.frame_cls _ _ _ _,
      Ctor.frame_stack _ _ _ _, (Ctor.frame_api _ _ _ _).trans hregistered,
      acceptCtor_family_of_leaves hleaves herr, acceptCtor_impl_of_leaves hleaves, ?_⟩
    intro slot
    rw [Ctor.frame_handlers]
  · rw [(hw.built hvacant h env _).count, tcpLive_built, hw.count]
    rfl

/-- The destructor of the refused stream passes its control block to
`destroy`, if there is one. -/
theorem refused_destroys (hw : w.Counted) (loc : BitVec n) (h : Handle) {id : ObjId}
    {api : SocketApi} (hcell : w.objs.cell id = some o) (hapi : o.socket.api = some api)
    (hleaves : AcceptLeaves (env (.socketAccept o.socket w.objs.next))
      { o.socket with impl := newImpl }) :
    ∃ es, ((w.built loc h env (acceptCtor o newImpl)).destructed w.objs.next
        ((acceptCtor o newImpl).frame w.registry w.objs.next env).obj env).calls = w.calls ++ es ∧
      es.countP (fun e => e.call = .destroy && e.impl = newImpl) =
        if api.hasDestroy then 1 else 0 := by
  have hstack : (acceptCtor o newImpl).stack = o.socket.stack := rfl
  have hbuilt : ((acceptCtor o newImpl).frame w.registry w.objs.next env).calls.countP
      (fun e => e.call = .destroy && e.impl = newImpl) = 0 := rfl
  have himpl := acceptCtor_impl_of_leaves hleaves
  rw [destructed_calls, built_calls, List.append_assoc]
  refine ⟨_, rfl, ?_⟩
  rw [List.countP_append, hbuilt, Nat.zero_add, destructorFrame,
    if_neg (by simp [acceptCtor, Ctor.cls]), Socket.deinit_calls]
  simp only [Frame.start, List.nil_append, Ctor.frame_api, ApiCall.entry, himpl, hstack,
    hw.registered id o api hcell hapi, Option.any_some]
  split <;> simp

/-- The construction and the destruction cancel out, but for that call. -/
theorem undone_of_destructed (hw : w.Counted) (loc : BitVec n) (h : Handle) {id : ObjId}
    {api : SocketApi} (hcell : w.objs.cell id = some o) (hcls : o.cls = .listener)
    (hapi : o.socket.api = some api)
    (hleaves : AcceptLeaves (env (.socketAccept o.socket w.objs.next))
      { o.socket with impl := newImpl }) :
    w.Undone newImpl (if api.hasDestroy then 1 else 0) (.stream none)
      ((w.built loc h env (acceptCtor o newImpl)).destructed w.objs.next
        ((acceptCtor o newImpl).frame w.registry w.objs.next env).obj env) where
  ret := rfl
  destroyed := refused_destroys hw loc h hcell hapi hleaves
  ticker := refused_ticker hw.count hcell hcls newImpl loc h env
  objs := refused_cell w o newImpl loc h env

end accept

/-- A listener on a stack with the given api. -/
def oneListener (api : SocketApi) : List (Action 32) :=
  [.register 0 api, .construct 4096 1 (.listener 0) .quiet]

/-- A stack that refuses every connection. -/
def refusingAccept : Env
  | .socketAccept _ _ => { err := .unknown }
  | _ => {}

/-- A stack that accepts every connection and writes the family of the new
socket, but not its control block. -/
def familyWritingAccept : Env
  | .socketAccept _ _ => { family := some .dgram }
  | _ => {}

/-- The listener 0 is live on a registered stack, and there is room for one more
object. -/
structure ReadyToAccept (w : World 32) (o : SocketObj) : Prop where
  cell : w.objs.cell 0 = some o
  cls : o.cls = .listener
  api : o.socket.api ≠ none
  vacant : w.vacant 8192
  unused : w.ticker.scheduled 2 = false

end World

end MbedSockets
