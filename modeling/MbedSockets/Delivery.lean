import MbedSockets.Callbacks

/-!
Delivery through the scheduler against direct delivery. The `Direct` machine
has no queue: it sees registrations and events, and calls the handler that is
registered at the moment of an event at once. The world is simulated by it as
long as nothing is posted by `error_check`: what has been dispatched together
with what is pending is what the direct machine has called.
-/

namespace MbedSockets

open Lib.Run

/-- What direct delivery gets to see. -/
inductive Obs
  | registered (id : ObjId) (slot : Slot) (h : FunctionPointer)
  | event (id : ObjId) (cls : Class) (ev : SocketEvent)

structure Direct where
  handlers : ObjId → Slot → FunctionPointer
  calls : List Bound

namespace Direct

def init : Direct := ⟨fun _ _ => none, []⟩

def step (d : Direct) : Obs → Direct
  | .registered id slot h =>
    { d with handlers := Function.update d.handlers id (Function.update (d.handlers id) slot h) }
  | .event id cls ev =>
    { d with calls := d.calls ++ (route cls ev).elim [] (bindIfSet (d.handlers id) id) }

end Direct

namespace World

variable {n : Nat}

def observe (w : World n) : Action n → List Obs
  | .op id op _ => (w.objs.cell id).elim [] fun o =>
      (op.stored o).elim [] fun p => [.registered id p.1 p.2]
  | .event id ev => (w.objs.cell id).elim [] fun o => [.event id o.cls ev]
  | _ => []

/-- What direct delivery makes of a run. -/
def direct (as : List (Action n)) : Direct :=
  (observed World.next observe World.init as).foldl Direct.step .init

/-- `error_check` is given no error: neither by the application, nor by the
deprecated constructor, nor by a destructor. A run in which the sockets stay
alive and `error_check` is not called is of this kind. -/
def NoErrorChecked (w : World n) : Action n → Prop
  | .op _ (.errorCheck err) _ => err = .none
  | .construct _ _ (.adopt _) env => (env (.accept w.objs.next)).err = .none
  | .destruct id env => ∀ o ∈ w.objs.cell id, ¬ destroyFails o.socket.api env
  | .accept id _ _ _ env => ∀ o ∈ w.objs.cell id,
      (env (.socketAccept o.socket w.objs.next)).err ≠ .none →
        ¬ destroyFails (w.registry o.socket.stack) env
  | _ => True

/-- The direct machine knows the handlers of the live sockets, and none of
sockets to come. -/
structure SameHandlers (w : World n) (d : Direct) : Prop where
  live : ∀ id o, w.objs.cell id = some o → d.handlers id = o.handlers
  unborn : ∀ id, w.objs.next ≤ id → d.handlers id = fun _ => none

theorem SameHandlers.built {w : World n} {d : Direct} (h : w.SameHandlers d)
    (loc : BitVec n) (hd : Handle) (env : Env) (ctor : Ctor) :
    (w.built loc hd env ctor).SameHandlers d := by
  constructor
  · intro id o hcell
    rw [built_objs, Lib.Heap.alloc_cell_eq_some] at hcell
    rcases hcell with ⟨rfl, rfl⟩ | hold
    · rw [h.unborn _ le_rfl, Ctor.frame_handlers]
    · exact h.live id o hold
  · intro id hid
    rw [built_objs, Lib.Heap.alloc_next] at hid
    exact h.unborn id (by omega)

theorem SameHandlers.destructed {w : World n} {d : Direct} (h : w.SameHandlers d)
    (id : ObjId) (o : SocketObj) (env : Env) : (w.destructed id o env).SameHandlers d := by
  constructor
  · intro id' o' hcell
    rw [destructed_objs, Lib.Heap.free_cell_eq_some] at hcell
    exact h.live id' o' hcell.2
  · intro id' hid
    exact h.unborn id' hid

theorem SameHandlers.commit {w : World n} {d d' : Direct} (h : w.SameHandlers d)
    {f : Frame} {o : SocketObj} (hcell : w.objs.cell f.this = some o)
    (hself : d'.handlers f.this = f.obj.handlers)
    (hother : ∀ id, id ≠ f.this → d'.handlers id = d.handlers id) :
    (w.commit f).SameHandlers d' := by
  constructor
  · intro id o' hcell'
    rw [commit_objs, Lib.Heap.set_cell_eq_some _ hcell] at hcell'
    rcases hcell' with ⟨rfl, rfl⟩ | ⟨hid, hold⟩
    · exact hself
    · rw [hother id hid]
      exact h.live id o' hold
  · intro id hid
    have hlt := w.objs.lt_next hcell
    rw [commit_objs, Lib.Heap.set_next] at hid
    rw [hother id (hlt.trans_le hid).ne']
    exact h.unborn id hid

/-- The direct machine keeps up with the registrations. -/
theorem sameHandlers_step {w w' : World n} {a : Action n} {d : Direct}
    (h : w.SameHandlers d) (hstep : w.Stepped a w') :
    w'.SameHandlers ((w.observe a).foldl Direct.step d) := by
  cases hstep with
  | registered stack api hnew => exact ⟨h.live, h.unborn⟩
  | built loc hd ctor env _ _ _ => exact h.built loc hd env ctor
  | destructed id o env hcell => exact h.destructed id o env
  | ran id o op env ret f hcell _ hexec =>
      have hthis : f.this = id := (Op.exec_ran hexec).same.this
      have hhandlers := Op.exec_handlers hexec
      subst hthis
      have hlive := h.live f.this o hcell
      simp only [observe, hcell, Option.elim_some]
      cases hstored : op.stored o with
      | none =>
          apply h.commit hcell
          · simpa [Frame.start, hstored, hlive] using hhandlers.symm
          · exact fun _ _ => rfl
      | some p =>
          apply h.commit hcell
          · simpa [Frame.start, hstored, hlive, Direct.step] using hhandlers.symm
          · intro id hid
            simp [Direct.step, hid]
  | accepted id o newImpl loc hd env hcell _ _ _ _ => exact h.built loc hd env _
  | refused id o newImpl loc hd env hcell _ _ _ _ =>
      exact (h.built loc hd env _).destructed _ _ env
  | delivered id o ev hcell =>
      simp only [observe, hcell, Option.elim_some, List.foldl_cons, List.foldl_nil, Direct.step]
      exact h.commit hcell (h.live id o hcell) (fun _ _ => rfl)
  | dispatched i b hb => exact ⟨h.live, h.unborn⟩
  | fired hd hs => exact ⟨h.live, h.unborn⟩

/-- Without a checked error, what a step posts is what the direct machine
calls in the same step. -/
theorem direct_calls_step {w w' : World n} {a : Action n} {d : Direct}
    (h : w.SameHandlers d) (hquiet : w.NoErrorChecked a) (hstep : w.Stepped a w') :
    ((w.observe a).foldl Direct.step d).calls = d.calls ++ w.posts a := by
  cases hstep with
  | registered stack api hnew => simp [observe, posts]
  | built loc hd ctor env _ _ _ =>
      cases ctor with
      | adopt sock => simp [observe, posts, Ctor.posts, show (env _).err = _ from hquiet]
      | _ => simp [observe, posts, Ctor.posts]
  | destructed id o env hcell =>
      have hlast := (lastPosts_eq_nil_iff o id env).mpr (hquiet o hcell)
      simp [observe, posts, hcell, hlast]
  | ran id o op env ret f hcell _ _ =>
      have hposts : op.posts id o = [] := by
        cases op with
        | errorCheck err => simp [Op.posts, show err = _ from hquiet]
        | _ => rfl
      simp only [observe, posts, hcell, Option.elim_some, hposts, List.append_nil]
      cases op.stored o <;> rfl
  | accepted id o newImpl loc hd env hcell _ _ _ hok => simp [observe, posts, hcell, hok]
  | refused id o newImpl loc hd env hcell _ _ _ hfail =>
      have hdestroy := hquiet o hcell hfail
      have hlast := (lastPosts_eq_nil_iff
        ((acceptCtor o newImpl).frame w.registry w.objs.next env).obj w.objs.next env).mpr
        (by rw [Ctor.frame_api]; exact hdestroy)
      simp only [observe, posts, hcell, Option.elim_some, if_neg hfail, hlast, List.foldl_nil,
        List.append_nil]
  | delivered id o ev hcell =>
      simp [observe, posts, hcell, Direct.step, SocketObj.delivers, h.live id o hcell]
  | dispatched i b hb => simp [observe, posts]
  | fired hd hs => simp [observe, posts]

/-- The simulation relations: with any order of dispatch the queue is a
rearrangement of the direct calls, and with first-in first-out dispatch it is
the rest of them. -/
def Rearranges (w : World n) (d : Direct) : Prop :=
  w.SameHandlers d ∧ (w.dispatched ++ w.pending).Perm d.calls

def Continues (w : World n) (d : Direct) : Prop :=
  w.SameHandlers d ∧ w.dispatched ++ w.pending = d.calls

def InOrder (_w : World n) : Action n → Prop
  | .dispatch i => i = 0
  | _ => True

theorem rearranges_step (w : World n) (a : Action n) (w' : World n) (d : Direct)
    (h : w.Rearranges d) (hquiet : w.NoErrorChecked a) (hnext : w.next a = some w') :
    w'.Rearranges ((w.observe a).foldl Direct.step d) := by
  have hstep := next_stepped hnext
  refine ⟨sameHandlers_step h.1 hstep, ?_⟩
  rw [direct_calls_step h.1 hquiet hstep]
  exact hstep.queue_perm.trans (h.2.append_right _)

theorem continues_step (w : World n) (a : Action n) (w' : World n) (d : Direct)
    (h : w.Continues d) (ha : w.NoErrorChecked a ∧ w.InOrder a)
    (hnext : w.next a = some w') :
    w'.Continues ((w.observe a).foldl Direct.step d) := by
  have hstep := next_stepped hnext
  refine ⟨sameHandlers_step h.1 hstep, ?_⟩
  rw [direct_calls_step h.1 ha.1 hstep, ← h.2]
  rcases hstep.queue with ⟨i, b, rfl, hb, hpending, hdispatched⟩ | ⟨_, hpending, hdispatched⟩
  · obtain rfl : i = 0 := ha.2
    rw [hpending, hdispatched]
    cases hqueue : w.pending with
    | nil => simp [hqueue] at hb
    | cons c rest =>
        simp only [hqueue, List.getElem?_cons_zero, Option.some.injEq] at hb
        simp [posts, hb]
  · rw [hpending, hdispatched, List.append_assoc]

theorem init_sameHandlers : (init : World n).SameHandlers .init :=
  ⟨fun id o hcell => by simp [init] at hcell, fun _ _ => rfl⟩

/-- Delivery through the scheduler refines direct delivery. In every run in
which `error_check` finds no error, the dispatched and the pending callbacks
are the direct calls: each exactly once in any case, and in the same order
if the scheduler runs the oldest callback first. -/
theorem delivery_refines_direct (as : List (Action n)) (w : World n)
    (hrun : run World.next World.init as = some w)
    (hquiet : EachStep World.next NoErrorChecked World.init as) :
    (w.dispatched ++ w.pending).Perm (direct as).calls ∧
    ((∀ i, .dispatch i ∈ as → i = 0) → w.dispatched ++ w.pending = (direct as).calls) := by
  constructor
  · have hstart : (init : World n).Rearranges .init := ⟨init_sameHandlers, .refl _⟩
    exact (simulation observe Direct.step rearranges_step hstart hrun hquiet).2
  · intro hfifo
    have horder : EachStep World.next InOrder World.init as := by
      apply eachStep_of_forall
      intro a ha s
      cases a with
      | dispatch i => exact hfifo i ha
      | _ => trivial
    have hstart : (init : World n).Continues .init := ⟨init_sameHandlers, rfl⟩
    exact (simulation observe Direct.step continues_step hstart hrun (hquiet.and horder)).2

/-- A handler is replaced between two datagrams; the first callback is
dispatched in between and the second is still pending. -/
def replacedHandler : List (Action 32) :=
  [.register 0 ⟨true, 250, 7⟩, .construct 4096 1 (.udp 0) .quiet, .event 0 .rxDone,
    .op 0 (.setOnReadable (some 1)) .quiet, .event 0 .rxDone,
    .op 0 (.setOnReadable (some 2)) .quiet, .dispatch 0, .event 0 .rxDone]

theorem replacedHandler_in_order :
    ∃ w, run World.next World.init replacedHandler = some w ∧
      w.dispatched ++ w.pending = (direct replacedHandler).calls ∧
      (direct replacedHandler).calls = [⟨0, some 1, .onReadable⟩, ⟨0, some 2, .onReadable⟩] := by
  refine ⟨_, rfl, (delivery_refines_direct replacedHandler _ rfl ?_).2 ?_, by rfl⟩
  · apply eachStep_of_forall
    simp [replacedHandler, NoErrorChecked]
  · simp [replacedHandler]

end World

end MbedSockets
