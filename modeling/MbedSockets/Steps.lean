import MbedSockets.Members

/-!
The steps of the whole layer, in the form that the run properties use.
`World.Stepped` lists what a possible action does to the world; a successful
`accept` is a construction, and a failed one a construction followed by the
destruction of the same stream.
-/

namespace MbedSockets

variable {n : Nat}

namespace World

/-- The statics after the constructor or the destructor of a class. -/
def retained (w : World n) (h : Handle) (ctor : Ctor) : World n :=
  if ctor.cls.isTCPAsynch then
    { w with ticker := TCPAsynch.retain (w.registry ctor.stack) h w.ticker }
  else w

def released (w : World n) (cls : Class) : World n :=
  if cls.isTCPAsynch then { w with ticker := TCPAsynch.release w.ticker } else w

def built (w : World n) (loc : BitVec n) (h : Handle) (env : Env) (ctor : Ctor) : World n :=
  (w.retained h ctor).place loc (ctor.frame w.registry w.objs.next env)

def destructed (w : World n) (id : ObjId) (o : SocketObj) (env : Env) : World n :=
  { (w.released o.cls).absorb (destructorFrame env id o) with objs := w.objs.free id }

def delivered (w : World n) (id : ObjId) (o : SocketObj) (ev : SocketEvent) : World n :=
  w.commit ⟨id, { o with socket.event := some ev, event := none }, [], o.delivers id ev⟩

/-- The constructor call inside `accept`. -/
def acceptCtor (self : SocketObj) (newImpl : Option Impl) : Ctor :=
  .adoptFrom self.socket { self.socket with impl := newImpl }

section fields

variable (w : World n) (loc : BitVec n) (h : Handle) (env : Env) (ctor : Ctor)
  (id : ObjId) (o : SocketObj) (ev : SocketEvent) (f : Frame)

@[simp] theorem built_registry : (w.built loc h env ctor).registry = w.registry := by
  simp only [built, retained, place, absorb]
  split <;> rfl

@[simp] theorem built_objs : (w.built loc h env ctor).objs =
    w.objs.alloc (ctor.frame w.registry w.objs.next env).obj := by
  simp only [built, retained, place]
  split <;> rfl

@[simp] theorem built_location : (w.built loc h env ctor).location =
    Function.update w.location w.objs.next loc := by
  simp only [built, retained, place]
  split <;> rfl

@[simp] theorem built_ticker : (w.built loc h env ctor).ticker =
    if ctor.cls.isTCPAsynch then TCPAsynch.retain (w.registry ctor.stack) h w.ticker
    else w.ticker := by
  simp only [built, retained, place, absorb]
  split <;> rfl

@[simp] theorem built_pending : (w.built loc h env ctor).pending =
    w.pending ++ ctor.posts w.objs.next env := by
  simp only [built, retained, place, absorb, Ctor.frame_posted]
  split <;> rfl

@[simp] theorem built_dispatched : (w.built loc h env ctor).dispatched = w.dispatched := by
  simp only [built, retained, place, absorb]
  split <;> rfl

@[simp] theorem built_calls : (w.built loc h env ctor).calls =
    w.calls ++ (ctor.frame w.registry w.objs.next env).calls := by
  simp only [built, retained, place, absorb]
  split <;> rfl

@[simp] theorem destructed_registry : (w.destructed id o env).registry = w.registry := by
  simp only [destructed, released, absorb]
  split <;> rfl

@[simp] theorem destructed_objs : (w.destructed id o env).objs = w.objs.free id := rfl

@[simp] theorem destructed_location : (w.destructed id o env).location = w.location := by
  simp only [destructed, released, absorb]
  split <;> rfl

@[simp] theorem destructed_ticker : (w.destructed id o env).ticker =
    if o.cls.isTCPAsynch then TCPAsynch.release w.ticker else w.ticker := by
  simp only [destructed, released, absorb]
  split <;> rfl

@[simp] theorem destructed_pending : (w.destructed id o env).pending =
    w.pending ++ o.lastPosts id env := by
  simp only [destructed, released, absorb, destructorFrame_posted]
  split <;> rfl

@[simp] theorem destructed_dispatched : (w.destructed id o env).dispatched = w.dispatched := by
  simp only [destructed, released, absorb]
  split <;> rfl

@[simp] theorem destructed_calls : (w.destructed id o env).calls =
    w.calls ++ (destructorFrame env id o).calls := by
  simp only [destructed, released, absorb]
  split <;> rfl

@[simp] theorem commit_registry : (w.commit f).registry = w.registry := rfl
@[simp] theorem commit_objs : (w.commit f).objs = w.objs.set f.this f.obj := rfl
@[simp] theorem commit_location : (w.commit f).location = w.location := rfl
@[simp] theorem commit_ticker : (w.commit f).ticker = w.ticker := rfl
@[simp] theorem commit_pending : (w.commit f).pending = w.pending ++ f.posted := rfl
@[simp] theorem commit_dispatched : (w.commit f).dispatched = w.dispatched := rfl
@[simp] theorem commit_calls : (w.commit f).calls = w.calls ++ f.calls := rfl

@[simp] theorem delivered_registry : (w.delivered id o ev).registry = w.registry := rfl
@[simp] theorem delivered_objs : (w.delivered id o ev).objs =
    w.objs.set id { o with socket.event := some ev, event := none } := rfl
@[simp] theorem delivered_location : (w.delivered id o ev).location = w.location := rfl
@[simp] theorem delivered_ticker : (w.delivered id o ev).ticker = w.ticker := rfl
@[simp] theorem delivered_pending : (w.delivered id o ev).pending =
    w.pending ++ o.delivers id ev := rfl
@[simp] theorem delivered_dispatched : (w.delivered id o ev).dispatched = w.dispatched := rfl
@[simp] theorem delivered_calls : (w.delivered id o ev).calls = w.calls := by
  simp [delivered]

end fields

theorem construct_eq (w : World n) (loc : BitVec n) (h : Handle) (env : Env) (ctor : Ctor)
    (hnull : ∀ sock, ctor = .adopt sock → w.registry sock.stack ≠ none) :
    ∃ ret, w.construct loc h env ctor = .ok (ret, w.built loc h env ctor) := by
  cases ctor with
  | udp stack => exact ⟨_, rfl⟩
  | stream stack => exact ⟨_, rfl⟩
  | listener stack => exact ⟨_, rfl⟩
  | adoptFrom listener sock => exact ⟨_, rfl⟩
  | adopt sock =>
      obtain ⟨api, hapi⟩ := Option.ne_none_iff_exists'.mp (hnull sock rfl)
      refine ⟨.unit, ?_⟩
      simp [World.construct, TCPStream.adopt, TCPAsynch.init, TCPStream.takeOver, Frame.api,
        Socket.init, Frame.start, hapi, bind, Except.bind, pure, Except.pure, World.built,
        World.retained, Ctor.cls, Ctor.stack, Ctor.frame, Class.isTCPAsynch]

theorem construct_null (w : World n) (loc : BitVec n) (h : Handle) (env : Env)
    (sock : StructSocket) (hnull : w.registry sock.stack = none) :
    w.construct loc h env (.adopt sock) = .error .nullApi := by
  simp [World.construct, TCPStream.adopt, TCPAsynch.init, TCPStream.takeOver, Frame.api,
    Socket.init, Frame.start, hnull, bind, Except.bind]

theorem destruct_eq (w : World n) (id : ObjId) (o : SocketObj) (env : Env) :
    w.destruct id o env = .ok (w.destructed id o env) := by
  unfold World.destruct World.destructed destructorFrame released
  by_cases hcls : o.cls = .listener
  · cases hapi : o.socket.api with
    | none =>
        simp [hcls, hapi, TCPListener.stopListening, Frame.start, bind, Except.bind, pure,
          Except.pure, Class.isTCPAsynch, World.absorb]
    | some api =>
        simp [hcls, hapi, TCPListener.stopListening, Frame.start, Frame.apiErr, Frame.api,
          bind, Except.bind, pure, Except.pure, Class.isTCPAsynch, World.absorb]
  · simp only [hcls, if_false, bind, Except.bind, pure, Except.pure, false_and]
    split <;> rfl

theorem accept_eq (w : World n) (self : SocketObj) (newImpl : Option Impl) (loc : BitVec n)
    (h : Handle) (env : Env) :
    w.accept self newImpl loc h env =
      let w' := w.built loc h env (acceptCtor self newImpl)
      if (env (.socketAccept self.socket w.objs.next)).err = .none then
        .ok (.stream (some w.objs.next), w')
      else
        .ok (.stream none, w'.destructed w.objs.next
          ((acceptCtor self newImpl).frame w.registry w.objs.next env).obj env) := by
  by_cases herr : (env (.socketAccept self.socket w.objs.next)).err = .none
  · simp only [herr, if_true]
    simp [World.accept, TCPStream.adoptFrom, TCPAsynch.init, Frame.call, TCPStream.takeOver,
      Frame.start, herr, pure, Except.pure]
    rfl
  · simp only [herr, if_false]
    simp [World.accept, TCPStream.adoptFrom, TCPAsynch.init, Frame.call, TCPStream.takeOver,
      Frame.start, herr, destruct_eq, bind, Except.bind, pure, Except.pure]
    rfl

/-- The stream that a failing `accept` builds and deletes leaves every object
as it was. -/
theorem refused_cell (w : World n) (o : SocketObj) (newImpl : Option Impl) (loc : BitVec n)
    (h : Handle) (env : Env) (i : ObjId) :
    ((w.built loc h env (acceptCtor o newImpl)).destructed w.objs.next
      ((acceptCtor o newImpl).frame w.registry w.objs.next env).obj env).objs.cell i =
        w.objs.cell i := by
  rw [destructed_objs, built_objs]
  by_cases hi : i = w.objs.next
  · rw [hi, Lib.Heap.free_cell_self, w.objs.fresh _ le_rfl]
  · rw [Lib.Heap.free_cell_of_ne _ hi, Lib.Heap.alloc_cell_of_ne _ _ hi]

/-- What a possible action does. -/
inductive Stepped (w : World n) : Action n → World n → Prop
  | registered (stack : Stack) (api : SocketApi) (hnew : w.registry stack = none) :
      Stepped w (.register stack api)
        { w with registry := Function.update w.registry stack (some api) }
  | built (loc : BitVec n) (h : Handle) (ctor : Ctor) (env : Env) (hvacant : w.vacant loc)
      (hunused : w.ticker.scheduled h = false)
      (hnull : ∀ sock, ctor = .adopt sock → w.registry sock.stack ≠ none) :
      Stepped w (.construct loc h ctor env) (w.built loc h env ctor)
  | destructed (id : ObjId) (o : SocketObj) (env : Env) (hcell : w.objs.cell id = some o) :
      Stepped w (.destruct id env) (w.destructed id o env)
  | ran (id : ObjId) (o : SocketObj) (op : Op) (env : Env) (ret : Ret) (f : Frame)
      (hcell : w.objs.cell id = some o) (htyped : op.typed o.cls = true)
      (hexec : op.exec env (.start id o) = .ok (ret, f)) :
      Stepped w (.op id op env) (w.commit f)
  | accepted (id : ObjId) (o : SocketObj) (newImpl : Option Impl) (loc : BitVec n)
      (h : Handle) (env : Env) (hcell : w.objs.cell id = some o) (hcls : o.cls = .listener)
      (hvacant : w.vacant loc) (hunused : w.ticker.scheduled h = false)
      (hok : (env (.socketAccept o.socket w.objs.next)).err = .none) :
      Stepped w (.accept id newImpl loc h env) (w.built loc h env (acceptCtor o newImpl))
  | refused (id : ObjId) (o : SocketObj) (newImpl : Option Impl) (loc : BitVec n)
      (h : Handle) (env : Env) (hcell : w.objs.cell id = some o) (hcls : o.cls = .listener)
      (hvacant : w.vacant loc) (hunused : w.ticker.scheduled h = false)
      (hfail : (env (.socketAccept o.socket w.objs.next)).err ≠ .none) :
      Stepped w (.accept id newImpl loc h env)
        ((w.built loc h env (acceptCtor o newImpl)).destructed w.objs.next
          ((acceptCtor o newImpl).frame w.registry w.objs.next env).obj env)
  | delivered (id : ObjId) (o : SocketObj) (ev : SocketEvent)
      (hcell : w.objs.cell id = some o) :
      Stepped w (.event id ev) (w.delivered id o ev)
  | dispatched (i : Nat) (b : Bound) (hb : w.pending[i]? = some b) :
      Stepped w (.dispatch i)
        { w with pending := w.pending.eraseIdx i, dispatched := w.dispatched ++ [b] }
  | fired (h : Handle) (hs : w.ticker.scheduled h = true) :
      Stepped w (.tick h) { w with ticker := w.ticker.fire h }

theorem step_of_next {w w' : World n} {a : Action n} (h : w.next a = some w') :
    ∃ ret, w.step a = some (.ok (ret, w')) := by
  unfold World.next at h
  split at h
  · rename_i ret w'' hstep
    simp only [Option.some.injEq] at h
    exact ⟨ret, h ▸ hstep⟩
  · cases h

theorem next_stepped {w w' : World n} {a : Action n} (h : w.next a = some w') :
    w.Stepped a w' := by
  obtain ⟨ret, hstep⟩ := step_of_next h
  cases a with
  | register stack api =>
      simp only [World.step] at hstep
      split at hstep
      · rename_i hnew
        simp only [Option.some.injEq, Except.ok.injEq, Prod.mk.injEq] at hstep
        exact hstep.2 ▸ .registered stack api hnew
      · cases hstep
  | construct loc hd ctor env =>
      simp only [World.step] at hstep
      split at hstep
      · rename_i hok
        by_cases hnull : ∀ sock, ctor = .adopt sock → w.registry sock.stack ≠ none
        · obtain ⟨ret', heq⟩ := w.construct_eq loc hd env ctor hnull
          simp only [heq, Option.some.injEq, Except.ok.injEq, Prod.mk.injEq] at hstep
          exact hstep.2 ▸ .built loc hd ctor env hok.1 hok.2 hnull
        · push Not at hnull
          obtain ⟨sock, rfl, hnone⟩ := hnull
          simp [w.construct_null loc hd env sock hnone] at hstep
      · cases hstep
  | destruct id env =>
      simp only [World.step] at hstep
      cases hcell : w.objs.cell id with
      | none => simp [hcell] at hstep
      | some o =>
          simp only [hcell, Option.map_some, destruct_eq, bind, Except.bind, pure, Except.pure,
            Option.some.injEq, Except.ok.injEq, Prod.mk.injEq] at hstep
          exact hstep.2 ▸ .destructed id o env hcell
  | op id op env =>
      simp only [World.step] at hstep
      cases hcell : w.objs.cell id with
      | none => simp [hcell] at hstep
      | some o =>
          simp only [hcell, Option.bind_some] at hstep
          split at hstep
          · rename_i htyped
            cases hexec : op.exec env (.start id o) with
            | error e => simp [hexec, bind, Except.bind] at hstep
            | ok p =>
                obtain ⟨r, f⟩ := p
                simp only [hexec, bind, Except.bind, pure, Except.pure, Option.some.injEq,
                  Except.ok.injEq, Prod.mk.injEq] at hstep
                exact hstep.2 ▸ .ran id o op env r f hcell htyped hexec
          · cases hstep
  | accept id newImpl loc hd env =>
      simp only [World.step] at hstep
      cases hcell : w.objs.cell id with
      | none => simp [hcell] at hstep
      | some o =>
          simp only [hcell, Option.bind_some, accept_eq] at hstep
          split at hstep
          · rename_i hok
            split at hstep
            · rename_i herr
              simp only [Option.some.injEq, Except.ok.injEq, Prod.mk.injEq] at hstep
              exact hstep.2 ▸ .accepted id o newImpl loc hd env hcell hok.1 hok.2.1 hok.2.2 herr
            · rename_i herr
              simp only [Option.some.injEq, Except.ok.injEq, Prod.mk.injEq] at hstep
              exact hstep.2 ▸ .refused id o newImpl loc hd env hcell hok.1 hok.2.1 hok.2.2 herr
          · cases hstep
  | event id ev =>
      simp only [World.step] at hstep
      cases hcell : w.objs.cell id with
      | none => simp [hcell] at hstep
      | some o =>
          simp only [hcell, Option.map_some, Socket.nvEventHandler_eq, bind, Except.bind, pure,
            Except.pure, Option.some.injEq, Except.ok.injEq, Prod.mk.injEq] at hstep
          exact hstep.2 ▸ .delivered id o ev hcell
  | dispatch i =>
      simp only [World.step] at hstep
      cases hb : w.pending[i]? with
      | none => simp [hb] at hstep
      | some b =>
          simp only [hb, Option.map_some, Option.some.injEq, Except.ok.injEq,
            Prod.mk.injEq] at hstep
          exact hstep.2 ▸ .dispatched i b hb
  | tick hd =>
      simp only [World.step] at hstep
      split at hstep
      · rename_i hs
        simp only [Option.some.injEq, Except.ok.injEq, Prod.mk.injEq] at hstep
        exact hstep.2 ▸ .fired hd hs
      · cases hstep

/-- Calls are only ever added to the log. -/
theorem Stepped.calls_grow {w w' : World n} {a : Action n} (h : w.Stepped a w') :
    ∃ log, w'.calls = w.calls ++ log := by
  cases h with
  | registered stack api _ => exact ⟨[], by simp⟩
  | built loc h ctor env _ _ _ => exact ⟨_, built_calls w loc h env ctor⟩
  | destructed id o env _ => exact ⟨_, destructed_calls w env id o⟩
  | ran id o op env ret f _ _ _ => exact ⟨_, commit_calls w f⟩
  | accepted id o newImpl loc h env _ _ _ _ _ => exact ⟨_, built_calls w loc h env _⟩
  | refused id o newImpl loc h env _ _ _ _ _ =>
      exact ⟨_, by rw [destructed_calls, built_calls, List.append_assoc]⟩
  | delivered id o ev _ => exact ⟨[], by simp⟩
  | dispatched i b _ => exact ⟨[], by simp⟩
  | fired h _ => exact ⟨[], by simp⟩

/-- The callbacks that an action posts. -/
def posts (w : World n) : Action n → List Bound
  | .construct _ _ ctor env => ctor.posts w.objs.next env
  | .destruct id env => (w.objs.cell id).elim [] (·.lastPosts id env)
  | .op id op _ => (w.objs.cell id).elim [] (op.posts id)
  | .accept id newImpl _ _ env => (w.objs.cell id).elim [] fun o =>
      if (env (.socketAccept o.socket w.objs.next)).err = .none then []
      else ((acceptCtor o newImpl).frame w.registry w.objs.next env).obj.lastPosts
        w.objs.next env
  | .event id ev => (w.objs.cell id).elim [] (·.delivers id ev)
  | _ => []

/-- The queue changes in two ways only: a dispatch moves one callback from
the pending to the dispatched ones, and any other step appends its posts. -/
theorem Stepped.queue {w w' : World n} {a : Action n} (h : w.Stepped a w') :
    (∃ i b, a = .dispatch i ∧ w.pending[i]? = some b ∧
      w'.pending = w.pending.eraseIdx i ∧ w'.dispatched = w.dispatched ++ [b]) ∨
    ((∀ i, a ≠ .dispatch i) ∧ w'.pending = w.pending ++ w.posts a ∧
      w'.dispatched = w.dispatched) := by
  cases h with
  | dispatched i b hb => exact Or.inl ⟨i, b, rfl, hb, rfl, rfl⟩
  | registered stack api hnew => exact Or.inr ⟨by simp, by simp [posts], rfl⟩
  | built loc h ctor env _ _ _ => exact Or.inr ⟨by simp, by simp [posts], by simp⟩
  | destructed id o env hcell => exact Or.inr ⟨by simp, by simp [posts, hcell], by simp⟩
  | ran id o op env ret f hcell _ hexec =>
      have hposted := (Op.exec_ran hexec).posted
      exact Or.inr ⟨by simp, by simp [posts, hcell, hposted, Frame.start], by simp⟩
  | accepted id o newImpl loc h env hcell _ _ _ hok =>
      exact Or.inr ⟨by simp, by simp [posts, hcell, hok, acceptCtor, Ctor.posts], by simp⟩
  | refused id o newImpl loc h env hcell _ _ _ hfail =>
      refine Or.inr ⟨by simp, ?_, by simp⟩
      simp only [posts, hcell, Option.elim_some, if_neg hfail, destructed_pending, built_pending]
      simp [acceptCtor, Ctor.posts]
  | delivered id o ev hcell => exact Or.inr ⟨by simp, by simp [posts, hcell], by simp⟩
  | fired h hs => exact Or.inr ⟨by simp, by simp [posts], rfl⟩

theorem Stepped.queue_perm {w w' : World n} {a : Action n} (h : w.Stepped a w') :
    (w'.dispatched ++ w'.pending).Perm (w.dispatched ++ w.pending ++ w.posts a) := by
  rcases h.queue with ⟨i, b, rfl, hb, hpending, hdispatched⟩ | ⟨_, hpending, hdispatched⟩
  · obtain ⟨hi, rfl⟩ := List.getElem?_eq_some_iff.mp hb
    rw [hpending, hdispatched, List.append_assoc]
    have hmoved := (List.getElem_cons_eraseIdx_perm hi).append_left w.dispatched
    simpa [posts] using hmoved
  · rw [hpending, hdispatched, ← List.append_assoc]

/-- Everything posted is an `onError` or what the map says for an event. -/
theorem Stepped.posts_args {w w' : World n} {a : Action n} (h : w.Stepped a w') {b : Bound}
    (hb : b ∈ w.posts a) :
    (∃ err, b.args = .onError err) ∨
      ∃ id o ev, a = .event id ev ∧ w.objs.cell id = some o ∧ route o.cls ev = some b.args := by
  cases h with
  | built loc h ctor env _ _ _ =>
      obtain ⟨err, rfl⟩ := Ctor.mem_posts hb
      exact Or.inl ⟨err, rfl⟩
  | destructed id o env hcell =>
      simp only [posts, hcell, Option.elim_some] at hb
      exact Or.inl ⟨_, congrArg Bound.args (SocketObj.mem_lastPosts hb)⟩
  | ran id o op env ret f hcell _ _ =>
      simp only [posts, hcell, Option.elim_some] at hb
      obtain ⟨err, rfl⟩ := Op.mem_posts hb
      exact Or.inl ⟨err, rfl⟩
  | accepted id o newImpl loc h env hcell _ _ _ hok => simp [posts, hcell, hok] at hb
  | refused id o newImpl loc h env hcell _ _ _ hfail =>
      simp only [posts, hcell, Option.elim_some, if_neg hfail] at hb
      exact Or.inl ⟨_, congrArg Bound.args (SocketObj.mem_lastPosts hb)⟩
  | delivered id o ev hcell =>
      simp only [posts, hcell, Option.elim_some] at hb
      obtain ⟨args, hroute, _, rfl⟩ := SocketObj.mem_delivers hb
      exact Or.inr ⟨id, o, ev, rfl, hcell, hroute⟩
  | _ => simp [posts] at hb

/-- An `onIncoming` callback is posted by the event of that connection. -/
theorem Stepped.posts_onIncoming {w w' : World n} {a : Action n} (h : w.Stepped a w') {b : Bound}
    (hb : b ∈ w.posts a) (hslot : b.args.slot = .onIncoming) :
    ∃ o newimpl, a = .event b.this (.accept newimpl) ∧ w.objs.cell b.this = some o ∧
      o.cls = .listener ∧ b.args = .onIncoming newimpl := by
  rcases h.posts_args hb with ⟨err, hargs⟩ | ⟨id, o, ev, rfl, hcell, hroute⟩
  · simp [hargs, Args.slot] at hslot
  · simp only [posts, hcell, Option.elim_some] at hb
    obtain ⟨args, _, _, rfl⟩ := SocketObj.mem_delivers hb
    obtain ⟨hcls, newimpl, rfl, hargs⟩ := route_onIncoming hroute hslot
    exact ⟨o, newimpl, rfl, hcell, hcls, hargs⟩

end World

end MbedSockets
