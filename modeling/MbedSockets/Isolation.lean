import MbedSockets.Steps

/-!
One socket among others. A `SocketHistory` is what becomes of a single socket:
its object, the calls that its actions make and the callbacks bound to it. It is
computed from the actions addressed to that socket. Of the rest of the world only
an `accept` sees something: the number of the stream that it builds, and the
registered stacks, which its constructor asks for the api. Whatever the other
sockets do in between, in every run each socket goes through this history.
-/

namespace MbedSockets

open Lib.Run

variable {n : Nat}

/-- The socket an action is addressed to. -/
def Action.target : Action n → Option ObjId
  | .destruct id _ | .op id _ _ | .accept id _ _ _ _ | .event id _ => some id
  | .register _ _ | .construct _ _ _ _ | .dispatch _ | .tick _ => none

def Action.isAccept : Action n → Bool
  | .accept _ _ _ _ _ => true
  | _ => false

/-- An action as the socket it is addressed to sees it. -/
inductive OwnAction
  | destruct (env : Env)
  | op (op : Op) (env : Env)
  | accept (newImpl : Option Impl) (env : Env) (stream : ObjId)
      (registry : Stack → Option SocketApi)
  | event (ev : SocketEvent)

/-- The calls of `accept`: those of the stream's constructor and, when the
connection is refused, of its destructor. -/
def SocketObj.acceptCalls (o : SocketObj) (newImpl : Option Impl) (env : Env) (stream : ObjId)
    (registry : Stack → Option SocketApi) : List ApiEntry :=
  let f := (World.acceptCtor o newImpl).frame registry stream env
  if (env (.socketAccept o.socket stream)).err = .none then f.calls
  else f.calls ++ (destructorFrame env stream f.obj).calls

/-- A socket, the calls that its actions have made and the callbacks bound to it. -/
structure SocketHistory where
  obj : Option SocketObj
  calls : List ApiEntry
  posted : List Bound

namespace SocketHistory

/-- Add the calls and posted callbacks of a member function. -/
def absorb (h : SocketHistory) (obj : Option SocketObj) (f : Frame) : SocketHistory :=
  ⟨obj, h.calls ++ f.calls, h.posted ++ f.posted⟩

/-- What one action does to the socket `id`. The stream that `accept` builds is
another socket, so what its destructor posts is not for this one. -/
def step (id : ObjId) (h : SocketHistory) (a : OwnAction) : SocketHistory :=
  match h.obj with
  | none => h
  | some o =>
    match a with
    | .destruct env => h.absorb none (destructorFrame env id o)
    | .op op env =>
      match op.exec env (.start id o) with
      | .ok (_, f) => h.absorb (some f.obj) f
      | .error _ => h
    | .accept newImpl env stream registry =>
      { h with calls := h.calls ++ o.acceptCalls newImpl env stream registry }
    | .event ev =>
      match Socket.nvEventHandler (.start id { o with socket.event := some ev }) with
      | .ok (_, f) => h.absorb (some f.obj) f
      | .error _ => h

end SocketHistory

namespace World

/-- An action as the socket that it is addressed to sees it. -/
def addressed (w : World n) : Action n → List OwnAction
  | .destruct _ env => [.destruct env]
  | .op _ op env => [.op op env]
  | .accept _ newImpl _ _ env => [.accept newImpl env w.objs.next w.registry]
  | .event _ ev => [.event ev]
  | .register _ _ | .construct _ _ _ _ | .dispatch _ | .tick _ => []

/-- What the socket `id` sees of an action. -/
def shown (id : ObjId) (w : World n) (a : Action n) : List OwnAction :=
  if a.target = some id then w.addressed a else []

/-- The history of a socket in a run, by what it sees of the run. -/
def history (id : ObjId) (w : World n) (as : List (Action n)) : SocketHistory :=
  (observed World.next (shown id) w as).foldl (SocketHistory.step id) ⟨w.objs.cell id, [], []⟩

/-- The calls that an action adds to the log, each with that action. -/
def logged (w : World n) (a : Action n) : List (Action n × ApiEntry) :=
  (w.next a).elim [] fun w' => (w'.calls.drop w.calls.length).map fun e => (a, e)

/-- The calls of a run, each with the action that made it. -/
def callLog (w : World n) (as : List (Action n)) : List (Action n × ApiEntry) :=
  observed World.next logged w as

/-- The callbacks that a run posts, in the order in which it posts them. -/
def postLog (w : World n) (as : List (Action n)) : List Bound := observed World.next posts w as

theorem logged_eq {w w' : World n} {a : Action n} {es : List ApiEntry}
    (hnext : w.next a = some w') (hcalls : w'.calls = w.calls ++ es) :
    w.logged a = es.map fun e => (a, e) := by
  rw [logged, hnext, Option.elim_some, hcalls, List.drop_left]

/-- The log of the world is the log of the run. -/
theorem calls_eq_callLog {w w' : World n} {as : List (Action n)}
    (hrun : run World.next w as = some w') :
    w'.calls = w.calls ++ (w.callLog as).map Prod.snd := by
  have hlog := observed_append logged
    (R := fun (u : World n) l => u.calls = w.calls ++ l.map Prod.snd) ?_
    (show w.calls = w.calls ++ [].map Prod.snd by simp) hrun
  · exact hlog
  · intro u a u' l hu hnext
    obtain ⟨es, hcalls⟩ := (next_stepped hnext).calls_grow
    rw [logged_eq hnext hcalls, hcalls, hu]
    simp [Function.comp_def]

/-- What has been posted is dispatched or pending. -/
theorem queue_perm_postLog {w w' : World n} {as : List (Action n)}
    (hrun : run World.next w as = some w') :
    (w'.dispatched ++ w'.pending).Perm (w.dispatched ++ w.pending ++ w.postLog as) := by
  apply observed_append posts
    (R := fun (u : World n) l => (u.dispatched ++ u.pending).Perm l) _ (List.Perm.refl _) hrun
  intro u a u' l hu hnext
  exact (next_stepped hnext).queue_perm.trans (hu.append_right _)

/-- A callback is bound to the socket that the step is addressed to, or to the
one that the step constructs. -/
theorem Stepped.posts_this {w w' : World n} {a : Action n} (h : w.Stepped a w') {b : Bound}
    (hb : b ∈ w.posts a) :
    a.isAccept = false ∧ a.target = some b.this ∨
      (a.target = none ∨ a.isAccept = true) ∧ b.this = w.objs.next := by
  cases h with
  | built loc h ctor env _ _ _ =>
      obtain ⟨err, rfl⟩ := Ctor.mem_posts hb
      exact Or.inr ⟨.inl rfl, rfl⟩
  | destructed id o env hcell =>
      simp only [posts, hcell, Option.elim_some] at hb
      rw [SocketObj.mem_lastPosts hb]
      exact Or.inl ⟨rfl, rfl⟩
  | ran id o op env ret f hcell _ _ =>
      simp only [posts, hcell, Option.elim_some] at hb
      obtain ⟨err, rfl⟩ := Op.mem_posts hb
      exact Or.inl ⟨rfl, rfl⟩
  | accepted id o newImpl loc h env hcell _ _ _ hok => simp [posts, hcell, hok] at hb
  | refused id o newImpl loc h env hcell _ _ _ hfail =>
      simp only [posts, hcell, Option.elim_some, if_neg hfail] at hb
      rw [SocketObj.mem_lastPosts hb]
      exact Or.inr ⟨.inr rfl, rfl⟩
  | delivered id o ev hcell =>
      simp only [posts, hcell, Option.elim_some] at hb
      obtain ⟨args, _, _, rfl⟩ := SocketObj.mem_delivers hb
      exact Or.inl ⟨rfl, rfl⟩
  | _ => simp [posts] at hb

/-- What a socket that is not the target of a step, or only accepts in it, gets
posted: nothing. -/
theorem Stepped.posts_other {w w' : World n} {a : Action n} (h : w.Stepped a w') {id : ObjId}
    (hknown : id < w.objs.next) (hother : a.target ≠ some id ∨ a.isAccept = true) :
    (w.posts a).filter (fun b => b.this = id) = [] := by
  apply List.filter_eq_nil_iff.mpr
  intro b hb
  simp only [decide_eq_true_eq]
  rintro rfl
  rcases h.posts_this hb with ⟨hmember, htarget⟩ | ⟨_, hnew⟩
  · exact hother.elim (fun hne => hne htarget) (fun haccept => by simp [hmember] at haccept)
  · exact hknown.ne hnew

theorem Stepped.posts_own {w w' : World n} {a : Action n} (h : w.Stepped a w') {id : ObjId}
    (htarget : a.target = some id) (hmember : a.isAccept = false) :
    (w.posts a).filter (fun b => b.this = id) = w.posts a := by
  apply List.filter_eq_self.mpr
  intro b hb
  rcases h.posts_this hb with ⟨_, hthis⟩ | ⟨hnew, _⟩
  · simpa using (Option.some.inj (htarget.symm.trans hthis)).symm
  · simp [htarget, hmember] at hnew

/-- A step that is addressed to another socket, or is an `accept`, leaves this one
alone. -/
theorem Stepped.other_cell {w w' : World n} {a : Action n} (h : w.Stepped a w') {id : ObjId}
    (hknown : id < w.objs.next) (hother : a.target ≠ some id ∨ a.isAccept = true) :
    w'.objs.cell id = w.objs.cell id := by
  have hnew : id ≠ w.objs.next := hknown.ne
  cases h with
  | built loc h ctor env _ _ _ => rw [built_objs, Lib.Heap.alloc_cell_of_ne _ _ hnew]
  | destructed id' o env _ =>
      have hne : id ≠ id' := fun heq => by simp [Action.target, Action.isAccept, heq] at hother
      rw [destructed_objs, Lib.Heap.free_cell_of_ne _ hne]
  | ran id' o op env ret f _ _ hexec =>
      have hne : id ≠ f.this := by
        rw [(Op.exec_ran hexec).same.this]
        exact fun heq => by simp [Action.target, Action.isAccept, Frame.start, heq] at hother
      rw [commit_objs, Lib.Heap.set_cell_of_ne _ _ hne]
  | accepted id' o newImpl loc h env _ _ _ _ _ =>
      rw [built_objs, Lib.Heap.alloc_cell_of_ne _ _ hnew]
  | refused id' o newImpl loc h env _ _ _ _ _ => exact refused_cell w o newImpl loc h env id
  | delivered id' o ev _ =>
      have hne : id ≠ id' := fun heq => by simp [Action.target, Action.isAccept, heq] at hother
      rw [delivered_objs, Lib.Heap.set_cell_of_ne _ _ hne]
  | _ => rfl

theorem Stepped.next_le {w w' : World n} {a : Action n} (h : w.Stepped a w') :
    w.objs.next ≤ w'.objs.next := by
  cases h <;> simp

/-- The history goes on from `h` to `h'` while the world gets to `w'`, with these
callbacks posted and these calls made on the way. -/
structure GoesOn (id : ObjId) (w' : World n) (posts : List Bound)
    (calls : List (Action n × ApiEntry)) (h h' : SocketHistory) : Prop where
  obj : h'.obj = w'.objs.cell id
  posted : h'.posted = h.posted ++ posts.filter fun b => b.this = id
  calls : h'.calls = h.calls ++ (calls.filter fun e => e.1.target = some id).map Prod.snd

namespace GoesOn

variable {id : ObjId} {w w' w'' : World n} {a : Action n} {h h' h'' : SocketHistory}

theorem trans {posts posts' : List Bound} {calls calls' : List (Action n × ApiEntry)}
    (hfirst : GoesOn id w' posts calls h h') (hrest : GoesOn id w'' posts' calls' h' h'') :
    GoesOn id w'' (posts ++ posts') (calls ++ calls') h h'' := by
  refine ⟨hrest.obj, ?_, ?_⟩
  · rw [hrest.posted, hfirst.posted, List.filter_append, List.append_assoc]
  · rw [hrest.calls, hfirst.calls, List.filter_append, List.map_append, List.append_assoc]

/-- A step that the socket does not see. -/
theorem other (hknown : id < w.objs.next) (hobj : h.obj = w.objs.cell id)
    (hnext : w.next a = some w') (hother : a.target ≠ some id) :
    GoesOn id w' (w.posts a) (w.logged a) h h := by
  have hstep := next_stepped hnext
  obtain ⟨es, hcalls⟩ := hstep.calls_grow
  refine ⟨hobj.trans (hstep.other_cell hknown (.inl hother)).symm, ?_, ?_⟩
  · rw [hstep.posts_other hknown (.inl hother), List.append_nil]
  · rw [logged_eq hnext hcalls, List.filter_eq_nil_iff.mpr, List.map_nil, List.append_nil]
    simp [hother]

/-- A step that is addressed to the socket. -/
theorem own {es : List ApiEntry} (hnext : w.next a = some w') (htarget : a.target = some id)
    (hcalls : w'.calls = w.calls ++ es) (hobj : h'.obj = w'.objs.cell id)
    (hposted : h'.posted = h.posted ++ (w.posts a).filter fun b => b.this = id)
    (hadded : h'.calls = h.calls ++ es) : GoesOn id w' (w.posts a) (w.logged a) h h' := by
  refine ⟨hobj, hposted, ?_⟩
  have hall : (w.logged a).filter (fun e => e.1.target = some id) = w.logged a := by
    apply List.filter_eq_self.mpr
    simp [logged_eq hnext hcalls, htarget]
  rw [hall, logged_eq hnext hcalls, hadded, List.map_map]
  simp [Function.comp_def]

/-- A member of the socket that ends in the frame `f`. -/
theorem absorb {f : Frame} {obj : Option SocketObj} (hnext : w.next a = some w')
    (htarget : a.target = some id) (hmember : a.isAccept = false)
    (hobj : w'.objs.cell id = obj) (hcalls : w'.calls = w.calls ++ f.calls)
    (hposts : w.posts a = f.posted) :
    GoesOn id w' (w.posts a) (w.logged a) h (h.absorb obj f) := by
  apply own hnext htarget hcalls hobj.symm _ rfl
  rw [(next_stepped hnext).posts_own htarget hmember, hposts]
  rfl

/-- An `accept` of the socket. -/
theorem accepted {obj : Option SocketObj} {es : List ApiEntry} (hknown : id < w.objs.next)
    (hobj : w.objs.cell id = obj) (hnext : w.next a = some w') (htarget : a.target = some id)
    (haccept : a.isAccept = true) (hcalls : w'.calls = w.calls ++ es) :
    GoesOn id w' (w.posts a) (w.logged a) h ⟨obj, h.calls ++ es, h.posted⟩ := by
  have hstep := next_stepped hnext
  apply own hnext htarget hcalls _ _ rfl
  · exact hobj.symm.trans (hstep.other_cell hknown (.inr haccept)).symm
  · rw [hstep.posts_other hknown (.inr haccept), List.append_nil]

end GoesOn

/-- One step of the world and what the socket sees of it. -/
theorem history_step {id : ObjId} {w w' : World n} {a : Action n} {h : SocketHistory}
    (hknown : id < w.objs.next) (hobj : h.obj = w.objs.cell id) (hnext : w.next a = some w') :
    GoesOn id w' (w.posts a) (w.logged a) h ((w.shown id a).foldl (SocketHistory.step id) h) := by
  by_cases htarget : a.target = some id
  · rw [shown, if_pos htarget]
    cases next_stepped hnext with
    | destructed id' o env hcell =>
        obtain rfl : id' = id := Option.some.inj htarget
        simp only [addressed, List.foldl_cons, List.foldl_nil, SocketHistory.step, hobj, hcell]
        apply GoesOn.absorb hnext rfl rfl
        · exact Lib.Heap.free_cell_self _ _
        · exact destructed_calls w env id' o
        · rw [destructorFrame_posted]
          simp [posts, hcell]
    | ran id' o op env ret f hcell _ hexec =>
        obtain rfl : id' = id := Option.some.inj htarget
        have hthis : f.this = id' := (Op.exec_ran hexec).same.this
        simp only [addressed, List.foldl_cons, List.foldl_nil, SocketHistory.step, hobj, hcell,
          hexec]
        apply GoesOn.absorb hnext rfl rfl
        · rw [commit_objs, hthis]
          exact Lib.Heap.set_cell_self _ hcell
        · exact commit_calls w f
        · rw [(Op.exec_ran hexec).posted]
          simp [posts, hcell, Frame.start]
    | delivered id' o ev hcell =>
        obtain rfl : id' = id := Option.some.inj htarget
        simp only [addressed, List.foldl_cons, List.foldl_nil, SocketHistory.step, hobj, hcell,
          Socket.nvEventHandler_eq]
        apply GoesOn.absorb hnext rfl rfl
        · rw [delivered_objs]
          exact Lib.Heap.set_cell_self _ hcell
        · rw [delivered_calls, List.append_nil]
        · simp [posts, hcell]
    | accepted id' o newImpl loc hd env hcell _ _ _ hok =>
        obtain rfl : id' = id := Option.some.inj htarget
        simp only [addressed, List.foldl_cons, List.foldl_nil, SocketHistory.step, hobj, hcell]
        apply GoesOn.accepted hknown hcell hnext rfl rfl
        rw [built_calls, SocketObj.acceptCalls, if_pos hok]
    | refused id' o newImpl loc hd env hcell _ _ _ hfail =>
        obtain rfl : id' = id := Option.some.inj htarget
        simp only [addressed, List.foldl_cons, List.foldl_nil, SocketHistory.step, hobj, hcell]
        apply GoesOn.accepted hknown hcell hnext rfl rfl
        rw [destructed_calls, built_calls, SocketObj.acceptCalls, if_neg hfail, List.append_assoc]
    | _ => cases htarget
  · rw [shown, if_neg htarget]
    exact .other hknown hobj hnext htarget

theorem history_run {id : ObjId} {w w' : World n} {as : List (Action n)} {h : SocketHistory}
    (hknown : id < w.objs.next) (hobj : h.obj = w.objs.cell id)
    (hrun : run World.next w as = some w') :
    GoesOn id w' (w.postLog as) (w.callLog as) h
      ((observed World.next (shown id) w as).foldl (SocketHistory.step id) h) := by
  induction as generalizing w h with
  | nil =>
      obtain rfl : w = w' := Option.some.inj hrun
      exact ⟨hobj, by simp [postLog, observed, -List.filter_nil], by simp [callLog, observed]⟩
  | cons a as ih =>
      obtain ⟨u, hu, hrest⟩ := Option.bind_eq_some_iff.mp hrun
      have hfirst := history_step hknown hobj hu
      have hmore := ih (hknown.trans_le (next_stepped hu).next_le) hfirst.obj hrest
      simp only [postLog, callLog, observed, hu, Option.elim_some, List.foldl_append]
      exact hfirst.trans hmore

/-- In every run, a socket that exists at its start goes through its own history.
The calls that its actions make and the callbacks that are bound to it are, in
their order, those of its history, where the log is all that is called in the run
and everything posted is dispatched or pending. -/
theorem run_goes_through_history (w w' : World n) (as : List (Action n)) (id : ObjId)
    (hknown : id < w.objs.next) (hrun : run World.next w as = some w') :
    w'.objs.cell id = (w.history id as).obj ∧
      (w'.calls = w.calls ++ (w.callLog as).map Prod.snd ∧
        ((w.callLog as).filter fun e => e.1.target = some id).map Prod.snd =
          (w.history id as).calls) ∧
      (w'.dispatched ++ w'.pending).Perm (w.dispatched ++ w.pending ++ w.postLog as) ∧
        (w.postLog as).filter (fun b => b.this = id) = (w.history id as).posted := by
  have hgoes : GoesOn id w' (w.postLog as) (w.callLog as) ⟨w.objs.cell id, [], []⟩
      (w.history id as) := history_run hknown rfl hrun
  refine ⟨hgoes.obj.symm, ⟨calls_eq_callLog hrun, ?_⟩, queue_perm_postLog hrun, ?_⟩
  · rw [hgoes.calls, List.nil_append]
  · rw [hgoes.posted, List.nil_append]

/-- A listener and a datagram socket on one stack. -/
def twoSockets : List (Action 32) :=
  [.register 0 ⟨true, 250, 7⟩, .construct 4096 1 (.listener 0) .quiet,
    .construct 8192 2 (.udp 0) .quiet]

/-- The listener gets two connections and accepts the first, while the other
socket is busy and then destroyed. -/
def neighbours : List (Action 32) :=
  [.op 0 (.startListening (some 1) 5) .quiet, .event 1 .rxDone,
    .op 1 (.openAf .inet4) (.creating 5), .event 0 (.accept (some 7)),
    .accept 0 (some 7) 12288 2 .quiet, .destruct 1 .quiet, .event 0 (.accept (some 8))]

theorem neighbours_history :
    ∃ w w', run World.next World.init twoSockets = some w ∧
      run World.next w neighbours = some w' ∧ w'.calls.length = 4 ∧
      ((w.callLog neighbours).filter fun e => e.1.target = some 0).length = 2 ∧
      (w.postLog neighbours).filter (fun b => b.this = 0) =
        [⟨0, some 1, .onIncoming (some 7)⟩, ⟨0, some 1, .onIncoming (some 8)⟩] := by
  have hend : ∃ w w', run World.next World.init twoSockets = some w ∧ 0 < w.objs.next ∧
      run World.next w neighbours = some w' ∧ w'.calls.length = 4 ∧
      (w.history 0 neighbours).calls.length = 2 ∧
      (w.history 0 neighbours).posted =
        [⟨0, some 1, .onIncoming (some 7)⟩, ⟨0, some 1, .onIncoming (some 8)⟩] :=
    ⟨_, _, rfl, by decide, rfl, by rfl, by rfl, by rfl⟩
  obtain ⟨w, w', hinit, hknown, hrun, hall, hcalls, hposted⟩ := hend
  obtain ⟨_, ⟨_, hown⟩, _, hmine⟩ := run_goes_through_history w w' neighbours 0 hknown hrun
  refine ⟨w, w', hinit, hrun, hall, ?_, hmine.trans hposted⟩
  rw [← hcalls, ← hown, List.length_map]

end World

/-! ### Sockets of unregistered stacks -/

/-- `socket_get_api` returned null when the socket was built, and it has no
control block. -/
structure SocketObj.Unbacked (o : SocketObj) : Prop where
  api : o.socket.api = none
  impl : o.socket.impl = none

/-- An operation of such a socket that returns makes no call and reports no
success. -/
theorem Op.exec_unbacked {op : Op} {env : Env} {f f' : Frame} {ret : Ret}
    (hunbacked : f.obj.Unbacked) (hexec : op.exec env f = .ok (ret, f')) :
    f'.calls = f.calls ∧ f'.obj.socket = f.obj.socket ∧
      ret ≠ .code .none ∧ ∀ out, ret ≠ .codeAddr .none out := by
  obtain ⟨hapi, himpl⟩ := hunbacked
  cases op with
  | openAf af =>
      cases hcls : f.obj.cls <;>
        simp [Op.exec, hcls, UDPSocket.openAf, TCPAsynch.openAf, Socket.openAfPf, hapi, Ret.ofCode,
          bind, Except.bind, pure, Except.pure] at hexec
      all_goals
        obtain ⟨rfl, rfl⟩ := hexec
        simp
  | openAfPf af pf =>
      simp [Op.exec, Socket.virtualOpen_eq, Ret.ofCode, bind, Except.bind, pure,
        Except.pure] at hexec
      obtain ⟨rfl, rfl⟩ := hexec
      simp
  | setOnError hnd | setOnReadable hnd | setOnSent hnd | setOnDisconnect hnd =>
      simp only [Op.exec, Except.ok.injEq, Prod.mk.injEq] at hexec
      obtain ⟨rfl, rfl⟩ := hexec
      simp [Socket.setOnError, Socket.setOnReadable, Socket.setOnSent, TCPStream.setOnDisconnect,
        Frame.register]
  | errorCheck err =>
      simp only [Op.exec, Except.ok.injEq, Prod.mk.injEq] at hexec
      obtain ⟨rfl, rfl⟩ := hexec
      simp
  | bindAddr addr port =>
      cases addr <;>
        simp [Op.exec, Socket.bindAddr, Socket.virtualOpen_eq, himpl, Ret.ofCode, bind, Except.bind,
          pure, Except.pure] at hexec
      all_goals
        obtain ⟨rfl, rfl⟩ := hexec
        simp
  | recvFrom buf len remote port addr | sendTo buf len remote port | getLocalAddr remote
  | getRemoteAddr remote =>
      cases remote <;>
        simp [Op.exec, Socket.recvFrom, Socket.sendTo, Socket.getLocalAddr, Socket.getRemoteAddr,
          Socket.addrGetter, himpl, Ret.ofCode, Ret.ofCodeAddr, bind, Except.bind, pure,
          Except.pure] at hexec
      all_goals
        obtain ⟨rfl, rfl⟩ := hexec
        simp
  | udpConnect address port =>
      simp [Op.exec, UDPSocket.connect, hapi, Ret.ofCode, bind, Except.bind, pure,
        Except.pure] at hexec
      obtain ⟨rfl, rfl⟩ := hexec
      simp
  | setNagle enable =>
      simp [Op.exec, TCPStream.setNagle, Frame.apiErr, Frame.api, hapi, Ret.ofUnit, bind,
        Except.bind] at hexec
  | reject impl =>
      simp [Op.exec, TCPListener.reject, Frame.query, hapi, Ret.ofUnit, bind, Except.bind] at hexec
  | _ =>
      simp [Op.exec, Socket.resolve, Socket.bindText, Socket.close, Socket.recv, Socket.send,
        Socket.isConnected, Socket.getLocalPort, Socket.getRemotePort, Socket.portGetter,
        TCPStream.connect, TCPListener.startListening, TCPListener.stopListening, himpl, hapi,
        Ret.ofCode, bind, Except.bind, pure, Except.pure] at hexec
      obtain ⟨rfl, rfl⟩ := hexec
      simp

namespace World

/-- An action of an unbacked socket, other than `accept`, makes no call and leaves
the socket unbacked, if it is still there. -/
theorem Stepped.unbacked {w w' : World n} {a : Action n} (h : w.Stepped a w') {id : ObjId}
    (hknown : id < w.objs.next) (hbefore : ∀ o, w.objs.cell id = some o → o.Unbacked) :
    (∀ o, w'.objs.cell id = some o → o.Unbacked) ∧
      (a.target = some id → a.isAccept = false → w'.calls = w.calls) := by
  by_cases hother : a.target ≠ some id ∨ a.isAccept = true
  · constructor
    · exact fun o hcell => hbefore o (h.other_cell hknown hother ▸ hcell)
    · intro htarget hmember
      simp [htarget, hmember] at hother
  · push Not at hother
    obtain ⟨htarget, hmember⟩ := hother
    cases h with
    | destructed id' o env hcell =>
        obtain rfl : id' = id := Option.some.inj htarget
        have hapi := (hbefore o hcell).api
        refine ⟨fun o' hcell' => ?_, fun _ _ => ?_⟩
        · rw [destructed_objs, Lib.Heap.free_cell_self] at hcell'
          cases hcell'
        · simp [destructorFrame, Socket.deinit, hapi, Frame.start]
    | ran id' o op env ret f hcell _ hexec =>
        obtain rfl : id' = id := Option.some.inj htarget
        have hthis : f.this = id' := (Op.exec_ran hexec).same.this
        obtain ⟨hcalls, hsocket, _⟩ := Op.exec_unbacked (hbefore o hcell) hexec
        refine ⟨fun o' hcell' => ?_, fun _ _ => ?_⟩
        · rw [commit_objs, hthis, Lib.Heap.set_cell_self _ hcell] at hcell'
          obtain rfl := Option.some.inj hcell'
          exact ⟨hsocket ▸ (hbefore o hcell).api, hsocket ▸ (hbefore o hcell).impl⟩
        · rw [commit_calls, hcalls]
          exact List.append_nil _
    | delivered id' o ev hcell =>
        obtain rfl : id' = id := Option.some.inj htarget
        refine ⟨fun o' hcell' => ?_, fun _ _ => delivered_calls w id' o ev⟩
        rw [delivered_objs, Lib.Heap.set_cell_self _ hcell] at hcell'
        obtain rfl := Option.some.inj hcell'
        exact ⟨(hbefore o hcell).api, (hbefore o hcell).impl⟩
    | accepted | refused => simp [Action.isAccept] at hmember
    | _ => cases htarget

theorem unbacked_run {id : ObjId} {w w' : World n} {as : List (Action n)}
    (hknown : id < w.objs.next) (hbefore : ∀ o, w.objs.cell id = some o → o.Unbacked)
    (hrun : run World.next w as = some w') :
    (∀ o, w'.objs.cell id = some o → o.Unbacked) ∧
      ∀ e ∈ w.callLog as, e.1.target = some id → e.1.isAccept = true := by
  have hkept := observed_append logged
    (R := fun (u : World n) l => id < u.objs.next ∧ (∀ o, u.objs.cell id = some o → o.Unbacked) ∧
      ∀ e ∈ l, e.1.target = some id → e.1.isAccept = true) ?_
    (show _ ∧ _ ∧ ∀ e ∈ [], _ from ⟨hknown, hbefore, by simp⟩) hrun
  · exact hkept.2
  · rintro u a u' l ⟨hlt, hunbacked, hsilent⟩ hnext
    have hstep := next_stepped hnext
    obtain ⟨hafter, hcalls⟩ := hstep.unbacked hlt hunbacked
    refine ⟨hlt.trans_le hstep.next_le, hafter, fun e he htarget => ?_⟩
    rcases List.mem_append.mp he with hold | hnew
    · exact hsilent e hold htarget
    · obtain ⟨es, hes⟩ := hstep.calls_grow
      rw [logged_eq hnext hes] at hnew
      obtain ⟨entry, hentry, rfl⟩ := List.mem_map.mp hnew
      by_contra hmember
      have hnone := hcalls htarget (by simpa using hmember)
      rw [hes, List.append_right_eq_self] at hnone
      simp [hnone] at hentry

/-- A socket that is built before its stack is registered, and without a control
block, is unusable for the rest of its life, also after the stack has been
registered: its own operations never call the stack, and none of them that
returns a code returns `SOCKET_ERROR_NONE`. Only `accept` asks for the api anew. -/
theorem built_unregistered_stays_unusable (w w' : World n) (loc : BitVec n) (h : Handle)
    (ctor : Ctor) (env : Env) (as : List (Action n)) (hunregistered : w.registry ctor.stack = none)
    (himpl : ctor.impl w.objs.next env = none)
    (hrun : run World.next w (.construct loc h ctor env :: as) = some w') :
    (∀ e ∈ w.callLog (.construct loc h ctor env :: as),
        e.1.target = some w.objs.next → e.1.isAccept = true) ∧
      ∀ o, w'.objs.cell w.objs.next = some o → o.Unbacked ∧
        ∀ (op : Op) env ret f, op.exec env (.start w.objs.next o) = .ok (ret, f) →
          f.calls = [] ∧ ret ≠ .code .none ∧ ∀ out, ret ≠ .codeAddr .none out := by
  obtain ⟨u, hu, hrest⟩ := Option.bind_eq_some_iff.mp hrun
  have hnew : w.objs.next < u.objs.next ∧
      ∀ o, u.objs.cell w.objs.next = some o → o.Unbacked := by
    cases next_stepped hu with
    | built _ _ _ _ _ _ _ =>
        refine ⟨by simp, fun o hcell => ?_⟩
        rw [built_objs, Lib.Heap.alloc_cell_self] at hcell
        obtain rfl := Option.some.inj hcell
        exact ⟨by simpa using hunregistered, by simpa using himpl⟩
  obtain ⟨hunbacked, hsilent⟩ := unbacked_run hnew.1 hnew.2 hrest
  refine ⟨fun e he htarget => ?_, fun o hcell => ⟨hunbacked o hcell, ?_⟩⟩
  · rw [callLog, observed, hu, Option.elim_some] at he
    rcases List.mem_append.mp he with hfirst | hlater
    · obtain ⟨es, hcalls⟩ := (next_stepped hu).calls_grow
      rw [logged_eq hu hcalls] at hfirst
      obtain ⟨_, _, rfl⟩ := List.mem_map.mp hfirst
      cases htarget
    · exact hsilent e hlater htarget
  · intro op env' ret f hexec
    obtain ⟨hcalls, _, hcode⟩ := Op.exec_unbacked (hunbacked o hcell) hexec
    exact ⟨hcalls, hcode⟩

/-- A stream is built before its stack is registered and opened afterwards. -/
def registeredTooLate : List (Action 32) :=
  [.register 0 ⟨true, 250, 7⟩, .op 0 (.openAf .inet4) (.creating 5)]

theorem registeredTooLate_unusable :
    ∃ w o, run World.next World.init (.construct 4096 1 (.stream 0) .quiet :: registeredTooLate) =
        some w ∧ w.registry 0 ≠ none ∧ w.objs.cell 0 = some o ∧ o.Unbacked := by
  have hend : ∃ w o, run World.next World.init
      (.construct 4096 1 (.stream 0) .quiet :: registeredTooLate) = some w ∧
      w.registry 0 ≠ none ∧ w.objs.cell 0 = some o := ⟨_, _, rfl, by decide, rfl⟩
  obtain ⟨w, o, hrun, hregistered, hcell⟩ := hend
  have hunusable := built_unregistered_stays_unusable _ w 4096 1 (.stream 0) .quiet
    registeredTooLate rfl rfl hrun
  exact ⟨w, o, hrun, hregistered, hcell, (hunusable.2 o hcell).1⟩

end World

end MbedSockets
