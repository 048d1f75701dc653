import MbedSockets.Effects

/-!
What the members of the three classes do besides calling the stack: which
callbacks an operation, a constructor, a destructor and an event post, and which
handlers they leave set. The three dispatchers are one map from the kind of the
event to the handler that it is for.
-/

namespace MbedSockets

/-- What no member function changes. -/
structure Frame.SameObject (f f' : Frame) : Prop where
  this : f'.this = f.this
  cls : f'.obj.cls = f.obj.cls
  api : f'.obj.socket.api = f.obj.socket.api
  stack : f'.obj.socket.stack = f.obj.socket.stack

theorem Op.Ran.same {op : Op} {env : Env} {f f' : Frame} (h : op.Ran env f f') :
    f.SameObject f' := by
  cases h <;> exact ⟨rfl, rfl, rfl, rfl⟩

theorem Op.Ran.socket_of_nullApi {op : Op} {env : Env} {f f' : Frame} (h : op.Ran env f f')
    (hnull : f.obj.socket.api = none) : f'.obj.socket = f.obj.socket := by
  cases h with
  | requested op slot hnd c _ _ hapi => exact absurd hnull hapi
  | called op c _ _ _ hapi => exact absurd hnull hapi
  | calledTwice op c c' _ _ _ _ hapi => exact absurd hnull hapi
  | opened af hapi => exact absurd hnull hapi
  | _ => rfl

/-- The callbacks an operation posts: only `error_check` does. -/
def Op.posts (this : ObjId) (o : SocketObj) : Op → List Bound
  | .errorCheck err => if err = .none then [] else [⟨this, o.handlers .onError, .onError err⟩]
  | _ => []

theorem Op.posts_eq_nil {op : Op} (hcheck : ∀ err, op ≠ .errorCheck err)
    (this : ObjId) (o : SocketObj) : op.posts this o = [] := by
  cases op with
  | errorCheck err => exact absurd rfl (hcheck err)
  | _ => rfl

theorem Op.posts_of_registers {op : Op} {slot : Slot} {h : FunctionPointer}
    (hreg : op.registers = some (slot, h)) (this : ObjId) (o : SocketObj) :
    op.posts this o = [] := by
  apply Op.posts_eq_nil
  rintro err rfl
  cases hreg

theorem Op.mem_posts {op : Op} {this : ObjId} {o : SocketObj} {b : Bound}
    (hb : b ∈ op.posts this o) : ∃ err, b = ⟨this, o.handlers .onError, .onError err⟩ := by
  cases op with
  | errorCheck err =>
      simp only [Op.posts] at hb
      split at hb
      · simp at hb
      · exact ⟨err, List.mem_singleton.mp hb⟩
  | _ => simp [Op.posts] at hb

theorem Op.Ran.posted {op : Op} {env : Env} {f f' : Frame} (h : op.Ran env f f') :
    f'.posted = f.posted ++ op.posts f.this f.obj := by
  cases h with
  | unchanged op hcheck =>
      cases op with
      | errorCheck err => simp [Op.posts, hcheck err rfl]
      | _ => simp [Op.posts]
  | registered op slot h hreg => simp [Op.posts_of_registers hreg, Frame.register]
  | requested op slot h c hreg _ _ =>
      simp [Op.posts_of_registers hreg, Frame.register, Frame.call]
  | called op c _ _ hcheck => simp [Op.posts_eq_nil hcheck, Frame.call]
  | calledTwice op c c' _ _ _ hcheck => simp [Op.posts_eq_nil hcheck, Frame.call]
  | opened af _ => simp [Op.posts, Frame.call]
  | queried op e _ _ hcheck => simp [Op.posts_eq_nil hcheck]
  | checked err herr => simp [Op.posts, herr, Frame.post, Args.slot]

/-- The handlers after an operation: as before, or with its own stored. -/
theorem Op.Ran.handlers {op : Op} {env : Env} {f f' : Frame} (h : op.Ran env f f') :
    f'.obj.handlers = f.obj.handlers ∨
      ∃ slot hnd, op.registers = some (slot, hnd) ∧
        f'.obj.handlers = Function.update f.obj.handlers slot hnd := by
  cases h with
  | registered op slot h hreg => exact Or.inr ⟨slot, h, hreg, rfl⟩
  | requested op slot h c hreg _ _ => exact Or.inr ⟨slot, h, hreg, rfl⟩
  | _ => exact Or.inl rfl

/-- What an operation on `o` stores: its handler, once past the guards. The
answer of the stack plays no part. -/
def Op.stored (o : SocketObj) : Op → Option (Slot × FunctionPointer)
  | .resolve _ h =>
    if o.socket.impl = none ∨ o.socket.handler = none then none else some (.onDNS, h)
  | .streamConnect _ _ h => if o.socket.api = none then none else some (.onConnect, h)
  | .startListening h _ => if o.socket.api = none then none else some (.onIncoming, h)
  | op => op.registers

theorem Op.exec_handlers {op : Op} {env : Env} {f f' : Frame} {ret : Ret}
    (h : op.exec env f = .ok (ret, f')) :
    f'.obj.handlers = (op.stored f.obj).elim f.obj.handlers
      (fun p => Function.update f.obj.handlers p.1 p.2) := by
  have hran := (Op.exec_ran h).handlers
  cases op with
  | resolve address hnd =>
      obtain ⟨err, hrun, _⟩ := Ret.ofCode_eq_ok h
      rcases Socket.resolve_eq_ok hrun with ⟨rfl, hguard⟩ | ⟨himpl, hhandler, _, _, rfl⟩
      · have hstop : f'.obj.socket.impl = none ∨ f'.obj.socket.handler = none :=
          hguard.imp And.left (fun hclosed => hclosed.2.1)
        simp [Op.stored, hstop]
      · simp only [Op.stored, himpl, hhandler, or_self, if_false, Option.elim_some]
        rfl
  | streamConnect address port hnd =>
      obtain ⟨err, hrun, _⟩ := Ret.ofCode_eq_ok h
      rcases TCPStream.connect_eq_ok hrun with ⟨hapi, _, rfl⟩ | ⟨hapi, _, rfl⟩
      · simp [Op.stored, hapi]
      · simp only [Op.stored, hapi, if_false, Option.elim_some]
        rfl
  | startListening hnd backlog =>
      obtain ⟨err, hrun, _⟩ := Ret.ofCode_eq_ok h
      rcases TCPListener.startListening_eq_ok hrun with ⟨hapi, _, rfl⟩ | ⟨hapi, _, rfl⟩
      · simp [Op.stored, hapi]
      · simp only [Op.stored, hapi, if_false, Option.elim_some]
        rfl
  | setOnError hnd | setOnReadable hnd | setOnSent hnd | setOnDisconnect hnd =>
      simp only [Op.exec, Except.ok.injEq, Prod.mk.injEq] at h
      exact h.2 ▸ rfl
  | _ =>
      rcases hran with hsame | ⟨slot, hnd, hreg, _⟩
      · exact hsame
      · cases hreg

/-- The kind-to-handler map: which handler an event of each kind is for, in
each class, and with which arguments. -/
def route (cls : Class) (ev : SocketEvent) : Option Args :=
  match ev with
  | .rxError e | .txError e | .error e => some (.onError e)
  | .dns addr domain => some (.onDNS addr domain)
  | .rxDone =>
    match cls with
    | .udp | .stream => some .onReadable
    | .listener => some (.onError .unimplemented)
  | .txDone sentbytes =>
    match cls with
    | .udp | .stream => some (.onSent sentbytes)
    | .listener => some (.onError .unimplemented)
  | .connect =>
    match cls with
    | .udp => none
    | .stream => some .onConnect
    | .listener => some (.onError .unimplemented)
  | .disconnect =>
    match cls with
    | .udp => none
    | .stream => some .onDisconnect
    | .listener => some (.onError .unimplemented)
  | .accept newimpl =>
    match cls with
    | .udp | .stream => none
    | .listener => some (.onIncoming newimpl)
  | .none | .other _ => none

/-- Only a connection that arrives at a listener is for `onIncoming`. -/
theorem route_onIncoming {cls : Class} {ev : SocketEvent} {args : Args}
    (hroute : route cls ev = some args) (hslot : args.slot = .onIncoming) :
    cls = .listener ∧ ∃ newimpl, ev = .accept newimpl ∧ args = .onIncoming newimpl := by
  cases cls <;> cases ev <;> simp [route] at hroute <;> subst hroute <;> simp_all [Args.slot]

/-- A call of the handler registered for `args`, or nothing if it is unset. -/
def bindIfSet (handlers : Slot → FunctionPointer) (this : ObjId) (args : Args) : List Bound :=
  if (handlers args.slot).isSome then [⟨this, handlers args.slot, args⟩] else []

def SocketObj.delivers (o : SocketObj) (this : ObjId) (ev : SocketEvent) : List Bound :=
  (route o.cls ev).elim [] (bindIfSet o.handlers this)

theorem SocketObj.mem_delivers {o : SocketObj} {this : ObjId} {ev : SocketEvent} {b : Bound}
    (hb : b ∈ o.delivers this ev) :
    ∃ args, route o.cls ev = some args ∧ (o.handlers args.slot).isSome ∧
      b = ⟨this, o.handlers args.slot, args⟩ := by
  unfold SocketObj.delivers at hb
  cases hroute : route o.cls ev with
  | none => simp [hroute] at hb
  | some args =>
      simp only [hroute, Option.elim_some, bindIfSet] at hb
      split at hb
      · rename_i hset
        exact ⟨args, rfl, hset, List.mem_singleton.mp hb⟩
      · simp at hb

/-- The three dispatchers agree with the map, class by class. -/
theorem Socket.virtualEventHandler_eq (ev : SocketEvent) (f : Frame) :
    Socket.virtualEventHandler ev f =
      { f with posted := f.posted ++ f.obj.delivers f.this ev } := by
  have hpost : ∀ args : Args, f.postIfSet args =
      { f with posted := f.posted ++ bindIfSet f.obj.handlers f.this args } := by
    intro args
    unfold Frame.postIfSet bindIfSet
    split <;> simp [Frame.post]
  have hnone : f = { f with posted := f.posted ++ [] } := by simp
  unfold Socket.virtualEventHandler SocketObj.delivers
  cases hcls : f.obj.cls with
  | udp => cases ev <;> first | exact hpost _ | exact hnone
  | stream => cases ev <;> first | exact hpost _ | exact hnone
  | listener => cases ev <;> first | exact hpost _ | exact hnone

theorem Socket.nvEventHandler_eq (id : ObjId) (o : SocketObj) (ev : SocketEvent) :
    Socket.nvEventHandler (.start id { o with socket.event := some ev }) =
      .ok ((), ⟨id, { o with socket.event := some ev, event := none }, [],
        o.delivers id ev⟩) := by
  simp [Socket.nvEventHandler, Socket.virtualEventHandler_eq, Frame.start,
    SocketObj.delivers]

def Ctor.cls : Ctor → Class
  | .udp _ => .udp
  | .listener _ => .listener
  | .stream _ | .adopt _ | .adoptFrom _ _ => .stream

def Ctor.stack : Ctor → Stack
  | .udp stack | .stream stack | .listener stack => stack
  | .adopt sock | .adoptFrom _ sock => sock.stack

/-- The control block of the new object: that of the structure it adopts,
unless the stack stores another. -/
def Ctor.impl (this : ObjId) (env : Env) : Ctor → Option Impl
  | .adopt sock => (env (.accept this)).impl.getD sock.impl
  | .adoptFrom source sock => (env (.socketAccept source this)).impl.getD sock.impl
  | _ => none

/-- The finished object with the calls and posts of its constructor. -/
def Ctor.frame (registry : Stack → Option SocketApi) (this : ObjId) (env : Env) :
    Ctor → Frame
  | .udp stack => .start this (Socket.init registry this .udp stack .dgram)
  | .stream stack => .start this (Socket.init registry this .stream stack .stream)
  | .listener stack => .start this (Socket.init registry this .listener stack .stream)
  | .adopt sock =>
    let f := TCPStream.takeOver sock
      (.start this (Socket.init registry this .stream sock.stack .stream))
    (Socket.errorCheck (env (.accept this)).err (f.call env (.accept this)).2).2
  | .adoptFrom source sock =>
    let f := TCPStream.takeOver sock
      (.start this (Socket.init registry this .stream sock.stack .stream))
    (f.call env (.socketAccept source this)).2

/-- The callbacks a constructor posts: the deprecated one checks for errors
before any handler can have been set. -/
def Ctor.posts (this : ObjId) (env : Env) : Ctor → List Bound
  | .adopt _ =>
    if (env (.accept this)).err = .none then []
    else [⟨this, none, .onError (env (.accept this)).err⟩]
  | _ => []

theorem Ctor.mem_posts {ctor : Ctor} {this : ObjId} {env : Env} {b : Bound}
    (hb : b ∈ ctor.posts this env) : ∃ err, b = ⟨this, none, .onError err⟩ := by
  cases ctor with
  | adopt sock =>
      simp only [Ctor.posts] at hb
      split at hb
      · simp at hb
      · exact ⟨_, List.mem_singleton.mp hb⟩
  | _ => simp [Ctor.posts] at hb

section frame

variable (registry : Stack → Option SocketApi) (this : ObjId) (env : Env) (ctor : Ctor)

@[simp] theorem Ctor.frame_this : (ctor.frame registry this env).this = this := by
  cases ctor with
  | adopt sock => exact Socket.errorCheck_this _ _
  | _ => rfl

@[simp] theorem Ctor.frame_cls : (ctor.frame registry this env).obj.cls = ctor.cls := by
  cases ctor with
  | adopt sock => exact congrArg SocketObj.cls (Socket.errorCheck_obj _ _)
  | _ => rfl

@[simp] theorem Ctor.frame_api :
    (ctor.frame registry this env).obj.socket.api = registry ctor.stack := by
  cases ctor with
  | adopt sock => exact congrArg (fun o => o.socket.api) (Socket.errorCheck_obj _ _)
  | _ => rfl

@[simp] theorem Ctor.frame_stack :
    (ctor.frame registry this env).obj.socket.stack = ctor.stack := by
  cases ctor with
  | adopt sock => exact congrArg (fun o => o.socket.stack) (Socket.errorCheck_obj _ _)
  | _ => rfl

@[simp] theorem Ctor.frame_impl :
    (ctor.frame registry this env).obj.socket.impl = ctor.impl this env := by
  cases ctor with
  | adopt sock => exact congrArg (fun o => o.socket.impl) (Socket.errorCheck_obj _ _)
  | _ => rfl

@[simp] theorem Ctor.frame_handlers :
    (ctor.frame registry this env).obj.handlers = fun _ => none := by
  cases ctor with
  | adopt sock => exact congrArg SocketObj.handlers (Socket.errorCheck_obj _ _)
  | _ => rfl

@[simp] theorem Ctor.frame_posted :
    (ctor.frame registry this env).posted = ctor.posts this env := by
  cases ctor with
  | adopt sock =>
      simp only [Ctor.frame, Socket.errorCheck_snd, Ctor.posts]
      split <;> rfl
  | _ => rfl

end frame

/-- The frame in which a destructor ends. -/
def destructorFrame (env : Env) (id : ObjId) (o : SocketObj) : Frame :=
  Socket.deinit env
    (if o.cls = .listener ∧ o.socket.api ≠ none then
      ((Frame.start id o).call env .stopListen).2
    else .start id o)

/-- The destructor's call of `destroy` is made and returns an error. -/
def destroyFails (api : Option SocketApi) (env : Env) : Prop :=
  api.any SocketApi.hasDestroy = true ∧ (env .destroy).err ≠ .none

instance (api : Option SocketApi) (env : Env) : Decidable (destroyFails api env) :=
  inferInstanceAs (Decidable (_ ∧ _))

/-- The callbacks a destructor posts: `error_check` on the error that
`destroy` returns, bound to the object that is going away. -/
def SocketObj.lastPosts (o : SocketObj) (id : ObjId) (env : Env) : List Bound :=
  if destroyFails o.socket.api env then
    [⟨id, o.handlers .onError, .onError (env .destroy).err⟩]
  else []

theorem SocketObj.mem_lastPosts {o : SocketObj} {id : ObjId} {env : Env} {b : Bound}
    (hb : b ∈ o.lastPosts id env) :
    b = ⟨id, o.handlers .onError, .onError (env .destroy).err⟩ := by
  unfold SocketObj.lastPosts at hb
  split at hb
  · exact List.mem_singleton.mp hb
  · simp at hb

theorem Socket.deinit_posted (env : Env) (f : Frame) (hposted : f.posted = []) :
    (Socket.deinit env f).posted = f.obj.lastPosts f.this env := by
  unfold Socket.deinit SocketObj.lastPosts destroyFails
  cases hapi : f.obj.socket.api with
  | none => simpa using hposted
  | some api =>
      by_cases hdestroy : api.hasDestroy
      · by_cases herr : (env .destroy).err = .none
        · simpa [hdestroy, herr, Socket.errorCheck_snd, Frame.call] using hposted
        · simp [hdestroy, herr, Socket.errorCheck_snd, Frame.call, Frame.post, Args.slot,
            hposted]
      · simpa [hdestroy] using hposted

/-- The base destructor makes at most the one call of `destroy`. -/
theorem Socket.deinit_calls (env : Env) (f : Frame) :
    (Socket.deinit env f).calls = f.calls ++
      if f.obj.socket.api.any SocketApi.hasDestroy then
        [ApiCall.destroy.entry env f.obj.socket] else [] := by
  unfold Socket.deinit
  cases f.obj.socket.api with
  | none => simp
  | some api =>
      by_cases hdestroy : api.hasDestroy
      · simp [hdestroy, Frame.call]
      · simp [hdestroy]

theorem destructorFrame_posted (env : Env) (id : ObjId) (o : SocketObj) :
    (destructorFrame env id o).posted = o.lastPosts id env := by
  unfold destructorFrame
  split <;> rw [Socket.deinit_posted _ _ rfl] <;> rfl

end MbedSockets
