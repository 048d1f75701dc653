import MbedSockets.Echo.Clients

/-!
What the members of a client do on a stack that grants every request. Such a
stack reports no error, gives a control block to a socket that is opened, and
takes neither that nor its handler away. What else it writes to the socket does
not matter: the outcome of a member is a function of the client alone.
-/

namespace MbedSockets

/-- The answers of a stack that grants every request. -/
structure Granting where
  env : Env
  err : ∀ c, (env c).err = .none
  impl : ∀ c, (env c).impl ≠ some none
  handler : ∀ c, (env c).handler ≠ some none
  create : ∀ af pf this, (env (.create af pf this)).impl ≠ none

def Granting.plain : Granting where
  env := .creating 5
  err := fun c => by cases c <;> rfl
  impl := fun c => by cases c <;> simp [Env.creating]
  handler := fun c => by cases c <;> simp [Env.creating]
  create := fun _ _ _ => by simp [Env.creating]

/-- A socket on such a stack. It has a control block if it has been opened. -/
structure SocketObj.Backed (opened : Bool) (o : SocketObj) : Prop where
  api : o.socket.api ≠ none
  handler : o.socket.handler ≠ none
  impl : opened = true → o.socket.impl ≠ none

/-- The call that an operation of an open socket comes down to. -/
def Op.passes (cls : Class) (this : ObjId) : Op → Option ApiCall
  | .openAf af => some (.create af cls.protoFamily this)
  | .resolve address _ => some (.resolve address)
  | .close => some .close
  | .recv buf len => some (.recv buf len)
  | .send buf len => some (.send buf len)
  | .sendTo buf len (some addr) port => some (.sendTo buf len addr.getAddr port)
  | .streamConnect address port _ => some (.connect address.getAddr port)
  | _ => none

/-- The operations that do nothing but store a handler. -/
def Op.isSetter : Op → Bool
  | .setOnError _ | .setOnReadable _ | .setOnSent _ | .setOnDisconnect _ => true
  | _ => false

/-- The frame with the operation's handler in place. -/
def Op.registering (op : Op) (f : Frame) : Frame :=
  op.registers.elim f fun p => f.register p.1 p.2

/-- The slot that an operation stores a handler in. -/
def Op.slots (op : Op) : List Slot := op.registers.toList.map Prod.fst

section frames

variable {op : Op} {f : Frame}

@[simp] theorem Op.registering_this : (op.registering f).this = f.this := by
  unfold Op.registering
  cases op.registers <;> rfl

@[simp] theorem Op.registering_socket : (op.registering f).obj.socket = f.obj.socket := by
  unfold Op.registering
  cases op.registers <;> rfl

@[simp] theorem Op.registering_cls : (op.registering f).obj.cls = f.obj.cls := by
  unfold Op.registering
  cases op.registers <;> rfl

@[simp] theorem Op.registering_calls : (op.registering f).calls = f.calls := by
  unfold Op.registering
  cases op.registers <;> rfl

@[simp] theorem Op.registering_posted : (op.registering f).posted = f.posted := by
  unfold Op.registering
  cases op.registers <;> rfl

theorem Op.registering_handlers (hown : op.ownHandler = true) (slot : Slot) :
    (op.registering f).obj.handlers slot =
      if slot ∈ op.slots then slot.member else f.obj.handlers slot := by
  unfold Op.registering Op.slots
  cases hreg : op.registers with
  | none => simp
  | some p =>
      have hmember := Op.ownHandler_registers hown hreg
      by_cases hslot : slot = p.1
      · subst hslot
        simp [Frame.register, hmember]
      · simp [Frame.register, hslot]

theorem Op.registering_backed (op : Op) (this : ObjId) {o : SocketObj} {opened : Bool}
    (h : o.Backed opened) : (op.registering (.start this o)).obj.Backed opened :=
  ⟨by simpa [Frame.start] using h.api, by simpa [Frame.start] using h.handler,
    by simpa [Frame.start] using h.impl⟩

end frames

/-- A call to a stack that grants everything leaves the socket backed. -/
theorem Granting.backed_call (g : Granting) {opened : Bool} {f : Frame} (c : ApiCall)
    (h : f.obj.Backed opened) : (f.call g.env c).2.obj.Backed opened := by
  refine ⟨h.api, ?_, fun hopened => ?_⟩
  · have hkept := g.handler c
    cases hwritten : (g.env c).handler with
    | none => simpa [Frame.call, Answer.store, hwritten] using h.handler
    | some x => simp_all [Frame.call, Answer.store]
  · have hkept := g.impl c
    cases hwritten : (g.env c).impl with
    | none => simpa [Frame.call, Answer.store, hwritten] using h.impl hopened
    | some x => simp_all [Frame.call, Answer.store]

theorem Granting.backed_create (g : Granting) {opened : Bool} {f : Frame} {af : AddressFamily}
    {pf : ProtoFamily} {this : ObjId} (h : f.obj.Backed opened) :
    (f.call g.env (.create af pf this)).2.obj.Backed true := by
  refine ⟨(g.backed_call _ h).api, (g.backed_call _ h).handler, fun _ => ?_⟩
  have hkept := g.impl (.create af pf this)
  have hmade := g.create af pf this
  cases hwritten : (g.env (.create af pf this)).impl with
  | none => exact absurd hwritten hmade
  | some x => simp_all [Frame.call, Answer.store]

theorem Op.exec_setter {op : Op} {env : Env} {f : Frame} (h : op.isSetter = true) :
    op.exec env f = .ok (.unit, op.registering f) := by
  cases op <;> first | rfl | cases h

/-- Opening a socket needs a stack only, everything else a control block too. -/
theorem Op.exec_passes {op : Op} {env : Env} {f : Frame} {c : ApiCall} {opened : Bool}
    (hpasses : op.passes f.obj.cls f.this = some c) (hbacked : f.obj.Backed opened)
    (hopened : opened = true ∨ ∃ af, op = .openAf af) :
    op.exec env f = .ok (.code (env c).err, ((op.registering f).call env c).2) := by
  have hguards : op.exec env f = Ret.ofCode ((op.registering f).apiErr env c) := by
    have hapi := hbacked.api
    have hhandler := hbacked.handler
    have himpl : (∃ af, op = .openAf af) ∨ f.obj.socket.impl ≠ none :=
      hopened.symm.imp_right hbacked.impl
    cases op with
    | openAf af =>
        obtain rfl := Option.some.inj hpasses
        cases hcls : f.obj.cls <;>
          simp [Op.exec, hcls, UDPSocket.openAf, TCPAsynch.openAf, Socket.openAfPf, hapi,
            Op.registering, Op.registers, Class.protoFamily]
    | resolve address h =>
        obtain rfl := Option.some.inj hpasses
        simp_all [Op.exec, Socket.resolve, Op.registering, Op.registers]
    | close | recv buf len | send buf len =>
        obtain rfl := Option.some.inj hpasses
        simp_all [Op.exec, Socket.close, Socket.recv, Socket.send, Op.registering, Op.registers]
    | sendTo buf len addr port =>
        cases addr with
        | none => cases hpasses
        | some addr =>
            obtain rfl := Option.some.inj hpasses
            simp_all [Op.exec, Socket.sendTo, Op.registering, Op.registers]
    | streamConnect address port h =>
        obtain rfl := Option.some.inj hpasses
        simp [Op.exec, TCPStream.connect, hapi, Op.registering, Op.registers]
    | _ => cases hpasses
  obtain ⟨api, hsome⟩ := Option.ne_none_iff_exists'.mp hbacked.api
  have hcall : (op.registering f).apiErr env c =
      .ok ((env c).err, ((op.registering f).call env c).2) :=
    Frame.apiErr_some (by simpa using hsome)
  rw [hguards, hcall]
  rfl

/-- The calls that the stack has granted so far. -/
def World.grantedCalls {n : Nat} (w : World n) : List ApiCall :=
  w.calls.filterMap fun e => if e.err = .none then some e.call else none

namespace Echo

variable {n : Nat} {C : Type}

/-- What a member has done so far on a granting stack: the client as it is now,
what was posted, the handlers that were set and the calls that were made. -/
structure Outcome (C : Type) where
  client : C
  posted : List Post := []
  slots : List Slot := []
  calls : List ApiCall := []

/-- No assertion fails on the way, and the queues of the layer stay as they were. -/
structure Outcome.Reached (socket : C → ObjId) (out : Outcome C) (s s' : Session n C) : Prop where
  client : s'.client = out.client
  same : socket out.client = socket s.client
  posted : s'.posted = s.posted ++ out.posted
  failures : s'.failures = s.failures
  pending : s'.world.pending = s.world.pending
  dispatched : s'.world.dispatched = s.world.dispatched
  granted : s'.world.grantedCalls = s.world.grantedCalls ++ out.calls
  handlers : ∀ o o', s.world.objs.cell (socket s.client) = some o →
    s'.world.objs.cell (socket s.client) = some o' →
    ∀ slot, o'.handlers slot = if slot ∈ out.slots then slot.member else o.handlers slot

theorem Outcome.Reached.refl (socket : C → ObjId) (s : Session n C) :
    Outcome.Reached socket { client := s.client } s s := by
  refine ⟨rfl, rfl, by simp, rfl, rfl, rfl, by simp, ?_⟩
  intro o o' hcell hcell' slot
  rw [hcell, Option.some.injEq] at hcell'
  simp [hcell']

def Session.Backed (cls : Class) (socket : C → ObjId) (opened : Bool) (s : Session n C) : Prop :=
  ∃ o, s.world.objs.cell (socket s.client) = some o ∧ o.cls = cls ∧ o.Backed opened

/-- A member that has done `acc` so far goes on with `h`, and has done `out` in
the end. Its socket is open then; whether it is at the start is `opened`. -/
def Yields (n : Nat) (cls : Class) (socket : C → ObjId) (opened : Bool) (h : Handler n C)
    (acc out : Outcome C) : Prop :=
  ∀ s₀ s : Session n C, acc.Reached socket s₀ s → s.Backed cls socket opened →
    ∃ s', h s = .ok s' ∧ out.Reached socket s₀ s' ∧ s'.Backed cls socket true

namespace Yields

variable {cls : Class} {socket : C → ObjId} {opened : Bool} {acc out : Outcome C}

theorem finish : Yields n cls socket true Echo.finish out out :=
  fun _ s hreached hbacked => ⟨s, rfl, hreached, hbacked⟩

theorem assign {f : C → C} {rest : Handler n C}
    (hrest : Yields n cls socket opened rest { acc with client := f acc.client } out)
    (hsame : socket (f acc.client) = socket acc.client := by rfl) :
    Yields n cls socket opened (Echo.assign f rest) acc out := by
  intro s₀ s hreached hbacked
  apply hrest s₀ { s with client := f s.client }
  · refine ⟨congrArg f hreached.client, hsame.trans hreached.same, hreached.posted,
      hreached.failures, hreached.pending, hreached.dispatched, hreached.granted,
      hreached.handlers⟩
  · rw [← hreached.client] at hsame
    simpa [Session.Backed, hsame] using hbacked

theorem postTerminate {status : Bool} {rest : Handler n C}
    (hrest : Yields n cls socket opened rest
      { acc with posted := acc.posted ++ [.terminate status] } out) :
    Yields n cls socket opened (Echo.postTerminate status rest) acc out := by
  intro s₀ s hreached hbacked
  apply hrest s₀ { s with posted := s.posted ++ [.terminate status] } _ hbacked
  exact ⟨hreached.client, hreached.same, by simp [hreached.posted], hreached.failures,
    hreached.pending, hreached.dispatched, hreached.granted, hreached.handlers⟩

theorem check {bails : Bool} {ok : C → Prop} [DecidablePred ok] {rest : Handler n C}
    (hok : ok acc.client) (hrest : Yields n cls socket opened rest acc out) :
    Yields n cls socket opened (Echo.check bails ok rest) acc out := by
  intro s₀ s hreached hbacked
  rw [Echo.check, if_pos (hreached.client ▸ hok)]
  exact hrest s₀ s hreached hbacked

theorem branch_yes {b : C → Bool} {yes no : Handler n C} (hb : b acc.client = true)
    (hyes : Yields n cls socket opened yes acc out) :
    Yields n cls socket opened (Echo.branch b yes no) acc out := by
  intro s₀ s hreached hbacked
  rw [Echo.branch, if_pos (hreached.client ▸ hb)]
  exact hyes s₀ s hreached hbacked

theorem branch_no {b : C → Bool} {yes no : Handler n C} (hb : b acc.client = false)
    (hno : Yields n cls socket opened no acc out) :
    Yields n cls socket opened (Echo.branch b yes no) acc out := by
  intro s₀ s hreached hbacked
  rw [Echo.branch, if_neg (by rw [hreached.client, hb]; simp)]
  exact hno s₀ s hreached hbacked

/-- An operation that comes to the frame `f`, followed by the rest. -/
theorem of_exec (calls : List ApiCall) {op : C → Op} {env : Env} {rest : Ret → Handler n C}
    {ret : Ret} {opened' : Bool} (hown : (op acc.client).ownHandler = true)
    (htyped : (op acc.client).typed cls = true)
    (hexec : ∀ o : SocketObj, o.cls = cls → o.Backed opened →
      ∃ f, (op acc.client).exec env (.start (socket acc.client) o) = .ok (ret, f) ∧
        f.this = socket acc.client ∧ f.obj.cls = o.cls ∧ f.obj.Backed opened' ∧ f.posted = [] ∧
        (f.calls.filterMap fun e => if e.err = .none then some e.call else none) = calls ∧
        f.obj.handlers =
          ((op acc.client).registering (.start (socket acc.client) o)).obj.handlers)
    (hrest : Yields n cls socket opened' (rest ret)
      { acc with slots := acc.slots ++ (op acc.client).slots, calls := acc.calls ++ calls } out) :
    Yields n cls socket opened (Echo.ask socket op env rest) acc out := by
  rintro s₀ s hreached ⟨o, hcell, hcls, hbacked⟩
  rw [hreached.client] at hcell
  obtain ⟨f, hrun, hthis, hfcls, hfbacked, hposted, hcalls, hhandlers⟩ := hexec o hcls hbacked
  have hstep : s.world.step (.op (socket acc.client) (op acc.client) env) =
      some (.ok (ret, s.world.commit f)) := by
    simp [World.step, hcell, hcls, htyped, hrun, bind, Except.bind, pure, Except.pure]
  have hcell₁ : (s.world.commit f).objs.cell (socket acc.client) = some f.obj := by
    rw [World.commit_objs, hthis]
    exact Lib.Heap.set_cell_self _ hcell
  have hask : Echo.ask socket op env rest s = rest ret { s with world := s.world.commit f } := by
    simp only [Echo.ask, hreached.client, hstep]
  rw [hask]
  apply hrest s₀ { s with world := s.world.commit f }
  · refine ⟨hreached.client, hreached.same, hreached.posted, hreached.failures, ?_,
      hreached.dispatched, ?_, ?_⟩
    · simpa [hposted] using hreached.pending
    · rw [← List.append_assoc, ← hreached.granted, ← hcalls]
      simp [World.grantedCalls]
    · intro o₀ o' hcell₀ hcell' slot
      rw [← hreached.same] at hcell₀ hcell'
      obtain rfl : f.obj = o' := Option.some.inj (hcell₁.symm.trans hcell')
      have hold := hreached.handlers o₀ o (hreached.same ▸ hcell₀) (hreached.same ▸ hcell) slot
      rw [hhandlers, Op.registering_handlers hown]
      by_cases hnew : slot ∈ (op acc.client).slots
      · simp [hnew]
      · simpa [hnew, Frame.start] using hold
  · exact ⟨f.obj, by simpa [hreached.client] using hcell₁, hfcls.trans hcls, hfbacked⟩

theorem ask_set {op : C → Op} {env : Env} {rest : Ret → Handler n C}
    (hrest : Yields n cls socket opened (rest .unit)
      { acc with slots := acc.slots ++ (op acc.client).slots, calls := acc.calls ++ [] } out)
    (hset : (op acc.client).isSetter = true := by rfl)
    (hown : (op acc.client).ownHandler = true := by rfl)
    (htyped : (op acc.client).typed cls = true := by rfl) :
    Yields n cls socket opened (Echo.ask socket op env rest) acc out := by
  refine of_exec [] hown htyped (fun o _ hbacked => ?_) hrest
  exact ⟨_, Op.exec_setter hset, Op.registering_this, Op.registering_cls,
    Op.registering_backed _ _ hbacked, by simp [Frame.start], by simp [Frame.start], rfl⟩

theorem ask {g : Granting} {op : C → Op} (call : ApiCall) {rest : Ret → Handler n C}
    (hrest : Yields n cls socket true (rest (.code .none))
      { acc with slots := acc.slots ++ (op acc.client).slots, calls := acc.calls ++ [call] } out)
    (hopened : opened = true ∨ ∃ af, op acc.client = .openAf af := by
      first | exact .inl rfl | exact .inr ⟨_, rfl⟩)
    (hpasses : (op acc.client).passes cls (socket acc.client) = some call := by rfl)
    (hown : (op acc.client).ownHandler = true := by rfl)
    (htyped : (op acc.client).typed cls = true := by rfl) :
    Yields n cls socket opened (Echo.ask socket op g.env rest) acc out := by
  refine of_exec [call] hown htyped (fun o hcls hbacked => ?_) hrest
  have hrun : (op acc.client).exec g.env (.start (socket acc.client) o) =
      .ok (.code (g.env call).err,
        (((op acc.client).registering (.start (socket acc.client) o)).call g.env call).2) :=
    Op.exec_passes (by simpa [Frame.start, hcls] using hpasses) hbacked hopened
  rw [g.err] at hrun
  have hregistered := Op.registering_backed (op acc.client) (socket acc.client) hbacked
  refine ⟨_, hrun, by simp [Frame.call, Frame.start], by simp [Frame.call, Frame.start], ?_,
    by simp [Frame.call, Frame.start], by simp [Frame.call, Frame.start, ApiCall.entry, g.err],
    by simp [Frame.call]⟩
  rcases hopened with rfl | ⟨af, hop⟩
  · exact g.backed_call _ hregistered
  · rw [hop] at hpasses hregistered ⊢
    obtain rfl := Option.some.inj hpasses
    exact g.backed_create hregistered

/-- `isConnected` alone asks the stack without a code in return. -/
theorem ask_connected {env : Env} {rest : Ret → Handler n C}
    (herr : (env .isConnected).err = .none)
    (hrest : Yields n cls socket true (rest (.bool (env .isConnected).yes))
      { acc with slots := acc.slots ++ [], calls := acc.calls ++ [.isConnected] } out) :
    Yields n cls socket true (Echo.ask socket (fun _ => .isConnected) env rest) acc out := by
  refine of_exec [.isConnected] rfl (by cases cls <;> rfl) (fun o _ hbacked => ?_) hrest
  obtain ⟨api, hapi⟩ := Option.ne_none_iff_exists'.mp hbacked.api
  have hrun : Op.isConnected.exec env (.start (socket acc.client) o) =
      .ok (.bool (env .isConnected).yes, { Frame.start (socket acc.client) o with
        calls := [ApiCall.isConnected.entry env o.socket] }) := by
    simp [Op.exec, Socket.isConnected, Frame.start, hbacked.impl rfl, Frame.query, hapi, bind,
      Except.bind, pure, Except.pure]
  exact ⟨_, hrun, rfl, rfl, hbacked, rfl, by simp [ApiCall.entry, herr], rfl⟩

end Yields

end Echo

end MbedSockets
