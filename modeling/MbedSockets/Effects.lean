import MbedSockets.World

/-!
What each member function can do to its frame, said once. Every public
operation ends in one of the few shapes of `Op.Ran`: nothing, a registration,
a registration followed by a request, one or two plain calls, a creation, a
query, or an unconditional post of `onError`. The run properties are derived
from these shapes and never unfold the operations again.
-/

namespace MbedSockets

/-- Calls that neither create nor destroy a control block. -/
def ApiCall.plain : ApiCall → Bool
  | .create _ _ _ | .destroy => false
  | _ => true

/-- The protocol family that `open(af)` of each class asks for. -/
def Class.protoFamily : Class → ProtoFamily
  | .udp => .dgram
  | .stream | .listener => .stream

/-- The handler an operation stores, if it gets past its guards. -/
def Op.registers : Op → Option (Slot × FunctionPointer)
  | .resolve _ h => some (.onDNS, h)
  | .setOnError h => some (.onError, h)
  | .setOnReadable h => some (.onReadable, h)
  | .setOnSent h => some (.onSent, h)
  | .streamConnect _ _ h => some (.onConnect, h)
  | .setOnDisconnect h => some (.onDisconnect, h)
  | .startListening h _ => some (.onIncoming, h)
  | _ => none

inductive Op.Ran (env : Env) (f : Frame) : Op → Frame → Prop
  | unchanged (op : Op) (hcheck : ∀ err, op = .errorCheck err → err = .none) : Ran env f op f
  | registered (op : Op) (slot : Slot) (h : FunctionPointer)
      (hreg : op.registers = some (slot, h)) : Ran env f op (f.register slot h)
  | requested (op : Op) (slot : Slot) (h : FunctionPointer) (c : ApiCall)
      (hreg : op.registers = some (slot, h)) (hplain : c.plain = true)
      (hapi : f.obj.socket.api ≠ none) :
      Ran env f op ((f.register slot h).call env c).2
  | called (op : Op) (c : ApiCall) (hplain : c.plain = true)
      (hreg : op.registers = none) (hcheck : ∀ err, op ≠ .errorCheck err)
      (hapi : f.obj.socket.api ≠ none) :
      Ran env f op (f.call env c).2
  | calledTwice (op : Op) (c c' : ApiCall) (hplain : c.plain = true)
      (hplain' : c'.plain = true) (hreg : op.registers = none)
      (hcheck : ∀ err, op ≠ .errorCheck err) (hapi : f.obj.socket.api ≠ none) :
      Ran env f op (((f.call env c).2).call env c').2
  | opened (af : AddressFamily) (hapi : f.obj.socket.api ≠ none) :
      Ran env f (.openAf af) (f.call env (.create af f.obj.cls.protoFamily f.this)).2
  | queried (op : Op) (e : ApiEntry) (hplain : e.call.plain = true)
      (hreg : op.registers = none) (hcheck : ∀ err, op ≠ .errorCheck err) :
      Ran env f op { f with calls := f.calls ++ [e] }
  | checked (err : SocketError) (herr : err ≠ .none) :
      Ran env f (.errorCheck err) (f.post (.onError err))

namespace Frame

@[simp] theorem register_this (f : Frame) (slot : Slot) (h : FunctionPointer) :
    (f.register slot h).this = f.this := rfl

@[simp] theorem register_socket (f : Frame) (slot : Slot) (h : FunctionPointer) :
    (f.register slot h).obj.socket = f.obj.socket := rfl

@[simp] theorem call_fst (f : Frame) (env : Env) (c : ApiCall) :
    (f.call env c).1 = env c := rfl

theorem api_eq_ok {f f' : Frame} {env : Env} {c : ApiCall} {a : Answer}
    (h : f.api env c = .ok (a, f')) :
    f.obj.socket.api ≠ none ∧ a = env c ∧ f' = (f.call env c).2 := by
  unfold api at h
  split at h
  · cases h
  · rename_i api hapi
    simp only [Except.ok.injEq] at h
    exact ⟨by simp [hapi], congrArg Prod.fst h.symm, congrArg Prod.snd h.symm⟩

theorem apiErr_eq_ok {f f' : Frame} {env : Env} {c : ApiCall} {err : SocketError}
    (h : f.apiErr env c = .ok (err, f')) :
    f.obj.socket.api ≠ none ∧ err = (env c).err ∧ f' = (f.call env c).2 := by
  unfold apiErr api at h
  cases hapi : f.obj.socket.api with
  | none =>
      simp [hapi, bind, Except.bind] at h
  | some api =>
      simp [hapi, bind, Except.bind, pure, Except.pure] at h
      exact ⟨by simp, h.1.symm, h.2.symm⟩

theorem query_eq_ok {f f' : Frame} {env : Env} {c : ApiCall} {s : StructSocket}
    {a : Answer} (h : f.query env c s = .ok (a, f')) :
    s.api ≠ none ∧ a = env c ∧ f' = { f with calls := f.calls ++ [c.entry env s] } := by
  unfold query at h
  split at h
  · cases h
  · rename_i api hapi
    simp only [Except.ok.injEq, Prod.mk.injEq] at h
    exact ⟨by simp [hapi], h.1.symm, h.2.symm⟩

end Frame

theorem Ret.ofCode_eq_ok {r : Except Fault (SocketError × Frame)} {ret : Ret} {f' : Frame}
    (h : Ret.ofCode r = .ok (ret, f')) : ∃ err, r = .ok (err, f') ∧ ret = .code err := by
  cases r with
  | error e => simp [Ret.ofCode, bind, Except.bind] at h
  | ok p =>
      obtain ⟨err, f⟩ := p
      simp [Ret.ofCode, bind, Except.bind, pure, Except.pure] at h
      exact ⟨err, by rw [h.2], h.1.symm⟩

theorem Ret.ofCodeAddr_eq_ok {r : Except Fault ((SocketError × Option SocketAddr) × Frame)}
    {ret : Ret} {f' : Frame} (h : Ret.ofCodeAddr r = .ok (ret, f')) :
    ∃ err out, r = .ok ((err, out), f') ∧ ret = .codeAddr err out := by
  cases r with
  | error e => simp [Ret.ofCodeAddr, bind, Except.bind] at h
  | ok p =>
      obtain ⟨⟨err, out⟩, f⟩ := p
      simp [Ret.ofCodeAddr, bind, Except.bind, pure, Except.pure] at h
      exact ⟨err, out, by rw [h.2], h.1.symm⟩

theorem Ret.ofUnit_eq_ok {r : Except Fault (Unit × Frame)} {ret : Ret} {f' : Frame}
    (h : Ret.ofUnit r = .ok (ret, f')) : r = .ok ((), f') ∧ ret = .unit := by
  cases r with
  | error e => simp [Ret.ofUnit, bind, Except.bind] at h
  | ok p =>
      obtain ⟨⟨⟩, f⟩ := p
      simp [Ret.ofUnit, bind, Except.bind, pure, Except.pure] at h
      exact ⟨by rw [h.2], h.1.symm⟩

/-- The three requests that store their handler before they ask the stack:
past the guard the handler is in place, whatever the stack answers. -/
theorem Socket.resolve_eq_ok {env : Env} {address : Ptr} {h : FunctionPointer}
    {f f' : Frame} {err : SocketError}
    (hrun : Socket.resolve env address h f = .ok (err, f')) :
    (f' = f ∧ ((f.obj.socket.impl = none ∧ err = .nullPtr) ∨
      (f.obj.socket.impl ≠ none ∧ f.obj.socket.handler = none ∧ err = .closed))) ∨
    (f.obj.socket.impl ≠ none ∧ f.obj.socket.handler ≠ none ∧
      f.obj.socket.api ≠ none ∧ err = (env (.resolve address)).err ∧
      f' = ((f.register .onDNS h).call env (.resolve address)).2) := by
  unfold Socket.resolve at hrun
  split at hrun
  · rename_i himpl
    simp only [Except.ok.injEq, Prod.mk.injEq] at hrun
    exact Or.inl ⟨hrun.2.symm, Or.inl ⟨himpl, hrun.1.symm⟩⟩
  · rename_i himpl
    split at hrun
    · rename_i hhandler
      simp only [Except.ok.injEq, Prod.mk.injEq] at hrun
      exact Or.inl ⟨hrun.2.symm, Or.inr ⟨himpl, hhandler, hrun.1.symm⟩⟩
    · rename_i hhandler
      obtain ⟨hapi, herr, hf⟩ := Frame.apiErr_eq_ok hrun
      exact Or.inr ⟨himpl, hhandler, by simpa using hapi, herr, hf⟩

/-- The members guarded by `_socket.api == NULL`, with or without a handler
to store first. -/
theorem apiGuarded_eq_ok {env : Env} {c : ApiCall} {f g f' : Frame} {err : SocketError}
    (hg : g.obj.socket.api = f.obj.socket.api)
    (hrun : (if f.obj.socket.api = none then .ok (.badStack, f) else g.apiErr env c) =
      (.ok (err, f') : Except Fault (SocketError × Frame))) :
    (f.obj.socket.api = none ∧ err = .badStack ∧ f' = f) ∨
    (f.obj.socket.api ≠ none ∧ err = (env c).err ∧ f' = (g.call env c).2) := by
  split at hrun
  · rename_i hapi
    simp only [Except.ok.injEq, Prod.mk.injEq] at hrun
    exact Or.inl ⟨hapi, hrun.1.symm, hrun.2.symm⟩
  · obtain ⟨hapi, herr, hf⟩ := Frame.apiErr_eq_ok hrun
    exact Or.inr ⟨hg ▸ hapi, herr, hf⟩

theorem TCPStream.connect_eq_ok {env : Env} {address : SocketAddr} {port : UInt16}
    {h : FunctionPointer} {f f' : Frame} {err : SocketError}
    (hrun : TCPStream.connect env address port h f = .ok (err, f')) :
    (f.obj.socket.api = none ∧ err = .badStack ∧ f' = f) ∨
    (f.obj.socket.api ≠ none ∧ err = (env (.connect address.getAddr port)).err ∧
      f' = ((f.register .onConnect h).call env (.connect address.getAddr port)).2) := by
  unfold TCPStream.connect at hrun
  exact apiGuarded_eq_ok rfl hrun

theorem TCPListener.startListening_eq_ok {env : Env} {h : FunctionPointer} {backlog : UInt32}
    {f f' : Frame} {err : SocketError}
    (hrun : TCPListener.startListening env h backlog f = .ok (err, f')) :
    (f.obj.socket.api = none ∧ err = .badStack ∧ f' = f) ∨
    (f.obj.socket.api ≠ none ∧ err = (env (.startListen backlog)).err ∧
      f' = ((f.register .onIncoming h).call env (.startListen backlog)).2) := by
  unfold TCPListener.startListening at hrun
  exact apiGuarded_eq_ok rfl hrun

/-- Both overrides of `open(af, pf)` only say no. -/
theorem Socket.virtualOpen_eq (af : AddressFamily) (pf : ProtoFamily) (f : Frame) :
    Socket.virtualOpen af pf f = .ok (.unimplemented, f) := by
  unfold Socket.virtualOpen
  split <;> rfl

/-- The members guarded by `_socket.impl == NULL` alone. -/
theorem implGuarded_eq_ok {env : Env} {c : ApiCall} {f f' : Frame} {err : SocketError}
    (hrun : (if f.obj.socket.impl = none then .ok (.nullPtr, f) else f.apiErr env c) =
      (.ok (err, f') : Except Fault (SocketError × Frame))) :
    f' = f ∨ (f.obj.socket.api ≠ none ∧ f' = (f.call env c).2) := by
  split at hrun
  · simp only [Except.ok.injEq, Prod.mk.injEq] at hrun
    exact Or.inl hrun.2.symm
  · obtain ⟨hapi, _, hf⟩ := Frame.apiErr_eq_ok hrun
    exact Or.inr ⟨hapi, hf⟩

theorem Socket.bindAddr_eq_ok {env : Env} {addr : Option SocketAddr} {port : UInt16}
    {f f' : Frame} {err : SocketError}
    (hrun : Socket.bindAddr env addr port f = .ok (err, f')) :
    f' = f ∨ (f.obj.socket.api ≠ none ∧ ∃ raw, f' = (f.call env (.bind raw port)).2) := by
  unfold Socket.bindAddr at hrun
  cases addr with
  | none =>
      simp only [Except.ok.injEq, Prod.mk.injEq] at hrun
      exact Or.inl hrun.2.symm
  | some addr =>
      dsimp only at hrun
      split at hrun
      · rw [Socket.virtualOpen_eq] at hrun
        simp [bind, Except.bind, pure, Except.pure] at hrun
        exact Or.inl hrun.2.symm
      · obtain ⟨hapi, _, hf⟩ := Frame.apiErr_eq_ok hrun
        exact Or.inr ⟨hapi, addr.getAddr, hf⟩

theorem Socket.bindText_eq_ok {env : Env} {addr : Ptr} {port : UInt16} {tmp : SocketAddr}
    {f f' : Frame} {err : SocketError}
    (hrun : Socket.bindText env addr port tmp f = .ok (err, f')) :
    f' = f ∨ (f.obj.socket.api ≠ none ∧ (f' = (f.call env (.str2addr addr)).2 ∨
      ∃ raw, f' = (((f.call env (.str2addr addr)).2).call env (.bind raw port)).2)) := by
  unfold Socket.bindText at hrun
  split at hrun
  · simp only [Except.ok.injEq, Prod.mk.injEq] at hrun
    exact Or.inl hrun.2.symm
  · cases hapi : f.api env (.str2addr addr) with
    | error e => simp [hapi, bind, Except.bind] at hrun
    | ok p =>
        obtain ⟨a, g⟩ := p
        obtain ⟨hne, _, rfl⟩ := Frame.api_eq_ok hapi
        refine Or.inr ⟨hne, ?_⟩
        simp only [hapi, bind, Except.bind] at hrun
        split at hrun
        · simp only [pure, Except.pure, Except.ok.injEq, Prod.mk.injEq] at hrun
          exact Or.inl hrun.2.symm
        · rcases Socket.bindAddr_eq_ok hrun with hsame | ⟨_, raw, hbind⟩
          · exact Or.inl hsame
          · exact Or.inr ⟨raw, hbind⟩

theorem Socket.recvFrom_eq_ok {env : Env} {buf len : Ptr} {remote : Option SocketAddr}
    {port : Ptr} {addr : RawAddr} {f f' : Frame} {r : SocketError × Option SocketAddr}
    (hrun : Socket.recvFrom env buf len remote port addr f = .ok (r, f')) :
    f' = f ∨ (f.obj.socket.api ≠ none ∧ f' = (f.call env (.recvFrom buf len port)).2) := by
  unfold Socket.recvFrom at hrun
  cases remote with
  | none =>
      simp only [Except.ok.injEq, Prod.mk.injEq] at hrun
      exact Or.inl hrun.2.symm
  | some remote =>
      dsimp only at hrun
      split at hrun
      · simp only [Except.ok.injEq, Prod.mk.injEq] at hrun
        exact Or.inl hrun.2.symm
      · cases hapi : f.api env (.recvFrom buf len port) with
        | error e => simp [hapi, bind, Except.bind] at hrun
        | ok p =>
            obtain ⟨a, g⟩ := p
            obtain ⟨hne, _, rfl⟩ := Frame.api_eq_ok hapi
            simp only [hapi, bind, Except.bind, pure, Except.pure, Except.ok.injEq,
              Prod.mk.injEq] at hrun
            exact Or.inr ⟨hne, hrun.2.symm⟩

theorem Socket.sendTo_eq_ok {env : Env} {buf : Ptr} {len : Nat} {remote : Option SocketAddr}
    {port : UInt16} {f f' : Frame} {err : SocketError}
    (hrun : Socket.sendTo env buf len remote port f = .ok (err, f')) :
    f' = f ∨
      (f.obj.socket.api ≠ none ∧ ∃ raw, f' = (f.call env (.sendTo buf len raw port)).2) := by
  unfold Socket.sendTo at hrun
  cases remote with
  | none =>
      simp only [Except.ok.injEq, Prod.mk.injEq] at hrun
      exact Or.inl hrun.2.symm
  | some remote =>
      rcases implGuarded_eq_ok hrun with hsame | ⟨hapi, hcall⟩
      · exact Or.inl hsame
      · exact Or.inr ⟨hapi, remote.getAddr, hcall⟩

/-- The const members leave the object alone; at most they log a query. -/
theorem Frame.query_bind_eq_ok {α : Type} {env : Env} {c : ApiCall} {s : StructSocket}
    {k : Answer → α} {f f' : Frame} {r : α}
    (hrun : (do let (a, f) ← f.query env c s; return (k a, f) :
      Except Fault (α × Frame)) = .ok (r, f')) :
    f' = { f with calls := f.calls ++ [c.entry env s] } := by
  cases hq : f.query env c s with
  | error e => simp [hq, bind, Except.bind] at hrun
  | ok p =>
      obtain ⟨a, g⟩ := p
      obtain ⟨_, _, rfl⟩ := Frame.query_eq_ok hq
      simp only [hq, bind, Except.bind, pure, Except.pure, Except.ok.injEq,
        Prod.mk.injEq] at hrun
      exact hrun.2.symm

theorem Socket.isConnected_eq_ok {env : Env} {f f' : Frame} {b : Bool}
    (hrun : Socket.isConnected env f = .ok (b, f')) :
    f' = f ∨ f' = { f with calls := f.calls ++ [ApiCall.isConnected.entry env f.obj.socket] } := by
  unfold Socket.isConnected at hrun
  split at hrun
  · simp only [Except.ok.injEq, Prod.mk.injEq] at hrun
    exact Or.inl hrun.2.symm
  · exact Or.inr (Frame.query_bind_eq_ok hrun)

theorem Socket.addrGetter_eq_ok {c : ApiCall} {env : Env} {addr : Option SocketAddr}
    {f f' : Frame} {r : SocketError × Option SocketAddr}
    (hrun : Socket.addrGetter c env addr f = .ok (r, f')) :
    f' = f ∨ f' = { f with calls := f.calls ++ [c.entry env f.obj.socket] } := by
  unfold Socket.addrGetter at hrun
  cases addr with
  | none =>
      simp only [Except.ok.injEq, Prod.mk.injEq] at hrun
      exact Or.inl hrun.2.symm
  | some addr =>
      dsimp only at hrun
      split at hrun
      · simp only [Except.ok.injEq, Prod.mk.injEq] at hrun
        exact Or.inl hrun.2.symm
      · exact Or.inr (Frame.query_bind_eq_ok
          (k := fun a => (a.err, some (SocketAddr.mk (a.addr.getD addr.addr)))) hrun)

theorem Socket.portGetter_eq_ok {c : ApiCall} {env : Env} {f f' : Frame} {err : SocketError}
    (hrun : Socket.portGetter c env f = .ok (err, f')) :
    f' = f ∨ f' = { f with calls := f.calls ++ [c.entry env f.obj.socket] } := by
  unfold Socket.portGetter at hrun
  split at hrun
  · simp only [Except.ok.injEq, Prod.mk.injEq] at hrun
    exact Or.inl hrun.2.symm
  · exact Or.inr (Frame.query_bind_eq_ok hrun)

theorem TCPStream.setNagle_eq_ok {env : Env} {enable : Bool} {f f' : Frame}
    (hrun : TCPStream.setNagle env enable f = .ok ((), f')) :
    f.obj.socket.api ≠ none ∧ f' = (f.call env (.setNagle enable)).2 := by
  unfold TCPStream.setNagle at hrun
  cases hapi : f.apiErr env (.setNagle enable) with
  | error e => simp [hapi, bind, Except.bind] at hrun
  | ok p =>
      obtain ⟨err, g⟩ := p
      obtain ⟨hne, _, rfl⟩ := Frame.apiErr_eq_ok hapi
      simp only [hapi, bind, Except.bind, pure, Except.pure, Except.ok.injEq,
        Prod.mk.injEq] at hrun
      exact ⟨hne, hrun.2.symm⟩

theorem UDPSocket.connect_eq_ok {env : Env} {address : Option SocketAddr} {port : UInt16}
    {f f' : Frame} {err : SocketError}
    (hrun : UDPSocket.connect env address port f = .ok (err, f')) :
    f' = f ∨ (f.obj.socket.api ≠ none ∧ ∃ raw, f' = (f.call env (.connect raw port)).2) := by
  unfold UDPSocket.connect at hrun
  split at hrun
  · simp only [Except.ok.injEq, Prod.mk.injEq] at hrun
    exact Or.inl hrun.2.symm
  · cases address with
    | none => cases hrun
    | some address =>
        obtain ⟨hapi, _, hf⟩ := Frame.apiErr_eq_ok hrun
        exact Or.inr ⟨hapi, address.getAddr, hf⟩

theorem Socket.errorCheck_snd (err : SocketError) (f : Frame) :
    (Socket.errorCheck err f).2 = if err = .none then f else f.post (.onError err) := by
  unfold Socket.errorCheck
  split <;> rfl

@[simp] theorem Socket.errorCheck_this (err : SocketError) (f : Frame) :
    (Socket.errorCheck err f).2.this = f.this := by
  rw [Socket.errorCheck_snd]
  split <;> rfl

@[simp] theorem Socket.errorCheck_obj (err : SocketError) (f : Frame) :
    (Socket.errorCheck err f).2.obj = f.obj := by
  rw [Socket.errorCheck_snd]
  split <;> rfl

@[simp] theorem Socket.errorCheck_calls (err : SocketError) (f : Frame) :
    (Socket.errorCheck err f).2.calls = f.calls := by
  rw [Socket.errorCheck_snd]
  split <;> rfl

private theorem ran_of_query {op : Op} {env : Env} {f f' : Frame} {c : ApiCall}
    {s : StructSocket} (hplain : c.plain = true) (hreg : op.registers = none)
    (hcheck : ∀ err, op ≠ .errorCheck err)
    (h : f' = f ∨ f' = { f with calls := f.calls ++ [c.entry env s] }) :
    Op.Ran env f op f' := by
  rcases h with rfl | rfl
  · exact .unchanged op (fun err h => absurd h (hcheck err))
  · exact .queried op _ hplain hreg hcheck

private theorem ran_of_call {op : Op} {env : Env} {f f' : Frame}
    (hreg : op.registers = none) (hcheck : ∀ err, op ≠ .errorCheck err)
    (h : f' = f ∨ (f.obj.socket.api ≠ none ∧
      ∃ c : ApiCall, c.plain = true ∧ f' = (f.call env c).2)) :
    Op.Ran env f op f' := by
  rcases h with rfl | ⟨hapi, c, hplain, rfl⟩
  · exact .unchanged op (fun err h => absurd h (hcheck err))
  · exact .called op c hplain hreg hcheck hapi

private theorem ran_of_request {op : Op} {env : Env} {f f' : Frame} {slot : Slot}
    {h : FunctionPointer} {c : ApiCall} {err : SocketError} (hplain : c.plain = true)
    (hreg : op.registers = some (slot, h)) (hcheck : ∀ err, op ≠ .errorCheck err)
    (hrun : (f.obj.socket.api = none ∧ err = .badStack ∧ f' = f) ∨
      (f.obj.socket.api ≠ none ∧ err = (env c).err ∧
        f' = ((f.register slot h).call env c).2)) :
    Op.Ran env f op f' := by
  rcases hrun with ⟨_, _, rfl⟩ | ⟨hapi, _, rfl⟩
  · exact .unchanged op (fun err h => absurd h (hcheck err))
  · exact .requested op slot h c hreg hplain hapi

/-- `open(af)`: the class decides on the family, the guard on the call. -/
theorem Op.openAf_eq_ok {env : Env} {f f' : Frame} {af : AddressFamily} {ret : Ret}
    (h : Op.exec env f (.openAf af) = .ok (ret, f')) :
    (f.obj.socket.api = none ∧ f' = f) ∨
    (f.obj.socket.api ≠ none ∧
      f' = (f.call env (.create af f.obj.cls.protoFamily f.this)).2) := by
  have hopen : ∃ err, Socket.openAfPf env af f.obj.cls.protoFamily f = .ok (err, f') := by
    simp only [Op.exec] at h
    split at h
    all_goals
      rename_i hcls
      obtain ⟨err, hrun, _⟩ := Ret.ofCode_eq_ok h
      exact ⟨err, by rw [hcls]; exact hrun⟩
  obtain ⟨err, hrun⟩ := hopen
  rcases apiGuarded_eq_ok rfl hrun with ⟨hapi, _, hsame⟩ | ⟨hapi, _, hcall⟩
  · exact Or.inl ⟨hapi, hsame⟩
  · exact Or.inr ⟨hapi, hcall⟩

/-- Every operation that returns has one of the shapes. -/
theorem Op.exec_ran {op : Op} {env : Env} {f f' : Frame} {ret : Ret}
    (h : op.exec env f = .ok (ret, f')) : op.Ran env f f' := by
  cases op with
  | openAf af =>
      rcases Op.openAf_eq_ok h with ⟨_, rfl⟩ | ⟨hapi, rfl⟩
      · exact .unchanged _ (fun err h => by cases h)
      · exact .opened af hapi
  | openAfPf af pf =>
      obtain ⟨err, hrun, _⟩ := Ret.ofCode_eq_ok h
      rw [Socket.virtualOpen_eq, Except.ok.injEq, Prod.mk.injEq] at hrun
      exact ran_of_call rfl (by simp) (Or.inl hrun.2.symm)
  | resolve address hnd =>
      obtain ⟨err, hrun, _⟩ := Ret.ofCode_eq_ok h
      rcases Socket.resolve_eq_ok hrun with ⟨rfl, _⟩ | ⟨_, _, hapi, _, rfl⟩
      · exact .unchanged _ (fun err h => by cases h)
      · exact .requested _ _ _ _ rfl rfl hapi
  | bindText addr port tmp =>
      obtain ⟨err, hrun, _⟩ := Ret.ofCode_eq_ok h
      rcases Socket.bindText_eq_ok hrun with hsame | ⟨hapi, hone | ⟨raw, rfl⟩⟩
      · exact ran_of_call rfl (by simp) (Or.inl hsame)
      · exact ran_of_call rfl (by simp) (Or.inr ⟨hapi, _, rfl, hone⟩)
      · exact .calledTwice _ _ _ rfl rfl rfl (by simp) hapi
  | bindAddr addr port =>
      obtain ⟨err, hrun, _⟩ := Ret.ofCode_eq_ok h
      rcases Socket.bindAddr_eq_ok hrun with hsame | ⟨hapi, raw, hcall⟩
      · exact ran_of_call rfl (by simp) (Or.inl hsame)
      · exact ran_of_call rfl (by simp) (Or.inr ⟨hapi, _, rfl, hcall⟩)
  | setOnError hnd =>
      simp only [Op.exec, Except.ok.injEq, Prod.mk.injEq] at h
      exact h.2 ▸ .registered _ _ _ rfl
  | setOnReadable hnd =>
      simp only [Op.exec, Except.ok.injEq, Prod.mk.injEq] at h
      exact h.2 ▸ .registered _ _ _ rfl
  | setOnSent hnd =>
      simp only [Op.exec, Except.ok.injEq, Prod.mk.injEq] at h
      exact h.2 ▸ .registered _ _ _ rfl
  | close =>
      obtain ⟨err, hrun, _⟩ := Ret.ofCode_eq_ok h
      exact ran_of_call rfl (by simp)
        ((implGuarded_eq_ok hrun).imp id (fun ⟨hapi, hcall⟩ => ⟨hapi, _, rfl, hcall⟩))
  | recv buf len =>
      obtain ⟨err, hrun, _⟩ := Ret.ofCode_eq_ok h
      exact ran_of_call rfl (by simp)
        ((implGuarded_eq_ok hrun).imp id (fun ⟨hapi, hcall⟩ => ⟨hapi, _, rfl, hcall⟩))
  | recvFrom buf len remote port addr =>
      obtain ⟨err, out, hrun, _⟩ := Ret.ofCodeAddr_eq_ok h
      exact ran_of_call rfl (by simp)
        ((Socket.recvFrom_eq_ok hrun).imp id (fun ⟨hapi, hcall⟩ => ⟨hapi, _, rfl, hcall⟩))
  | send buf len =>
      obtain ⟨err, hrun, _⟩ := Ret.ofCode_eq_ok h
      exact ran_of_call rfl (by simp)
        ((implGuarded_eq_ok hrun).imp id (fun ⟨hapi, hcall⟩ => ⟨hapi, _, rfl, hcall⟩))
  | sendTo buf len remote port =>
      obtain ⟨err, hrun, _⟩ := Ret.ofCode_eq_ok h
      exact ran_of_call rfl (by simp)
        ((Socket.sendTo_eq_ok hrun).imp id (fun ⟨hapi, _, hcall⟩ => ⟨hapi, _, rfl, hcall⟩))
  | errorCheck err =>
      simp only [Op.exec, Except.ok.injEq, Prod.mk.injEq] at h
      rw [← h.2, Socket.errorCheck_snd]
      split
      · rename_i hnone
        exact .unchanged _ (fun e he => by cases he; exact hnone)
      · rename_i herr
        exact .checked err herr
  | isConnected =>
      simp only [Op.exec] at h
      cases hrun : Socket.isConnected env f with
      | error e => simp [hrun, bind, Except.bind] at h
      | ok p =>
          obtain ⟨b, g⟩ := p
          simp only [hrun, bind, Except.bind, pure, Except.pure, Except.ok.injEq,
            Prod.mk.injEq] at h
          exact ran_of_query rfl rfl (by simp) (h.2 ▸ Socket.isConnected_eq_ok hrun)
  | getLocalAddr addr =>
      obtain ⟨err, out, hrun, _⟩ := Ret.ofCodeAddr_eq_ok h
      exact ran_of_query rfl rfl (by simp) (Socket.addrGetter_eq_ok hrun)
  | getLocalPort port =>
      obtain ⟨err, hrun, _⟩ := Ret.ofCode_eq_ok h
      exact ran_of_query rfl rfl (by simp) (Socket.portGetter_eq_ok hrun)
  | getRemoteAddr addr =>
      obtain ⟨err, out, hrun, _⟩ := Ret.ofCodeAddr_eq_ok h
      exact ran_of_query rfl rfl (by simp) (Socket.addrGetter_eq_ok hrun)
  | getRemotePort port =>
      obtain ⟨err, hrun, _⟩ := Ret.ofCode_eq_ok h
      exact ran_of_query rfl rfl (by simp) (Socket.portGetter_eq_ok hrun)
  | udpConnect address port =>
      obtain ⟨err, hrun, _⟩ := Ret.ofCode_eq_ok h
      exact ran_of_call rfl (by simp)
        ((UDPSocket.connect_eq_ok hrun).imp id (fun ⟨hapi, _, hcall⟩ => ⟨hapi, _, rfl, hcall⟩))
  | streamConnect address port hnd =>
      obtain ⟨err, hrun, _⟩ := Ret.ofCode_eq_ok h
      exact ran_of_request rfl rfl (by simp) (TCPStream.connect_eq_ok hrun)
  | setOnDisconnect hnd =>
      simp only [Op.exec, Except.ok.injEq, Prod.mk.injEq] at h
      exact h.2 ▸ .registered _ _ _ rfl
  | setNagle enable =>
      obtain ⟨hrun, _⟩ := Ret.ofUnit_eq_ok h
      obtain ⟨hapi, hcall⟩ := TCPStream.setNagle_eq_ok hrun
      exact ran_of_call rfl (by simp) (Or.inr ⟨hapi, _, rfl, hcall⟩)
  | startListening hnd backlog =>
      obtain ⟨err, hrun, _⟩ := Ret.ofCode_eq_ok h
      exact ran_of_request rfl rfl (by simp) (TCPListener.startListening_eq_ok hrun)
  | stopListening =>
      obtain ⟨err, hrun, _⟩ := Ret.ofCode_eq_ok h
      rcases apiGuarded_eq_ok rfl hrun with ⟨_, _, hsame⟩ | ⟨hapi, _, hcall⟩
      · exact ran_of_call rfl (by simp) (Or.inl hsame)
      · exact ran_of_call rfl (by simp) (Or.inr ⟨hapi, _, rfl, hcall⟩)
  | reject impl =>
      obtain ⟨hrun, _⟩ := Ret.ofUnit_eq_ok h
      have hclose := Frame.query_bind_eq_ok (c := .close)
        (s := { f.obj.socket with impl := impl }) (k := fun _ => ()) hrun
      exact ran_of_query (c := .close) rfl rfl (by simp) (Or.inr hclose)

end MbedSockets
