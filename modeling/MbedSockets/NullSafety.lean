import MbedSockets.Steps

/-!
Null pointers. The public operations protect themselves by three guards: on
`_socket.api`, on `_socket.impl`, and on an address argument. An operation is
safe if it does not fault and, where a null is in its way, refuses and leaves
the socket alone. `Op.guarded` says exactly when each operation is. Those that
look at `impl` alone rely on an invariant of the whole layer, that a socket
without an api has no `impl`; the runs that keep it are characterised last.
-/

namespace MbedSockets

open Lib.Run

variable {n : Nat}

/-- The operations whose work is done by a call into the stack. -/
def Op.usesStack : Op → Bool
  | .openAfPf _ _ | .setOnError _ | .setOnReadable _ | .setOnSent _ | .setOnDisconnect _
  | .errorCheck _ => false
  | _ => true

def Op.nullAddr : Op → Bool
  | .bindAddr addr _ | .recvFrom _ _ addr _ _ | .sendTo _ _ addr _ | .getLocalAddr addr
  | .getRemoteAddr addr | .udpConnect addr _ => addr.isNone
  | _ => false

/-- A null is in the way: the api that the operation needs, or its address. -/
def Op.meetsNull (o : SocketObj) (op : Op) : Prop :=
  (op.usesStack = true ∧ o.socket.api = none) ∨ op.nullAddr = true

/-- The results by which an operation declines. `is_connected` has no error
code and says no. -/
def Ret.refusal : Ret → Prop
  | .unit => True
  | .bool b => b = false
  | .code err | .codeAddr err _ => err = .badStack ∨ err = .nullPtr
  | .stream s => s = none

/-- No fault and, if a null is in the way, a refusal that changes nothing. -/
def SafeResult (f : Frame) (null : Prop) (r : Except Fault (Ret × Frame)) : Prop :=
  ∃ ret f', r = .ok (ret, f') ∧ (null → ret.refusal ∧ f' = f)

/-- When an operation is safe, operation by operation. -/
def Op.guarded (o : SocketObj) : Op → Prop
  | .resolve _ _ | .bindText _ _ _ | .close | .recv _ _ | .send _ _ | .isConnected
  | .getLocalPort _ | .getRemotePort _ => o.socket.api ≠ none ∨ o.socket.impl = none
  | .recvFrom _ _ addr _ _ | .sendTo _ _ addr _ | .getLocalAddr addr | .getRemoteAddr addr =>
    addr = none ∨ o.socket.api ≠ none ∨ o.socket.impl = none
  | .bindAddr addr _ => addr = none ∨ o.socket.api ≠ none
  | .udpConnect addr _ => o.socket.api = none ∨ addr ≠ none
  | .setNagle _ | .reject _ => o.socket.api ≠ none
  | _ => True

/-- The same for sockets that have an `impl` only if they have an api. -/
def Op.sound (o : SocketObj) : Op → Prop
  | .bindAddr addr _ => addr = none ∨ o.socket.api ≠ none
  | .udpConnect addr _ => o.socket.api = none ∨ addr ≠ none
  | .setNagle _ | .reject _ => o.socket.api ≠ none
  | _ => True

section families

variable {f g : Frame} {null : Prop} {env : Env} {c : ApiCall}

@[simp] theorem safeResult_ok {ret : Ret} {f' : Frame} :
    SafeResult f null (.ok (ret, f')) ↔ (null → ret.refusal ∧ f' = f) := by
  simp [SafeResult]

@[simp] theorem safeResult_error {e : Fault} : ¬ SafeResult f null (.error e) := by
  simp [SafeResult]

theorem Frame.apiErr_some {api : SocketApi} (hapi : f.obj.socket.api = some api) :
    f.apiErr env c = .ok ((env c).err, (f.call env c).2) := by
  simp [Frame.apiErr, Frame.api, hapi, bind, Except.bind, pure, Except.pure]

theorem Frame.apiErr_none (hapi : f.obj.socket.api = none) :
    f.apiErr env c = .error .nullApi := by
  simp [Frame.apiErr, Frame.api, hapi, bind, Except.bind]

theorem Frame.query_some {s : StructSocket} {api : SocketApi} (hapi : s.api = some api) :
    f.query env c s = .ok (env c, { f with calls := f.calls ++ [c.entry env s] }) := by
  simp [Frame.query, hapi]

theorem Frame.query_none {s : StructSocket} (hapi : s.api = none) :
    f.query env c s = .error .nullApi := by
  simp [Frame.query, hapi]

/-- A member that checks `api` first is always safe. -/
theorem safe_apiGuarded (hg : g.obj.socket.api = f.obj.socket.api) :
    SafeResult f (f.obj.socket.api = none)
      (Ret.ofCode (if f.obj.socket.api = none then .ok (.badStack, f) else g.apiErr env c)) := by
  cases hapi : f.obj.socket.api with
  | none => simp [Ret.ofCode, Ret.refusal, bind, Except.bind, pure, Except.pure]
  | some api =>
      simp [Ret.ofCode, Frame.apiErr_some (hg.trans hapi), bind, Except.bind, pure, Except.pure]

/-- A member that checks `impl` only. -/
theorem safe_implGuarded_iff :
    SafeResult f (f.obj.socket.api = none)
      (Ret.ofCode (if f.obj.socket.impl = none then .ok (.nullPtr, f) else f.apiErr env c)) ↔
    f.obj.socket.api ≠ none ∨ f.obj.socket.impl = none := by
  cases himpl : f.obj.socket.impl with
  | none => simp [Ret.ofCode, Ret.refusal, bind, Except.bind, pure, Except.pure]
  | some i =>
      cases hapi : f.obj.socket.api with
      | none => simp [Ret.ofCode, Frame.apiErr_none hapi, bind, Except.bind]
      | some api =>
          simp [Ret.ofCode, Frame.apiErr_some hapi, bind, Except.bind, pure, Except.pure]

theorem safe_portGetter_iff :
    SafeResult f (f.obj.socket.api = none) (Ret.ofCode (Socket.portGetter c env f)) ↔
    f.obj.socket.api ≠ none ∨ f.obj.socket.impl = none := by
  unfold Socket.portGetter
  cases himpl : f.obj.socket.impl with
  | none => simp [Ret.ofCode, Ret.refusal, bind, Except.bind, pure, Except.pure]
  | some i =>
      cases hapi : f.obj.socket.api with
      | none => simp [Ret.ofCode, Frame.query_none hapi, bind, Except.bind]
      | some api =>
          simp [Ret.ofCode, Frame.query_some hapi, bind, Except.bind, pure, Except.pure]

theorem safe_addrGetter_iff {addr : Option SocketAddr} :
    SafeResult f (f.obj.socket.api = none ∨ addr = none)
      (Ret.ofCodeAddr (Socket.addrGetter c env addr f)) ↔
    addr = none ∨ f.obj.socket.api ≠ none ∨ f.obj.socket.impl = none := by
  unfold Socket.addrGetter
  cases addr with
  | none => simp [Ret.ofCodeAddr, Ret.refusal, bind, Except.bind, pure, Except.pure]
  | some addr =>
      cases himpl : f.obj.socket.impl with
      | none => simp [Ret.ofCodeAddr, Ret.refusal, bind, Except.bind, pure, Except.pure]
      | some i =>
          cases hapi : f.obj.socket.api with
          | none => simp [Ret.ofCodeAddr, Frame.query_none hapi, bind, Except.bind]
          | some api =>
              simp [Ret.ofCodeAddr, Frame.query_some hapi, bind, Except.bind, pure, Except.pure]

/-- `bind` on an address: without an api it fails in `open` with another
error, or faults. -/
theorem safe_bindAddr_iff {addr : Option SocketAddr} {port : UInt16} :
    SafeResult f (f.obj.socket.api = none ∨ addr = none)
      (Ret.ofCode (Socket.bindAddr env addr port f)) ↔
    addr = none ∨ f.obj.socket.api ≠ none := by
  unfold Socket.bindAddr
  cases addr with
  | none => simp [Ret.ofCode, Ret.refusal, bind, Except.bind, pure, Except.pure]
  | some addr =>
      cases himpl : f.obj.socket.impl with
      | none =>
          simp [Socket.virtualOpen_eq, Ret.ofCode, Ret.refusal, bind, Except.bind, pure,
            Except.pure]
      | some i =>
          cases hapi : f.obj.socket.api with
          | none => simp [Ret.ofCode, Frame.apiErr_none hapi, bind, Except.bind]
          | some api =>
              simp [Ret.ofCode, Frame.apiErr_some hapi, bind, Except.bind, pure, Except.pure]

theorem safe_recvFrom_iff {buf len port : Ptr} {addr : Option SocketAddr} {raw : RawAddr} :
    SafeResult f (f.obj.socket.api = none ∨ addr = none)
      (Ret.ofCodeAddr (Socket.recvFrom env buf len addr port raw f)) ↔
    addr = none ∨ f.obj.socket.api ≠ none ∨ f.obj.socket.impl = none := by
  unfold Socket.recvFrom
  cases addr with
  | none => simp [Ret.ofCodeAddr, Ret.refusal, bind, Except.bind, pure, Except.pure]
  | some addr =>
      cases himpl : f.obj.socket.impl with
      | none => simp [Ret.ofCodeAddr, Ret.refusal, bind, Except.bind, pure, Except.pure]
      | some i =>
          cases hapi : f.obj.socket.api with
          | none => simp [Ret.ofCodeAddr, Frame.api, hapi, bind, Except.bind]
          | some api =>
              simp [Ret.ofCodeAddr, Frame.api, hapi, bind, Except.bind, pure, Except.pure]

theorem safe_sendTo_iff {buf : Ptr} {len : Nat} {addr : Option SocketAddr} {port : UInt16} :
    SafeResult f (f.obj.socket.api = none ∨ addr = none)
      (Ret.ofCode (Socket.sendTo env buf len addr port f)) ↔
    addr = none ∨ f.obj.socket.api ≠ none ∨ f.obj.socket.impl = none := by
  cases addr with
  | none =>
      simp [Socket.sendTo, Ret.ofCode, Ret.refusal, bind, Except.bind, pure, Except.pure]
  | some addr =>
      have himpl : SafeResult f (f.obj.socket.api = none)
          (Ret.ofCode (Socket.sendTo env buf len (some addr) port f)) ↔
          f.obj.socket.api ≠ none ∨ f.obj.socket.impl = none := safe_implGuarded_iff
      simpa using himpl

/-- A name or text needs an open socket, and then the api. -/
theorem safe_resolve_iff {address : Ptr} {h : FunctionPointer} :
    SafeResult f (f.obj.socket.api = none) (Ret.ofCode (Socket.resolve env address h f)) ↔
    f.obj.socket.api ≠ none ∨ f.obj.socket.impl = none := by
  unfold Socket.resolve
  cases himpl : f.obj.socket.impl with
  | none => simp [Ret.ofCode, Ret.refusal, bind, Except.bind, pure, Except.pure]
  | some i =>
      cases hhandler : f.obj.socket.handler with
      | none => simp [Ret.ofCode, Ret.refusal, bind, Except.bind, pure, Except.pure]
      | some this =>
          cases hapi : f.obj.socket.api with
          | none =>
              have hreg : (f.register .onDNS h).obj.socket.api = none := hapi
              simp [Ret.ofCode, Frame.apiErr_none hreg, bind, Except.bind]
          | some api =>
              have hreg : (f.register .onDNS h).obj.socket.api = some api := hapi
              simp [Ret.ofCode, Frame.apiErr_some hreg, bind, Except.bind, pure, Except.pure]

theorem safe_bindText_iff {addr : Ptr} {port : UInt16} {tmp : SocketAddr} :
    SafeResult f (f.obj.socket.api = none)
      (Ret.ofCode (Socket.bindText env addr port tmp f)) ↔
    f.obj.socket.api ≠ none ∨ f.obj.socket.impl = none := by
  unfold Socket.bindText
  cases himpl : f.obj.socket.impl with
  | none => simp [Ret.ofCode, Ret.refusal, bind, Except.bind, pure, Except.pure]
  | some i =>
      cases hapi : f.obj.socket.api with
      | none => simp [Ret.ofCode, Frame.api, hapi, bind, Except.bind]
      | some api =>
          by_cases herr : (env (.str2addr addr)).err = .none
          · have hcall : (f.call env (.str2addr addr)).2.obj.socket.api ≠ none := by
              simp [Frame.call, Answer.store, hapi]
            have hsafe : SafeResult (f.call env (.str2addr addr)).2 _ (Ret.ofCode (Socket.bindAddr
                env (some ⟨(env (.str2addr addr)).addr.getD tmp.addr⟩) port
                (f.call env (.str2addr addr)).2)) := safe_bindAddr_iff.mpr (Or.inr hcall)
            obtain ⟨ret, f', hok, _⟩ := hsafe
            obtain ⟨e, hbind, _⟩ := Ret.ofCode_eq_ok hok
            simp [Ret.ofCode, Frame.api, hapi, herr, hbind, bind, Except.bind, pure, Except.pure]
          · simp [Ret.ofCode, Frame.api, hapi, herr, bind, Except.bind, pure, Except.pure]

theorem safe_isConnected_iff :
    SafeResult f (f.obj.socket.api = none) (Op.exec env f .isConnected) ↔
    f.obj.socket.api ≠ none ∨ f.obj.socket.impl = none := by
  simp only [Op.exec, Socket.isConnected]
  cases himpl : f.obj.socket.impl with
  | none => simp [Ret.refusal, bind, Except.bind, pure, Except.pure]
  | some i =>
      cases hapi : f.obj.socket.api with
      | none => simp [Frame.query_none hapi, bind, Except.bind]
      | some api => simp [Frame.query_some hapi, bind, Except.bind, pure, Except.pure]

/-- A UDP `connect` checks the api and then uses the address unchecked. -/
theorem safe_udpConnect_iff {addr : Option SocketAddr} {port : UInt16} :
    SafeResult f (f.obj.socket.api = none ∨ addr = none)
      (Ret.ofCode (UDPSocket.connect env addr port f)) ↔
    f.obj.socket.api = none ∨ addr ≠ none := by
  unfold UDPSocket.connect
  cases hapi : f.obj.socket.api with
  | none => simp [Ret.ofCode, Ret.refusal, bind, Except.bind, pure, Except.pure]
  | some api =>
      cases addr with
      | none => simp [Ret.ofCode, bind, Except.bind]
      | some addr =>
          simp [Ret.ofCode, Frame.apiErr_some hapi, bind, Except.bind, pure, Except.pure]

theorem safe_setNagle_iff {enable : Bool} :
    SafeResult f (f.obj.socket.api = none) (Ret.ofUnit (TCPStream.setNagle env enable f)) ↔
    f.obj.socket.api ≠ none := by
  unfold TCPStream.setNagle
  cases hapi : f.obj.socket.api with
  | none => simp [Ret.ofUnit, Frame.apiErr_none hapi, bind, Except.bind]
  | some api => simp [Ret.ofUnit, Frame.apiErr_some hapi, bind, Except.bind, pure, Except.pure]

theorem safe_reject_iff {impl : Option Impl} :
    SafeResult f (f.obj.socket.api = none) (Ret.ofUnit (TCPListener.reject env impl f)) ↔
    f.obj.socket.api ≠ none := by
  unfold TCPListener.reject
  cases hapi : f.obj.socket.api with
  | none =>
      have hs : { f.obj.socket with impl := impl }.api = none := hapi
      simp [Ret.ofUnit, Frame.query_none hs, bind, Except.bind]
  | some api =>
      have hs : { f.obj.socket with impl := impl }.api = some api := hapi
      simp [Ret.ofUnit, Frame.query_some hs, bind, Except.bind, pure, Except.pure]

end families

theorem Op.meetsNull_stack_iff {op : Op} {o : SocketObj} (huses : op.usesStack = true)
    (haddr : op.nullAddr = false) : op.meetsNull o ↔ o.socket.api = none := by
  simp [Op.meetsNull, huses, haddr]

theorem Op.meetsNull_addr_iff {op : Op} {o : SocketObj} {addr : Option SocketAddr}
    (huses : op.usesStack = true) (haddr : op.nullAddr = addr.isNone) :
    op.meetsNull o ↔ o.socket.api = none ∨ addr = none := by
  simp [Op.meetsNull, huses, haddr]

/-- Every operation is safe exactly where its guards say. -/
theorem Op.safe_iff (env : Env) (f : Frame) (op : Op) :
    SafeResult f (op.meetsNull f.obj) (op.exec env f) ↔ op.guarded f.obj := by
  cases op with
  | openAf af =>
      rw [Op.meetsNull_stack_iff rfl rfl]
      refine ⟨fun _ => trivial, fun _ => ?_⟩
      simp only [Op.exec]
      split <;> exact safe_apiGuarded rfl
  | openAfPf af pf =>
      refine ⟨fun _ => trivial, fun _ => ?_⟩
      have hnull : ¬ (Op.openAfPf af pf).meetsNull f.obj := by
        simp [Op.meetsNull, Op.usesStack, Op.nullAddr]
      simp [Op.exec, Socket.virtualOpen_eq, Ret.ofCode, hnull, bind, Except.bind, pure,
        Except.pure]
  | streamConnect address port hnd =>
      rw [Op.meetsNull_stack_iff rfl rfl]
      exact ⟨fun _ => trivial, fun _ => safe_apiGuarded (g := f.register .onConnect hnd) rfl⟩
  | startListening hnd backlog =>
      rw [Op.meetsNull_stack_iff rfl rfl]
      exact ⟨fun _ => trivial, fun _ => safe_apiGuarded (g := f.register .onIncoming hnd) rfl⟩
  | stopListening =>
      rw [Op.meetsNull_stack_iff rfl rfl]
      exact ⟨fun _ => trivial, fun _ => safe_apiGuarded rfl⟩
  | resolve address hnd =>
      rw [Op.meetsNull_stack_iff rfl rfl]
      exact safe_resolve_iff
  | bindText addr port tmp =>
      rw [Op.meetsNull_stack_iff rfl rfl]
      exact safe_bindText_iff
  | close | recv buf len | send buf len =>
      rw [Op.meetsNull_stack_iff rfl rfl]
      exact safe_implGuarded_iff
  | isConnected =>
      rw [Op.meetsNull_stack_iff rfl rfl]
      exact safe_isConnected_iff
  | getLocalPort port | getRemotePort port =>
      rw [Op.meetsNull_stack_iff rfl rfl]
      exact safe_portGetter_iff
  | getLocalAddr addr | getRemoteAddr addr =>
      rw [Op.meetsNull_addr_iff rfl rfl]
      exact safe_addrGetter_iff
  | recvFrom buf len addr port raw =>
      rw [Op.meetsNull_addr_iff rfl rfl]
      exact safe_recvFrom_iff
  | sendTo buf len addr port =>
      rw [Op.meetsNull_addr_iff rfl rfl]
      exact safe_sendTo_iff
  | bindAddr addr port =>
      rw [Op.meetsNull_addr_iff rfl rfl]
      exact safe_bindAddr_iff
  | udpConnect addr port =>
      rw [Op.meetsNull_addr_iff rfl rfl]
      exact safe_udpConnect_iff
  | setNagle enable =>
      rw [Op.meetsNull_stack_iff rfl rfl]
      exact safe_setNagle_iff
  | reject impl =>
      rw [Op.meetsNull_stack_iff rfl rfl]
      exact safe_reject_iff
  | setOnError _ | setOnReadable _ | setOnSent _ | setOnDisconnect _ | errorCheck _ =>
      simp [Op.meetsNull, Op.usesStack, Op.nullAddr, Op.exec, Op.guarded]

theorem Op.guarded_iff_sound {o : SocketObj} (hnull : o.socket.api = none → o.socket.impl = none)
    (op : Op) : op.guarded o ↔ op.sound o := by
  have himpl : o.socket.api ≠ none ∨ o.socket.impl = none := by
    by_cases hapi : o.socket.api = none
    · exact Or.inr (hnull hapi)
    · exact Or.inl hapi
  cases op <;> simp [Op.guarded, Op.sound, himpl]

namespace World

/-- An action is safe. Only operations have a way to refuse; the others must
not fault. -/
def NullSafe (w : World n) : Action n → Prop
  | .op id op env => ∀ o ∈ w.objs.cell id, op.typed o.cls = true →
      SafeResult (.start id o) (op.meetsNull o) (op.exec env (.start id o))
  | a => ∀ e, w.step a ≠ some (.error e)

def Guarded (w : World n) : Action n → Prop
  | .op id op _ => ∀ o ∈ w.objs.cell id, op.typed o.cls = true → op.guarded o
  | .construct loc h (.adopt sock) _ =>
      w.vacant loc → w.ticker.scheduled h = false → w.registry sock.stack ≠ none
  | _ => True

def Sound (w : World n) : Action n → Prop
  | .op id op _ => ∀ o ∈ w.objs.cell id, op.typed o.cls = true → op.sound o
  | .construct loc h (.adopt sock) _ =>
      w.vacant loc → w.ticker.scheduled h = false → w.registry sock.stack ≠ none
  | _ => True

/-- The invariant behind the guards on `impl`. -/
def NullImpl (w : World n) : Prop :=
  ∀ id o, w.objs.cell id = some o → o.socket.api = none → o.socket.impl = none

/-- A stream takes over a control block only on a registered stack. -/
def AdoptsRegistered (w : World n) : Action n → Prop
  | .construct _ _ ctor env => w.registry ctor.stack = none → ctor.impl w.objs.next env = none
  | .accept id newImpl _ _ env => ∀ o ∈ w.objs.cell id,
      (env (.socketAccept o.socket w.objs.next)).err = .none → w.registry o.socket.stack = none →
        (acceptCtor o newImpl).impl w.objs.next env = none
  | _ => True

theorem construct_ne_error_iff (w : World n) (loc : BitVec n) (h : Handle) (ctor : Ctor)
    (env : Env) :
    (∀ e, w.step (.construct loc h ctor env) ≠ some (.error e)) ↔
      w.Guarded (.construct loc h ctor env) := by
  by_cases hpossible : w.vacant loc ∧ w.ticker.scheduled h = false
  · by_cases hnull : ∀ sock, ctor = .adopt sock → w.registry sock.stack ≠ none
    · obtain ⟨ret, heq⟩ := w.construct_eq loc h env ctor hnull
      have hguarded : w.Guarded (.construct loc h ctor env) := by
        cases ctor with
        | adopt sock => exact fun _ _ => hnull sock rfl
        | _ => trivial
      simp [World.step, hpossible, heq, hguarded]
    · push Not at hnull
      obtain ⟨sock, rfl, hnone⟩ := hnull
      simp [World.step, hpossible, w.construct_null loc h env sock hnone, Guarded, hnone]
  · have hguarded : w.Guarded (.construct loc h ctor env) := by
      cases ctor with
      | adopt sock => exact fun hvacant hunused => absurd ⟨hvacant, hunused⟩ hpossible
      | _ => trivial
    simp [World.step, hpossible, hguarded]

/-- Nothing but the operations and the deprecated constructor can fault. -/
theorem step_ne_error_of_other (w : World n) (a : Action n)
    (hop : ∀ id op env, a ≠ .op id op env) (hctor : ∀ loc h ctor env, a ≠ .construct loc h ctor env)
    (e : Fault) : w.step a ≠ some (.error e) := by
  cases a with
  | op id op env => exact absurd rfl (hop id op env)
  | construct loc h ctor env => exact absurd rfl (hctor loc h ctor env)
  | register stack api =>
      simp only [World.step]
      split <;> simp
  | destruct id env =>
      cases hcell : w.objs.cell id <;>
        simp [World.step, hcell, destruct_eq, bind, Except.bind, pure, Except.pure]
  | accept id newImpl loc h env =>
      cases hcell : w.objs.cell id with
      | none => simp [World.step, hcell]
      | some o =>
          simp only [World.step, hcell, Option.bind_some, accept_eq]
          split
          · split <;> simp
          · simp
  | event id ev =>
      cases hcell : w.objs.cell id <;>
        simp [World.step, hcell, Socket.nvEventHandler_eq, bind, Except.bind, pure, Except.pure]
  | dispatch i => cases hb : w.pending[i]? <;> simp [World.step, hb]
  | tick h =>
      simp only [World.step]
      split <;> simp

theorem nullSafe_iff_guarded (w : World n) (a : Action n) : w.NullSafe a ↔ w.Guarded a := by
  cases a with
  | op id op env =>
      constructor
      · intro hsafe o hcell htyped
        exact (Op.safe_iff env (.start id o) op).mp (hsafe o hcell htyped)
      · intro hguarded o hcell htyped
        exact (Op.safe_iff env (.start id o) op).mpr (hguarded o hcell htyped)
  | construct loc h ctor env => exact construct_ne_error_iff w loc h ctor env
  | _ => exact ⟨fun _ => trivial, fun _ => step_ne_error_of_other w _ (by simp) (by simp)⟩

/-- Where the invariant holds, and only there, the guards on `impl` are as
good as guards on the api. -/
theorem nullImpl_iff (w : World n) :
    (∀ a, w.NullSafe a ↔ w.Sound a) ↔ w.NullImpl := by
  constructor
  · intro hall id o hcell hapi
    have hsafe := (hall (.op id .close .quiet)).mpr (fun _ _ _ => trivial)
    have hguarded := (nullSafe_iff_guarded w _).mp hsafe o hcell rfl
    exact hguarded.resolve_left (fun hne => hne hapi)
  · intro hnull a
    rw [nullSafe_iff_guarded]
    cases a with
    | op id op env =>
        constructor
        · intro hguarded o hcell htyped
          exact (Op.guarded_iff_sound (hnull id o hcell) op).mp (hguarded o hcell htyped)
        · intro hsound o hcell htyped
          exact (Op.guarded_iff_sound (hnull id o hcell) op).mpr (hsound o hcell htyped)
    | construct loc h ctor env => cases ctor <;> rfl
    | _ => rfl

theorem nullImpl_built_iff {w : World n} (hw : w.NullImpl) (loc : BitVec n) (h : Handle)
    (env : Env) (ctor : Ctor) :
    (w.built loc h env ctor).NullImpl ↔
      (w.registry ctor.stack = none → ctor.impl w.objs.next env = none) := by
  constructor
  · intro hbuilt
    have hnew := hbuilt w.objs.next (ctor.frame w.registry w.objs.next env).obj (by simp)
    simpa using hnew
  · intro hnew id o hcell
    rw [built_objs, Lib.Heap.alloc_cell_eq_some] at hcell
    rcases hcell with ⟨_, rfl⟩ | hold
    · simpa using hnew
    · exact hw id o hold

theorem nullImpl_destructed {w : World n} (id : ObjId) (o : SocketObj) (env : Env)
    (hother : ∀ id' o', id' ≠ id → w.objs.cell id' = some o' → o'.socket.api = none →
      o'.socket.impl = none) : (w.destructed id o env).NullImpl := by
  intro id' o' hcell
  rw [destructed_objs, Lib.Heap.free_cell_eq_some] at hcell
  exact hother id' o' hcell.1 hcell.2

theorem nullImpl_commit {w : World n} (hw : w.NullImpl) {f : Frame} {o : SocketObj}
    (hcell : w.objs.cell f.this = some o)
    (hself : f.obj.socket.api = none → f.obj.socket.impl = none) : (w.commit f).NullImpl := by
  intro id o' hcell'
  rw [commit_objs, Lib.Heap.set_cell_eq_some _ hcell] at hcell'
  rcases hcell' with ⟨rfl, rfl⟩ | ⟨_, hold⟩
  · exact hself
  · exact hw id o' hold

theorem nullImpl_step_iff (w : World n) (a : Action n) (w' : World n) (hw : w.NullImpl)
    (hstep : w.next a = some w') : w'.NullImpl ↔ w.AdoptsRegistered a := by
  cases next_stepped hstep with
  | built loc h ctor env _ _ _ => exact nullImpl_built_iff hw loc h env ctor
  | destructed id o env hcell =>
      exact ⟨fun _ => trivial, fun _ =>
        nullImpl_destructed id o env (fun id' o' _ h => hw id' o' h)⟩
  | ran id o op env ret f hcell _ hexec =>
      have hran := Op.exec_ran hexec
      have hthis : f.this = id := hran.same.this
      have hsameApi : f.obj.socket.api = o.socket.api := hran.same.api
      subst hthis
      refine ⟨fun _ => trivial, fun _ => nullImpl_commit hw hcell ?_⟩
      intro hapi
      have hnull : o.socket.api = none := hsameApi ▸ hapi
      have hsocket : f.obj.socket = o.socket := hran.socket_of_nullApi hnull
      rw [hsocket]
      exact hw f.this o hcell hnull
  | accepted id o newImpl loc h env hcell _ _ _ hok =>
      rw [nullImpl_built_iff hw]
      simp only [AdoptsRegistered, hcell, Option.mem_some_iff, forall_eq', hok, forall_const]
      rfl
  | refused id o newImpl loc h env hcell _ _ _ hfail =>
      constructor
      · intro _ o' ho' hok
        obtain rfl : o = o' := by simpa [hcell] using ho'
        exact absurd hok hfail
      · intro _
        apply nullImpl_destructed
        intro id' o' hne hcell'
        rw [built_objs, Lib.Heap.alloc_cell_of_ne _ _ hne] at hcell'
        exact hw id' o' hcell'
  | delivered id o ev hcell =>
      exact ⟨fun _ => trivial, fun _ => nullImpl_commit hw hcell (hw id o hcell)⟩
  | _ => exact ⟨fun _ => trivial, fun _ => hw⟩

/-- An action is null-safe exactly where it is guarded, in any state. In a run
every action stays as safe as its own guards make it, `impl` or not, exactly
if streams are only made to adopt control blocks on registered stacks. -/
theorem null_safe_iff :
    (∀ (w : World n) (a : Action n), w.NullSafe a ↔ w.Guarded a) ∧
    (∀ as : List (Action n),
      EachState World.next (fun w => ∀ a, w.NullSafe a ↔ w.Sound a) World.init as ↔
        EachStep World.next AdoptsRegistered World.init as) := by
  constructor
  · exact nullSafe_iff_guarded
  · intro as
    simp only [nullImpl_iff]
    apply eachState_iff_eachStep_of_local nullImpl_step_iff
    intro id o hcell
    simp [init] at hcell

/-- A stream on a stack that is not there, and a UDP socket on one that is. -/
def nullStack : List (Action 32) :=
  [.register 1 ⟨true, 250, 7⟩, .construct 4096 1 (.stream 0) .quiet,
    .construct 8192 2 (.udp 1) .quiet]

theorem nullStack_unsafe :
    ∃ w, run World.next World.init nullStack = some w ∧
      w.step (.op 0 (.setNagle true) .quiet) = some (.error .nullApi) ∧
      w.step (.op 1 (.udpConnect none 80) .quiet) = some (.error .nullAddr) ∧
      ¬ w.NullSafe (.op 0 (.setNagle true) .quiet) ∧
      ¬ w.NullSafe (.op 1 (.udpConnect none 80) .quiet) := by
  refine ⟨_, rfl, rfl, rfl, ?_, ?_⟩
  · intro hsafe
    obtain ⟨ret, f', hok, _⟩ := hsafe _ rfl rfl
    cases hok
  · intro hsafe
    obtain ⟨ret, f', hok, _⟩ := hsafe _ rfl rfl
    cases hok

end World

end MbedSockets
