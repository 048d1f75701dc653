import MbedSockets.Effects

/-!
Addresses on their way between the application and the stack. `bind` is meant
to open a socket that has not been opened yet, and goes through the virtual
`open(af, pf)` to do so; what runs there depends on the class of the object.
`recv_from` and `bind` on a text keep an address in an uninitialised local
while the stack fills it, or fails to. The results say when what was in that
memory before can be seen.
-/

namespace MbedSockets

/-! ### Opening in bind -/

/-- `bind` on a socket that is not open creates it with the family of its
class and then binds it. -/
def BindsLazily (env : Env) (addr : SocketAddr) (port : UInt16) (f : Frame) : Prop :=
  let create : ApiCall := .create .inet4 f.obj.cls.protoFamily f.this
  let bind : ApiCall := .bind addr.getAddr port
  ∃ err f', Socket.bindAddr env (some addr) port f = .ok (err, f') ∧
    if f.obj.socket.api = none then
      err = .badStack
    else if (env create).err = .none then
      err = (env bind).err ∧
        f'.calls.map ApiEntry.call = f.calls.map ApiEntry.call ++ [create, bind]
    else
      err = (env create).err ∧
        f'.calls.map ApiEntry.call = f.calls.map ApiEntry.call ++ [create]

/-- The overrides of `open(af, pf)` answer before the stack is asked. -/
theorem Socket.bindAddr_unopened {env : Env} {addr : SocketAddr} {port : UInt16} {f : Frame}
    (himpl : f.obj.socket.impl = none) :
    Socket.bindAddr env (some addr) port f = .ok (.unimplemented, f) := by
  simp [Socket.bindAddr, himpl, Socket.virtualOpen_eq, bind, Except.bind, pure, Except.pure]

theorem not_bindsLazily {env : Env} {addr : SocketAddr} {port : UInt16} {f : Frame}
    (hbind : Socket.bindAddr env (some addr) port f = .ok (.unimplemented, f)) :
    ¬ BindsLazily env addr port f := by
  rintro ⟨err, f', hrun, hrest⟩
  rw [hbind, Except.ok.injEq, Prod.mk.injEq] at hrun
  obtain ⟨rfl, rfl⟩ := hrun
  split at hrest
  · cases hrest
  · split at hrest
    · simp at hrest
    · simp at hrest

/-- On no socket of any class does `bind` open it: every such call returns
`SOCKET_ERROR_UNIMPLEMENTED` and calls nothing. -/
theorem bind_never_opens (env : Env) (addr : SocketAddr) (port : UInt16) (f : Frame)
    (himpl : f.obj.socket.impl = none) :
    Socket.bindAddr env (some addr) port f = .ok (.unimplemented, f) ∧
      ¬ BindsLazily env addr port f :=
  ⟨Socket.bindAddr_unopened himpl, not_bindsLazily (Socket.bindAddr_unopened himpl)⟩

/-- Just constructed, on a stack that is registered. -/
def freshSocket (cls : Class) (family : ProtoFamily) : Frame :=
  .start 0 (Socket.init (fun _ => some ⟨true, 250, 7⟩) 0 cls 0 family)

def anyAddr : SocketAddr := ⟨fun _ => 0⟩

theorem bind_never_opens_listener :
    ¬ BindsLazily (.creating 5) anyAddr 80 (freshSocket .listener .stream) :=
  (bind_never_opens _ _ _ (freshSocket .listener .stream) rfl).2

theorem freshUDP_bind_unimplemented :
    (freshSocket .udp .dgram).obj.socket.api ≠ none ∧
      Socket.bindAddr (.creating 5) (some anyAddr) 80 (freshSocket .udp .dgram) =
        .ok (.unimplemented, freshSocket .udp .dgram) ∧
      ¬ BindsLazily (.creating 5) anyAddr 80 (freshSocket .udp .dgram) :=
  ⟨by decide, rfl, not_bindsLazily rfl⟩

/-! ### The uninitialised locals -/

/-- What the application and the stack see of an operation. -/
def seen (r : Except Fault (Ret × Frame)) : Except Fault (Ret × List ApiEntry) :=
  r.map fun p => (p.1, p.2.calls)

/-- Assumed of a stack: an address is written whole when no error is
returned, and may be left unwritten otherwise. -/
structure Env.WritesWhole (env : Env) : Prop where
  recvFrom : ∀ buf len port, (env (.recvFrom buf len port)).err = .none →
    (env (.recvFrom buf len port)).addr ≠ none
  str2addr : ∀ text, (env (.str2addr text)).err = .none → (env (.str2addr text)).addr ≠ none

/-- One socket, one stack, and the arguments of a `recv_from` and a `bind`:
whatever the locals held, the same is seen, and a failing `recv_from` leaves
the caller's address as it was. -/
structure NothingEscapes (env : Env) (f : Frame) (buf len : Ptr) (remote : Option SocketAddr)
    (remotePort text : Ptr) (port : UInt16) : Prop where
  received : ∀ addr addr',
    seen (Op.exec env f (.recvFrom buf len remote remotePort addr)) =
      seen (Op.exec env f (.recvFrom buf len remote remotePort addr'))
  bound : ∀ tmp tmp',
    seen (Op.exec env f (.bindText text port tmp)) =
      seen (Op.exec env f (.bindText text port tmp'))
  kept : ∀ addr err out f',
    Op.exec env f (.recvFrom buf len remote remotePort addr) = .ok (.codeAddr err out, f') →
      err ≠ .none → out = remote

/-- A `recv_from` that gets to the stack does not fail there, or the failing
stack has itself written the address that the caller had. -/
def RecvKeeps (env : Env) (f : Frame) (buf len : Ptr) (remote : Option SocketAddr)
    (remotePort : Ptr) : Prop :=
  ∀ r, remote = some r → f.obj.socket.impl ≠ none → f.obj.socket.api ≠ none →
    (env (.recvFrom buf len remotePort)).err ≠ .none →
      (env (.recvFrom buf len remotePort)).addr = some r.addr

/-- `bind` on a text looks at the local only after the stack has filled it. -/
theorem Socket.bindText_tmp {env : Env} (hwrites : env.WritesWhole) (text : Ptr) (port : UInt16)
    (tmp tmp' : SocketAddr) (f : Frame) :
    Socket.bindText env text port tmp f = Socket.bindText env text port tmp' f := by
  unfold Socket.bindText
  split
  · rfl
  · cases hapi : f.api env (.str2addr text) with
    | error e => rfl
    | ok p =>
        obtain ⟨a, g⟩ := p
        obtain ⟨_, rfl, _⟩ := Frame.api_eq_ok hapi
        simp only [bind, Except.bind]
        split
        · rfl
        · rename_i herr
          obtain ⟨raw, hraw⟩ := Option.ne_none_iff_exists'.mp
            (hwrites.str2addr text (not_not.mp herr))
          simp [hraw]

section received

variable (env : Env) (f : Frame) (buf len remotePort : Ptr)

/-- Past the guards the caller gets the local back, whatever the stack said. -/
theorem Op.exec_recvFrom_reached (r : SocketAddr) (addr : RawAddr)
    (himpl : f.obj.socket.impl ≠ none) (hapi : f.obj.socket.api ≠ none) :
    Op.exec env f (.recvFrom buf len (some r) remotePort addr) =
      .ok (.codeAddr (env (.recvFrom buf len remotePort)).err
        (some ⟨(env (.recvFrom buf len remotePort)).addr.getD addr⟩),
        (f.call env (.recvFrom buf len remotePort)).2) := by
  obtain ⟨api, hsome⟩ := Option.ne_none_iff_exists'.mp hapi
  simp [Op.exec, Ret.ofCodeAddr, Socket.recvFrom, himpl, Frame.api, hsome, bind, Except.bind,
    pure, Except.pure, SocketAddr.setAddr]

/-- Before the guards, or with no stack to call, the local is not used. -/
theorem Op.exec_recvFrom_unreached {remote : Option SocketAddr}
    (hstop : remote = none ∨ f.obj.socket.impl = none ∨ f.obj.socket.api = none) :
    ∃ r, (∀ addr, Op.exec env f (.recvFrom buf len remote remotePort addr) = r) ∧
      ∀ err out f', r = .ok (.codeAddr err out, f') → out = remote := by
  cases remote with
  | none => exact ⟨.ok (.codeAddr .nullPtr none, f), fun _ => rfl, by simp⟩
  | some r =>
      by_cases himpl : f.obj.socket.impl = none
      · refine ⟨.ok (.codeAddr .nullPtr (some r), f), ?_, by simp⟩
        intro addr
        simp [Op.exec, Ret.ofCodeAddr, Socket.recvFrom, himpl, bind, Except.bind, pure,
          Except.pure]
      · have hapi : f.obj.socket.api = none := by simpa [himpl] using hstop
        refine ⟨.error .nullApi, ?_, by simp⟩
        intro addr
        simp [Op.exec, Ret.ofCodeAddr, Socket.recvFrom, himpl, Frame.api, hapi, bind, Except.bind]

variable {env f buf len remotePort} {r : SocketAddr}

/-- If the caller's address survives an error whatever the local held, then
the stack has written it. -/
theorem addr_eq_of_kept (hkept : ∀ addr : RawAddr,
      (env (.recvFrom buf len remotePort)).addr.getD addr = r.addr) :
    (env (.recvFrom buf len remotePort)).addr = some r.addr := by
  cases haddr : (env (.recvFrom buf len remotePort)).addr with
  | some raw => simpa [haddr] using hkept r.addr
  | none =>
      -- Take a local that differs from the caller's address in its first byte.
      have hother := congrFun (hkept fun i => r.addr i + 1) 0
      simp [haddr] at hother

end received

/-- Nothing escapes exactly where a `recv_from` that gets to the stack either
succeeds, or fails there with the caller's own address written back. -/
theorem nothing_escapes_iff (env : Env) (hwrites : env.WritesWhole) (f : Frame) (buf len : Ptr)
    (remote : Option SocketAddr) (remotePort text : Ptr) (port : UInt16) :
    NothingEscapes env f buf len remote remotePort text port ↔
      RecvKeeps env f buf len remote remotePort := by
  have hbound : ∀ tmp tmp', seen (Op.exec env f (.bindText text port tmp)) =
      seen (Op.exec env f (.bindText text port tmp')) := by
    intro tmp tmp'
    simp only [Op.exec, Socket.bindText_tmp hwrites text port tmp tmp' f]
  by_cases hstop : remote = none ∨ f.obj.socket.impl = none ∨ f.obj.socket.api = none
  · obtain ⟨result, hsame, hout⟩ := Op.exec_recvFrom_unreached env f buf len remotePort hstop
    refine iff_of_true ⟨?_, hbound, ?_⟩ ?_
    · intro addr addr'
      rw [hsame, hsame]
    · intro addr err out f' hrun _
      exact hout err out f' ((hsame addr).symm.trans hrun)
    · intro r hr himpl hapi
      simp [hr, himpl, hapi] at hstop
  · push Not at hstop
    obtain ⟨hremote, himpl, hapi⟩ := hstop
    obtain ⟨r, rfl⟩ := Option.ne_none_iff_exists'.mp hremote
    have hrun := fun addr => Op.exec_recvFrom_reached env f buf len remotePort r addr himpl hapi
    constructor
    · intro hescapes r' hr' _ _ herr
      obtain rfl : r = r' := Option.some.inj hr'
      apply addr_eq_of_kept
      intro addr
      have hout := hescapes.kept addr _ _ _ (hrun addr) herr
      exact congrArg SocketAddr.addr (Option.some.inj hout)
    · intro hkeeps
      refine ⟨?_, hbound, ?_⟩
      · intro addr addr'
        rw [hrun, hrun]
        by_cases herr : (env (.recvFrom buf len remotePort)).err = .none
        · obtain ⟨raw, hraw⟩ := Option.ne_none_iff_exists'.mp (hwrites.recvFrom _ _ _ herr)
          simp [hraw]
        · simp [hkeeps r rfl himpl hapi herr]
      · intro addr err out f' hok herr
        rw [hrun addr] at hok
        simp only [Except.ok.injEq, Prod.mk.injEq, Ret.codeAddr.injEq] at hok
        obtain ⟨⟨rfl, rfl⟩, _⟩ := hok
        simp [hkeeps r rfl himpl hapi herr]

/-- A stack that writes the same sender into every address it is given. -/
def Env.sending (raw : RawAddr) : Env
  | .recvFrom _ _ _ | .str2addr _ => { addr := some raw }
  | _ => {}

/-- A UDP socket that has been opened. -/
def openUDP : Frame :=
  { freshSocket .udp .dgram with obj.socket.impl := some 5 }

theorem sending_nothing_escapes :
    NothingEscapes (.sending fun _ => 10) openUDP 1 2 (some anyAddr) 3 4 80 :=
  (nothing_escapes_iff _ ⟨by simp [Env.sending], by simp [Env.sending]⟩ _ _ _ _ _ _ _).mpr
    (by intro r _ _ _ herr; exact absurd rfl herr)

/-- There is nothing to receive: the stack says so and writes no address. -/
def Env.wouldBlock : Env
  | .recvFrom _ _ _ => { err := .other 12 }
  | .str2addr _ => { addr := some fun _ => 0 }
  | _ => {}

theorem wouldBlock_escapes :
    Env.wouldBlock.WritesWhole ∧
      ¬ NothingEscapes .wouldBlock openUDP 1 2 (some anyAddr) 3 4 80 ∧
      ∀ addr, seen (Op.exec .wouldBlock openUDP (.recvFrom 1 2 (some anyAddr) 3 addr)) =
        .ok (.codeAddr (.other 12) (some ⟨addr⟩),
          [⟨.recvFrom 1 2 3, some 5, .other 12, some 5⟩]) := by
  refine ⟨⟨by simp [Env.wouldBlock], by simp [Env.wouldBlock]⟩, ?_, fun _ => rfl⟩
  intro hescapes
  have hout := hescapes.kept (fun _ => 1) (.other 12) (some ⟨fun _ => 1⟩) _ rfl (by decide)
  revert hout
  decide

end MbedSockets
