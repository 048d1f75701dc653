import MbedSockets.Steps

/-!
What an application can rely on at the boundary of one operation. A code tells
the truth about the stack: `SOCKET_ERROR_NONE` is returned only if the stack
was asked and accepted, and a refusal of the stack is never hidden behind
another code. And the const members are const for the whole layer: they can be
left out of a run, and nothing but the log of the calls is different.
-/

namespace MbedSockets

open Lib.Run

/-- The error code in what an operation hands back. -/
def Ret.err : Ret → Option SocketError
  | .code err | .codeAddr err _ => some err
  | .unit | .bool _ | .stream _ => none

/-- The codes with which the layer itself refuses an operation. -/
def SocketError.isRefusal : SocketError → Bool
  | .nullPtr | .badStack | .closed | .unimplemented => true
  | _ => false

/-- The calls that an operation may make. -/
def Op.asks : Op → ApiCall → Bool
  | .openAf _, .create _ _ _ => true
  | .resolve address _, c => c = .resolve address
  | .bindText addr port _, c =>
    c = .str2addr addr || (match c with | .bind _ port' => port' = port | _ => false)
  | .bindAddr _ port, .bind _ port' => port' = port
  | .close, c | .reject _, c => c = .close
  | .recv buf len, c => c = .recv buf len
  | .recvFrom buf len _ port _, c => c = .recvFrom buf len port
  | .send buf len, c => c = .send buf len
  | .sendTo buf len _ port, .sendTo buf' len' _ port' => buf' = buf && len' = len && port' = port
  | .isConnected, c => c = .isConnected
  | .getLocalAddr _, c => c = .getLocalAddr
  | .getLocalPort port, c => c = .getLocalPort port
  | .getRemoteAddr _, c => c = .getRemoteAddr
  | .getRemotePort port, c => c = .getRemotePort port
  | .udpConnect _ port, .connect _ port' => port' = port
  | .streamConnect address port _, c => c = .connect address.getAddr port
  | .setNagle enable, c => c = .setNagle enable
  | .startListening _ backlog, c => c = .startListen backlog
  | .stopListening, c => c = .stopListen
  | _, _ => false

/-- What an operation tells: it was refused and nothing happened, or the
answer to the last of its calls, which follow one another only on success, or
it has no code to return. -/
inductive Op.Told (f : Frame) (op : Op) : Ret → Frame → Prop
  | refused (ret : Ret) (err : SocketError) (hret : ret.err = some err)
      (hcode : err.isRefusal = true) : Told f op ret f
  | answered (ret : Ret) (f' : Frame) (first : List ApiEntry) (last : ApiEntry)
      (hcalls : f'.calls = f.calls ++ (first ++ [last]))
      (hasks : ∀ e ∈ first ++ [last], op.asks e.call = true)
      (hfirst : ∀ e ∈ first, e.err = .none) (hret : ∀ err, ret.err = some err → err = last.err) :
      Told f op ret f'
  | noCode (ret : Ret) (f' : Frame) (hret : ret.err = none) (hcalls : f'.calls = f.calls) :
      Told f op ret f'

namespace Op.Told

variable {op : Op} {env : Env} {f g f' : Frame} {c : ApiCall} {err : SocketError} {ret : Ret}

/-- A single call through `_socket.api`. -/
theorem of_call (hcalls : g.calls = f.calls) (hasks : op.asks c = true)
    (hret : ∀ err, ret.err = some err → err = (env c).err) :
    Told f op ret (g.call env c).2 := by
  refine .answered ret _ [] (c.entry env g.obj.socket) ?_ ?_ (by simp) hret
  · rw [← hcalls]
    rfl
  · intro e he
    rw [List.nil_append, List.mem_singleton] at he
    exact he ▸ hasks

theorem of_query {s : StructSocket} (hasks : op.asks c = true)
    (hret : ∀ err, ret.err = some err → err = (env c).err) :
    Told f op ret { f with calls := f.calls ++ [c.entry env s] } := by
  refine .answered ret _ [] (c.entry env s) rfl ?_ (by simp) hret
  intro e he
  rw [List.nil_append, List.mem_singleton] at he
  exact he ▸ hasks

theorem of_apiErr (hasks : op.asks c = true) (hrun : f.apiErr env c = .ok (err, f')) :
    Told f op (.code err) f' := by
  obtain ⟨_, rfl, rfl⟩ := Frame.apiErr_eq_ok hrun
  exact of_call rfl hasks (fun err h => (Option.some.inj h).symm)

/-- The members guarded by `_socket.api == NULL`. -/
theorem of_apiGuarded (hg : g.obj.socket.api = f.obj.socket.api) (hcalls : g.calls = f.calls)
    (hasks : op.asks c = true)
    (hrun : (if f.obj.socket.api = none then .ok (.badStack, f) else g.apiErr env c) =
      (.ok (err, f') : Except Fault (SocketError × Frame))) :
    Told f op (.code err) f' := by
  rcases apiGuarded_eq_ok hg hrun with ⟨_, rfl, rfl⟩ | ⟨_, rfl, rfl⟩
  · exact .refused _ _ rfl rfl
  · exact of_call hcalls hasks (fun err h => (Option.some.inj h).symm)

/-- The members guarded by `_socket.impl == NULL`. -/
theorem of_implGuarded (hasks : op.asks c = true)
    (hrun : (if f.obj.socket.impl = none then .ok (.nullPtr, f) else f.apiErr env c) =
      (.ok (err, f') : Except Fault (SocketError × Frame))) :
    Told f op (.code err) f' := by
  split at hrun
  · simp only [Except.ok.injEq, Prod.mk.injEq] at hrun
    obtain ⟨rfl, rfl⟩ := hrun
    exact .refused _ _ rfl rfl
  · exact of_apiErr hasks hrun

theorem of_portGetter (hasks : op.asks c = true)
    (hrun : Socket.portGetter c env f = .ok (err, f')) : Told f op (.code err) f' := by
  unfold Socket.portGetter at hrun
  split at hrun
  · simp only [Except.ok.injEq, Prod.mk.injEq] at hrun
    obtain ⟨rfl, rfl⟩ := hrun
    exact .refused _ _ rfl rfl
  · cases hq : f.query env c f.obj.socket with
    | error e => simp [hq, bind, Except.bind] at hrun
    | ok p =>
        obtain ⟨a, g⟩ := p
        obtain ⟨_, rfl, rfl⟩ := Frame.query_eq_ok hq
        simp only [hq, bind, Except.bind, pure, Except.pure, Except.ok.injEq,
          Prod.mk.injEq] at hrun
        obtain ⟨rfl, rfl⟩ := hrun
        exact of_query hasks (fun err h => (Option.some.inj h).symm)

theorem of_addrGetter {addr out : Option SocketAddr} (hasks : op.asks c = true)
    (hrun : Socket.addrGetter c env addr f = .ok ((err, out), f')) :
    Told f op (.codeAddr err out) f' := by
  unfold Socket.addrGetter at hrun
  cases addr with
  | none =>
      simp only [Except.ok.injEq, Prod.mk.injEq] at hrun
      obtain ⟨⟨rfl, rfl⟩, rfl⟩ := hrun
      exact .refused _ _ rfl rfl
  | some addr =>
      dsimp only at hrun
      split at hrun
      · simp only [Except.ok.injEq, Prod.mk.injEq] at hrun
        obtain ⟨⟨rfl, rfl⟩, rfl⟩ := hrun
        exact .refused _ _ rfl rfl
      · cases hq : f.query env c f.obj.socket with
        | error e => simp [hq, bind, Except.bind] at hrun
        | ok p =>
            obtain ⟨a, g⟩ := p
            obtain ⟨_, rfl, rfl⟩ := Frame.query_eq_ok hq
            simp only [hq, bind, Except.bind, pure, Except.pure, Except.ok.injEq,
              Prod.mk.injEq] at hrun
            obtain ⟨⟨rfl, rfl⟩, rfl⟩ := hrun
            exact of_query hasks (fun err h => (Option.some.inj h).symm)

/-- The lazy `open` of an unopened socket is refused, so there is one call. -/
theorem of_bindAddr {addr : Option SocketAddr} {port : UInt16}
    (hrun : Socket.bindAddr env addr port f = .ok (err, f')) :
    Told f (.bindAddr addr port) (.code err) f' := by
  unfold Socket.bindAddr at hrun
  cases addr with
  | none =>
      simp only [Except.ok.injEq, Prod.mk.injEq] at hrun
      obtain ⟨rfl, rfl⟩ := hrun
      exact .refused _ _ rfl rfl
  | some addr =>
      dsimp only at hrun
      split at hrun
      · simp only [Socket.virtualOpen_eq, bind, Except.bind, pure, Except.pure, ne_eq,
          reduceCtorEq, not_false_eq_true, if_true, Except.ok.injEq, Prod.mk.injEq] at hrun
        obtain ⟨rfl, rfl⟩ := hrun
        exact .refused _ _ rfl rfl
      · exact of_apiErr (by simp [Op.asks]) hrun

theorem of_bindText {addr : Ptr} {port : UInt16} {tmp : SocketAddr}
    (hkeep : (env (.str2addr addr)).impl = none)
    (hrun : Socket.bindText env addr port tmp f = .ok (err, f')) :
    Told f (.bindText addr port tmp) (.code err) f' := by
  unfold Socket.bindText at hrun
  split at hrun
  · simp only [Except.ok.injEq, Prod.mk.injEq] at hrun
    obtain ⟨rfl, rfl⟩ := hrun
    exact .refused _ _ rfl rfl
  · rename_i himpl
    cases hapi : f.api env (.str2addr addr) with
    | error e => simp [hapi, bind, Except.bind] at hrun
    | ok p =>
        obtain ⟨a, g⟩ := p
        obtain ⟨_, rfl, rfl⟩ := Frame.api_eq_ok hapi
        simp only [hapi, bind, Except.bind] at hrun
        split at hrun
        · simp only [pure, Except.pure, Except.ok.injEq, Prod.mk.injEq] at hrun
          obtain ⟨rfl, rfl⟩ := hrun
          exact of_call rfl (by simp [Op.asks]) (fun err h => (Option.some.inj h).symm)
        · -- `str2addr` keeps the control block, so `bind` goes on to its own call.
          rename_i hok
          have himpl' : ((f.call env (.str2addr addr)).2).obj.socket.impl ≠ none := by
            simpa [Frame.call, Answer.store, hkeep] using himpl
          simp only [Socket.bindAddr, himpl', if_false] at hrun
          obtain ⟨_, rfl, rfl⟩ := Frame.apiErr_eq_ok hrun
          refine .answered _ _ [ApiCall.entry (.str2addr addr) env f.obj.socket] _
            (List.append_assoc _ _ _) ?_ ?_ (fun err h => (Option.some.inj h).symm)
          · intro e he
            simp only [List.singleton_append, List.mem_cons, List.not_mem_nil, or_false] at he
            rcases he with rfl | rfl <;> simp [Op.asks, ApiCall.entry]
          · intro e he
            rw [List.mem_singleton] at he
            subst he
            simpa [ApiCall.entry] using hok

theorem of_recvFrom {buf len port : Ptr} {remote out : Option SocketAddr} {addr : RawAddr}
    (hrun : Socket.recvFrom env buf len remote port addr f = .ok ((err, out), f')) :
    Told f (.recvFrom buf len remote port addr) (.codeAddr err out) f' := by
  unfold Socket.recvFrom at hrun
  cases remote with
  | none =>
      simp only [Except.ok.injEq, Prod.mk.injEq] at hrun
      obtain ⟨⟨rfl, rfl⟩, rfl⟩ := hrun
      exact .refused _ _ rfl rfl
  | some remote =>
      dsimp only at hrun
      split at hrun
      · simp only [Except.ok.injEq, Prod.mk.injEq] at hrun
        obtain ⟨⟨rfl, rfl⟩, rfl⟩ := hrun
        exact .refused _ _ rfl rfl
      · cases hapi : f.api env (.recvFrom buf len port) with
        | error e => simp [hapi, bind, Except.bind] at hrun
        | ok p =>
            obtain ⟨a, g⟩ := p
            obtain ⟨_, rfl, rfl⟩ := Frame.api_eq_ok hapi
            simp only [hapi, bind, Except.bind, pure, Except.pure, Except.ok.injEq,
              Prod.mk.injEq] at hrun
            obtain ⟨⟨rfl, rfl⟩, rfl⟩ := hrun
            exact of_call rfl (by simp [Op.asks]) (fun err h => (Option.some.inj h).symm)

theorem of_sendTo {buf : Ptr} {len : Nat} {remote : Option SocketAddr} {port : UInt16}
    (hrun : Socket.sendTo env buf len remote port f = .ok (err, f')) :
    Told f (.sendTo buf len remote port) (.code err) f' := by
  unfold Socket.sendTo at hrun
  cases remote with
  | none =>
      simp only [Except.ok.injEq, Prod.mk.injEq] at hrun
      obtain ⟨rfl, rfl⟩ := hrun
      exact .refused _ _ rfl rfl
  | some remote => exact of_implGuarded (by simp [Op.asks]) hrun

theorem of_udpConnect {address : Option SocketAddr} {port : UInt16}
    (hrun : UDPSocket.connect env address port f = .ok (err, f')) :
    Told f (.udpConnect address port) (.code err) f' := by
  unfold UDPSocket.connect at hrun
  split at hrun
  · simp only [Except.ok.injEq, Prod.mk.injEq] at hrun
    obtain ⟨rfl, rfl⟩ := hrun
    exact .refused _ _ rfl rfl
  · cases address with
    | none => cases hrun
    | some address => exact of_apiErr (by simp [Op.asks]) hrun

end Op.Told

/-- Every operation that returns tells the truth. -/
theorem Op.exec_told {op : Op} {env : Env} {f f' : Frame} {ret : Ret}
    (hkeep : ∀ addr port tmp, op = .bindText addr port tmp → (env (.str2addr addr)).impl = none)
    (h : op.exec env f = .ok (ret, f')) : op.Told f ret f' := by
  cases op with
  | openAf af =>
      have hopen : ∃ err, Socket.openAfPf env af f.obj.cls.protoFamily f = .ok (err, f') ∧
          ret = .code err := by
        simp only [Op.exec] at h
        split at h
        all_goals
          rename_i hcls
          obtain ⟨err, hrun, hret⟩ := Ret.ofCode_eq_ok h
          exact ⟨err, by rw [hcls]; exact hrun, hret⟩
      obtain ⟨err, hrun, rfl⟩ := hopen
      exact Told.of_apiGuarded rfl rfl (by simp [Op.asks]) hrun
  | openAfPf af pf =>
      obtain ⟨err, hrun, rfl⟩ := Ret.ofCode_eq_ok h
      rw [Socket.virtualOpen_eq, Except.ok.injEq, Prod.mk.injEq] at hrun
      obtain ⟨rfl, rfl⟩ := hrun
      exact .refused _ _ rfl rfl
  | resolve address hnd =>
      obtain ⟨err, hrun, rfl⟩ := Ret.ofCode_eq_ok h
      rcases Socket.resolve_eq_ok hrun with ⟨rfl, hguard⟩ | ⟨_, _, _, rfl, rfl⟩
      · rcases hguard with ⟨_, rfl⟩ | ⟨_, _, rfl⟩ <;> exact .refused _ _ rfl rfl
      · exact Told.of_call rfl (by simp [Op.asks]) (fun err h => (Option.some.inj h).symm)
  | bindText addr port tmp =>
      obtain ⟨err, hrun, rfl⟩ := Ret.ofCode_eq_ok h
      exact Told.of_bindText (hkeep addr port tmp rfl) hrun
  | bindAddr addr port =>
      obtain ⟨err, hrun, rfl⟩ := Ret.ofCode_eq_ok h
      exact Told.of_bindAddr hrun
  | setOnError hnd | setOnReadable hnd | setOnSent hnd | setOnDisconnect hnd =>
      simp only [Op.exec, Except.ok.injEq, Prod.mk.injEq] at h
      obtain ⟨rfl, rfl⟩ := h
      exact .noCode _ _ rfl rfl
  | close | recv buf len | send buf len =>
      obtain ⟨err, hrun, rfl⟩ := Ret.ofCode_eq_ok h
      exact Told.of_implGuarded (by simp [Op.asks]) hrun
  | recvFrom buf len remote port addr =>
      obtain ⟨err, out, hrun, rfl⟩ := Ret.ofCodeAddr_eq_ok h
      exact Told.of_recvFrom hrun
  | sendTo buf len remote port =>
      obtain ⟨err, hrun, rfl⟩ := Ret.ofCode_eq_ok h
      exact Told.of_sendTo hrun
  | errorCheck err =>
      simp only [Op.exec, Except.ok.injEq, Prod.mk.injEq] at h
      obtain ⟨rfl, rfl⟩ := h
      exact .noCode _ _ rfl (Socket.errorCheck_calls err f)
  | isConnected =>
      simp only [Op.exec] at h
      cases hrun : Socket.isConnected env f with
      | error e => simp [hrun, bind, Except.bind] at h
      | ok p =>
          obtain ⟨b, g⟩ := p
          simp only [hrun, bind, Except.bind, pure, Except.pure, Except.ok.injEq,
            Prod.mk.injEq] at h
          obtain ⟨rfl, rfl⟩ := h
          rcases Socket.isConnected_eq_ok hrun with rfl | rfl
          · exact .noCode _ _ rfl rfl
          · exact Told.of_query (by simp [Op.asks]) (fun err h => by simp [Ret.err] at h)
  | getLocalAddr addr | getRemoteAddr addr =>
      obtain ⟨err, out, hrun, rfl⟩ := Ret.ofCodeAddr_eq_ok h
      exact Told.of_addrGetter (by simp [Op.asks]) hrun
  | getLocalPort port | getRemotePort port =>
      obtain ⟨err, hrun, rfl⟩ := Ret.ofCode_eq_ok h
      exact Told.of_portGetter (by simp [Op.asks]) hrun
  | udpConnect address port =>
      obtain ⟨err, hrun, rfl⟩ := Ret.ofCode_eq_ok h
      exact Told.of_udpConnect hrun
  | streamConnect address port hnd =>
      obtain ⟨err, hrun, rfl⟩ := Ret.ofCode_eq_ok h
      exact Told.of_apiGuarded (g := f.register .onConnect hnd) rfl rfl (by simp [Op.asks]) hrun
  | startListening hnd backlog =>
      obtain ⟨err, hrun, rfl⟩ := Ret.ofCode_eq_ok h
      exact Told.of_apiGuarded (g := f.register .onIncoming hnd) rfl rfl (by simp [Op.asks]) hrun
  | stopListening =>
      obtain ⟨err, hrun, rfl⟩ := Ret.ofCode_eq_ok h
      exact Told.of_apiGuarded rfl rfl (by simp [Op.asks]) hrun
  | setNagle enable =>
      obtain ⟨hrun, rfl⟩ := Ret.ofUnit_eq_ok h
      obtain ⟨_, rfl⟩ := TCPStream.setNagle_eq_ok hrun
      exact Told.of_call rfl (by simp [Op.asks]) (fun err h => by simp [Ret.err] at h)
  | reject impl =>
      obtain ⟨hrun, rfl⟩ := Ret.ofUnit_eq_ok h
      have hclose := Frame.query_bind_eq_ok (c := .close)
        (s := { f.obj.socket with impl := impl }) (k := fun _ => ()) hrun
      exact hclose ▸ Told.of_query (by simp [Op.asks]) (fun err h => by simp [Ret.err] at h)

/-- A code tells the truth about the stack. Where an operation returns one, it
is `SOCKET_ERROR_NONE` exactly if the stack was asked and accepted every call;
otherwise it is the code of the call that failed, or one of the layer's own
refusals, and then there was no call and nothing has changed. -/
theorem codes_tell_the_truth (op : Op) (env : Env)
    (hkeep : ∀ addr, (env (.str2addr addr)).impl = none) (this : ObjId) (o : SocketObj) (ret : Ret)
    (f : Frame) (err : SocketError)
    (hexec : op.exec env (.start this o) = .ok (ret, f)) (hret : ret.err = some err) :
    (err = .none ↔ f.calls ≠ [] ∧ ∀ e ∈ f.calls, e.err = .none) ∧
      (∀ e ∈ f.calls, op.asks e.call = true ∧ (e.err ≠ .none → err = e.err)) ∧
      (f.calls = [] → err.isRefusal = true ∧ f = .start this o) := by
  cases Op.exec_told (fun addr _ _ _ => hkeep addr) hexec with
  | refused err' hret' hcode =>
      obtain rfl : err = err' := Option.some.inj (hret.symm.trans hret')
      refine ⟨⟨?_, fun h => absurd rfl h.1⟩, by simp [Frame.start], fun _ => ⟨hcode, rfl⟩⟩
      rintro rfl
      cases hcode
  | answered _ first last hcalls hasks hfirst hanswer =>
      obtain rfl : err = last.err := hanswer err hret
      replace hcalls : f.calls = first ++ [last] := by simpa [Frame.start] using hcalls
      have hsplit : ∀ e, e ∈ f.calls ↔ e ∈ first ∨ e = last := by simp [hcalls]
      refine ⟨⟨?_, fun h => h.2 last ((hsplit last).mpr (Or.inr rfl))⟩, ?_, by simp [hcalls]⟩
      · intro hnone
        refine ⟨by simp [hcalls], ?_⟩
        intro e he
        rcases (hsplit e).mp he with hearlier | rfl
        · exact hfirst e hearlier
        · exact hnone
      · intro e he
        refine ⟨hasks e (hcalls ▸ he), ?_⟩
        intro herr
        rcases (hsplit e).mp he with hearlier | rfl
        · exact absurd (hfirst e hearlier) herr
        · rfl
  | noCode _ hnone _ =>
      rw [hnone] at hret
      cases hret

/-- `bind` on a text that the stack cannot read: the second call is not made. -/
theorem unreadable_address_told :
    let o := Socket.init (fun _ => some ⟨true, 250, 7⟩) 0 .udp 0 .dgram
    let opened : SocketObj := { o with socket.impl := some 5 }
    let env : Env := fun c => if c = .str2addr 3 then { err := .badAddress } else {}
    ∃ f, (Op.bindText 3 80 ⟨fun _ => 0⟩).exec env (.start 0 opened) = .ok (.code .badAddress, f) ∧
      ∀ e ∈ f.calls, (Op.bindText 3 80 ⟨fun _ => 0⟩).asks e.call = true := by
  intro o opened env
  have hend : ∃ f, (Op.bindText 3 80 ⟨fun _ => 0⟩).exec env (.start 0 opened) =
      .ok (.code .badAddress, f) := ⟨_, rfl⟩
  obtain ⟨f, hexec⟩ := hend
  have htold := codes_tell_the_truth _ env (fun addr => by dsimp only [env]; split <;> rfl) 0 opened
    _ f .badAddress hexec rfl
  exact ⟨f, hexec, fun e he => (htold.2.1 e he).1⟩

/-! ### The const members -/

def ApiCall.isQuery : ApiCall → Bool
  | .isConnected | .getLocalAddr | .getLocalPort _ | .getRemoteAddr | .getRemotePort _ => true
  | _ => false

/-- The const members of `Socket`. -/
def Op.isQuery : Op → Bool
  | .isConnected | .getLocalAddr _ | .getLocalPort _ | .getRemoteAddr _ | .getRemotePort _ => true
  | _ => false

variable {n : Nat}

def Action.isQuery : Action n → Bool
  | .op _ member _ => member.isQuery
  | _ => false

theorem Op.asks_isQuery {op : Op} {c : ApiCall} (h : op.asks c = true) :
    c.isQuery = op.isQuery := by
  cases op <;> cases c <;> simp_all [Op.asks, ApiCall.isQuery, Op.isQuery]

/-- An operation makes none but its own calls. -/
theorem Op.exec_asks {op : Op} {env : Env} {f f' : Frame} {ret : Ret}
    (h : op.exec env f = .ok (ret, f')) :
    ∃ es, f'.calls = f.calls ++ es ∧ ∀ e ∈ es, op.asks e.call = true := by
  by_cases hbind : ∃ addr port tmp, op = .bindText addr port tmp
  · obtain ⟨addr, port, tmp, rfl⟩ := hbind
    obtain ⟨err, hrun, _⟩ := Ret.ofCode_eq_ok h
    rcases Socket.bindText_eq_ok hrun with rfl | ⟨_, rfl | ⟨raw, rfl⟩⟩
    · exact ⟨[], by simp, by simp⟩
    · exact ⟨_, rfl, by simp [Op.asks, ApiCall.entry]⟩
    · exact ⟨_, List.append_assoc _ _ _, by simp [Op.asks, ApiCall.entry]⟩
  · have htold := Op.exec_told (fun addr port tmp heq => absurd ⟨addr, port, tmp, heq⟩ hbind) h
    cases htold with
    | refused err _ _ => exact ⟨[], by simp, by simp⟩
    | answered _ first last hcalls hasks _ _ => exact ⟨first ++ [last], hcalls, hasks⟩
    | noCode _ _ hcalls => exact ⟨[], by simpa using hcalls, by simp⟩

/-- A const member leaves its object as it was. -/
theorem Op.exec_query {op : Op} {env : Env} {f f' : Frame} {ret : Ret} (hquery : op.isQuery = true)
    (h : op.exec env f = .ok (ret, f')) :
    f'.this = f.this ∧ f'.obj = f.obj ∧ f'.posted = f.posted := by
  have hshape : f' = f ∨ ∃ e, f' = { f with calls := f.calls ++ [e] } := by
    cases op with
    | isConnected =>
        simp only [Op.exec] at h
        cases hrun : Socket.isConnected env f with
        | error e => simp [hrun, bind, Except.bind] at h
        | ok p =>
            obtain ⟨b, g⟩ := p
            simp only [hrun, bind, Except.bind, pure, Except.pure, Except.ok.injEq,
              Prod.mk.injEq] at h
            obtain ⟨_, rfl⟩ := h
            exact (Socket.isConnected_eq_ok hrun).imp id (fun heq => ⟨_, heq⟩)
    | getLocalAddr addr | getRemoteAddr addr =>
        obtain ⟨err, out, hrun, _⟩ := Ret.ofCodeAddr_eq_ok h
        exact (Socket.addrGetter_eq_ok hrun).imp id (fun heq => ⟨_, heq⟩)
    | getLocalPort port | getRemotePort port =>
        obtain ⟨err, hrun, _⟩ := Ret.ofCode_eq_ok h
        exact (Socket.portGetter_eq_ok hrun).imp id (fun heq => ⟨_, heq⟩)
    | _ => cases hquery
  rcases hshape with rfl | ⟨e, rfl⟩
  · exact ⟨rfl, rfl, rfl⟩
  · exact ⟨rfl, rfl, rfl⟩

namespace World

/-- The world with the queries struck from the log. -/
def withoutQueries (w : World n) : World n :=
  { w with calls := w.calls.filter fun e => !e.call.isQuery }

/-- Calls that are no queries stay in the log. -/
theorem filter_calls {w : World n} {es : List ApiEntry} (h : ∀ e ∈ es, e.call.isQuery = false) :
    (w.calls ++ es).filter (fun e => !e.call.isQuery) = w.withoutQueries.calls ++ es := by
  have hkept : es.filter (fun e => !e.call.isQuery) = es :=
    List.filter_eq_self.mpr (fun e he => by simp [h e he])
  rw [List.filter_append, hkept]
  rfl

theorem withoutQueries_commit {w : World n} {f : Frame}
    (h : ∀ e ∈ f.calls, e.call.isQuery = false) :
    (w.commit f).withoutQueries = w.withoutQueries.commit f := by
  simp only [withoutQueries, commit, absorb, filter_calls h]

theorem withoutQueries_built (w : World n) (loc : BitVec n) (h : Handle) (env : Env) (ctor : Ctor) :
    (w.built loc h env ctor).withoutQueries = w.withoutQueries.built loc h env ctor := by
  have hcalls : ∀ e ∈ (ctor.frame w.registry w.objs.next env).calls, e.call.isQuery = false := by
    cases ctor <;> simp [Ctor.frame, Frame.start, Frame.call, ApiCall.entry, ApiCall.isQuery,
      TCPStream.takeOver]
  have hlog := filter_calls (w := w) hcalls
  unfold built retained
  split
  · simp only [withoutQueries, place, absorb, hlog]
  · simp only [withoutQueries, place, absorb, hlog]

theorem withoutQueries_destructed (w : World n) (id : ObjId) (o : SocketObj) (env : Env) :
    (w.destructed id o env).withoutQueries = w.withoutQueries.destructed id o env := by
  have hcalls : ∀ e ∈ (destructorFrame env id o).calls, e.call.isQuery = false := by
    unfold destructorFrame
    rw [Socket.deinit_calls]
    intro e he
    rcases List.mem_append.mp he with hstop | hdestroy
    · split at hstop
      · simp only [Frame.call, Frame.start, List.nil_append, List.mem_singleton] at hstop
        exact hstop ▸ rfl
      · simp [Frame.start] at hstop
    · rw [List.mem_ite_nil_right, List.mem_singleton] at hdestroy
      exact hdestroy.2 ▸ rfl
  have hlog := filter_calls (w := w) hcalls
  unfold destructed released
  split
  · simp only [withoutQueries, absorb, hlog]
  · simp only [withoutQueries, absorb, hlog]

/-- The steps listed in `Stepped` are possible. -/
theorem next_of_stepped {w w' : World n} {a : Action n} (h : w.Stepped a w') :
    w.next a = some w' := by
  cases h with
  | registered stack api hnew => simp [next, step, hnew]
  | built loc hd ctor env hvacant hunused hnull =>
      obtain ⟨ret, heq⟩ := w.construct_eq loc hd env ctor hnull
      simp [next, step, hvacant, hunused, heq]
  | destructed id o env hcell =>
      simp [next, step, hcell, destruct_eq, bind, Except.bind, pure, Except.pure]
  | ran id o op env ret f hcell htyped hexec =>
      simp [next, step, hcell, htyped, hexec, bind, Except.bind, pure, Except.pure]
  | accepted id o newImpl loc hd env hcell hcls hvacant hunused hok =>
      simp [next, step, hcell, hcls, hvacant, hunused, accept_eq, hok]
  | refused id o newImpl loc hd env hcell hcls hvacant hunused hfail =>
      simp [next, step, hcell, hcls, hvacant, hunused, accept_eq, hfail]
  | delivered id o ev hcell =>
      simp [next, step, hcell, Socket.nvEventHandler_eq, bind, Except.bind, pure, Except.pure,
        World.delivered]
  | dispatched i b hb => simp [next, step, hb]
  | fired hd hs => simp [next, step, hs]

/-- A step that is no query does the same in the world without the queries. -/
theorem Stepped.withoutQueries {w w' : World n} {a : Action n} (h : w.Stepped a w')
    (hquery : a.isQuery = false) : w.withoutQueries.Stepped a w'.withoutQueries := by
  cases h with
  | registered stack api hnew => exact .registered stack api hnew
  | built loc hd ctor env hvacant hunused hnull =>
      rw [withoutQueries_built]
      exact .built loc hd ctor env hvacant hunused hnull
  | destructed id o env hcell =>
      rw [withoutQueries_destructed]
      exact .destructed id o env hcell
  | ran id o op env ret f hcell htyped hexec =>
      obtain ⟨es, hcalls, hasks⟩ := Op.exec_asks hexec
      rw [withoutQueries_commit]
      · exact .ran id o op env ret f hcell htyped hexec
      · intro e he
        rw [hcalls] at he
        exact (Op.asks_isQuery (hasks e he)).trans hquery
  | accepted id o newImpl loc hd env hcell hcls hvacant hunused hok =>
      rw [withoutQueries_built]
      exact .accepted id o newImpl loc hd env hcell hcls hvacant hunused hok
  | refused id o newImpl loc hd env hcell hcls hvacant hunused hfail =>
      rw [withoutQueries_destructed, withoutQueries_built]
      exact .refused id o newImpl loc hd env hcell hcls hvacant hunused hfail
  | delivered id o ev hcell =>
      have hsame : (w.delivered id o ev).withoutQueries = w.withoutQueries.delivered id o ev :=
        withoutQueries_commit (by simp)
      rw [hsame]
      exact .delivered id o ev hcell
  | dispatched i b hb => exact .dispatched i b hb
  | fired hd hs => exact .fired hd hs

/-- A query changes nothing but the log. -/
theorem Stepped.withoutQueries_query {w w' : World n} {a : Action n} (h : w.Stepped a w')
    (hquery : a.isQuery = true) : w'.withoutQueries = w.withoutQueries := by
  cases h with
  | ran id o op env ret f hcell htyped hexec =>
      obtain ⟨es, hcalls, hasks⟩ := Op.exec_asks hexec
      obtain ⟨hthis, hobj, hposted⟩ := Op.exec_query hquery hexec
      have hdropped : f.calls.filter (fun e => !e.call.isQuery) = [] := by
        apply List.filter_eq_nil_iff.mpr
        intro e he
        rw [hcalls] at he
        simp [(Op.asks_isQuery (hasks e he)).trans hquery]
      have hobjs : w.objs.set f.this f.obj = w.objs := by
        rw [hthis, hobj]
        exact Lib.Heap.set_self _ hcell
      have hpending : f.posted = [] := hposted
      simp only [World.withoutQueries, commit, absorb, List.filter_append, hdropped, hobjs,
        hpending, List.append_nil]
  | _ => cases hquery

/-- The const members can be left out of a run: the same run without them is
possible and ends in the same world, except that the log has no queries. -/
theorem queries_can_be_left_out (w w' : World n) (as : List (Action n))
    (hrun : run World.next w as = some w') :
    run World.next w.withoutQueries (as.filter fun a => !a.isQuery) = some w'.withoutQueries := by
  induction as generalizing w with
  | nil =>
      simp only [run, Option.some.injEq] at hrun
      rw [← hrun]
      rfl
  | cons a as ih =>
      obtain ⟨u, hu, hrest⟩ := Option.bind_eq_some_iff.mp hrun
      have hstep := next_stepped hu
      cases hquery : a.isQuery with
      | true =>
          rw [List.filter_cons_of_neg (by simp [hquery]), ← hstep.withoutQueries_query hquery]
          exact ih u hrest
      | false =>
          rw [List.filter_cons_of_pos (by simp [hquery])]
          simp only [run, next_of_stepped (hstep.withoutQueries hquery), Option.bind_some]
          exact ih u hrest

/-- A datagram socket that is asked for its state between its other steps. -/
def askedInBetween : List (Action 32) :=
  [.register 0 ⟨true, 250, 7⟩, .construct 4096 1 (.udp 0) .quiet, .op 0 .isConnected .quiet,
    .op 0 (.openAf .inet4) (.creating 5), .op 0 .isConnected .quiet,
    .op 0 (.getLocalAddr (some ⟨fun _ => 0⟩)) .quiet, .event 0 .rxDone, .destruct 0 .quiet]

theorem askedInBetween_same_without :
    ∃ w, run World.next World.init askedInBetween = some w ∧ w.calls.length = 4 ∧
      run World.next World.init.withoutQueries (askedInBetween.filter fun a => !a.isQuery) =
        some w.withoutQueries ∧ w.withoutQueries.calls.length = 2 := by
  have hend : ∃ w, run World.next World.init askedInBetween = some w ∧ w.calls.length = 4 ∧
      w.withoutQueries.calls.length = 2 := ⟨_, rfl, by rfl, by rfl⟩
  obtain ⟨w, hrun, hall, hrest⟩ := hend
  exact ⟨w, hrun, hall, queries_can_be_left_out _ w askedInBetween hrun, hrest⟩

end World

end MbedSockets
