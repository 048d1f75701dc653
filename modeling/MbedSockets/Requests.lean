import MbedSockets.Delivery

/-!
The three requests, `resolve`, `connect` and `start_listening`, are completed
by a later event. Each stores its handler before it asks the stack, and there
is one slot for the handler whatever is still outstanding. The first part is
about requests that the stack refuses, the second about name queries that
overlap.
-/

namespace MbedSockets

open Lib.Run

variable {n : Nat}

/-! ### Refused requests -/

/-- The call by which a request asks the stack. -/
def Op.request : Op → Option ApiCall
  | .resolve address _ => some (.resolve address)
  | .streamConnect address port _ => some (.connect address.getAddr port)
  | .startListening _ backlog => some (.startListen backlog)
  | _ => none

/-- The stack answers the request with an error. -/
def Op.refused (env : Env) (op : Op) : Bool :=
  op.request.any fun c => (env c).err != .none

/-- A request that is refused after it has stored its handler does no harm if
that handler was in place already. -/
def Op.refusedHarmless (env : Env) (o : SocketObj) (op : Op) : Prop :=
  op.refused env = true → ∀ p ∈ op.stored o, o.handlers p.1 = p.2

/-- What a request returns: the guard's error, or the stack's answer. -/
theorem Op.request_err {op : Op} {c : ApiCall} {env : Env} {f f' : Frame} {err : SocketError}
    (hreq : op.request = some c) (h : op.exec env f = .ok (.code err, f')) :
    (op.stored f.obj = none ∧ err ≠ .none) ∨
      (op.stored f.obj ≠ none ∧ err = (env c).err) := by
  cases op with
  | resolve address hnd =>
      obtain ⟨e, hrun, he⟩ := Ret.ofCode_eq_ok h
      obtain rfl : err = e := by simpa using he
      obtain rfl : .resolve address = c := by simpa [Op.request] using hreq
      rcases Socket.resolve_eq_ok hrun with ⟨_, hguard⟩ | ⟨himpl, hhandler, _, herr, _⟩
      · left
        rcases hguard with ⟨himpl, rfl⟩ | ⟨_, hhandler, rfl⟩
        · exact ⟨by simp [Op.stored, himpl], by simp⟩
        · exact ⟨by simp [Op.stored, hhandler], by simp⟩
      · exact Or.inr ⟨by simp [Op.stored, himpl, hhandler], herr⟩
  | streamConnect address port hnd =>
      obtain ⟨e, hrun, he⟩ := Ret.ofCode_eq_ok h
      obtain rfl : err = e := by simpa using he
      obtain rfl : .connect address.getAddr port = c := by simpa [Op.request] using hreq
      rcases TCPStream.connect_eq_ok hrun with ⟨hapi, rfl, _⟩ | ⟨hapi, herr, _⟩
      · exact Or.inl ⟨by simp [Op.stored, hapi], by simp⟩
      · exact Or.inr ⟨by simp [Op.stored, hapi], herr⟩
  | startListening hnd backlog =>
      obtain ⟨e, hrun, he⟩ := Ret.ofCode_eq_ok h
      obtain rfl : err = e := by simpa using he
      obtain rfl : .startListen backlog = c := by simpa [Op.request] using hreq
      rcases TCPListener.startListening_eq_ok hrun with ⟨hapi, rfl, _⟩ | ⟨hapi, herr, _⟩
      · exact Or.inl ⟨by simp [Op.stored, hapi], by simp⟩
      · exact Or.inr ⟨by simp [Op.stored, hapi], herr⟩
  | _ => cases hreq

theorem Op.failed_handlers_iff {op : Op} {c : ApiCall} {env : Env} {this : ObjId}
    {o : SocketObj} {f' : Frame} {err : SocketError} (hreq : op.request = some c)
    (h : op.exec env (.start this o) = .ok (.code err, f')) :
    (err ≠ .none → f'.obj.handlers = o.handlers) ↔ op.refusedHarmless env o := by
  have hhandlers := Op.exec_handlers h
  have herr := Op.request_err hreq h
  have hrefused : op.refused env = true ↔ (env c).err ≠ .none := by
    simp [Op.refused, hreq]
  unfold Op.refusedHarmless
  rw [hrefused]
  simp only [Frame.start] at hhandlers herr
  cases hstored : op.stored o with
  | none => simp [hhandlers, hstored]
  | some p =>
      obtain ⟨_, rfl⟩ := herr.resolve_left (fun hleft => by simp [hstored] at hleft)
      simp [hhandlers, hstored, eq_comm]

namespace World

/-- As `observe`, but a request counts only when the stack accepts it. -/
def observeGranted (w : World n) : Action n → List Obs
  | .op id op env => if op.refused env then [] else w.observe (.op id op env)
  | a => w.observe a

/-- The world with a record of the handlers that were set, or passed to a
request that succeeded. -/
def granted : World n × Direct → Action n → Option (World n × Direct) :=
  ghosted World.next fun w a d => (w.observeGranted a).foldl Direct.step d

/-- Every live socket has the handlers of its last successful requests, and
every event on it, were it to arrive now, would go to them. -/
structure KeepsGranted (p : World n × Direct) : Prop where
  handlers : p.1.SameHandlers p.2
  events : ∀ id o ev, p.1.objs.cell id = some o →
    p.1.posts (.event id ev) = (route o.cls ev).elim [] (bindIfSet (p.2.handlers id) id)

def RefusedHarmless (p : World n × Direct) : Action n → Prop
  | .op id op env => ∀ o ∈ p.1.objs.cell id, op.refusedHarmless env o
  | _ => True

theorem keepsGranted_iff (p : World n × Direct) :
    KeepsGranted p ↔ p.1.SameHandlers p.2 := by
  refine ⟨KeepsGranted.handlers, fun h => ⟨h, ?_⟩⟩
  intro id o ev hcell
  simp [posts, hcell, SocketObj.delivers, h.live id o hcell]

/-- If the record is to stay true, an operation must not store anything new. -/
theorem sameHandlers_commit_iff {w : World n} {d : Direct} (h : w.SameHandlers d) {op : Op}
    {env : Env} {o : SocketObj} {ret : Ret} {f : Frame} (hcell : w.objs.cell f.this = some o)
    (hexec : op.exec env (.start f.this o) = .ok (ret, f)) :
    (w.commit f).SameHandlers d ↔ ∀ q ∈ op.stored o, o.handlers q.1 = q.2 := by
  have hhandlers : f.obj.handlers = (op.stored o).elim o.handlers
      (fun p => Function.update o.handlers p.1 p.2) := Op.exec_handlers hexec
  have hlive := h.live f.this o hcell
  constructor
  · intro hsame q hq
    have hself := hsame.live f.this f.obj (Lib.Heap.set_cell_self _ hcell)
    rw [Option.mem_def] at hq
    rw [hlive, hhandlers, hq, Option.elim_some] at hself
    exact (Function.update_eq_self_iff.mp hself.symm).symm
  · intro hharmless
    apply h.commit hcell
    · rw [hlive, hhandlers]
      cases hstored : op.stored o with
      | none => rfl
      | some q => simp [← hharmless q hstored]
    · exact fun _ _ => rfl

theorem keepsGranted_step_iff (p : World n × Direct) (a : Action n) (p' : World n × Direct)
    (h : KeepsGranted p) (hstep : granted p a = some p') :
    KeepsGranted p' ↔ RefusedHarmless p a := by
  obtain ⟨hnext, hrecord⟩ := ghosted_eq_some hstep
  rw [keepsGranted_iff] at h ⊢
  rw [hrecord]
  have hstepped := next_stepped hnext
  have hfollow := sameHandlers_step h hstepped
  generalize p'.1 = w' at hstepped hfollow
  cases hstepped with
  | ran id o op env ret f hcell _ hexec =>
      have hthis : f.this = id := (Op.exec_ran hexec).same.this
      subst hthis
      simp only [RefusedHarmless, hcell, Option.mem_some_iff, forall_eq', observeGranted,
        Op.refusedHarmless]
      cases hrefused : op.refused env with
      | false => simpa using hfollow
      | true => simpa using sameHandlers_commit_iff h hcell hexec
  | _ => exact ⟨fun _ => trivial, fun _ => hfollow⟩

/-- A failing request leaves the handlers alone exactly if a guard stopped it
or its handler was the registered one already. Over whole runs: the sockets
keep the handlers of their last successful requests, and completions go to
them, exactly if every refused request of the run is of that kind. -/
theorem failing_request_harmless_iff :
    (∀ (op : Op) (c : ApiCall) (env : Env) (this : ObjId) (o : SocketObj) (f' : Frame)
      (err : SocketError), op.request = some c →
      op.exec env (.start this o) = .ok (.code err, f') →
      ((err ≠ .none → f'.obj.handlers = o.handlers) ↔ op.refusedHarmless env o)) ∧
    (∀ as : List (Action n),
      EachState granted KeepsGranted (World.init, Direct.init) as ↔
        EachStep granted RefusedHarmless (World.init, Direct.init) as) := by
  constructor
  · intro op c env this o f' err hreq h
    exact Op.failed_handlers_iff hreq h
  · intro as
    apply eachState_iff_eachStep_of_local keepsGranted_step_iff
    rw [keepsGranted_iff]
    exact init_sameHandlers

/-- The stack refuses every call. -/
def refusing : Env := fun _ => { err := .unknown }

/-- A listener is listening with handler 1. A second `start_listening` with
handler 2 is refused, and the next connection goes to handler 2. -/
def refusedListen : List (Action 32) :=
  [.register 0 ⟨true, 250, 7⟩, .construct 4096 1 (.listener 0) .quiet,
    .op 0 (.startListening (some 1) 5) .quiet,
    .op 0 (.startListening (some 2) 5) refusing, .event 0 (.accept (some 77))]

theorem refusedListen_replaces_handler :
    (∃ (o : SocketObj) (f' : Frame), o.handlers .onIncoming = some 1 ∧
      Op.exec refusing (.start 0 o) (.startListening (some 2) 5) = .ok (.code .unknown, f') ∧
      f'.obj.handlers .onIncoming = some 2) ∧
    (run World.next World.init refusedListen).map (·.pending) =
      some [⟨0, some 2, .onIncoming (some 77)⟩] ∧
    ¬ EachState granted KeepsGranted (World.init, Direct.init) refusedListen := by
  refine ⟨?_, rfl, ?_⟩
  · let o := Socket.init (fun _ => some ⟨true, 250, 7⟩) 0 .listener 0 .stream
    exact ⟨{ o with handlers := Function.update o.handlers .onIncoming (some 1) }, _, rfl, rfl, rfl⟩
  · intro h
    have hend : ∃ p, run granted (World.init, Direct.init) refusedListen = some p ∧
        p.2.handlers 0 .onIncoming = some 1 ∧
        (p.1.objs.cell 0).map (fun o => o.handlers .onIncoming) = some (some 2) :=
      ⟨_, rfl, rfl, rfl⟩
    obtain ⟨p, hrun, hgranted, hactual⟩ := hend
    obtain ⟨o, hcell, ho⟩ := Option.map_eq_some_iff.mp hactual
    have hsame := (eachState_last h hrun).handlers.live 0 o hcell
    rw [hsame, ho] at hgranted
    cases hgranted

end World

/-! ### Overlapping name queries -/

/-- A query that the stack has accepted, with the handler of the `resolve`
call that issued it. -/
structure Query where
  socket : ObjId
  onDNS : FunctionPointer
  domain : Ptr
  deriving DecidableEq

/-- The world with the queries that await an answer. `answers` is history:
the queries answered so far, each with the callbacks its answer posted. -/
structure Lookups (n : Nat) where
  world : World n
  outstanding : List Query
  answers : List (Query × List Bound)

/-- Either any action that is no answer, or the answer to one of the
outstanding queries, whichever the stack chooses. -/
inductive LookupAction (n : Nat)
  | act (a : Action n)
  | answer (k : Nat) (addr : RawAddr)

def Action.isAnswer : Action n → Bool
  | .event _ (.dns _ _) => true
  | _ => false

namespace Lookups

def init : Lookups n := ⟨.init, [], []⟩

/-- The query that a step issues: a `resolve` that returns without error. -/
def issued (w : World n) : Action n → List Query
  | .op id (.resolve address h) env =>
    match w.step (.op id (.resolve address h) env) with
    | some (.ok (.code .none, _)) => [⟨id, h, address⟩]
    | _ => []
  | _ => []

def next (s : Lookups n) : LookupAction n → Option (Lookups n)
  | .act a =>
    if a.isAnswer then none
    else (s.world.next a).map fun w =>
      { s with world := w, outstanding := s.outstanding ++ issued s.world a }
  | .answer k addr =>
    (s.outstanding[k]?).bind fun q =>
      (s.world.next (.event q.socket (.dns addr q.domain))).map fun w =>
        { world := w
          outstanding := s.outstanding.eraseIdx k
          answers := s.answers ++ [(q, w.pending.drop s.world.pending.length)] }

/-- Every answer was posted to the handler of the query it answers, and the
same will hold for whichever outstanding query is answered next. -/
structure AnswersOwn (s : Lookups n) : Prop where
  posted : ∀ p ∈ s.answers, ∀ b ∈ p.2, b.fn = p.1.onDNS
  next : ∀ q ∈ s.outstanding, ∀ o ∈ s.world.objs.cell q.socket, ∀ addr,
    ∀ b ∈ o.delivers q.socket (.dns addr q.domain), b.fn = q.onDNS

/-- The condition on one step: a `resolve` that gets past its guards passes no
handler at all, or the one that every outstanding query of the socket has. -/
def ResolvesAgree (s : Lookups n) : LookupAction n → Prop
  | .act (.op id (.resolve address h) _) => ∀ o ∈ s.world.objs.cell id,
      Op.stored o (.resolve address h) ≠ none →
        h = none ∨ ∀ q ∈ s.outstanding, q.socket = id → q.onDNS = h
  | _ => True

/-- The DNS callbacks in the scheduler and out of it are those that the
answers posted. -/
def AnswersAll (s : Lookups n) : Prop :=
  ((s.world.dispatched ++ s.world.pending).filter (·.args.slot = .onDNS)).Perm
    (s.answers.flatMap (·.2))

end Lookups

theorem Op.resolve_of_stored_dns {op : Op} {o : SocketObj} {hnd : FunctionPointer}
    (h : op.stored o = some (.onDNS, hnd)) : ∃ address, op = .resolve address hnd := by
  cases op with
  | resolve address hnd' =>
      simp only [Op.stored] at h
      split at h
      · cases h
      · cases h
        exact ⟨address, rfl⟩
  | streamConnect address port hnd' => simp [Op.stored] at h
  | startListening hnd' backlog => simp [Op.stored] at h
  | _ => simp [Op.stored, Op.registers] at h

namespace World

/-- The handlers as they are now, none for a socket that is not live. -/
def snapshot (w : World n) : Direct :=
  ⟨fun id => (w.objs.cell id).elim (fun _ => none) (·.handlers), []⟩

theorem snapshot_sameHandlers (w : World n) : w.SameHandlers w.snapshot := by
  constructor
  · intro id o hcell
    simp [snapshot, hcell]
  · intro id hid
    simp [snapshot, w.objs.fresh id hid]

def dnsSlot (w : World n) (id : ObjId) : FunctionPointer := w.snapshot.handlers id .onDNS

theorem dnsSlot_of_cell {w : World n} {id : ObjId} {o : SocketObj}
    (hcell : w.objs.cell id = some o) : w.dnsSlot id = o.handlers .onDNS := by
  simp [dnsSlot, snapshot, hcell]

theorem Stepped.dnsSlot_eq {w w' : World n} {a : Action n} (h : w.Stepped a w') (id : ObjId) :
    w'.dnsSlot id = none ∨
      w'.dnsSlot id = ((w.observe a).foldl Direct.step w.snapshot).handlers id .onDNS := by
  cases hcell : w'.objs.cell id with
  | none => simp [dnsSlot, snapshot, hcell]
  | some o =>
      right
      rw [dnsSlot_of_cell hcell, (sameHandlers_step w.snapshot_sameHandlers h).live id o hcell]

/-- Only a `resolve` that gets past its guards changes the slot of a live
socket. -/
theorem Stepped.dnsSlot_cases {w w' : World n} {a : Action n} (h : w.Stepped a w')
    (id : ObjId) :
    w'.dnsSlot id = none ∨ w'.dnsSlot id = w.dnsSlot id ∨
      ∃ address hnd env o, a = .op id (.resolve address hnd) env ∧
        w.objs.cell id = some o ∧ Op.stored o (.resolve address hnd) ≠ none ∧
        w'.dnsSlot id = hnd := by
  rcases h.dnsSlot_eq id with hnone | heq
  · exact Or.inl hnone
  right
  cases h with
  | ran id' o op env ret f hcell _ hexec =>
      simp only [observe, hcell, Option.elim_some] at heq
      by_cases hid : id = id'
      · subst hid
        cases hstored : op.stored o with
        | none => exact Or.inl (by simpa [hstored, dnsSlot] using heq)
        | some p =>
            simp only [hstored, Option.elim_some, List.foldl_cons, List.foldl_nil, Direct.step,
              Function.update_self] at heq
            obtain ⟨slot, hnd⟩ := p
            by_cases hslot : slot = .onDNS
            · subst hslot
              obtain ⟨address, rfl⟩ := Op.resolve_of_stored_dns hstored
              exact Or.inr ⟨address, hnd, env, o, rfl, hcell, by simp [hstored],
                by simpa using heq⟩
            · left
              rw [heq, Function.update_of_ne (Ne.symm hslot)]
              rfl
      · left
        rw [heq]
        cases op.stored o with
        | none => rfl
        | some p => simp [Direct.step, hid, dnsSlot]
  | delivered id' o ev hcell =>
      left
      simpa [observe, hcell, Direct.step, dnsSlot] using heq
  | _ => exact Or.inl heq

theorem Stepped.dnsSlot_resolve {w w' : World n} {id : ObjId} {address : Ptr}
    {hnd : FunctionPointer} {env : Env} {o : SocketObj}
    (h : w.Stepped (.op id (.resolve address hnd) env) w') (hcell : w.objs.cell id = some o)
    (hstored : Op.stored o (.resolve address hnd) ≠ none) : w'.dnsSlot id = hnd := by
  cases h with
  | ran _ o' _ _ ret f hcell' _ hexec =>
      obtain rfl : o = o' := Option.some.inj (hcell.symm.trans hcell')
      have hthis : f.this = id := (Op.exec_ran hexec).same.this
      subst hthis
      rw [dnsSlot_of_cell (Lib.Heap.set_cell_self _ hcell), Op.exec_handlers hexec]
      simp only [Op.stored, ne_eq, ite_eq_left_iff, reduceCtorEq, imp_false, not_not] at hstored
      simp [Op.stored, Frame.start, hstored]

/-- What an answer posts is for the handler in the slot. -/
theorem delivers_dns (o : SocketObj) (id : ObjId) (addr : RawAddr) (domain : Ptr) :
    o.delivers id (.dns addr domain) = bindIfSet o.handlers id (.onDNS addr domain) := by
  unfold SocketObj.delivers
  cases o.cls <;> rfl

end World

namespace Lookups

open World

theorem issued_eq {w w' : World n} {a : Action n} {q : Query} (hstep : w.Stepped a w')
    (hq : q ∈ issued w a) :
    ∃ env o, a = .op q.socket (.resolve q.domain q.onDNS) env ∧
      w.objs.cell q.socket = some o ∧ Op.stored o (.resolve q.domain q.onDNS) ≠ none := by
  cases hstep with
  | ran id o op env ret f hcell htyped hexec =>
      cases op with
      | resolve address hnd =>
          simp only [issued, World.step, hcell, Option.bind_some, htyped, if_true, hexec, bind,
            Except.bind, pure, Except.pure] at hq
          split at hq
          · rename_i w'' hret
            obtain ⟨rfl, _⟩ := Prod.mk.inj (Except.ok.inj (Option.some.inj hret))
            obtain rfl := List.mem_singleton.mp hq
            refine ⟨env, o, rfl, hcell, ?_⟩
            rcases Op.request_err (c := .resolve address) rfl hexec with ⟨_, hne⟩ | ⟨hs, _⟩
            · exact absurd rfl hne
            · exact hs
          · simp at hq
      | _ => simp [issued] at hq
  | _ => simp [issued] at hq

/-- The answer to `q`, were it to arrive now, would find the right handler. -/
def Fits (w : World n) (q : Query) : Prop :=
  w.dnsSlot q.socket = none ∨ w.dnsSlot q.socket = q.onDNS

theorem fits_iff (w : World n) (q : Query) :
    Fits w q ↔ ∀ o ∈ w.objs.cell q.socket, ∀ addr,
      ∀ b ∈ o.delivers q.socket (.dns addr q.domain), b.fn = q.onDNS := by
  cases hcell : w.objs.cell q.socket with
  | none => simp [Fits, dnsSlot, snapshot, hcell]
  | some o =>
      simp only [Fits, dnsSlot_of_cell hcell, Option.mem_some_iff, forall_eq', delivers_dns,
        bindIfSet, Args.slot]
      rcases Option.eq_none_or_eq_some (o.handlers .onDNS) with hslot | ⟨fn, hslot⟩
      · simp [hslot]
      · simp [hslot]

theorem answersOwn_iff (s : Lookups n) :
    s.AnswersOwn ↔ (∀ p ∈ s.answers, ∀ b ∈ p.2, b.fn = p.1.onDNS) ∧
      ∀ q ∈ s.outstanding, Fits s.world q := by
  simp only [fits_iff]
  exact ⟨fun h => ⟨h.posted, h.next⟩, fun h => ⟨h.1, h.2⟩⟩

theorem answersOwn_act_iff {s : Lookups n} {a : Action n} {w' : World n} (h : s.AnswersOwn)
    (hstep : s.world.Stepped a w') :
    AnswersOwn { s with world := w', outstanding := s.outstanding ++ issued s.world a } ↔
      s.ResolvesAgree (.act a) := by
  rw [answersOwn_iff] at h ⊢
  constructor
  · rintro ⟨_, hfits⟩
    cases a with
    | op id op env =>
        cases op with
        | resolve address hnd =>
            intro o hcell hstored
            have hslot := hstep.dnsSlot_resolve hcell hstored
            refine or_iff_not_imp_left.mpr ?_
            intro hset q hq hid
            have hq' := hfits q (List.mem_append_left _ hq)
            rw [Fits, hid, hslot] at hq'
            exact (hq'.resolve_left hset).symm
        | _ => trivial
    | _ => trivial
  · intro hagree
    refine ⟨h.1, ?_⟩
    intro q hq
    rcases List.mem_append.mp hq with hold | hnew
    · rcases hstep.dnsSlot_cases q.socket with hnone | hsame | ⟨address, hnd, env, o, rfl, hcell,
        hstored, hslot⟩
      · exact Or.inl hnone
      · have hfit := h.2 q hold
        rwa [Fits, ← hsame] at hfit
      · rcases hagree o hcell hstored with rfl | hall
        · exact Or.inl hslot
        · exact Or.inr (hslot.trans (hall q hold rfl).symm)
    · obtain ⟨env, o, rfl, hcell, hstored⟩ := issued_eq hstep hnew
      exact Or.inr (hstep.dnsSlot_resolve hcell hstored)

/-- An answer changes no slot, and posts for the handler in the slot. -/
theorem answersOwn_answer {s : Lookups n} {k : Nat} {addr : RawAddr} {q : Query} {w' : World n}
    (h : s.AnswersOwn) (hk : s.outstanding[k]? = some q)
    (hstep : s.world.Stepped (.event q.socket (.dns addr q.domain)) w') :
    AnswersOwn
      { world := w'
        outstanding := s.outstanding.eraseIdx k
        answers := s.answers ++ [(q, w'.pending.drop s.world.pending.length)] } := by
  rw [answersOwn_iff]
  constructor
  · intro p hp
    rcases List.mem_append.mp hp with hold | hnew
    · exact h.posted p hold
    · obtain rfl := List.mem_singleton.mp hnew
      intro b hb
      cases hstep with
      | delivered _ o _ hcell =>
          rw [delivered_pending, List.drop_left] at hb
          exact h.next q (List.mem_of_getElem? hk) o hcell addr b hb
  · intro q' hq'
    have hfit := ((answersOwn_iff s).mp h).2 q' (List.mem_of_mem_eraseIdx hq')
    rcases hstep.dnsSlot_cases q'.socket with hnone | hsame | ⟨_, _, _, _, hop, _⟩
    · exact Or.inl hnone
    · rwa [Fits, ← hsame] at hfit
    · cases hop

theorem answersOwn_step_iff (s : Lookups n) (a : LookupAction n) (s' : Lookups n)
    (h : s.AnswersOwn) (hnext : s.next a = some s') : s'.AnswersOwn ↔ s.ResolvesAgree a := by
  cases a with
  | act a =>
      simp only [next] at hnext
      split at hnext
      · cases hnext
      · obtain ⟨w', hw', rfl⟩ := Option.map_eq_some_iff.mp hnext
        exact answersOwn_act_iff h (next_stepped hw')
  | answer k addr =>
      obtain ⟨q, hk, hmap⟩ := Option.bind_eq_some_iff.mp hnext
      obtain ⟨w', hw', rfl⟩ := Option.map_eq_some_iff.mp hmap
      exact ⟨fun _ => trivial, fun _ => answersOwn_answer h hk (next_stepped hw')⟩

/-- No other step posts a DNS callback. -/
theorem posts_not_dns {w w' : World n} {a : Action n} (hstep : w.Stepped a w')
    (hanswer : a.isAnswer = false) : ∀ b ∈ w.posts a, b.args.slot ≠ .onDNS := by
  intro b hb hslot
  rcases hstep.posts_args hb with ⟨err, hargs⟩ | ⟨id, o, ev, rfl, _, hroute⟩
  · simp [hargs, Args.slot] at hslot
  · cases ev with
    | dns addr domain => simp [Action.isAnswer] at hanswer
    | _ =>
        cases hcls : o.cls <;> simp [hcls, route] at hroute <;>
          simp [← hroute, Args.slot] at hslot

theorem queue_filter_perm {w w' : World n} {a : Action n} (hstep : w.Stepped a w')
    (p : Bound → Bool) :
    ((w'.dispatched ++ w'.pending).filter p).Perm
      ((w.dispatched ++ w.pending).filter p ++ (w.posts a).filter p) := by
  rw [← List.filter_append]
  exact hstep.queue_perm.filter p

theorem answersAll_step (s : Lookups n) (a : LookupAction n) (s' : Lookups n)
    (h : s.AnswersAll) (_ : True) (hnext : s.next a = some s') : s'.AnswersAll := by
  cases a with
  | act a =>
      simp only [next] at hnext
      split at hnext
      · cases hnext
      · rename_i hanswer
        obtain ⟨w', hw', rfl⟩ := Option.map_eq_some_iff.mp hnext
        have hstep := next_stepped hw'
        have hnone : (s.world.posts a).filter (·.args.slot = .onDNS) = [] := by
          apply List.filter_eq_nil_iff.mpr
          intro b hb
          simpa using posts_not_dns hstep (by simpa using hanswer) b hb
        have hqueue := queue_filter_perm hstep (·.args.slot = .onDNS)
        rw [hnone, List.append_nil] at hqueue
        exact hqueue.trans h
  | answer k addr =>
      obtain ⟨q, hk, hmap⟩ := Option.bind_eq_some_iff.mp hnext
      obtain ⟨w', hw', rfl⟩ := Option.map_eq_some_iff.mp hmap
      have hqueue := queue_filter_perm (next_stepped hw') (·.args.slot = .onDNS)
      unfold AnswersAll
      refine hqueue.trans ?_
      cases next_stepped hw' with
      | delivered _ o _ hcell =>
          have hdns : (o.delivers q.socket (.dns addr q.domain)).filter
              (·.args.slot = .onDNS) = o.delivers q.socket (.dns addr q.domain) := by
            rw [delivers_dns, bindIfSet]
            split <;> rfl
          simp only [posts, hcell, Option.elim_some, hdns, delivered_pending, List.drop_left,
            List.flatMap_append, List.flatMap_cons, List.flatMap_nil, List.append_nil]
          exact h.append_right _

/-- In every run of overlapping queries, the DNS callbacks are those posted by
the answers. They go to the handlers of the queries they answer, whichever is
answered next, exactly if no `resolve` replaces the handler of a query that is
still outstanding by another. -/
theorem answers_own_iff_resolves_agree (as : List (LookupAction n)) :
    EachState Lookups.next AnswersAll Lookups.init as ∧
    (EachState Lookups.next AnswersOwn Lookups.init as ↔
      EachStep Lookups.next ResolvesAgree Lookups.init as) := by
  constructor
  · exact eachState_of_step (A := fun _ _ => True) answersAll_step (List.Perm.refl [])
      (eachStep_true _ _)
  · apply eachState_iff_eachStep_of_local answersOwn_step_iff
    constructor <;> simp [Lookups.init]

/-- Two names are looked up at once; the first answer goes to the handler of
the second query. -/
def crossedAnswers : List (LookupAction 32) :=
  [.act (.register 0 ⟨true, 250, 7⟩), .act (.construct 4096 1 (.udp 0) .quiet),
    .act (.op 0 (.openAf .inet4) (.creating 5)),
    .act (.op 0 (.resolve 10 (some 1)) .quiet), .act (.op 0 (.resolve 20 (some 2)) .quiet),
    .answer 0 (fun _ => 0), .act (.dispatch 0)]

theorem crossedAnswers_misdelivered :
    (∃ s, run Lookups.next Lookups.init crossedAnswers = some s ∧
      s.answers = [(⟨0, some 1, 10⟩, s.world.dispatched)] ∧
      s.world.dispatched = [⟨0, some 2, .onDNS (fun _ => 0) 10⟩]) ∧
    ¬ EachState Lookups.next AnswersOwn Lookups.init crossedAnswers := by
  have hend : ∃ s, run Lookups.next Lookups.init crossedAnswers = some s ∧
      s.answers = [(⟨0, some 1, 10⟩, s.world.dispatched)] ∧
      s.world.dispatched = [⟨0, some 2, .onDNS (fun _ => 0) 10⟩] := ⟨_, rfl, rfl, rfl⟩
  refine ⟨hend, ?_⟩
  intro h
  obtain ⟨s, hrun, hanswers, hdispatched⟩ := hend
  have hposted := (eachState_last h hrun).posted
  rw [hanswers, hdispatched] at hposted
  simp at hposted

end Lookups

end MbedSockets
