import MbedSockets.Ownership

/-!
Incoming connections. The control block of a new connection arrives in an
event, waits in the queue, is held by the application once its handler has
been called, and is settled by `accept` or `reject`. The ledger records which
control blocks have been delivered and which are held; with the owners and the
calls of `destroy` from the world it accounts for every connection.
-/

namespace MbedSockets

open Lib.Run

variable {n : Nat}

/-- The control block bound in an `onIncoming` callback. -/
def Args.incoming : Args → Option Impl
  | .onIncoming newimpl => newimpl
  | _ => none

theorem Args.slot_of_incoming {args : Args} {i : Impl} (hi : args.incoming = some i) :
    args.slot = .onIncoming := by
  cases args with
  | onIncoming newimpl => rfl
  | _ => cases hi

/-- The control block of the connection that an event announces. -/
def SocketEvent.newimpl : SocketEvent → Option Impl
  | .accept newimpl => newimpl
  | _ => Option.none

def Op.rejects : Op → Option Impl
  | .reject impl => impl
  | _ => none

structure Ledger where
  delivered : List Impl
  held : List Impl

namespace World

/-- A connection arrives at a listener. -/
def arrived (w : World n) : Action n → Option Impl
  | .event id ev => if (w.objs.cell id).any (·.cls = .listener) then ev.newimpl else none
  | _ => none

/-- The scheduler calls a handler with a new connection. -/
def handed (w : World n) : Action n → Option Impl
  | .dispatch k => (w.pending[k]?).bind (·.args.incoming)
  | _ => none

/-- The application accepts or rejects a connection. -/
def settled : Action n → Option Impl
  | .accept _ newImpl _ _ _ => newImpl
  | .op _ op _ => op.rejects
  | _ => none

def record (w : World n) (a : Action n) (g : Ledger) : Ledger where
  delivered := g.delivered ++ (w.arrived a).toList
  held := (settled a).elim (g.held ++ (w.handed a).toList) g.held.erase

def accounted : World n × Ledger → Action n → Option (World n × Ledger) :=
  ghosted World.next record

/-- How many `onIncoming` callbacks for `i` are pending. -/
def waiting (w : World n) (i : Impl) : Nat := w.pending.countP (·.args.incoming = some i)

/-- Every delivered connection is in exactly one place: in the queue, with the
application, owned by one stream, or destroyed. -/
structure NotLost (p : World n × Ledger) : Prop where
  once : ∀ i ∈ p.2.delivered,
    p.1.waiting i + p.2.held.count i + p.1.owners i + p.1.destroyed i = 1
  streams : ∀ i ∈ p.2.delivered, ∀ id o, p.1.objs.cell id = some o →
    o.socket.impl = some i → o.cls = .stream

/-- The sides of the stacks and of the application: what `create` stores and
what arrives is new, and only a connection that is held is settled. -/
structure Fair (p : World n × Ledger) (a : Action n) : Prop where
  lawful : p.1.Lawful a
  opened : ∀ i, p.1.opened a = some i → i ∉ p.2.delivered
  arrived : ∀ i, p.1.arrived a = some i →
    i ∉ p.2.delivered ∧ p.1.owners i = 0 ∧ p.1.destroyed i = 0
  settled : ∀ i, settled a = some i → i ∈ p.2.held

/-- The condition on one step: each path hands the connection on. -/
def HandsOn (p : World n × Ledger) : Action n → Prop
  | .event id ev => ∀ o ∈ p.1.objs.cell id, o.cls = .listener → ev.newimpl ≠ none →
      (o.handlers .onIncoming).isSome
  | .op id op env => op.rejects = none ∧ (p.1.opened (.op id op env) ≠ none →
      ∀ o ∈ p.1.objs.cell id, ∀ i ∈ o.socket.impl, i ∉ p.2.delivered)
  | .destruct id _ => ∀ o ∈ p.1.objs.cell id,
      o.socket.api.any SocketApi.hasDestroy = true ∨ ∀ i ∈ o.socket.impl, i ∉ p.2.delivered
  | .construct _ _ ctor env => ∀ i ∈ ctor.impl p.1.objs.next env, i ∉ p.2.delivered
  | .accept id newImpl _ _ env => ∀ o ∈ p.1.objs.cell id,
      (env (.socketAccept o.socket p.1.objs.next)).err ≠ .none → newImpl ≠ none →
        (p.1.registry o.socket.stack).any SocketApi.hasDestroy = true
  | _ => True

instance (p : World n × Ledger) : (a : Action n) → Decidable (HandsOn p a)
  | .event id _ | .destruct id _ | .accept id _ _ _ _ =>
    inferInstanceAs (Decidable (∀ o ∈ p.1.objs.cell id, _))
  | .op _ _ _ => inferInstanceAs (Decidable (_ ∧ _))
  | .construct _ _ ctor env =>
    inferInstanceAs (Decidable (∀ i ∈ ctor.impl p.1.objs.next env, _))
  | .register _ _ | .dispatch _ | .tick _ => isTrue trivial

/-! ### The balance of a step -/

theorem waiting_step {w w' : World n} {a : Action n} (hstep : w.Stepped a w') (i : Impl) :
    w'.waiting i + one (w.handed a) i =
      w.waiting i + (w.posts a).countP (·.args.incoming = some i) := by
  unfold waiting
  rcases hstep.queue with ⟨k, b, rfl, hb, hpending, _⟩ | ⟨hother, hpending, _⟩
  · obtain ⟨hk, hget⟩ := List.getElem?_eq_some_iff.mp hb
    have hmoved := (List.getElem_cons_eraseIdx_perm hk).countP_eq
      (fun b : Bound => decide (b.args.incoming = some i))
    rw [hget, List.countP_cons] at hmoved
    simp only [hpending, handed, hb, Option.bind_some, posts, List.countP_nil, Nat.add_zero, one]
    simpa using hmoved
  · have hnone : w.handed a = none := by
      cases a with
      | dispatch k => exact absurd rfl (hother k)
      | _ => rfl
    rw [hpending, List.countP_append, hnone, one_none, Nat.add_zero]

theorem posts_of_not_arrived {w w' : World n} {a : Action n} (hstep : w.Stepped a w') {i : Impl}
    (hi : w.arrived a ≠ some i) : (w.posts a).countP (·.args.incoming = some i) = 0 := by
  apply List.countP_eq_zero.mpr
  intro b hb
  simp only [decide_eq_true_eq]
  intro hincoming
  obtain ⟨o, newimpl, rfl, hcell, hcls, hargs⟩ :=
    hstep.posts_onIncoming hb (Args.slot_of_incoming hincoming)
  rw [hargs] at hincoming
  apply hi
  simpa [arrived, hcell, hcls, SocketEvent.newimpl, Args.incoming] using hincoming

/-- A connection that arrives is posted if there is a handler for it. -/
theorem posts_arrived {w : World n} {id : ObjId} {o : SocketObj} {i : Impl}
    (hcell : w.objs.cell id = some o) (hcls : o.cls = .listener) :
    (w.posts (.event id (.accept (some i)))).countP (·.args.incoming = some i) =
      if (o.handlers .onIncoming).isSome then 1 else 0 := by
  simp only [posts, hcell, Option.elim_some, SocketObj.delivers, hcls, route, bindIfSet, Args.slot]
  split <;> simp [*, Args.incoming]

theorem mem_record_delivered {w : World n} {a : Action n} {g : Ledger} {i : Impl} :
    i ∈ (w.record a g).delivered ↔ i ∈ g.delivered ∨ w.arrived a = some i := by
  rw [record, List.mem_append, Option.mem_toList]

theorem held_record {w : World n} {a : Action n} {g : Ledger}
    (hsettled : ∀ i, settled a = some i → i ∈ g.held) (i : Impl) :
    (w.record a g).held.count i + one (settled a) i = g.held.count i + one (w.handed a) i := by
  unfold record
  cases hset : settled a with
  | none =>
      cases hhanded : w.handed a with
      | none => simp
      | some j => simp [one, List.count_singleton]
  | some j =>
      have hmem := hsettled j hset
      have hnone : w.handed a = none := by
        cases a with
        | dispatch k => cases hset
        | _ => rfl
      have hpos : 0 < g.held.count j := List.count_pos_iff.mpr hmem
      rw [hnone, one_none, Nat.add_zero]
      simp only [Option.elim_some, List.count_erase, one, Option.some.injEq, beq_iff_eq]
      split
      · rename_i hij
        subst hij
        omega
      · omega

/-- Where a step moves a control block to and from. -/
theorem ledger_balance {p : World n × Ledger} {a : Action n} {w' : World n} (hfair : Fair p a)
    (hstep : p.1.Stepped a w') (i : Impl) :
    w'.waiting i + (p.1.record a p.2).held.count i + w'.owners i + w'.destroyed i +
        one (p.1.dropped a) i + one (settled a) i =
      p.1.waiting i + p.2.held.count i + p.1.owners i + p.1.destroyed i +
        (p.1.posts a).countP (·.args.incoming = some i) + one (p.1.acquired a) i +
        one (p.1.scrapped a) i := by
  have hcustody := custody_step hstep hfair.lawful
  have hwaiting := waiting_step hstep i
  have hheld := held_record (w := p.1) hfair.settled i
  have howners := hcustody.owners i
  have hdestroyed := hcustody.destroyed i
  omega

/-! ### What is known of undelivered control blocks and of holders -/

/-- Nothing waits or is held that was not delivered, and what was delivered is
in streams only. -/
structure Known (p : World n × Ledger) : Prop where
  undelivered : ∀ i, i ∉ p.2.delivered → p.1.waiting i = 0 ∧ p.2.held.count i = 0
  streams : ∀ i ∈ p.2.delivered, ∀ id o, p.1.objs.cell id = some o →
    o.socket.impl = some i → o.cls = .stream

/-- Of the sockets that a constructor makes, only streams have a control
block. -/
theorem holder_built {w : World n} {loc : BitVec n} {h : Handle} {env : Env} {ctor : Ctor}
    {id : ObjId} {o' : SocketObj} {i : Impl}
    (hcell : (w.built loc h env ctor).objs.cell id = some o') (himpl : o'.socket.impl = some i) :
    o'.cls = .stream ∨ w.objs.cell id = some o' := by
  rw [built_objs, Lib.Heap.alloc_cell_eq_some] at hcell
  rcases hcell with ⟨_, rfl⟩ | hold
  · left
    rw [Ctor.frame_impl] at himpl
    rw [Ctor.frame_cls]
    cases ctor with
    | adopt sock => rfl
    | adoptFrom source sock => rfl
    | _ => cases himpl
  · exact Or.inr hold

theorem holder_commit {w : World n} {f : Frame} {o o' : SocketObj} {id : ObjId} {i : Impl}
    (hcell : w.objs.cell f.this = some o) (hcls : f.obj.cls = o.cls)
    (himpl : o'.socket.impl = some i) (hcell' : (w.commit f).objs.cell id = some o') :
    (f.obj.socket.impl = some i ∧ f.obj.socket.impl ≠ o.socket.impl) ∨
      ∃ o, w.objs.cell id = some o ∧ o.socket.impl = some i ∧ o'.cls = o.cls := by
  rw [commit_objs, Lib.Heap.set_cell_eq_some _ hcell] at hcell'
  rcases hcell' with ⟨rfl, rfl⟩ | ⟨_, hold⟩
  · by_cases hsame : f.obj.socket.impl = o.socket.impl
    · exact Or.inr ⟨o, hcell, hsame ▸ himpl, hcls⟩
    · exact Or.inl ⟨himpl, hsame⟩
  · exact Or.inr ⟨o', hold, himpl, rfl⟩

/-- An operation that changes the control block is an `open` that succeeds. -/
theorem opened_of_changed {w : World n} {id : ObjId} {o : SocketObj} {op : Op} {env : Env}
    {ret : Ret} {f : Frame} (hlawful : w.Lawful (.op id op env)) (hcell : w.objs.cell id = some o)
    (hexec : op.exec env (.start id o) = .ok (ret, f))
    (hchanged : f.obj.socket.impl ≠ o.socket.impl) :
    w.opened (.op id op env) = f.obj.socket.impl := by
  have hran := Op.exec_ran hexec
  by_cases hop : ∀ af, op ≠ .openAf af
  · exact absurd (hran.impl_of_keeps hop hlawful.keeps_op).1 hchanged
  · push Not at hop
    obtain ⟨af, rfl⟩ := hop
    rcases Op.openAf_eq_ok hexec with ⟨_, rfl⟩ | ⟨hapi, rfl⟩
    · exact absurd rfl hchanged
    · have hnull : o.socket.api ≠ none := hapi
      by_cases herr : (env (.create af o.cls.protoFamily id)).err = .none
      · simp [opened, hcell, hnull, herr, Frame.call, Frame.start, Answer.store]
      · exact absurd (Answer.store_impl ((hlawful.2 o.cls.protoFamily).2 herr) _) hchanged

/-- A socket that has a control block after a step is a stream, or has just
been opened, or had it before. -/
theorem holder_step {w w' : World n} {a : Action n} (hstep : w.Stepped a w') (hlawful : w.Lawful a)
    {id : ObjId} {o' : SocketObj} {i : Impl} (hcell' : w'.objs.cell id = some o')
    (himpl : o'.socket.impl = some i) :
    o'.cls = .stream ∨ w.opened a = some i ∨
      ∃ o, w.objs.cell id = some o ∧ o.socket.impl = some i ∧ o'.cls = o.cls := by
  cases hstep with
  | built loc h ctor env _ _ _ =>
      rcases holder_built hcell' himpl with hstream | hold
      · exact Or.inl hstream
      · exact Or.inr (Or.inr ⟨o', hold, himpl, rfl⟩)
  | destructed id' o env hcell =>
      rw [destructed_objs, Lib.Heap.free_cell_eq_some] at hcell'
      exact Or.inr (Or.inr ⟨o', hcell'.2, himpl, rfl⟩)
  | ran id' o op env ret f hcell _ hexec =>
      have hsame := (Op.exec_ran hexec).same
      obtain rfl : f.this = id' := hsame.this
      rcases holder_commit hcell hsame.cls himpl hcell' with ⟨hnew, hchanged⟩ | hold
      · exact Or.inr (Or.inl ((opened_of_changed hlawful hcell hexec hchanged).trans hnew))
      · exact Or.inr (Or.inr hold)
  | accepted id' o newImpl loc h env _ _ _ _ _ =>
      rcases holder_built hcell' himpl with hstream | hold
      · exact Or.inl hstream
      · exact Or.inr (Or.inr ⟨o', hold, himpl, rfl⟩)
  | refused id' o newImpl loc h env _ _ _ _ _ =>
      rw [refused_cell] at hcell'
      exact Or.inr (Or.inr ⟨o', hcell', himpl, rfl⟩)
  | delivered id' o ev hcell =>
      rcases holder_commit
        (f := ⟨id', { o with socket.event := some ev, event := none }, [], o.delivers id' ev⟩)
        hcell rfl himpl hcell' with ⟨_, hchanged⟩ | hold
      · exact absurd rfl hchanged
      · exact Or.inr (Or.inr hold)
  | _ => exact Or.inr (Or.inr ⟨o', hcell', himpl, rfl⟩)

theorem known_step (p : World n × Ledger) (a : Action n) (p' : World n × Ledger) (hp : Known p)
    (hfair : Fair p a) (hnext : accounted p a = some p') : Known p' := by
  obtain ⟨hworld, hledger⟩ := ghosted_eq_some hnext
  have hstep := next_stepped hworld
  constructor
  · intro i hi
    have hdelivered : i ∉ p.2.delivered ∧ p.1.arrived a ≠ some i := by
      rwa [hledger, mem_record_delivered, not_or] at hi
    obtain ⟨hwaiting, hheld⟩ := hp.undelivered i hdelivered.1
    have hposts := posts_of_not_arrived hstep hdelivered.2
    have hqueue := waiting_step hstep i
    have hcount := held_record (w := p.1) hfair.settled i
    rw [hledger]
    omega
  · intro i hi id o' hcell himpl
    rw [hledger, mem_record_delivered] at hi
    rcases hi with hold | hnew
    · rcases holder_step hstep hfair.lawful hcell himpl with hstream | hopened |
        ⟨o, hcell', himpl', hcls⟩
      · exact hstream
      · exact absurd hold (hfair.opened i hopened)
      · exact hcls.trans (hp.streams i hold id o hcell' himpl')
    · -- Nobody had the new connection before, and an event changes no owner.
      have hnobody := (hfair.arrived i hnew).2.1
      have howners := (custody_step hstep hfair.lawful).owners i
      have hacquired : p.1.acquired a = none := by
        cases a with
        | event id ev => rfl
        | _ => cases hnew
      have hle := p'.1.objs.le_total (fun o : SocketObj => one o.socket.impl i) hcell
      rw [one_of_eq himpl] at hle
      rw [hacquired, one_none, hnobody] at howners
      have hpos : 1 ≤ p'.1.owners i := hle
      omega

/-! ### No connection is lost -/

theorem notLost_iff {p : World n × Ledger} (hp : Known p) :
    NotLost p ↔ ∀ i ∈ p.2.delivered,
      p.1.waiting i + p.2.held.count i + p.1.owners i + p.1.destroyed i = 1 :=
  ⟨NotLost.once, fun h => ⟨h, hp.streams⟩⟩

/-- A connection that arrives is new, so after the step it is accounted for
as often as it has been posted. -/
theorem arrived_balance {p : World n × Ledger} {a : Action n} {w' : World n} (hp : Known p)
    (hfair : Fair p a) (hstep : p.1.Stepped a w') {i : Impl} (hi : p.1.arrived a = some i) :
    w'.waiting i + (p.1.record a p.2).held.count i + w'.owners i + w'.destroyed i =
      (p.1.posts a).countP (·.args.incoming = some i) := by
  obtain ⟨hfresh, howners, hdestroyed⟩ := hfair.arrived i hi
  obtain ⟨hwaiting, hheld⟩ := hp.undelivered i hfresh
  have hmoves : p.1.acquired a = none ∧ p.1.scrapped a = none ∧ p.1.dropped a = none ∧
      settled a = none := by
    cases a with
    | event id ev => exact ⟨rfl, rfl, rfl, rfl⟩
    | _ => cases hi
  have hbalance := ledger_balance hfair hstep i
  rw [hmoves.1, hmoves.2.1, hmoves.2.2.1, hmoves.2.2.2, one_none] at hbalance
  omega

/-- The condition in terms of the balance: control blocks delivered before
stay accounted for, and a new one is posted. -/
theorem notLost_iff_balance {p p' : World n × Ledger} {a : Action n} (hp : Known p)
    (hlost : NotLost p) (hfair : Fair p a) (hnext : accounted p a = some p') :
    NotLost p' ↔
      (∀ i ∈ p.2.delivered, one (p.1.acquired a) i + one (p.1.scrapped a) i =
        one (p.1.dropped a) i + one (settled a) i) ∧
      ∀ i, p.1.arrived a = some i →
        (p.1.posts a).countP (·.args.incoming = some i) = 1 := by
  rw [notLost_iff (known_step p a p' hp hfair hnext)]
  obtain ⟨hworld, hledger⟩ := ghosted_eq_some hnext
  have hstep := next_stepped hworld
  have hbalance := ledger_balance hfair hstep
  have hold : ∀ i ∈ p.2.delivered, (p.1.posts a).countP (·.args.incoming = some i) = 0 := by
    intro i hi
    apply posts_of_not_arrived hstep
    intro harrived
    exact (hfair.arrived i harrived).1 hi
  have hnew : ∀ i, p.1.arrived a = some i →
      p'.1.waiting i + p'.2.held.count i + p'.1.owners i + p'.1.destroyed i =
        (p.1.posts a).countP (·.args.incoming = some i) := by
    intro i hi
    rw [hledger]
    exact arrived_balance hp hfair hstep hi
  have hmem : ∀ i, i ∈ p'.2.delivered ↔ i ∈ p.2.delivered ∨ p.1.arrived a = some i := by
    intro i
    rw [hledger, mem_record_delivered]
  constructor
  · intro honce
    constructor
    · intro i hi
      have hbefore := hlost.once i hi
      have hafter := honce i ((hmem i).mpr (Or.inl hi))
      have hb := hbalance i
      have hposts := hold i hi
      rw [hledger] at hafter
      omega
    · intro i hi
      rw [← hnew i hi]
      exact honce i ((hmem i).mpr (Or.inr hi))
  · rintro ⟨hkept, hposted⟩ i hi
    rcases (hmem i).mp hi with hi' | hi'
    · have hbefore := hlost.once i hi'
      have hb := hbalance i
      have hposts := hold i hi'
      have hk := hkept i hi'
      rw [hledger]
      omega
    · rw [hnew i hi']
      exact hposted i hi'

theorem Known.held_delivered {p : World n × Ledger} (hp : Known p) {i : Impl}
    (hi : i ∈ p.2.held) : i ∈ p.2.delivered := by
  by_contra hfresh
  have hzero := (hp.undelivered i hfresh).2
  have hpos : 0 < p.2.held.count i := List.count_pos_iff.mpr hi
  omega

theorem forall_one_eq_zero_iff {s : List Impl} {q : Option Impl} :
    (∀ i ∈ s, one q i = 0) ↔ ∀ i ∈ q, i ∉ s := by
  simp only [one_eq_zero, Option.mem_def]
  exact ⟨fun h i hq hs => h i hs hq, fun h i hs hq => h i hq hs⟩

/-- Where a settled connection is not passed on, nothing may be settled. -/
theorem unsettled_iff {p : World n × Ledger} {a : Action n} (hp : Known p) (hfair : Fair p a) :
    (∀ i ∈ p.2.delivered, 0 = one (settled a) i) ↔ settled a = none := by
  constructor
  · intro h
    cases hset : settled a with
    | none => rfl
    | some i =>
        have hi := h i (hp.held_delivered (hfair.settled i hset))
        rw [one_of_eq hset] at hi
        cases hi
  · intro hnone i _
    rw [hnone, one_none]

theorem balance_iff_handsOn {p : World n × Ledger} {a : Action n} {w' : World n} (hp : Known p)
    (hfair : Fair p a) (hstep : p.1.Stepped a w') :
    ((∀ i ∈ p.2.delivered, one (p.1.acquired a) i + one (p.1.scrapped a) i =
        one (p.1.dropped a) i + one (settled a) i) ∧
      ∀ i, p.1.arrived a = some i →
        (p.1.posts a).countP (·.args.incoming = some i) = 1) ↔ HandsOn p a := by
  cases hstep with
  | built loc h ctor env _ _ _ =>
      simp only [acquired, scrapped, dropped, settled, arrived, one_none, Nat.add_zero,
        reduceCtorEq, false_implies, implies_true, and_true, HandsOn]
      exact forall_one_eq_zero_iff
  | destructed id o env hcell =>
      simp only [acquired, opened, scrapped, dropped, settled, arrived, hcell, Option.bind_some,
        one_none, Nat.zero_add, Nat.add_zero, reduceCtorEq, false_implies, implies_true, and_true,
        HandsOn, Option.mem_some_iff, forall_eq']
      by_cases hdestroy : o.socket.api.any SocketApi.hasDestroy = true
      · simp [hdestroy]
      · simp only [hdestroy, Bool.false_eq_true, if_false, one_none, false_or]
        rw [← forall_one_eq_zero_iff]
        exact ⟨fun h i hi => (h i hi).symm, fun h i hi => (h i hi).symm⟩
  | accepted id o newImpl loc h env hcell _ _ _ hok =>
      simp [acquired, scrapped, dropped, settled, arrived, hcell, hok, HandsOn]
  | refused id o newImpl loc h env hcell _ _ _ hfail =>
      simp only [acquired, scrapped, dropped, settled, arrived, hcell, hfail, Option.bind_some,
        if_false, ne_eq, not_false_eq_true, true_and, one_none, Nat.zero_add, reduceCtorEq,
        false_implies, implies_true, and_true, HandsOn, Option.mem_some_iff, forall_eq',
        forall_const]
      by_cases hdestroy : (p.1.registry o.socket.stack).any SocketApi.hasDestroy = true
      · simp [hdestroy]
      · simp only [hdestroy, Bool.false_eq_true, if_false, one_none, imp_false, not_not]
        exact unsettled_iff hp hfair
  | ran id o op env ret f hcell _ _ =>
      simp only [acquired, scrapped, dropped, arrived, hcell, Option.bind_some, one_none,
        Nat.add_zero, reduceCtorEq, false_implies, implies_true, and_true, HandsOn,
        Option.mem_some_iff, forall_eq']
      cases hopened : p.1.opened (.op id op env) with
      | none =>
          simp only [if_true, one_none, Nat.zero_add, ne_eq, not_true_eq_false, false_implies,
            and_true]
          exact unsettled_iff hp hfair
      | some j =>
          -- An `open` settles nothing, and what it stores is new.
          have hrejects : op.rejects = none := by
            cases op with
            | reject impl => cases hopened
            | _ => rfl
          have hnew : ∀ i ∈ p.2.delivered, one (some j) i = 0 := by
            rw [forall_one_eq_zero_iff]
            rintro i ⟨⟩
            exact hfair.opened j hopened
          simp only [settled, hrejects, one_none, Nat.add_zero, reduceCtorEq, if_false, ne_eq,
            not_false_eq_true, forall_const, true_and]
          rw [← forall_one_eq_zero_iff]
          constructor
          · intro h i hi
            rw [← h i hi, hnew i hi]
          · intro h i hi
            rw [h i hi, hnew i hi]
  | delivered id o ev hcell =>
      simp only [acquired, opened, scrapped, dropped, settled, one_none, implies_true, true_and]
      simp only [arrived, hcell, Option.any_some, decide_eq_true_eq, HandsOn,
        Option.mem_some_iff, forall_eq']
      by_cases hcls : o.cls = .listener
      · cases ev with
        | accept newimpl =>
            cases newimpl with
            | none => simp [hcls, SocketEvent.newimpl]
            | some i =>
                simp [hcls, SocketEvent.newimpl, posts_arrived hcell hcls,
                  Option.isSome_iff_ne_none]
        | _ => simp [SocketEvent.newimpl]
      · simp [hcls]
  | _ => simp [acquired, opened, scrapped, dropped, settled, arrived, HandsOn]

theorem notLost_step_iff (p : World n × Ledger) (a : Action n) (p' : World n × Ledger)
    (hp : Known p) (hlost : NotLost p) (hfair : Fair p a) (hnext : accounted p a = some p') :
    NotLost p' ↔ HandsOn p a := by
  rw [notLost_iff_balance hp hlost hfair hnext]
  exact balance_iff_handsOn hp hfair (next_stepped (ghosted_eq_some hnext).1)

/-- No account at program start. -/
def opening : World n × Ledger := (World.init, ⟨[], []⟩)

/-- In a run with lawful stacks and a fair application, no delivered
connection is ever lost or in two places exactly if every step hands on the
connection it deals with. -/
theorem notLost_iff_hands_on (as : List (Action n))
    (hfair : EachStep accounted Fair opening as) :
    EachState accounted NotLost opening as ↔ EachStep accounted HandsOn opening as := by
  have hknown : Known (opening : World n × Ledger) :=
    ⟨fun _ _ => ⟨rfl, rfl⟩, fun i hi => by simp [opening] at hi⟩
  apply eachState_iff_eachStep known_step notLost_step_iff hknown _ hfair
  exact ⟨fun i hi => by simp [opening] at hi, hknown.streams⟩

/-- A connection arrives, is accepted, and its stream is destroyed. -/
def acceptedStream : List (Action 32) :=
  [.register 0 ⟨true, 250, 7⟩, .construct 4096 1 (.listener 0) .quiet,
    .op 0 (.startListening (some 3) 5) .quiet, .event 0 (.accept (some 77)), .dispatch 0,
    .accept 0 (some 77) 8192 2 .quiet, .destruct 1 .quiet]

/-- No handler is set when a connection arrives. -/
def droppedConnection : List (Action 32) :=
  [.register 0 ⟨true, 250, 7⟩, .construct 4096 1 (.listener 0) .quiet,
    .event 0 (.accept (some 77))]

/-- The application rejects a connection. -/
def rejectedConnection : List (Action 32) :=
  [.register 0 ⟨true, 250, 7⟩, .construct 4096 1 (.listener 0) .quiet,
    .op 0 (.startListening (some 3) 5) .quiet, .event 0 (.accept (some 77)), .dispatch 0,
    .op 0 (.reject (some 77)) .quiet]

theorem Fair.of_none {p : World n × Ledger} {a : Action n} (hlawful : p.1.Lawful a)
    (hopened : p.1.opened a = none) (harrived : p.1.arrived a = none)
    (hsettled : World.settled a = none) : Fair p a where
  lawful := hlawful
  opened i hi := by simp [hopened] at hi
  arrived i hi := by simp [harrived] at hi
  settled i hi := by simp [hsettled] at hi

theorem Fair.of_arrived {p : World n × Ledger} {id : ObjId} {ev : SocketEvent} {i : Impl}
    (harrived : p.1.arrived (.event id ev) = some i)
    (hnew : i ∉ p.2.delivered ∧ p.1.owners i = 0 ∧ p.1.destroyed i = 0) :
    Fair p (.event id ev) where
  lawful := trivial
  opened j hj := by cases hj
  arrived j hj := by
    obtain rfl : i = j := Option.some.inj (harrived.symm.trans hj)
    exact hnew
  settled j hj := by cases hj

theorem Fair.of_settled {p : World n × Ledger} {a : Action n} {i : Impl}
    (hlawful : p.1.Lawful a) (hopened : p.1.opened a = none) (harrived : p.1.arrived a = none)
    (hsettled : World.settled a = some i) (hheld : i ∈ p.2.held) : Fair p a where
  lawful := hlawful
  opened j hj := by simp [hopened] at hj
  arrived j hj := by simp [harrived] at hj
  settled j hj := by
    obtain rfl : i = j := Option.some.inj (hsettled.symm.trans hj)
    exact hheld

theorem acceptedStream_notLost :
    EachState accounted NotLost opening acceptedStream ∧
      (run accounted opening acceptedStream).map (fun p => (p.2.delivered, p.1.destroyed 77)) =
        some ([77], 1) := by
  refine ⟨(notLost_iff_hands_on acceptedStream ?_).mpr (by decide), by decide⟩
  exact .cons rfl (.of_none trivial rfl rfl rfl) <|
    .cons rfl (.of_none keepsImpl_quiet rfl rfl rfl) <|
    .cons rfl (.of_none keepsImpl_quiet rfl rfl rfl) <|
    .cons rfl (.of_arrived rfl (by decide)) <|
    .cons rfl (.of_none trivial rfl rfl rfl) <|
    .cons rfl (.of_settled keepsImpl_quiet rfl rfl rfl (by decide)) <|
    .cons rfl (.of_none keepsImpl_quiet rfl rfl rfl) trivial

theorem dropped_and_rejected_lost :
    (EachStep accounted Fair opening droppedConnection ∧
      ¬ EachState accounted NotLost opening droppedConnection) ∧
    (EachStep accounted Fair opening rejectedConnection ∧
      ¬ EachState accounted NotLost opening rejectedConnection) := by
  refine ⟨⟨?_, ?_⟩, ?_, ?_⟩
  · exact .cons rfl (.of_none trivial rfl rfl rfl) <|
      .cons rfl (.of_none keepsImpl_quiet rfl rfl rfl) <|
      .cons rfl (.of_arrived rfl (by decide)) trivial
  · intro h
    have hend : ∃ p, run accounted opening droppedConnection = some p ∧ 77 ∈ p.2.delivered ∧
        p.1.waiting 77 + p.2.held.count 77 + p.1.owners 77 + p.1.destroyed 77 = 0 :=
      ⟨_, rfl, by decide, by decide⟩
    obtain ⟨p, hrun, hmem, hzero⟩ := hend
    have honce := (eachState_last h hrun).once 77 hmem
    omega
  · exact .cons rfl (.of_none trivial rfl rfl rfl) <|
      .cons rfl (.of_none keepsImpl_quiet rfl rfl rfl) <|
      .cons rfl (.of_none keepsImpl_quiet rfl rfl rfl) <|
      .cons rfl (.of_arrived rfl (by decide)) <|
      .cons rfl (.of_none trivial rfl rfl rfl) <|
      .cons rfl (.of_settled keepsImpl_quiet rfl rfl rfl (by decide)) trivial
  · intro h
    have hend : ∃ p, run accounted opening rejectedConnection = some p ∧ 77 ∈ p.2.delivered ∧
        p.1.waiting 77 + p.2.held.count 77 + p.1.owners 77 + p.1.destroyed 77 = 0 :=
      ⟨_, rfl, by decide, by decide⟩
    obtain ⟨p, hrun, hmem, hzero⟩ := hend
    have honce := (eachState_last h hrun).once 77 hmem
    omega

end World

end MbedSockets
