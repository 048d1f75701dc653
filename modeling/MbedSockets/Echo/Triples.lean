import MbedSockets.Contracts
import MbedSockets.Echo.Network

/-!
Rules for what the members of a client do on any stack. A triple speaks of the
runs in which no assertion has failed so far; what happens after a failed one
is not its concern, so an assertion adds what it asserts to what is known. Of an
operation it is known which calls were granted if it returns success, and which
handlers it can have set.
-/

namespace MbedSockets

variable {n : Nat}

theorem World.op_eq_ok {w w' : World n} {id : ObjId} {op : Op} {env : Env} {ret : Ret}
    (h : w.step (.op id op env) = some (.ok (ret, w'))) :
    ∃ o f, w.objs.cell id = some o ∧ op.exec env (.start id o) = .ok (ret, f) ∧
      w' = w.commit f := by
  cases hcell : w.objs.cell id with
  | none => simp [World.step, hcell] at h
  | some o =>
      simp only [World.step, hcell, Option.bind_some] at h
      split at h
      · cases hexec : op.exec env (.start id o) with
        | error fault => simp [hexec, bind, Except.bind] at h
        | ok result =>
            simp only [hexec, bind, Except.bind, pure, Except.pure, Option.some.injEq,
              Except.ok.injEq, Prod.mk.injEq] at h
            obtain ⟨rfl, rfl⟩ := h
            exact ⟨o, result.2, rfl, hexec, rfl⟩
      · cases h

/-- An operation that returns success has made a call that was granted. -/
theorem Op.Told.granted {op : Op} {f f' : Frame} {ret : Ret} (h : op.Told f ret f')
    (hnone : ret.err = some .none) : ∃ e ∈ f'.calls, op.asks e.call = true ∧ e.err = .none := by
  cases h with
  | refused err hret hcode =>
      obtain rfl : err = .none := Option.some.inj (hret.symm.trans hnone)
      cases hcode
  | answered _ first last hcalls hasks _ hret =>
      exact ⟨last, by simp [hcalls], hasks last (by simp), (hret .none hnone).symm⟩
  | noCode _ hret => cases hret.symm.trans hnone

namespace Echo

variable {C : Type} {socket : C → ObjId}

/-- The client's socket has a handler in the slot. -/
def Session.HandlerSet (socket : C → ObjId) (slot : Slot) (s : Session n C) : Prop :=
  ∃ o, s.world.objs.cell (socket s.client) = some o ∧ o.handlers slot ≠ none

/-- What is known after an operation of the client's socket. -/
structure Session.Asked (socket : C → ObjId) (op : Op) (ret : Ret) (s s' : Session n C) : Prop where
  client : s'.client = s.client
  posted : s'.posted = s.posted
  granted : ∃ calls, s'.world.grantedCalls = s.world.grantedCalls ++ calls ∧
    (ret.err = some .none → ∃ c ∈ calls, op.asks c = true)
  handlerSet : ∀ slot, s'.HandlerSet socket slot → slot ∈ op.slots ∨ s.HandlerSet socket slot

theorem Session.asked_of_step {op : Op} {env : Env} {ret : Ret} {s : Session n C} {w : World n}
    (hkeep : ∀ addr port tmp, op ≠ .bindText addr port tmp)
    (hstep : s.world.step (.op (socket s.client) op env) = some (.ok (ret, w))) :
    s.Asked socket op ret { s with world := w } := by
  obtain ⟨o, f, hcell, hexec, rfl⟩ := World.op_eq_ok hstep
  refine ⟨rfl, rfl, ⟨f.calls.filterMap fun e => if e.err = .none then some e.call else none,
    by simp [World.grantedCalls], fun hnone => ?_⟩, ?_⟩
  · have htold := Op.exec_told (fun addr port tmp hop => absurd hop (hkeep addr port tmp)) hexec
    obtain ⟨e, he, hasks, herr⟩ := htold.granted hnone
    exact ⟨e.call, List.mem_filterMap.mpr ⟨e, he, if_pos herr⟩, hasks⟩
  · rintro slot ⟨o', hcell', hset⟩
    have hran := Op.exec_ran hexec
    rw [World.commit_objs, show f.this = socket s.client from hran.same.this,
      Lib.Heap.set_cell_self _ hcell, Option.some.injEq] at hcell'
    subst hcell'
    rcases hran.handlers with hsame | ⟨slot', hnd, hreg, hupdate⟩
    · exact .inr ⟨o, hcell, hsame ▸ hset⟩
    · by_cases hslot : slot = slot'
      · exact .inl (by simp [Op.slots, hreg, hslot])
      · rw [hupdate, Function.update_of_ne hslot] at hset
        exact .inr ⟨o, hcell, hset⟩

section counts

variable {op : Op} {ret : Ret} {s s' : Session n C}

theorem Session.Asked.mem_granted (h : s.Asked socket op ret s') {c : ApiCall}
    (hc : c ∈ s.world.grantedCalls) : c ∈ s'.world.grantedCalls := by
  obtain ⟨calls, hcalls, _⟩ := h.granted
  rw [hcalls]
  exact List.mem_append_left _ hc

theorem Session.Asked.exists_granted (h : s.Asked socket op ret s') (hret : ret = .code .none) :
    ∃ c ∈ s'.world.grantedCalls, op.asks c = true := by
  obtain ⟨calls, hcalls, hgranted⟩ := h.granted
  obtain ⟨c, hc, hasks⟩ := hgranted (by rw [hret]; rfl)
  rw [hcalls]
  exact ⟨c, List.mem_append_right _ hc, hasks⟩

theorem Session.Asked.count_le (h : s.Asked socket op ret s') (p : ApiCall → Bool) :
    s.world.grantedCalls.countP p ≤ s'.world.grantedCalls.countP p := by
  obtain ⟨calls, hcalls, _⟩ := h.granted
  rw [hcalls, List.countP_append]
  exact Nat.le_add_right _ _

theorem Session.Asked.count_lt (h : s.Asked socket op ret s') (hret : ret = .code .none)
    {p : ApiCall → Bool} (hp : ∀ c, op.asks c = true → p c = true) :
    s.world.grantedCalls.countP p < s'.world.grantedCalls.countP p := by
  obtain ⟨calls, hcalls, hgranted⟩ := h.granted
  obtain ⟨c, hc, hasks⟩ := hgranted (by rw [hret]; rfl)
  rw [hcalls, List.countP_append]
  exact Nat.lt_add_of_pos_right (List.countP_pos_iff.mpr ⟨c, hc, hp c hasks⟩)

end counts

/-- Unless an assertion has failed, `h` leads from `P` to `Q`. -/
def Triple (P : Session n C → Prop) (h : Handler n C) (Q : Session n C → Prop) : Prop :=
  ∀ s s', h s = .ok s' → s.failures ≤ s'.failures ∧ (s'.failures = 0 → P s → Q s')

namespace Triple

variable {P P' Q : Session n C → Prop}

/-- What holds if no assertion has failed in the end: none had at the start. -/
theorem unfailed {h : Handler n C} (htriple : Triple P h Q) {s s' : Session n C}
    (hrun : h s = .ok s') (hnone : s'.failures = 0) : s.failures = 0 := by
  have hgrows := (htriple s s' hrun).1
  omega

theorem post {h : Handler n C} (htriple : Triple P h Q) {s s' : Session n C}
    (hrun : h s = .ok s') (hnone : s'.failures = 0) (hpre : P s) : Q s' :=
  (htriple s s' hrun).2 hnone hpre

theorem consequence {h : Handler n C} (htriple : Triple P' h Q) (hpre : ∀ s, P s → P' s) :
    Triple P h Q := by
  intro s s' hrun
  obtain ⟨hgrows, hpost⟩ := htriple s s' hrun
  exact ⟨hgrows, fun hnone hp => hpost hnone (hpre s hp)⟩

theorem finish : Triple Q Echo.finish Q := by
  intro s s' hrun
  obtain rfl : s = s' := Except.ok.inj hrun
  exact ⟨le_rfl, fun _ hq => hq⟩

theorem assign {f : C → C} {rest : Handler n C} (hrest : Triple P rest Q) :
    Triple (fun s => P { s with client := f s.client }) (Echo.assign f rest) Q :=
  fun s s' hrun => hrest { s with client := f s.client } s' hrun

theorem postTerminate {status : Bool} {rest : Handler n C} (hrest : Triple P rest Q) :
    Triple (fun s => P { s with posted := s.posted ++ [.terminate status] })
      (Echo.postTerminate status rest) Q :=
  fun s s' hrun => hrest { s with posted := s.posted ++ [.terminate status] } s' hrun

theorem check {bails : Bool} {ok : C → Prop} [DecidablePred ok] {rest : Handler n C}
    (hrest : Triple P rest Q) :
    Triple (fun s => ok s.client → P s) (Echo.check bails ok rest) Q := by
  intro s s' hrun
  unfold Echo.check at hrun
  split at hrun
  · rename_i hok
    obtain ⟨hgrows, hpost⟩ := hrest s s' hrun
    exact ⟨hgrows, fun hnone hp => hpost hnone (hp hok)⟩
  · -- The failure is counted, and stays counted.
    have hcounted : s.failures + 1 ≤ s'.failures := by
      split at hrun
      · obtain rfl := Except.ok.inj hrun
        exact le_rfl
      · exact (hrest _ s' hrun).1
    exact ⟨by omega, fun hnone _ => by omega⟩

theorem branch {b : C → Bool} {yes no : Handler n C} (hyes : Triple P yes Q)
    (hno : Triple P' no Q) :
    Triple (fun s => (b s.client = true → P s) ∧ (b s.client = false → P' s))
      (Echo.branch b yes no) Q := by
  intro s s' hrun
  unfold Echo.branch at hrun
  split at hrun
  · rename_i hb
    obtain ⟨hgrows, hpost⟩ := hyes s s' hrun
    exact ⟨hgrows, fun hnone hp => hpost hnone (hp.1 hb)⟩
  · rename_i hb
    obtain ⟨hgrows, hpost⟩ := hno s s' hrun
    exact ⟨hgrows, fun hnone hp => hpost hnone (hp.2 (by simpa using hb))⟩

theorem ask {op : C → Op} {env : Env} {rest : Ret → Handler n C} {P : Ret → Session n C → Prop}
    (hrest : ∀ ret, Triple (P ret) (rest ret) Q)
    (hkeep : ∀ c addr port tmp, op c ≠ .bindText addr port tmp := by simp) :
    Triple (fun s => ∀ ret s', s.Asked socket (op s.client) ret s' → P ret s')
      (Echo.ask socket op env rest) Q := by
  intro s s' hrun
  unfold Echo.ask at hrun
  split at hrun
  · rename_i ret w hstep
    obtain ⟨hgrows, hpost⟩ := hrest ret _ s' hrun
    exact ⟨hgrows, fun hnone hp => hpost hnone
      (hp ret _ (Session.asked_of_step (hkeep s.client) hstep))⟩
  · cases hrun
  · cases hrun

end Triple

end Echo

end MbedSockets
