import MbedSockets.Steps

/-!
Control blocks and who answers for them. A control block gets into a socket by
`create`, or by adoption, and leaves it when the socket is opened again or
destroyed. `custody_step` gives the balance of every step once; the ownership
results are read off it.

The stacks are assumed to store a control block only in a successful `create`,
and then a new one.
-/

namespace MbedSockets

open Lib.Run

variable {n : Nat}

/-- One for the given control block, zero otherwise. -/
def one (p : Option Impl) (i : Impl) : Nat := if p = some i then 1 else 0

@[simp] theorem one_none (i : Impl) : one none i = 0 := rfl

theorem one_eq_zero {p : Option Impl} {i : Impl} : one p i = 0 ↔ p ≠ some i := by
  simp [one]

theorem one_of_eq {p : Option Impl} {i : Impl} (h : p = some i) : one p i = 1 := by
  simp [one, h]

theorem one_of_ne {p : Option Impl} {i : Impl} (h : p ≠ some i) : one p i = 0 := by
  simp [one, h]

def ApiCall.isCreate : ApiCall → Bool
  | .create _ _ _ => true
  | _ => false

/-- The entry of a `destroy` that was passed `i`. -/
def ApiEntry.destroys (i : Impl) (e : ApiEntry) : Bool := e.call = .destroy && e.impl = some i

/-- The entry of a successful `create` that stored `i`. -/
def ApiEntry.creates (i : Impl) (e : ApiEntry) : Bool :=
  e.call.isCreate && (e.err = .none && e.implAfter = some i)

theorem ApiEntry.not_destroys_of_plain {e : ApiEntry} (h : e.call.plain = true) (i : Impl) :
    e.destroys i = false := by
  cases hc : e.call <;> simp_all [ApiEntry.destroys, ApiCall.plain]

theorem ApiEntry.not_creates_of_plain {e : ApiEntry} (h : e.call.plain = true) (i : Impl) :
    e.creates i = false := by
  cases hc : e.call <;> simp_all [ApiEntry.creates, ApiCall.plain, ApiCall.isCreate]

/-- Only `create` and `destroy` touch the `impl` field. -/
def Env.keepsImpl (env : Env) : Prop := ∀ c : ApiCall, c.plain = true → (env c).impl = none

theorem Answer.store_impl {a : Answer} (h : a.impl = none) (s : StructSocket) :
    (a.store s).impl = s.impl := by
  simp [Answer.store, h]

theorem Frame.call_impl {f : Frame} {env : Env} {c : ApiCall} (hkeep : env.keepsImpl)
    (hplain : c.plain = true) : (f.call env c).2.obj.socket.impl = f.obj.socket.impl :=
  Answer.store_impl (hkeep c hplain) _

/-- Other operations than `open` leave `impl` alone and make plain calls. -/
theorem Op.Ran.impl_of_keeps {op : Op} {env : Env} {f f' : Frame} (h : op.Ran env f f')
    (hop : ∀ af, op ≠ .openAf af) (hkeep : env.keepsImpl) :
    f'.obj.socket.impl = f.obj.socket.impl ∧
      ∃ es, f'.calls = f.calls ++ es ∧ ∀ e ∈ es, e.call.plain = true := by
  have hcall : ∀ (g : Frame) (c : ApiCall), c.plain = true →
      (g.call env c).2.obj.socket.impl = g.obj.socket.impl ∧
        ∃ es, (g.call env c).2.calls = g.calls ++ es ∧ ∀ e ∈ es, e.call.plain = true := by
    intro g c hplain
    exact ⟨Frame.call_impl hkeep hplain, [_], rfl, by simp [ApiCall.entry, hplain]⟩
  cases h with
  | unchanged op _ => exact ⟨rfl, [], by simp, by simp⟩
  | registered op slot hnd _ => exact ⟨rfl, [], by simp [Frame.register], by simp⟩
  | requested op slot hnd c _ hplain _ => exact hcall (f.register slot hnd) c hplain
  | called op c hplain _ _ _ => exact hcall f c hplain
  | calledTwice op c c' hplain hplain' _ _ _ =>
      obtain ⟨himpl, es, hes, hall⟩ := hcall f c hplain
      obtain ⟨himpl', es', hes', hall'⟩ := hcall (f.call env c).2 c' hplain'
      refine ⟨himpl'.trans himpl, es ++ es', ?_, ?_⟩
      · rw [hes', hes, List.append_assoc]
      · intro e he
        rcases List.mem_append.mp he with hleft | hright
        · exact hall e hleft
        · exact hall' e hright
  | opened af _ => exact absurd rfl (hop af)
  | queried op e hplain _ _ => exact ⟨rfl, [e], rfl, by simpa using hplain⟩
  | checked err _ => exact ⟨rfl, [], by simp [Frame.post], by simp⟩

theorem Ctor.frame_calls_plain (registry : Stack → Option SocketApi) (this : ObjId) (env : Env)
    (ctor : Ctor) : ∀ e ∈ (ctor.frame registry this env).calls, e.call.plain = true := by
  cases ctor with
  | adopt sock | adoptFrom source sock =>
      simp [Ctor.frame, Frame.call, TCPStream.takeOver, Frame.start, ApiCall.entry, ApiCall.plain]
  | _ => simp [Ctor.frame, Frame.start]

/-- The last calls of a socket: a listener stops, and then `destroy` is passed
what the socket holds. -/
theorem destructorFrame_calls {env : Env} (hkeep : env.keepsImpl) (id : ObjId) (o : SocketObj) :
    ∃ es, (∀ e ∈ es, e.call.plain = true) ∧
      (destructorFrame env id o).calls = es ++
        if o.socket.api.any SocketApi.hasDestroy then
          [⟨.destroy, o.socket.impl, (env .destroy).err, (env .destroy).impl.getD o.socket.impl⟩]
        else [] := by
  unfold destructorFrame
  rw [Socket.deinit_calls]
  split
  · have himpl : ((Frame.start id o).call env .stopListen).2.obj.socket.impl = o.socket.impl :=
      Frame.call_impl hkeep rfl
    refine ⟨((Frame.start id o).call env .stopListen).2.calls, ?_, ?_⟩
    · simp [Frame.call, Frame.start, ApiCall.entry, ApiCall.plain]
    · simp only [ApiCall.entry, Answer.store, himpl]
      rfl
  · exact ⟨[], by simp, rfl⟩

namespace World

/-- How many live sockets have `i` as their current `impl`. -/
def owners (w : World n) (i : Impl) : Nat := w.objs.total fun o => one o.socket.impl i

/-- How often `i` has been passed to `destroy`. -/
def destroyed (w : World n) (i : Impl) : Nat := w.calls.countP (·.destroys i)

/-- `i` has been stored in a socket by a successful `create`. -/
def created (w : World n) (i : Impl) : Prop := ∃ e ∈ w.calls, e.creates i = true

instance (w : World n) (i : Impl) : Decidable (w.created i) :=
  inferInstanceAs (Decidable (∃ e ∈ w.calls, _))

/-- No socket ever had `i`. -/
structure Unused (w : World n) (i : Impl) : Prop where
  created : ¬ w.created i
  owners : w.owners i = 0
  destroyed : w.destroyed i = 0

/-- The stacks' side of the contract. -/
def Lawful (w : World n) : Action n → Prop
  | .op id (.openAf af) env => env.keepsImpl ∧ ∀ pf,
      ((env (.create af pf id)).err = .none →
        ∃ i, (env (.create af pf id)).impl = some (some i) ∧ w.Unused i) ∧
      ((env (.create af pf id)).err ≠ .none → (env (.create af pf id)).impl = none)
  | .op _ _ env | .construct _ _ _ env | .destruct _ env | .accept _ _ _ _ env => env.keepsImpl
  | _ => True

/-- The control block that a successful `open` gives to its socket. -/
def opened (w : World n) : Action n → Option Impl
  | .op id (.openAf af) env => (w.objs.cell id).bind fun o =>
      let a := env (.create af o.cls.protoFamily id)
      if o.socket.api ≠ none ∧ a.err = .none then a.impl.getD o.socket.impl else none
  | _ => none

/-- The control block that a socket gets in a step. -/
def acquired (w : World n) : Action n → Option Impl
  | .construct _ _ ctor env => ctor.impl w.objs.next env
  | .accept id newImpl _ _ env => (w.objs.cell id).bind fun o =>
      if (env (.socketAccept o.socket w.objs.next)).err = .none then newImpl else none
  | a => w.opened a

/-- The control block that a socket no longer has after a step. -/
def dropped (w : World n) : Action n → Option Impl
  | .destruct id _ => (w.objs.cell id).bind (·.socket.impl)
  | .op id op env => if w.opened (.op id op env) = none then none
      else (w.objs.cell id).bind (·.socket.impl)
  | _ => none

/-- The control block that a step passes to `destroy`. -/
def scrapped (w : World n) : Action n → Option Impl
  | .destruct id _ => (w.objs.cell id).bind fun o =>
      if o.socket.api.any SocketApi.hasDestroy then o.socket.impl else none
  | .accept id newImpl _ _ env => (w.objs.cell id).bind fun o =>
      if (env (.socketAccept o.socket w.objs.next)).err ≠ .none ∧
        (w.registry o.socket.stack).any SocketApi.hasDestroy then newImpl else none
  | _ => none

/-- The balance of one step. -/
structure Custody (w : World n) (a : Action n) (w' : World n) : Prop where
  owners : ∀ i, w'.owners i + one (w.dropped a) i = w.owners i + one (w.acquired a) i
  destroyed : ∀ i, w'.destroyed i = w.destroyed i + one (w.scrapped a) i
  created : ∀ i, w'.created i ↔ w.created i ∨ w.opened a = some i

section calls

variable {w w' : World n} {es : List ApiEntry}

theorem destroyed_of_calls (hcalls : w'.calls = w.calls ++ es) (i : Impl) :
    w'.destroyed i = w.destroyed i + es.countP (·.destroys i) := by
  simp [destroyed, hcalls]

theorem countP_destroys_of_plain (hplain : ∀ e ∈ es, e.call.plain = true) (i : Impl) :
    es.countP (·.destroys i) = 0 := by
  apply List.countP_eq_zero.mpr
  intro e he
  simp [ApiEntry.not_destroys_of_plain (hplain e he) i]

theorem destroyed_of_plain (hcalls : w'.calls = w.calls ++ es)
    (hplain : ∀ e ∈ es, e.call.plain = true) (i : Impl) : w'.destroyed i = w.destroyed i := by
  rw [destroyed_of_calls hcalls, countP_destroys_of_plain hplain, Nat.add_zero]

theorem created_of_calls (hcalls : w'.calls = w.calls ++ es)
    (hnone : ∀ e ∈ es, ∀ i, e.creates i = false) (i : Impl) : w'.created i ↔ w.created i := by
  unfold created
  rw [hcalls]
  constructor
  · rintro ⟨e, he, hcreates⟩
    rcases List.mem_append.mp he with hold | hnew
    · exact ⟨e, hold, hcreates⟩
    · simp [hnone e hnew i] at hcreates
  · rintro ⟨e, he, hcreates⟩
    exact ⟨e, List.mem_append_left _ he, hcreates⟩

end calls

theorem owners_built (w : World n) (loc : BitVec n) (h : Handle) (env : Env) (ctor : Ctor)
    (i : Impl) :
    (w.built loc h env ctor).owners i = w.owners i + one (ctor.impl w.objs.next env) i := by
  unfold owners
  rw [built_objs, Lib.Heap.total_alloc, Ctor.frame_impl]

theorem owners_destructed {w : World n} {id : ObjId} {o : SocketObj}
    (hcell : w.objs.cell id = some o) (env : Env) (i : Impl) :
    (w.destructed id o env).owners i + one o.socket.impl i = w.owners i :=
  w.objs.total_free (fun o : SocketObj => one o.socket.impl i) hcell

theorem owners_commit {w : World n} {f : Frame} {o : SocketObj}
    (hcell : w.objs.cell f.this = some o) (i : Impl) :
    (w.commit f).owners i + one o.socket.impl i = w.owners i + one f.obj.socket.impl i :=
  w.objs.total_set (fun o : SocketObj => one o.socket.impl i) f.obj hcell

theorem destroyed_destructed (w : World n) (id : ObjId) (o : SocketObj) {env : Env}
    (hkeep : env.keepsImpl) (i : Impl) :
    (w.destructed id o env).destroyed i = w.destroyed i +
      one (if o.socket.api.any SocketApi.hasDestroy then o.socket.impl else none) i := by
  obtain ⟨es, hplain, hcalls⟩ := destructorFrame_calls hkeep id o
  rw [destroyed_of_calls (destructed_calls w env id o), hcalls, List.countP_append,
    countP_destroys_of_plain hplain]
  split
  · simp [ApiEntry.destroys, one]
  · simp

theorem created_destructed (w : World n) (id : ObjId) (o : SocketObj) {env : Env}
    (hkeep : env.keepsImpl) (i : Impl) : (w.destructed id o env).created i ↔ w.created i := by
  obtain ⟨es, hplain, hcalls⟩ := destructorFrame_calls hkeep id o
  apply created_of_calls (destructed_calls w env id o)
  intro e he j
  rw [hcalls] at he
  rcases List.mem_append.mp he with hleft | hright
  · exact ApiEntry.not_creates_of_plain (hplain e hleft) j
  · split at hright
    · rw [List.mem_singleton.mp hright]
      rfl
    · simp at hright

theorem destroyed_built (w : World n) (loc : BitVec n) (h : Handle) (env : Env) (ctor : Ctor)
    (i : Impl) : (w.built loc h env ctor).destroyed i = w.destroyed i :=
  destroyed_of_plain (built_calls w loc h env ctor) (Ctor.frame_calls_plain _ _ _ _) i

theorem created_built (w : World n) (loc : BitVec n) (h : Handle) (env : Env) (ctor : Ctor)
    (i : Impl) : (w.built loc h env ctor).created i ↔ w.created i := by
  apply created_of_calls (built_calls w loc h env ctor)
  intro e he j
  exact ApiEntry.not_creates_of_plain (Ctor.frame_calls_plain _ _ _ _ e he) j

theorem acceptCtor_impl {env : Env} (hkeep : env.keepsImpl) (o : SocketObj)
    (newImpl : Option Impl) (this : ObjId) :
    (acceptCtor o newImpl).impl this env = newImpl := by
  simp [acceptCtor, Ctor.impl, hkeep (.socketAccept o.socket this) rfl]

theorem Lawful.keeps_op {w : World n} {id : ObjId} {op : Op} {env : Env}
    (h : w.Lawful (.op id op env)) : env.keepsImpl := by
  cases op with
  | openAf af => exact h.1
  | _ => exact h

theorem opened_eq_none {w : World n} {id : ObjId} {op : Op} {env : Env}
    (hop : ∀ af, op ≠ .openAf af) : w.opened (.op id op env) = none := by
  cases op with
  | openAf af => exact absurd rfl (hop af)
  | _ => rfl

/-- A step that touches neither the sockets' `impl` nor the log. -/
theorem Custody.of_same {w w' : World n} {a : Action n} (howners : ∀ i, w'.owners i = w.owners i)
    (hcalls : w'.calls = w.calls) (hdropped : w.dropped a = none) (hacquired : w.acquired a = none)
    (hscrapped : w.scrapped a = none) (hopened : w.opened a = none) : Custody w a w' where
  owners i := by rw [howners, hdropped, hacquired]
  destroyed i := by simp [World.destroyed, hcalls, hscrapped]
  created i := by simp [World.created, hcalls, hopened]

theorem custody_ran {w : World n} {id : ObjId} {o : SocketObj} {op : Op} {env : Env} {ret : Ret}
    {f : Frame} (hcell : w.objs.cell id = some o) (hop : ∀ af, op ≠ .openAf af)
    (hkeep : env.keepsImpl) (hexec : op.exec env (.start id o) = .ok (ret, f)) :
    Custody w (.op id op env) (w.commit f) := by
  have hran := Op.exec_ran hexec
  have hthis : f.this = id := hran.same.this
  subst hthis
  obtain ⟨himpl, es, hcalls, hplain⟩ := hran.impl_of_keeps hop hkeep
  have himpl' : f.obj.socket.impl = o.socket.impl := himpl
  have hlog : (w.commit f).calls = w.calls ++ es := by simp [hcalls, Frame.start]
  have hopened : w.opened (.op f.this op env) = none := opened_eq_none hop
  constructor
  · intro i
    have hcommit := owners_commit hcell i
    rw [himpl'] at hcommit
    simp only [dropped, acquired, hopened, if_true, one_none]
    omega
  · intro i
    rw [destroyed_of_plain hlog hplain]
    rfl
  · intro i
    rw [created_of_calls hlog (fun e he j => ApiEntry.not_creates_of_plain (hplain e he) j),
      hopened]
    simp

/-- An `open` that reaches `create`. -/
theorem custody_opened {w : World n} {id : ObjId} {o : SocketObj} {af : AddressFamily} {env : Env}
    (hcell : w.objs.cell id = some o) (hapi : o.socket.api ≠ none)
    (hlawful : w.Lawful (.op id (.openAf af) env)) :
    Custody w (.op id (.openAf af) env)
      (w.commit ((Frame.start id o).call env (.create af o.cls.protoFamily id)).2) := by
  have hcommit := fun i => owners_commit (w := w)
    (f := ((Frame.start id o).call env (.create af o.cls.protoFamily id)).2) hcell i
  have hdestroyed : ∀ i, (w.commit ((Frame.start id o).call env
      (.create af o.cls.protoFamily id)).2).destroyed i = w.destroyed i := by
    intro i
    simp [destroyed, Frame.call, Frame.start, ApiCall.entry, ApiEntry.destroys]
  obtain ⟨_, hcreate⟩ := hlawful
  obtain ⟨hsuccess, hfailure⟩ := hcreate o.cls.protoFamily
  by_cases herr : (env (.create af o.cls.protoFamily id)).err = .none
  · obtain ⟨j, himpl, _⟩ := hsuccess herr
    have hopened : w.opened (.op id (.openAf af) env) = some j := by
      simp [opened, hcell, hapi, herr, himpl]
    constructor
    · intro i
      have hafter : ((Frame.start id o).call env
          (.create af o.cls.protoFamily id)).2.obj.socket.impl = some j := by
        simp [Frame.call, Answer.store, himpl]
      have hi := hcommit i
      rw [hafter] at hi
      simpa [dropped, acquired, hopened, hcell] using hi
    · intro i
      simp [hdestroyed, scrapped]
    · intro i
      simp [created, Frame.call, Frame.start, ApiCall.entry, ApiEntry.creates, ApiCall.isCreate,
        herr, Answer.store, himpl, hopened, or_and_right, exists_or]
  · have himpl := hfailure herr
    have hopened : w.opened (.op id (.openAf af) env) = none := by
      simp [opened, hcell, herr]
    constructor
    · intro i
      have hafter : ((Frame.start id o).call env
          (.create af o.cls.protoFamily id)).2.obj.socket.impl = o.socket.impl := by
        simp [Frame.call, Answer.store, himpl, Frame.start]
      have hi := hcommit i
      rw [hafter] at hi
      simp only [dropped, acquired, hopened, if_true, one_none]
      omega
    · intro i
      simp [hdestroyed, scrapped]
    · intro i
      simp [created, Frame.call, Frame.start, ApiCall.entry, ApiEntry.creates, ApiCall.isCreate,
        herr, hopened, or_and_right, exists_or]

/-- The balance of every step with lawful stacks. -/
theorem custody_step {w w' : World n} {a : Action n} (hstep : w.Stepped a w')
    (hlawful : w.Lawful a) : Custody w a w' := by
  cases hstep with
  | registered stack api _ => exact .of_same (fun _ => rfl) rfl rfl rfl rfl rfl
  | built loc h ctor env _ _ _ =>
      exact ⟨fun i => owners_built w loc h env ctor i, fun i => destroyed_built w loc h env ctor i,
        fun i => by simp [created_built, opened]⟩
  | destructed id o env hcell =>
      refine ⟨fun i => ?_, fun i => ?_, fun i => ?_⟩
      · simpa [dropped, acquired, opened, hcell] using owners_destructed hcell env i
      · simpa [scrapped, hcell] using destroyed_destructed w id o hlawful i
      · simp [created_destructed w id o hlawful, opened]
  | ran id o op env ret f hcell _ hexec =>
      by_cases hop : ∀ af, op ≠ .openAf af
      · exact custody_ran hcell hop hlawful.keeps_op hexec
      · push Not at hop
        obtain ⟨af, rfl⟩ := hop
        rcases Op.openAf_eq_ok hexec with ⟨hapi, rfl⟩ | ⟨hapi, rfl⟩
        · have hopened : w.opened (.op id (.openAf af) env) = none := by
            have hnull : o.socket.api = none := hapi
            simp [opened, hcell, hnull]
          apply Custody.of_same
          · intro i
            have hi := owners_commit (w := w) (f := .start id o) hcell i
            simp only [Frame.start] at hi ⊢
            omega
          · simp [Frame.start]
          · simp [dropped, hopened]
          · exact hopened
          · rfl
          · exact hopened
        · exact custody_opened hcell hapi hlawful
  | accepted id o newImpl loc h env hcell _ _ _ hok =>
      refine ⟨fun i => ?_, fun i => ?_, fun i => ?_⟩
      · simpa [dropped, acquired, hcell, hok, acceptCtor_impl hlawful] using
          owners_built w loc h env (acceptCtor o newImpl) i
      · simpa [scrapped, hcell, hok] using destroyed_built w loc h env (acceptCtor o newImpl) i
      · simp [created_built, opened]
  | refused id o newImpl loc h env hcell _ _ _ hfail =>
      have hnew : (w.built loc h env (acceptCtor o newImpl)).objs.cell w.objs.next =
          some ((acceptCtor o newImpl).frame w.registry w.objs.next env).obj := by simp
      refine ⟨fun i => ?_, fun i => ?_, fun i => ?_⟩
      · have hdestructed := owners_destructed hnew env i
        rw [owners_built, Ctor.frame_impl] at hdestructed
        simp only [dropped, acquired, hcell, Option.bind_some, if_neg hfail, one_none]
        omega
      · rw [destroyed_destructed _ _ _ hlawful, destroyed_built, Ctor.frame_api, Ctor.frame_impl,
          acceptCtor_impl hlawful]
        simp only [scrapped, hcell, Option.bind_some, ne_eq, hfail, not_false_eq_true, true_and]
        rfl
      · simp [created_destructed _ _ _ hlawful, created_built, opened]
  | delivered id o ev hcell =>
      apply Custody.of_same _ (delivered_calls w id o ev) rfl rfl rfl rfl
      intro i
      have hi : (w.delivered id o ev).owners i + one o.socket.impl i =
          w.owners i + one o.socket.impl i := owners_commit hcell i
      omega
  | dispatched i b hb => exact .of_same (fun _ => rfl) rfl rfl rfl rfl rfl
  | fired h hs => exact .of_same (fun _ => rfl) rfl rfl rfl rfl rfl

theorem Lawful.opened_unused {w : World n} {a : Action n} {i : Impl} (hlawful : w.Lawful a)
    (hopened : w.opened a = some i) : w.Unused i := by
  cases a with
  | op id op env =>
      cases op with
      | openAf af =>
          obtain ⟨o, _, ho⟩ := Option.bind_eq_some_iff.mp hopened
          dsimp only at ho
          split at ho
          · rename_i hok
            obtain ⟨j, himpl, hunused⟩ := (hlawful.2 o.cls.protoFamily).1 hok.2
            rw [himpl, Option.getD_some, Option.some.injEq] at ho
            exact ho ▸ hunused
          · cases ho
      | _ => cases hopened
  | _ => cases hopened

theorem owners_pos_of_dropped {w : World n} {a : Action n} {i : Impl}
    (h : w.dropped a = some i) : 0 < w.owners i := by
  have hheld : ∀ id, (w.objs.cell id).bind (·.socket.impl) = some i → 0 < w.owners i := by
    intro id hid
    obtain ⟨o, hcell, himpl⟩ := Option.bind_eq_some_iff.mp hid
    have hle := w.objs.le_total (fun o : SocketObj => one o.socket.impl i) hcell
    rw [one_of_eq himpl] at hle
    exact hle
  cases a with
  | destruct id env => exact hheld id h
  | op id op env =>
      simp only [dropped] at h
      split at h
      · cases h
      · exact hheld id h
  | _ => cases h

/-! ### Control blocks from `create` -/

/-- Every control block from `create` has one owner or has been destroyed
once, and none has been destroyed twice. -/
structure OwnedOnce (w : World n) : Prop where
  created : ∀ i, w.created i → w.owners i + w.destroyed i = 1
  destroyed : ∀ i, w.destroyed i ≤ 1

/-- The condition on one step. A socket is opened only while it has no control
block from `create`; one that has is destroyed only with an api that has
`destroy`; and no control block is adopted that came from `create` or, if it
is to be destroyed at once, has been destroyed before. -/
def KeepsOwner (w : World n) : Action n → Prop
  | .op id op env => w.opened (.op id op env) ≠ none →
      ∀ o ∈ w.objs.cell id, ∀ i ∈ o.socket.impl, ¬ w.created i
  | .destruct id _ => ∀ o ∈ w.objs.cell id, ∀ i ∈ o.socket.impl,
      if o.socket.api.any SocketApi.hasDestroy then w.destroyed i = 0 else ¬ w.created i
  | .construct _ _ ctor env => ∀ i ∈ ctor.impl w.objs.next env, ¬ w.created i
  | .accept id newImpl _ _ env => ∀ o ∈ w.objs.cell id, ∀ i ∈ newImpl,
      if (env (.socketAccept o.socket w.objs.next)).err = .none then ¬ w.created i
      else (w.registry o.socket.stack).any SocketApi.hasDestroy = true →
        ¬ w.created i ∧ w.destroyed i = 0
  | _ => True

instance (w : World n) : (a : Action n) → Decidable (w.KeepsOwner a)
  | .op id op env => inferInstanceAs (Decidable (w.opened (.op id op env) ≠ none → _))
  | .destruct id _ | .accept id _ _ _ _ =>
    inferInstanceAs (Decidable (∀ o ∈ w.objs.cell id, _))
  | .construct _ _ ctor env =>
    inferInstanceAs (Decidable (∀ i ∈ ctor.impl w.objs.next env, _))
  | .register _ _ | .event _ _ | .dispatch _ | .tick _ => isTrue trivial

/-- The condition in terms of the balance. -/
theorem ownedOnce_iff_balance {w w' : World n} {a : Action n} (hw : w.OwnedOnce)
    (hlawful : w.Lawful a) (hcustody : Custody w a w') :
    w'.OwnedOnce ↔
      (∀ i, w.created i → one (w.acquired a) i + one (w.scrapped a) i = one (w.dropped a) i) ∧
      ∀ i, w.scrapped a = some i → w.destroyed i = 0 := by
  constructor
  · intro hw'
    constructor
    · intro i hi
      have hbefore := hw.created i hi
      have hafter := hw'.created i ((hcustody.created i).mpr (Or.inl hi))
      have howners := hcustody.owners i
      have hdestroyed := hcustody.destroyed i
      omega
    · intro i hi
      have hafter := hw'.destroyed i
      rw [hcustody.destroyed i, one_of_eq hi] at hafter
      omega
  · rintro ⟨hbalance, hfirst⟩
    constructor
    · intro i hi
      have howners := hcustody.owners i
      have hdestroyed := hcustody.destroyed i
      rcases (hcustody.created i).mp hi with hold | hnew
      · have hbefore := hw.created i hold
        have hb := hbalance i hold
        omega
      · have hunused := hlawful.opened_unused hnew
        have hkept : w.dropped a ≠ some i := by
          intro hdropped
          have hpos := owners_pos_of_dropped hdropped
          have hzero := hunused.owners
          omega
        have hgot : w.acquired a = some i ∧ w.scrapped a = none := by
          cases a with
          | op id op env => exact ⟨hnew, rfl⟩
          | _ => cases hnew
        rw [one_of_ne hkept, one_of_eq hgot.1, hunused.owners] at howners
        rw [hgot.2, one_none, hunused.destroyed] at hdestroyed
        omega
    · intro i
      rw [hcustody.destroyed i]
      by_cases hi : w.scrapped a = some i
      · rw [hfirst i hi, one_of_eq hi]
      · rw [one_of_ne hi]
        exact hw.destroyed i

theorem balance_iff_keepsOwner {w w' : World n} {a : Action n} (hlawful : w.Lawful a)
    (hstep : w.Stepped a w') :
    ((∀ i, w.created i → one (w.acquired a) i + one (w.scrapped a) i = one (w.dropped a) i) ∧
      ∀ i, w.scrapped a = some i → w.destroyed i = 0) ↔ w.KeepsOwner a := by
  cases hstep with
  | built loc h ctor env _ _ _ =>
      simp only [acquired, scrapped, dropped, one_none, Nat.add_zero, one_eq_zero, reduceCtorEq,
        false_implies, implies_true, and_true, KeepsOwner, Option.mem_def]
      exact ⟨fun h i hi hcreated => h i hcreated hi, fun h i hcreated hi => h i hi hcreated⟩
  | destructed id o env hcell =>
      simp only [acquired, opened, scrapped, dropped, hcell, Option.bind_some, one_none,
        Nat.zero_add, KeepsOwner, Option.some.injEq, forall_eq', Option.mem_def]
      by_cases hdestroy : o.socket.api.any SocketApi.hasDestroy = true
      · simp [hdestroy]
      · simp only [hdestroy, Bool.false_eq_true, if_false, one_none, reduceCtorEq, false_implies,
          implies_true, and_true]
        constructor
        · intro h i hi hcreated
          have hone := h i hcreated
          rw [one_of_eq hi] at hone
          cases hone
        · intro h i hcreated
          exact (one_of_ne (fun hi => h i hi hcreated)).symm
  | ran id o op env ret f hcell _ _ =>
      simp only [acquired, scrapped, dropped, hcell, Option.bind_some, one_none, Nat.add_zero,
        reduceCtorEq, false_implies, implies_true, and_true, KeepsOwner, Option.some.injEq,
        forall_eq', Option.mem_def]
      cases hopened : w.opened (.op id op env) with
      | none => simp
      | some j =>
          have hunused := hlawful.opened_unused hopened
          have hother : ∀ i, w.created i → one (some j) i = 0 := by
            intro i hi
            apply one_of_ne
            rintro ⟨rfl⟩
            exact hunused.created hi
          simp only [reduceCtorEq, if_false, ne_eq, not_false_eq_true, forall_const]
          constructor
          · intro h i hi hcreated
            have hone := h i hcreated
            rw [hother i hcreated, one_of_eq hi] at hone
            cases hone
          · intro h i hcreated
            rw [hother i hcreated]
            exact (one_of_ne (fun hi => h i hi hcreated)).symm
  | accepted id o newImpl loc h env hcell _ _ _ hok =>
      simp only [acquired, scrapped, dropped, hcell, hok, Option.bind_some, if_true, ne_eq,
        not_true_eq_false, false_and, if_false, one_none, Nat.add_zero, one_eq_zero, reduceCtorEq,
        false_implies, implies_true, and_true, KeepsOwner, Option.some.injEq, forall_eq',
        Option.mem_def]
      exact ⟨fun h i hi hcreated => h i hcreated hi, fun h i hcreated hi => h i hi hcreated⟩
  | refused id o newImpl loc h env hcell _ _ _ hfail =>
      simp only [acquired, scrapped, dropped, hcell, hfail, Option.bind_some, if_false, ne_eq,
        not_false_eq_true, true_and, one_none, Nat.zero_add, one_eq_zero, KeepsOwner,
        Option.some.injEq, forall_eq', Option.mem_def]
      by_cases hdestroy : (w.registry o.socket.stack).any SocketApi.hasDestroy = true
      · simp only [hdestroy, if_true, forall_const]
        constructor
        · intro h i hi
          exact ⟨fun hcreated => h.1 i hcreated hi, h.2 i hi⟩
        · intro h
          exact ⟨fun i hcreated hi => (h i hi).1 hcreated, fun i hi => (h i hi).2⟩
      · simp [hdestroy]
  | _ => simp [acquired, opened, scrapped, dropped, KeepsOwner]

theorem ownedOnce_step_iff (w : World n) (a : Action n) (w' : World n) (_ : True)
    (hw : w.OwnedOnce) (hlawful : w.Lawful a) (hnext : w.next a = some w') :
    w'.OwnedOnce ↔ w.KeepsOwner a := by
  have hstep := next_stepped hnext
  rw [ownedOnce_iff_balance hw hlawful (custody_step hstep hlawful)]
  exact balance_iff_keepsOwner hlawful hstep

/-- In a run with lawful stacks, every control block from `create` is owned
once or destroyed once, at any time, exactly if every step keeps its owner. -/
theorem ownedOnce_iff_keeps_owner (as : List (Action n))
    (hlawful : EachStep World.next Lawful World.init as) :
    EachState World.next OwnedOnce World.init as ↔
      EachStep World.next KeepsOwner World.init as := by
  apply eachState_iff_eachStep (J := fun _ => True) (fun _ _ _ _ _ _ => trivial)
    ownedOnce_step_iff trivial _ hlawful
  exact ⟨fun i hi => by simp [World.created, init] at hi,
    fun i => by simp [World.destroyed, init]⟩

theorem keepsImpl_quiet : Env.quiet.keepsImpl := fun _ _ => rfl

theorem keepsImpl_creating (i : Impl) : (Env.creating i).keepsImpl := by
  intro c hplain
  cases c with
  | create af pf handler => cases hplain
  | _ => rfl

theorem lawful_creating {w : World n} {id : ObjId} {af : AddressFamily} {i : Impl}
    (hunused : w.Unused i) : w.Lawful (.op id (.openAf af) (.creating i)) :=
  ⟨keepsImpl_creating i, fun _ => ⟨fun _ => ⟨i, rfl, hunused⟩, fun hne => absurd rfl hne⟩⟩

/-- A socket is opened, used and destroyed. -/
def openedOnce : List (Action 32) :=
  [.register 0 ⟨true, 250, 7⟩, .construct 4096 1 (.udp 0) .quiet,
    .op 0 (.openAf .inet4) (.creating 5), .op 0 .close .quiet, .destruct 0 .quiet]

theorem openedOnce_ownedOnce : EachState World.next OwnedOnce World.init openedOnce := by
  refine (ownedOnce_iff_keeps_owner openedOnce ?_).mpr (by decide)
  exact .cons rfl trivial <| .cons rfl keepsImpl_quiet <|
    .cons rfl (lawful_creating ⟨by decide, by decide, by decide⟩) <|
    .cons rfl keepsImpl_quiet <| .cons rfl keepsImpl_quiet trivial

/-- The UDP echo client opens its socket twice, once to resolve a name and
again for the address found. -/
def openedTwice : List (Action 32) :=
  [.register 0 ⟨true, 250, 7⟩, .construct 4096 1 (.udp 0) .quiet,
    .op 0 (.openAf .inet4) (.creating 5), .op 0 (.openAf .inet4) (.creating 6),
    .destruct 0 .quiet]

theorem openedTwice_not_ownedOnce :
    EachStep World.next Lawful World.init openedTwice ∧
    (∃ w, run World.next World.init openedTwice = some w ∧ w.created 5 ∧ w.owners 5 = 0 ∧
      w.destroyed 5 = 0) ∧
    ¬ EachState World.next OwnedOnce World.init openedTwice := by
  have hlost : ∃ w, run World.next World.init openedTwice = some w ∧ w.created 5 ∧
      w.owners 5 = 0 ∧ w.destroyed 5 = 0 := ⟨_, rfl, by decide, by decide, by decide⟩
  refine ⟨?_, hlost, ?_⟩
  · exact .cons rfl trivial <| .cons rfl keepsImpl_quiet <|
      .cons rfl (lawful_creating ⟨by decide, by decide, by decide⟩) <|
      .cons rfl (lawful_creating ⟨by decide, by decide, by decide⟩) <|
      .cons rfl keepsImpl_quiet trivial
  · intro h
    obtain ⟨w, hrun, hcreated, howners, hdestroyed⟩ := hlost
    have honce := (eachState_last h hrun).created 5 hcreated
    omega

end World

end MbedSockets
