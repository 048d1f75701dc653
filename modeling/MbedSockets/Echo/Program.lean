import MbedSockets.NullSafety

/-!
The echo tests as programs on top of the layer. A test owns one client object
with one socket in it, posts callbacks of its own and ends in `terminate`,
which deletes the client. The scheduler runs the callbacks of the layer and
those of the program in any order.

The members of a client are written as handlers, functions of the session in
which they run. What the test framework does on a failed assertion is a
parameter: either the function goes on, or it returns.
-/

namespace MbedSockets

open Lib.Run

/-- The number of a client's member in the function pointers: a client has at
most one member for each slot. -/
def Slot.index : Slot → Nat
  | .onDNS => 0
  | .onError => 1
  | .onReadable => 2
  | .onSent => 3
  | .onConnect => 4
  | .onDisconnect => 5
  | .onIncoming => 6

def Slot.member (slot : Slot) : FunctionPointer := some slot.index

/-- An operation that registers nothing but the client's own members and does
not post. -/
def Op.ownHandler (op : Op) : Bool :=
  (match op with | .errorCheck _ => false | _ => true) &&
    op.registers.all fun p => p.2 = p.1.member

theorem Op.ownHandler_registers {op : Op} (hown : op.ownHandler = true) {slot : Slot}
    {h : FunctionPointer} (hreg : op.registers = some (slot, h)) : h = slot.member := by
  have hall : op.registers.all (fun p => p.2 = p.1.member) = true := (Bool.and_eq_true _ _ ▸ hown).2
  simpa [hreg] using hall

variable {n : Nat}

namespace World

/-- What the own operations of the socket `id` leave as it was, and what they
can change in it. -/
structure OwnOps (id : ObjId) (w w' : World n) : Prop where
  next : w'.objs.next = w.objs.next
  other : ∀ i, i ≠ id → w'.objs.cell i = w.objs.cell i
  pending : w'.pending = w.pending
  dispatched : w'.dispatched = w.dispatched
  ticker : w'.ticker = w.ticker
  live : ∀ o, w.objs.cell id = some o → ∃ o', w'.objs.cell id = some o' ∧ o'.cls = o.cls ∧
    o'.socket.api = o.socket.api ∧
    ∀ slot, o'.handlers slot = o.handlers slot ∨ o'.handlers slot = slot.member

namespace OwnOps

variable {id : ObjId} {w w' w'' : World n}

theorem refl (id : ObjId) (w : World n) : OwnOps id w w :=
  ⟨rfl, fun _ _ => rfl, rfl, rfl, rfl, fun o h => ⟨o, h, rfl, rfl, fun _ => Or.inl rfl⟩⟩

theorem trans (h : OwnOps id w w') (h' : OwnOps id w' w'') : OwnOps id w w'' := by
  refine ⟨h'.next.trans h.next, fun i hi => (h'.other i hi).trans (h.other i hi),
    h'.pending.trans h.pending, h'.dispatched.trans h.dispatched, h'.ticker.trans h.ticker, ?_⟩
  intro o hcell
  obtain ⟨o', hcell', hcls, hapi, hhandlers⟩ := h.live o hcell
  obtain ⟨o'', hcell'', hcls', hapi', hhandlers'⟩ := h'.live o' hcell'
  refine ⟨o'', hcell'', hcls'.trans hcls, hapi'.trans hapi, fun slot => ?_⟩
  rcases hhandlers' slot with hsame | hown
  · rw [hsame]
    exact hhandlers slot
  · exact Or.inr hown

theorem of_op {op : Op} {env : Env} (hown : op.ownHandler = true)
    (hnext : w.next (.op id op env) = some w') : OwnOps id w w' := by
  cases next_stepped hnext with
  | ran _ o _ _ ret f hcell _ hexec =>
      have hran := Op.exec_ran hexec
      have hthis : f.this = id := hran.same.this
      have hposted : f.posted = [] := by
        rw [hran.posted]
        apply List.append_eq_nil_iff.mpr ⟨rfl, Op.posts_eq_nil ?_ _ _⟩
        rintro err rfl
        cases hown
      refine ⟨rfl, fun i hi => ?_, by simp [hposted], rfl, rfl, ?_⟩
      · exact Lib.Heap.set_cell_of_ne _ _ (hthis ▸ hi)
      · intro o' hcell'
        obtain rfl : o = o' := Option.some.inj (hcell.symm.trans hcell')
        refine ⟨f.obj, hthis ▸ Lib.Heap.set_cell_self _ (hthis ▸ hcell), hran.same.cls,
          hran.same.api, fun slot => ?_⟩
        rcases hran.handlers with hsame | ⟨slot', hnd, hreg, hupdate⟩
        · exact Or.inl (congrFun hsame slot)
        · have hmember := Op.ownHandler_registers hown hreg
          rw [hupdate]
          by_cases hslot : slot = slot'
          · subst hslot
            exact Or.inr (by rw [Function.update_self, hmember])
          · exact Or.inl (Function.update_of_ne hslot _ _)

end OwnOps

end World

namespace Echo

/-- The callbacks that a test program posts itself. -/
inductive Post
  | startTest (hostAddr : Ptr) (port : UInt16)
  | terminate (status : Bool)
  deriving DecidableEq

def Post.isTerminate : Post → Bool
  | .startTest _ _ => false
  | .terminate _ => true

/-- What must not happen: a fault in the layer, the use of a client or socket
that is gone, a call through a function pointer that is no member. -/
inductive Crash
  | fault (f : Fault)
  | dangling
  | noMember
  deriving DecidableEq

/-- What the environment contributes to one callback: the stack's answers, the
characters that a read finds, the results of `rand`, and how far `strlen` gets
past an array without a terminator. -/
structure Input where
  env : Env
  data : List Char := []
  rand : Nat → Nat := fun _ => 0
  overrun : Nat := 0

/-- What a member of the client `C` works on. -/
structure Session (n : Nat) (C : Type) where
  world : World n
  client : C
  posted : List Post
  failures : Nat

abbrev Handler (n : Nat) (C : Type) := Session n C → Except Crash (Session n C)

section handlers

variable {C : Type}

def finish : Handler n C := .ok

/-- A member operation of the client's socket. -/
def ask (socket : C → ObjId) (op : C → Op) (env : Env) (rest : Ret → Handler n C) : Handler n C :=
  fun s =>
    match s.world.step (.op (socket s.client) (op s.client) env) with
    | some (.ok (ret, w)) => rest ret { s with world := w }
    | some (.error fault) => .error (.fault fault)
    | none => .error .dangling

/-- Assignments to members of the client. -/
def assign (f : C → C) (rest : Handler n C) : Handler n C :=
  fun s => rest { s with client := f s.client }

/-- `minar::Scheduler::postCallback(fpterminate_t(terminate).bind(status, this))`. -/
def postTerminate (status : Bool) (rest : Handler n C) : Handler n C :=
  fun s => rest { s with posted := s.posted ++ [.terminate status] }

/-- An assertion. Whether a failed one leaves the function is up to the test
framework. -/
def check (bails : Bool) (ok : C → Prop) [DecidablePred ok] (rest : Handler n C) : Handler n C :=
  fun s =>
    if ok s.client then rest s
    else if bails then .ok { s with failures := s.failures + 1 }
    else rest { s with failures := s.failures + 1 }

/-- An `if` on members of the client. -/
def branch (b : C → Bool) (yes no : Handler n C) : Handler n C :=
  fun s => if b s.client then yes s else no s

end handlers

/-- The socket of the client is live, of its class and on a registered stack. -/
def Session.Ready {C : Type} (cls : Class) (socket : C → ObjId) (s : Session n C) : Prop :=
  ∃ o, s.world.objs.cell (socket s.client) = some o ∧ o.cls = cls ∧ o.socket.api ≠ none

/-- What a handler can do: operations of its own socket, in the layer, and
posts of `terminate`. -/
structure Session.Leads {C : Type} (socket : C → ObjId) (s s' : Session n C) : Prop where
  same : socket s'.client = socket s.client
  world : ∃ as, run World.next s.world as = some s'.world ∧
    ∀ a ∈ as, ∃ op env, a = .op (socket s.client) op env ∧ op.ownHandler = true
  posted : ∃ more, s'.posted = s.posted ++ more ∧ ∀ post ∈ more, post.isTerminate = true

/-- A handler that never crashes on a ready socket, and stays within bounds. -/
def SafeMember {C : Type} (cls : Class) (socket : C → ObjId) (h : Handler n C) : Prop :=
  ∀ s : Session n C, s.Ready cls socket → ∃ s', h s = .ok s' ∧ s.Leads socket s'

/-! ### Rules for handlers -/

section rules

variable {C : Type} {cls : Class} {socket : C → ObjId}

theorem Session.Leads.refl (s : Session n C) : s.Leads socket s :=
  ⟨rfl, ⟨[], rfl, by simp⟩, ⟨[], by simp, by simp⟩⟩

theorem Session.Leads.trans {s s' s'' : Session n C} (h : s.Leads socket s')
    (h' : s'.Leads socket s'') : s.Leads socket s'' := by
  obtain ⟨hsame, ⟨as, hrun, hown⟩, more, hposted, hmore⟩ := h
  obtain ⟨hsame', ⟨as', hrun', hown'⟩, more', hposted', hmore'⟩ := h'
  refine ⟨hsame'.trans hsame, ⟨as ++ as', ?_, ?_⟩, more ++ more', ?_, ?_⟩
  · rw [run_append, hrun, Option.bind_some, hrun']
  · intro a ha
    rcases List.mem_append.mp ha with ha | ha
    · exact hown a ha
    · exact hsame ▸ hown' a ha
  · rw [hposted', hposted, List.append_assoc]
  · intro p hp
    exact (List.mem_append.mp hp).elim (hmore p) (hmore' p)

/-- The world part of what a handler does. -/
theorem Session.Leads.ownOps {s s' : Session n C} (h : s.Leads socket s') :
    World.OwnOps (socket s.client) s.world s'.world := by
  obtain ⟨as, hrun, hown⟩ := h.world
  have hinv := eachState_of_step (I := World.OwnOps (socket s.client) s.world)
    (A := fun (_ : World n) (a : Action n) =>
      ∃ op env, a = .op (socket s.client) op env ∧ op.ownHandler = true)
    (fun w a w' hops ⟨op, env, ha, hop⟩ hnext =>
      hops.trans (.of_op hop (ha ▸ hnext)))
    (World.OwnOps.refl _ _) (eachStep_of_forall (fun a ha _ => hown a ha) _)
  exact eachState_last hinv hrun

theorem Session.Leads.ready {s s' : Session n C} (h : s.Leads socket s')
    (hready : s.Ready cls socket) : s'.Ready cls socket := by
  obtain ⟨o, hcell, hcls, hapi⟩ := hready
  obtain ⟨o', hcell', hcls', hapi', _⟩ := h.ownOps.live o hcell
  exact ⟨o', h.same ▸ hcell', hcls'.trans hcls, hapi' ▸ hapi⟩

namespace SafeMember

theorem finish : SafeMember (n := n) cls socket Echo.finish :=
  fun s _ => ⟨s, rfl, .refl s⟩

/-- A first part that leads somewhere, and a safe rest. -/
theorem of_leads {h rest : Handler n C} (hrest : SafeMember cls socket rest)
    (hfirst : ∀ s : Session n C, s.Ready cls socket →
      ∃ s', s.Leads socket s' ∧ h s = rest s') : SafeMember cls socket h := by
  intro s hready
  obtain ⟨s', hleads, heq⟩ := hfirst s hready
  obtain ⟨s'', hend, hleads'⟩ := hrest s' (hleads.ready hready)
  exact ⟨s'', heq.trans hend, hleads.trans hleads'⟩

/-- The operation is one of the socket's own class and registers nothing but a
member, as can be read off most operations. -/
theorem ask {op : C → Op} {env : Env} {rest : Ret → Handler n C}
    (hrest : ∀ ret, SafeMember cls socket (rest ret))
    (hown : ∀ c, (op c).ownHandler = true := by intro; rfl)
    (htyped : ∀ c, (op c).typed cls = true := by intro; rfl)
    (haddr : ∀ c port, op c ≠ .udpConnect none port := by simp) :
    SafeMember cls socket (Echo.ask socket op env rest) := by
  intro s hready
  obtain ⟨o, hcell, hcls, hapi⟩ := id hready
  have hguarded : (op s.client).guarded o := by
    have hne := haddr s.client
    cases hop : op s.client <;> simp_all [Op.guarded]
  obtain ⟨ret, f, hexec, _⟩ :=
    (Op.safe_iff env (.start (socket s.client) o) (op s.client)).mpr hguarded
  have hstep : s.world.step (.op (socket s.client) (op s.client) env) =
      some (.ok (ret, s.world.commit f)) := by
    simp [World.step, hcell, hcls, htyped, hexec, bind, Except.bind, pure, Except.pure]
  have hleads : s.Leads socket { s with world := s.world.commit f } := by
    refine ⟨rfl, ⟨[.op (socket s.client) (op s.client) env], ?_, ?_⟩, [], by simp, by simp⟩
    · simp [run, World.next, hstep]
    · intro a ha
      exact ⟨op s.client, env, List.mem_singleton.mp ha, hown s.client⟩
  obtain ⟨s', hend, hleads'⟩ := hrest ret _ (hleads.ready hready)
  exact ⟨s', by simpa [Echo.ask, hstep] using hend, hleads.trans hleads'⟩

theorem assign {f : C → C} {rest : Handler n C} (hsame : ∀ c, socket (f c) = socket c)
    (hrest : SafeMember cls socket rest) : SafeMember cls socket (Echo.assign f rest) :=
  of_leads hrest fun s _ =>
    ⟨{ s with client := f s.client }, ⟨hsame _, ⟨[], rfl, by simp⟩, [], by simp, by simp⟩, rfl⟩

theorem postTerminate {status : Bool} {rest : Handler n C} (hrest : SafeMember cls socket rest) :
    SafeMember cls socket (Echo.postTerminate status rest) :=
  of_leads hrest fun s _ =>
    ⟨{ s with posted := s.posted ++ [.terminate status] },
      ⟨rfl, ⟨[], rfl, by simp⟩, [.terminate status], rfl, by simp [Post.isTerminate]⟩, rfl⟩

theorem check {bails : Bool} {ok : C → Prop} [DecidablePred ok] {rest : Handler n C}
    (hrest : SafeMember cls socket rest) : SafeMember cls socket (Echo.check bails ok rest) := by
  intro s hready
  have hfailed : s.Leads socket { s with failures := s.failures + 1 } :=
    ⟨rfl, ⟨[], rfl, by simp⟩, [], by simp, by simp⟩
  unfold Echo.check
  split
  · exact hrest s hready
  · split
    · exact ⟨_, rfl, hfailed⟩
    · obtain ⟨s', hend, hleads⟩ := hrest _ (hfailed.ready hready)
      exact ⟨s', hend, hfailed.trans hleads⟩

theorem branch {b : C → Bool} {yes no : Handler n C} (hyes : SafeMember cls socket yes)
    (hno : SafeMember cls socket no) : SafeMember cls socket (Echo.branch b yes no) := by
  intro s hready
  unfold Echo.branch
  split
  · exact hyes s hready
  · exact hno s hready

end SafeMember

end rules

/-! ### Test programs -/

/-- A client: the class of its socket and the members that the program and the
layer call. All of them are safe. -/
structure Client (n : Nat) (C : Type) where
  cls : Class
  socket : C → ObjId
  startTest : Bool → Ptr → UInt16 → Input → Handler n C
  call : Bool → Args → Input → Handler n C
  startTest_safe : ∀ bails hostAddr port input,
    SafeMember cls socket (startTest bails hostAddr port input)
  call_safe : ∀ bails args input, SafeMember cls socket (call bails args input)

/-- `client` is the global pointer, `posted` the program's own callbacks in the
scheduler. As history, `failures` counts the failed assertions and `verdicts`
has what `terminate` reported. -/
structure Program (n : Nat) (C : Type) where
  world : World n
  client : Option C
  posted : List Post
  failures : Nat
  verdicts : List Bool

/-- One event of the stack, or one callback run by the scheduler: of the layer
or of the program itself. -/
inductive TestAction (n : Nat)
  | event (id : ObjId) (ev : SocketEvent)
  | tick (handle : Handle)
  | dispatch (i : Nat) (input : Input)
  | own (i : Nat) (input : Input)

variable {C : Type}

/-- The destructor of both clients. -/
def Client.deinit (k : Client n C) (env : Env) : Handler n C :=
  ask k.socket (fun _ => .isConnected) env fun connected =>
  if connected = .bool true then ask k.socket (fun _ => .close) env fun _ => finish else finish

namespace Program

def session (p : Program n C) (c : C) : Session n C := ⟨p.world, c, p.posted, p.failures⟩

def resume (p : Program n C) (s : Session n C) : Program n C :=
  { p with world := s.world, client := some s.client, posted := s.posted, failures := s.failures }

/-- A call of a member of the client, which may be gone. -/
def within (p : Program n C) (h : Handler n C) : Except Crash (Program n C) :=
  match p.client with
  | none => .error .dangling
  | some c => do
    let s ← h (p.session c)
    return p.resume s

/-- `terminate(status, client)`: only the first one finds a client. -/
def terminate (k : Client n C) (status : Bool) (env : Env) (p : Program n C) :
    Except Crash (Program n C) :=
  match p.client with
  | none => .ok p
  | some c => do
    let s ← k.deinit env (p.session c)
    match s.world.step (.destruct (k.socket s.client) env) with
    | some (.ok (_, w)) =>
      return { p with
        world := w
        client := none
        failures := if status then s.failures else s.failures + 1
        verdicts := p.verdicts ++ [status] }
    | some (.error fault) => throw (.fault fault)
    | none => throw .dangling

/-- A step of the layer that involves no member of the client. -/
def lift (p : Program n C) (r : Except Fault (Ret × World n)) : Except Crash (Program n C) :=
  match r with
  | .ok (_, w) => .ok { p with world := w }
  | .error fault => .error (.fault fault)

def step (k : Client n C) (bails : Bool) (p : Program n C) :
    TestAction n → Option (Except Crash (Program n C))
  | .event id ev => (p.world.step (.event id ev)).map p.lift
  | .tick h => (p.world.step (.tick h)).map p.lift
  | .dispatch i input =>
    (p.world.pending[i]?).map fun b =>
      let w := { p.world with
        pending := p.world.pending.eraseIdx i
        dispatched := p.world.dispatched ++ [b] }
      if b.fn = b.args.slot.member then { p with world := w }.within (k.call bails b.args input)
      else .error .noMember
  | .own i input =>
    (p.posted[i]?).map fun post =>
      let p := { p with posted := p.posted.eraseIdx i }
      match post with
      | .startTest hostAddr port => p.within (k.startTest bails hostAddr port input)
      | .terminate status => p.terminate k status input.env

/-- The program after an action that is possible and does not crash. -/
def next (k : Client n C) (bails : Bool) (p : Program n C) (a : TestAction n) :
    Option (Program n C) :=
  match p.step k bails a with
  | some (.ok p') => some p'
  | _ => none

end Program

/-- The plain constructor of a class. -/
def Class.plainCtor (cls : Class) (stack : Stack) : Ctor :=
  match cls with
  | .udp => .udp stack
  | .stream => .stream stack
  | .listener => .listener stack

/-- The end of the test function: the stack is initialised, `client` is a new
client whose constructor has set the error handler, and `start_test` is
posted. -/
structure Program.Starts (k : Client n C) (p : Program n C) : Prop where
  client : ∃ c, p.client = some c ∧ k.socket c = 0
  world : ∃ stack api loc h, run World.next World.init
    [.register stack api, .construct loc h (Class.plainCtor k.cls stack) .quiet,
      .op 0 (.setOnError Slot.onError.member) .quiet] = some p.world
  posted : ∃ hostAddr port, p.posted = [.startTest hostAddr port]
  failures : p.failures = 0
  verdicts : p.verdicts = []

namespace Program

variable {k : Client n C} {bails : Bool}

/-- The session in which the callback `b` runs. -/
def dispatching (p : Program n C) (i : Nat) (b : Bound) (c : C) : Session n C :=
  { p.session c with
    world := { p.world with
      pending := p.world.pending.eraseIdx i
      dispatched := p.world.dispatched ++ [b] } }

/-- What a possible action does. -/
inductive Stepped (k : Client n C) (bails : Bool) (p : Program n C) :
    TestAction n → Program n C → Prop
  | delivered (id : ObjId) (o : SocketObj) (ev : SocketEvent)
      (hcell : p.world.objs.cell id = some o) :
      Stepped k bails p (.event id ev) { p with world := p.world.delivered id o ev }
  | fired (h : Handle) :
      Stepped k bails p (.tick h)
        { p with world := { p.world with ticker := p.world.ticker.fire h } }
  | called (i : Nat) (input : Input) (b : Bound) (c : C) (s : Session n C)
      (hb : p.world.pending[i]? = some b) (hc : p.client = some c)
      (hrun : k.call bails b.args input (p.dispatching i b c) = .ok s) :
      Stepped k bails p (.dispatch i input) (p.resume s)
  | started (i : Nat) (input : Input) (hostAddr : Ptr) (port : UInt16) (c : C) (s : Session n C)
      (hpost : p.posted[i]? = some (.startTest hostAddr port)) (hc : p.client = some c)
      (hrun : k.startTest bails hostAddr port input
        { p.session c with posted := p.posted.eraseIdx i } = .ok s) :
      Stepped k bails p (.own i input) (p.resume s)
  | ended (i : Nat) (input : Input) (status : Bool) (c : C) (s : Session n C) (o : SocketObj)
      (hpost : p.posted[i]? = some (.terminate status)) (hc : p.client = some c)
      (hdeinit : k.deinit input.env { p.session c with posted := p.posted.eraseIdx i } = .ok s)
      (hcell : s.world.objs.cell (k.socket s.client) = some o) :
      Stepped k bails p (.own i input)
        { world := s.world.destructed (k.socket s.client) o input.env
          client := none
          posted := p.posted.eraseIdx i
          failures := if status then s.failures else s.failures + 1
          verdicts := p.verdicts ++ [status] }
  | stale (i : Nat) (input : Input) (status : Bool)
      (hpost : p.posted[i]? = some (.terminate status)) (hc : p.client = none) :
      Stepped k bails p (.own i input) { p with posted := p.posted.eraseIdx i }

theorem within_eq_ok {p p' : Program n C} {h : Handler n C} (hrun : p.within h = .ok p') :
    ∃ c s, p.client = some c ∧ h (p.session c) = .ok s ∧ p' = p.resume s := by
  unfold within at hrun
  cases hc : p.client with
  | none => simp [hc] at hrun
  | some c =>
      cases hs : h (p.session c) with
      | error e => simp [hc, hs, bind, Except.bind] at hrun
      | ok s =>
          simp only [hc, hs, bind, Except.bind, pure, Except.pure, Except.ok.injEq] at hrun
          exact ⟨c, s, rfl, hs, hrun.symm⟩

theorem terminate_eq_ok {p p' : Program n C} {status : Bool} {env : Env}
    (hrun : p.terminate k status env = .ok p') :
    (p.client = none ∧ p' = p) ∨
    ∃ c s o, p.client = some c ∧ k.deinit env (p.session c) = .ok s ∧
      s.world.objs.cell (k.socket s.client) = some o ∧
      p' = { p with
        world := s.world.destructed (k.socket s.client) o env
        client := none
        failures := if status then s.failures else s.failures + 1
        verdicts := p.verdicts ++ [status] } := by
  unfold terminate at hrun
  cases hc : p.client with
  | none =>
      simp only [hc, Except.ok.injEq] at hrun
      exact Or.inl ⟨rfl, hrun.symm⟩
  | some c =>
      cases hs : k.deinit env (p.session c) with
      | error e => simp [hc, hs, bind, Except.bind] at hrun
      | ok s =>
          cases hcell : s.world.objs.cell (k.socket s.client) with
          | none => simp [hc, hs, World.step, hcell, bind, Except.bind, throw, throwThe,
              MonadExceptOf.throw] at hrun
          | some o =>
              simp only [hc, hs, World.step, hcell, Option.map_some, World.destruct_eq, bind,
                Except.bind, pure, Except.pure, Except.ok.injEq] at hrun
              exact Or.inr ⟨c, s, o, rfl, hs, hcell, hrun.symm⟩

theorem step_of_next {p p' : Program n C} {a : TestAction n} (h : p.next k bails a = some p') :
    p.step k bails a = some (.ok p') := by
  unfold next at h
  split at h
  · rename_i p'' hstep
    rw [hstep, Option.some.inj h]
  · cases h

theorem next_stepped {p p' : Program n C} {a : TestAction n} (h : p.next k bails a = some p') :
    p.Stepped k bails a p' := by
  have hstep := step_of_next h
  cases a with
  | event id ev =>
      cases hcell : p.world.objs.cell id with
      | none => simp [step, World.step, hcell] at hstep
      | some o =>
          simp only [step, World.step, hcell, Option.map_some, Socket.nvEventHandler_eq, bind,
            Except.bind, pure, Except.pure, lift, Option.some.injEq, Except.ok.injEq] at hstep
          exact hstep ▸ .delivered id o ev hcell
  | tick hd =>
      simp only [step, World.step] at hstep
      split at hstep
      · simp only [Option.map_some, lift, Option.some.injEq, Except.ok.injEq] at hstep
        exact hstep ▸ .fired hd
      · cases hstep
  | dispatch i input =>
      cases hb : p.world.pending[i]? with
      | none => simp [step, hb] at hstep
      | some b =>
          simp only [step, hb, Option.map_some, Option.some.injEq] at hstep
          split at hstep
          · obtain ⟨c, s, hc, hrun, rfl⟩ := within_eq_ok hstep
            exact .called i input b c s hb hc hrun
          · cases hstep
  | own i input =>
      cases hpost : p.posted[i]? with
      | none => simp [step, hpost] at hstep
      | some post =>
          simp only [step, hpost, Option.map_some, Option.some.injEq] at hstep
          cases post with
          | startTest hostAddr port =>
              obtain ⟨c, s, hc, hrun, rfl⟩ := within_eq_ok hstep
              exact .started i input hostAddr port c s hpost hc hrun
          | terminate status =>
              rcases terminate_eq_ok hstep with ⟨hc, rfl⟩ | ⟨c, s, o, hc, hdeinit, hcell, rfl⟩
              · exact .stale i input status hpost hc
              · exact .ended i input status c s o hpost hc hdeinit hcell

end Program

end Echo

end MbedSockets
