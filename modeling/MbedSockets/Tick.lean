import MbedSockets.Steps

/-!
The periodic tick that all TCP sockets share. The counter `_TCPSockets`, the
handle `_tick_handle` and the scheduler are static and only loosely coupled:
the counter moves even when no tick was posted. `Ticker.Sound` links the three
to the number of live TCP sockets, and is kept by every order of constructions
and destructions, those inside a failed `accept` included.

The counter cannot wrap because live objects have distinct non-null addresses
of the counter's own width. What the tick does not give is a timer for every
socket: it is posted for the first socket only, and the last section says
exactly in which runs that suffices.
-/

namespace MbedSockets

open Lib.Run

variable {n : Nat}

/-- `k` is the number of live TCP sockets. -/
structure Ticker.Sound (t : Ticker n) (k : Nat) : Prop where
  count : t.tcpSockets.toNat = k
  handle : t.ticks.map Tick.handle = t.tickHandle.toList
  idle : k = 0 → t.tickHandle = none
  periodic : ∀ tick ∈ t.ticks, tick.period ≠ 0
  cancelled : ∀ c ∈ t.cancels, c.2 = true
  ledger : ∀ h, t.posts.count h =
    (t.cancels.map Prod.fst).count h + (t.ticks.map Tick.handle).count h

namespace Ticker

theorem scheduled_iff (t : Ticker n) (h : Handle) :
    t.scheduled h = true ↔ h ∈ t.ticks.map Tick.handle := by
  simp [scheduled]

theorem Sound.zero_iff {t : Ticker n} {k : Nat} (hs : t.Sound k) :
    t.tcpSockets = 0 ↔ k = 0 := by
  rw [← hs.count]
  exact ⟨fun h => by simp [h], fun h => BitVec.eq_of_toNat_eq (by simpa using h)⟩

theorem init_sound : (Ticker.init : Ticker n).Sound 0 where
  count := by simp [init]
  handle := rfl
  idle _ := rfl
  periodic := by simp [init]
  cancelled := by simp [init]
  ledger h := by simp [init]

/-- The tick survives being run: its period is not zero. -/
theorem Sound.fire_eq {t : Ticker n} {k : Nat} (hs : t.Sound k) (h : Handle) :
    t.fire h = t := by
  have hall : t.ticks.filter (fun tick => tick.handle != h || tick.period != 0) = t.ticks := by
    apply List.filter_eq_self.mpr
    intro tick hmem
    simp [hs.periodic tick hmem]
  simp [fire, hall]

end Ticker

/-- The counter moves as a natural number does while there is room. -/
theorem toNat_add_one {c : BitVec n} {k : Nat} (hc : c.toNat = k) (hroom : k + 1 < 2 ^ n) :
    (c + 1).toNat = k + 1 := by
  have hone : (1 : Nat) % 2 ^ n = 1 := Nat.mod_eq_of_lt (by omega)
  rw [BitVec.toNat_add, hc]
  simp [hone, Nat.mod_eq_of_lt hroom]

theorem toNat_sub_one {c : BitVec n} {k : Nat} (hc : c.toNat = k + 1) : (c - 1).toNat = k := by
  have hlt : k + 1 < 2 ^ n := hc ▸ c.isLt
  have hone : (1 : BitVec n).toNat = 1 := by
    simp [Nat.mod_eq_of_lt (show 1 < 2 ^ n by omega)]
  rw [BitVec.toNat_sub_of_le (by rw [BitVec.le_def, hone, hc]; omega), hone, hc]
  omega

theorem TCPAsynch.retain_tcpSockets (api : Option SocketApi) (h : Handle) (t : Ticker n) :
    (TCPAsynch.retain api h t).tcpSockets = t.tcpSockets + 1 := by
  by_cases hzero : t.tcpSockets = 0
  · cases api <;> simp only [TCPAsynch.retain, if_pos hzero, Ticker.postTick]
  · simp only [TCPAsynch.retain, if_neg hzero]

theorem TCPAsynch.retain_of_ne {t : Ticker n} (api : Option SocketApi) (h : Handle)
    (hne : t.tcpSockets ≠ 0) :
    TCPAsynch.retain api h t = { t with tcpSockets := t.tcpSockets + 1 } := by
  simp only [TCPAsynch.retain, if_neg hne]

theorem TCPAsynch.release_of_ne {t : Ticker n} (hne : t.tcpSockets - 1 ≠ 0) :
    TCPAsynch.release t = { t with tcpSockets := t.tcpSockets - 1 } := by
  simp only [TCPAsynch.release, if_neg hne]

theorem TCPAsynch.release_tcpSockets (t : Ticker n) :
    (TCPAsynch.release t).tcpSockets = t.tcpSockets - 1 := by
  by_cases hlast : t.tcpSockets - 1 = 0
  · cases hhandle : t.tickHandle <;>
      simp only [TCPAsynch.release, if_pos hlast, hhandle, Ticker.cancelCallback]
  · rw [TCPAsynch.release_of_ne hlast]

/-- A socket that comes and goes while another one is live leaves no trace. -/
theorem TCPAsynch.release_retain {t : Ticker n} (api : Option SocketApi) (h : Handle)
    (hne : t.tcpSockets ≠ 0) :
    TCPAsynch.release (TCPAsynch.retain api h t) = t := by
  rw [TCPAsynch.retain_of_ne api h hne, TCPAsynch.release_of_ne]
  · simp only [BitVec.add_sub_cancel]
  · simpa only [BitVec.add_sub_cancel] using hne

theorem TCPAsynch.retain_sound {t : Ticker n} {k : Nat} (hs : t.Sound k)
    (hroom : k + 1 < 2 ^ n) (api : Option SocketApi)
    (hperiod : ∀ a, api = some a → a.periodicInterval ≠ 0) (h : Handle) :
    (TCPAsynch.retain api h t).Sound (k + 1) := by
  have hcount : (t.tcpSockets + 1).toNat = k + 1 := toNat_add_one hs.count hroom
  by_cases hzero : t.tcpSockets = 0
  · have hk : k = 0 := hs.zero_iff.mp hzero
    have hnone : t.tickHandle = none := hs.idle hk
    have hempty : t.ticks = [] := by simpa [hnone] using hs.handle
    cases api with
    | none =>
        simp only [TCPAsynch.retain, if_pos hzero]
        exact ⟨hcount, hs.handle, by omega, hs.periodic, hs.cancelled, hs.ledger⟩
    | some api =>
        have hapi : api.periodicInterval ≠ 0 := hperiod api rfl
        simp only [TCPAsynch.retain, if_pos hzero, Ticker.postTick, hempty, List.nil_append]
        refine ⟨hcount, rfl, by omega, by simpa using hapi, hs.cancelled, ?_⟩
        intro h'
        have hledger := hs.ledger h'
        simp only [hempty, List.map_nil, List.count_nil, Nat.add_zero] at hledger
        simp [List.count_append, hledger]
  · rw [TCPAsynch.retain_of_ne api h hzero]
    exact ⟨hcount, hs.handle, by omega, hs.periodic, hs.cancelled, hs.ledger⟩

/-- With the last socket the one scheduled tick is cancelled. -/
theorem TCPAsynch.release_last {t : Ticker n} {h : Handle} (hlast : t.tcpSockets - 1 = 0)
    (hhandle : t.tickHandle = some h) (hticks : t.ticks.map Tick.handle = [h]) :
    TCPAsynch.release t =
      { tcpSockets := t.tcpSockets - 1, tickHandle := none, ticks := [],
        posts := t.posts, cancels := t.cancels ++ [(h, true)] } := by
  have hscheduled : t.ticks.any (·.handle == h) = true := by
    have hmem := (Ticker.scheduled_iff t h).mpr (by simp [hticks])
    exact hmem
  have hfilter : t.ticks.filter (fun tick => tick.handle != h) = [] := by
    apply List.filter_eq_nil_iff.mpr
    intro tick hmem
    have hin : tick.handle ∈ t.ticks.map Tick.handle := List.mem_map_of_mem hmem
    rw [hticks] at hin
    simpa using hin
  simp only [TCPAsynch.release, if_pos hlast, hhandle, Ticker.cancelCallback, Ticker.scheduled,
    hfilter, hscheduled]

theorem TCPAsynch.release_sound {t : Ticker n} {k : Nat} (hs : t.Sound (k + 1)) :
    (TCPAsynch.release t).Sound k := by
  have hcount : (t.tcpSockets - 1).toNat = k := toNat_sub_one hs.count
  by_cases hlast : t.tcpSockets - 1 = 0
  · cases hhandle : t.tickHandle with
    | none =>
        have heq : TCPAsynch.release t = { t with tcpSockets := t.tcpSockets - 1 } := by
          simp only [TCPAsynch.release, if_pos hlast, hhandle]
        rw [heq]
        exact ⟨hcount, hs.handle, fun _ => hhandle, hs.periodic, hs.cancelled, hs.ledger⟩
    | some h =>
        have hticks : t.ticks.map Tick.handle = [h] := by simpa [hhandle] using hs.handle
        rw [TCPAsynch.release_last hlast hhandle hticks]
        refine ⟨hcount, rfl, fun _ => rfl, by simp, ?_, ?_⟩
        · intro c hc
          rcases List.mem_append.mp hc with hold | hnew
          · exact hs.cancelled c hold
          · simp only [List.mem_singleton] at hnew
            rw [hnew]
        · intro h'
          have hledger := hs.ledger h'
          rw [hticks] at hledger
          simp [List.count_append, hledger]
  · rw [TCPAsynch.release_of_ne hlast]
    refine ⟨hcount, hs.handle, ?_, hs.periodic, hs.cancelled, hs.ledger⟩
    intro hk
    exact absurd (BitVec.eq_of_toNat_eq (by simpa [hk] using hcount)) hlast

def SocketObj.tcpWeight (o : SocketObj) : Nat := if o.cls.isTCPAsynch then 1 else 0

namespace World

/-- The number of live `TCPAsynch` objects. -/
def tcpLive (w : World n) : Nat := w.objs.total SocketObj.tcpWeight

theorem tcpLive_pos {w : World n} {id : ObjId} {o : SocketObj}
    (hcell : w.objs.cell id = some o) (htcp : o.cls.isTCPAsynch = true) : 0 < w.tcpLive := by
  have hle := w.objs.le_total SocketObj.tcpWeight hcell
  simp only [SocketObj.tcpWeight, htcp, if_true] at hle
  exact hle

/-- While a TCP socket is live, an exact counter is not zero. -/
theorem tcpSockets_ne_zero {w : World n} (hcount : w.ticker.tcpSockets.toNat = w.tcpLive)
    {id : ObjId} {o : SocketObj} (hcell : w.objs.cell id = some o)
    (htcp : o.cls.isTCPAsynch = true) : w.ticker.tcpSockets ≠ 0 := by
  intro hzero
  have hpos := tcpLive_pos hcell htcp
  rw [← hcount, hzero] at hpos
  simp at hpos

/-- A failing `accept` leaves the statics as they were: the listener itself
keeps the counter from zero. -/
theorem refused_ticker {w : World n} (hcount : w.ticker.tcpSockets.toNat = w.tcpLive)
    {id : ObjId} {o : SocketObj} (hcell : w.objs.cell id = some o) (hcls : o.cls = .listener)
    (newImpl : Option Impl) (loc : BitVec n) (h : Handle) (env : Env) :
    ((w.built loc h env (acceptCtor o newImpl)).destructed w.objs.next
      ((acceptCtor o newImpl).frame w.registry w.objs.next env).obj env).ticker = w.ticker := by
  have hne := tcpSockets_ne_zero hcount hcell (by simp [hcls, Class.isTCPAsynch])
  have htcp : (acceptCtor o newImpl).cls.isTCPAsynch = true := rfl
  rw [destructed_ticker, Ctor.frame_cls, if_pos htcp, built_ticker, if_pos htcp,
    TCPAsynch.release_retain _ _ hne]

theorem tcpLive_built (w : World n) (loc : BitVec n) (h : Handle) (env : Env) (ctor : Ctor) :
    (w.built loc h env ctor).tcpLive = w.tcpLive + if ctor.cls.isTCPAsynch then 1 else 0 := by
  simp [tcpLive, Lib.Heap.total_alloc, SocketObj.tcpWeight]

theorem tcpLive_destructed {w : World n} {id : ObjId} {o : SocketObj}
    (hcell : w.objs.cell id = some o) (env : Env) :
    (w.destructed id o env).tcpLive + o.tcpWeight = w.tcpLive :=
  w.objs.total_free SocketObj.tcpWeight hcell

/-- A member function keeps the class, so it is not counted anew. -/
theorem tcpLive_commit {w : World n} {o : SocketObj} {f : Frame}
    (hcell : w.objs.cell f.this = some o) (hcls : f.obj.cls = o.cls) :
    (w.commit f).tcpLive = w.tcpLive := by
  have hset := w.objs.total_set SocketObj.tcpWeight f.obj hcell
  have hweight : f.obj.tcpWeight = o.tcpWeight := by simp [SocketObj.tcpWeight, hcls]
  unfold tcpLive
  rw [commit_objs]
  omega

/-- Addresses as an allocator hands them out. -/
structure Placed (w : World n) : Prop where
  distinct : ∀ i j, (w.objs.cell i).isSome → (w.objs.cell j).isSome →
    w.location i = w.location j → i = j
  nonnull : ∀ i, (w.objs.cell i).isSome → w.location i ≠ 0

theorem Placed.alloc {w : World n} (hp : w.Placed) {loc : BitVec n} (hvacant : w.vacant loc)
    (h : Handle) (env : Env) (ctor : Ctor) : (w.built loc h env ctor).Placed := by
  have hold : ∀ i, i ≠ w.objs.next → ((w.built loc h env ctor).objs.cell i).isSome →
      (w.objs.cell i).isSome ∧ (w.built loc h env ctor).location i = w.location i ∧
        w.location i ≠ loc := by
    intro i hi hlive
    rw [built_objs, Lib.Heap.alloc_cell_of_ne _ _ hi] at hlive
    refine ⟨hlive, by simp [hi], ?_⟩
    obtain ⟨o, ho⟩ := Option.isSome_iff_exists.mp hlive
    exact hvacant.2 i (w.objs.lt_next ho) hlive
  have hnew : (w.built loc h env ctor).location w.objs.next = loc := by simp
  constructor
  · intro i j hi hj hij
    by_cases hin : i = w.objs.next <;> by_cases hjn : j = w.objs.next
    · rw [hin, hjn]
    · obtain ⟨_, hloc, hne⟩ := hold j hjn hj
      rw [hin, hnew, hloc] at hij
      exact absurd hij.symm hne
    · obtain ⟨_, hloc, hne⟩ := hold i hin hi
      rw [hjn, hnew, hloc] at hij
      exact absurd hij hne
    · obtain ⟨hli, hloci, _⟩ := hold i hin hi
      obtain ⟨hlj, hlocj, _⟩ := hold j hjn hj
      rw [hloci, hlocj] at hij
      exact hp.distinct i j hli hlj hij
  · intro i hi
    by_cases hin : i = w.objs.next
    · rw [hin, hnew]
      exact hvacant.1
    · obtain ⟨hli, hloci, _⟩ := hold i hin hi
      rw [hloci]
      exact hp.nonnull i hli

/-- Liveness and addresses are all that placement depends on. -/
theorem Placed.of_live {w w' : World n} (hp : w.Placed)
    (hloc : w'.location = w.location)
    (hlive : ∀ i, (w'.objs.cell i).isSome → (w.objs.cell i).isSome) : w'.Placed where
  distinct i j hi hj hij :=
    hp.distinct i j (hlive i hi) (hlive j hj) (by simpa [hloc] using hij)
  nonnull i hi := by
    rw [hloc]
    exact hp.nonnull i (hlive i hi)

theorem Placed.destructed {w : World n} (hp : w.Placed) (id : ObjId) (o : SocketObj) (env : Env) :
    (w.destructed id o env).Placed := by
  apply hp.of_live (by simp)
  intro i hi
  obtain ⟨p, hcell⟩ := Option.isSome_iff_exists.mp hi
  rw [destructed_objs, Lib.Heap.free_cell_eq_some] at hcell
  simp [hcell.2]

theorem Placed.commit {w : World n} (hp : w.Placed) (f : Frame) : (w.commit f).Placed := by
  apply hp.of_live (commit_location w f)
  intro i hi
  simpa using hi

/-- While an address is free, there are at least two addresses more than
live objects: that one and null. -/
theorem Placed.room {w : World n} (hp : w.Placed) {loc : BitVec n}
    (hvacant : w.vacant loc) : w.tcpLive + 1 < 2 ^ n := by
  classical
  let live := (Finset.range w.objs.next).filter fun i => (w.objs.cell i).isSome
  let taken := live.image fun i => (w.location i).toNat
  have hcard : taken.card = live.card := by
    apply Finset.card_image_of_injOn
    intro i hi j hj hij
    exact hp.distinct i j (Finset.mem_filter.mp hi).2 (Finset.mem_filter.mp hj).2
      (BitVec.eq_of_toNat_eq hij)
  have hzero : 0 ∉ insert loc.toNat taken := by
    intro hmem
    rcases Finset.mem_insert.mp hmem with hloc | htaken
    · exact hvacant.1 (BitVec.eq_of_toNat_eq (by simpa using hloc.symm))
    · obtain ⟨i, hi, hi0⟩ := Finset.mem_image.mp htaken
      exact hp.nonnull i (Finset.mem_filter.mp hi).2 (BitVec.eq_of_toNat_eq (by simpa using hi0))
  have hnew : loc.toNat ∉ taken := by
    intro hmem
    obtain ⟨i, hi, hiloc⟩ := Finset.mem_image.mp hmem
    have hilive := Finset.mem_filter.mp hi
    exact hvacant.2 i (Finset.mem_range.mp hilive.1) hilive.2 (BitVec.eq_of_toNat_eq hiloc)
  have hsub : insert 0 (insert loc.toNat taken) ⊆ Finset.range (2 ^ n) := by
    intro a ha
    rw [Finset.mem_range]
    simp only [Finset.mem_insert] at ha
    rcases ha with rfl | rfl | ha
    · exact Nat.two_pow_pos n
    · exact loc.isLt
    · obtain ⟨i, _, rfl⟩ := Finset.mem_image.mp ha
      exact (w.location i).isLt
  have hbound := Finset.card_le_card hsub
  rw [Finset.card_insert_of_notMem hzero, Finset.card_insert_of_notMem hnew, hcard,
    Finset.card_range] at hbound
  have htcp : w.tcpLive ≤ live.card := by
    unfold tcpLive Lib.Heap.total
    rw [Finset.card_filter]
    apply Finset.sum_le_sum
    intro i _
    cases w.objs.cell i with
    | none => simp
    | some o =>
        simp only [Option.elim_some, Option.isSome_some, if_true, SocketObj.tcpWeight]
        split <;> omega
  omega

/-- The invariant behind the tick. -/
structure TickInv (w : World n) : Prop where
  sound : w.ticker.Sound w.tcpLive
  placed : w.Placed
  periodic : ∀ stack api, w.registry stack = some api → api.periodicInterval ≠ 0

/-- Assumed of the stacks: a registered api has a period. -/
def RegistersPeriodic (_w : World n) : Action n → Prop
  | .register _ api => api.periodicInterval ≠ 0
  | _ => True

theorem init_tickInv : (init : World n).TickInv where
  sound := Ticker.init_sound
  placed := ⟨by simp [init], by simp [init]⟩
  periodic := by simp [init]

theorem TickInv.built {w : World n} (hw : w.TickInv) {loc : BitVec n}
    (hvacant : w.vacant loc) (h : Handle) (env : Env) (ctor : Ctor) :
    (w.built loc h env ctor).TickInv := by
  refine ⟨?_, hw.placed.alloc hvacant h env ctor, by simpa using hw.periodic⟩
  have hroom := hw.placed.room hvacant
  rw [built_ticker, tcpLive_built]
  split
  · exact TCPAsynch.retain_sound hw.sound hroom _ (fun a ha => hw.periodic _ a ha) h
  · exact hw.sound

theorem TickInv.destructed {w : World n} (hw : w.TickInv) {id : ObjId} {o : SocketObj}
    (hcell : w.objs.cell id = some o) (env : Env) : (w.destructed id o env).TickInv := by
  refine ⟨?_, hw.placed.destructed id o env, by simpa using hw.periodic⟩
  rw [destructed_ticker]
  have hsound := hw.sound
  rw [← tcpLive_destructed hcell env] at hsound
  unfold SocketObj.tcpWeight at hsound
  split at hsound
  · rename_i htcp
    rw [if_pos htcp]
    exact TCPAsynch.release_sound hsound
  · rename_i hudp
    rw [if_neg hudp]
    exact hsound

theorem TickInv.commit {w : World n} (hw : w.TickInv) {o : SocketObj} {f : Frame}
    (hcell : w.objs.cell f.this = some o) (hcls : f.obj.cls = o.cls) :
    (w.commit f).TickInv := by
  refine ⟨?_, hw.placed.commit f, by simpa using hw.periodic⟩
  rw [commit_ticker, tcpLive_commit hcell hcls]
  exact hw.sound

theorem tickInv_step (w : World n) (a : Action n) (w' : World n) (hw : w.TickInv)
    (ha : w.RegistersPeriodic a) (hstep : w.next a = some w') : w'.TickInv := by
  cases next_stepped hstep with
  | registered stack api hnew =>
      refine ⟨hw.sound, ⟨hw.placed.distinct, hw.placed.nonnull⟩, ?_⟩
      intro stack' api' hapi
      by_cases hs : stack' = stack
      · subst hs
        simp only [Function.update_self, Option.some.injEq] at hapi
        exact hapi ▸ ha
      · simp only [Function.update_of_ne hs] at hapi
        exact hw.periodic stack' api' hapi
  | built loc h ctor env hvacant _ _ => exact hw.built hvacant h env ctor
  | destructed id o env hcell => exact hw.destructed hcell env
  | ran id o op env ret f hcell _ hexec =>
      have hsame := (Op.exec_ran hexec).same
      exact hw.commit (o := o) (by rw [hsame.this]; exact hcell) hsame.cls
  | accepted id o newImpl loc h env _ _ hvacant _ _ => exact hw.built hvacant h env _
  | refused id o newImpl loc h env _ _ hvacant _ _ =>
      exact (hw.built hvacant h env _).destructed (by simp) env
  | delivered id o ev hcell => exact hw.commit hcell rfl
  | dispatched i b hb => exact ⟨hw.sound, ⟨hw.placed.distinct, hw.placed.nonnull⟩, hw.periodic⟩
  | fired h hs =>
      rw [hw.sound.fire_eq h]
      exact hw

/-- What holds of the shared tick between any two steps. `never_wraps_up`
covers every construction that is possible in the state, the one inside
`accept` too, and `never_wraps_down` every destruction. By `ledger` a posted
tick is still scheduled or has been cancelled, exactly once. -/
structure TickExact (w : World n) : Prop where
  count : w.ticker.tcpSockets.toNat = w.tcpLive
  never_wraps_up : ∀ loc, w.vacant loc → w.ticker.tcpSockets.toNat + 1 < 2 ^ n
  never_wraps_down : ∀ id o, w.objs.cell id = some o → o.cls.isTCPAsynch = true →
    0 < w.ticker.tcpSockets.toNat
  at_most_one : w.ticker.ticks.length ≤ 1
  handle : ∀ h, w.ticker.tickHandle = some h ↔ ∃ tick ∈ w.ticker.ticks, tick.handle = h
  idle : w.tcpLive = 0 → w.ticker.ticks = []
  cancels_scheduled : ∀ c ∈ w.ticker.cancels, c.2 = true
  ledger : ∀ h, w.ticker.posts.count h =
    (w.ticker.cancels.map Prod.fst).count h + (w.ticker.ticks.map Tick.handle).count h

/-- A stream and a listener on one stack, an accepted connection, a run of
the tick and the end of the first stream. -/
def sharedTick : List (Action 32) :=
  [.register 0 ⟨true, 250, 7⟩, .construct 4096 1 (.stream 0) .quiet,
    .construct 8192 2 (.listener 0) .quiet, .accept 1 (some 5) 12288 3 .quiet, .tick 1,
    .destruct 0 .quiet]

theorem TickInv.exact {w : World n} (hw : w.TickInv) : w.TickExact where
  count := hw.sound.count
  never_wraps_up loc hvacant := by
    rw [hw.sound.count]
    exact hw.placed.room hvacant
  never_wraps_down id o hcell htcp := by
    rw [hw.sound.count]
    exact tcpLive_pos hcell htcp
  at_most_one := by
    have hlen := congrArg List.length hw.sound.handle
    rw [List.length_map] at hlen
    rw [hlen]
    cases w.ticker.tickHandle <;> simp
  handle h := by
    have hmem : h ∈ w.ticker.ticks.map Tick.handle ↔ w.ticker.tickHandle = some h := by
      rw [hw.sound.handle]
      simp
    rw [← hmem, List.mem_map]
  idle hzero := by
    have hnone := hw.sound.idle hzero
    simpa [hnone] using hw.sound.handle
  cancels_scheduled := hw.sound.cancelled
  ledger := hw.sound.ledger

/-- In every state of every run the counter is exact, and the tick is
scheduled, known by its handle and cancelled as it should be. -/
theorem tick_exact (as : List (Action n))
    (hperiodic : EachStep World.next RegistersPeriodic World.init as) :
    EachState World.next TickExact World.init as :=
  (eachState_of_step tickInv_step init_tickInv hperiodic).mono fun _ hw => hw.exact

theorem tick_exact_sharedTick :
    EachState World.next TickExact World.init sharedTick ∧
      (run World.next World.init sharedTick).map
        (fun w => (w.tcpLive, w.ticker.tickHandle, w.ticker.ticks.length)) =
          some (2, some 1, 1) :=
  ⟨tick_exact sharedTick (eachStep_of_forall (by simp [sharedTick, RegistersPeriodic]) _),
    by decide⟩

/-! ### Which sockets have a timer -/

/-- The task of `api` is scheduled. -/
def runs (w : World n) (api : SocketApi) : Prop :=
  ∃ tick ∈ w.ticker.ticks, tick.task = api.periodicTask

/-- Every live TCP socket with a stack has that stack's timer running. -/
def Served (w : World n) : Prop :=
  ∀ id o api, w.objs.cell id = some o → o.cls.isTCPAsynch = true →
    o.socket.api = some api → w.runs api

/-- A TCP socket may be added on `stack`: it is the first, or its stack is
not registered, or the tick already scheduled runs its stack's task. -/
def TimerReady (w : World n) (stack : Stack) : Prop :=
  w.ticker.tcpSockets = 0 ∨ ∀ api ∈ w.registry stack, w.runs api

/-- The condition on one step: a TCP socket that stays is added only where
its timer is ready. -/
def AddsTimed (w : World n) : Action n → Prop
  | .construct _ _ ctor _ => ctor.cls.isTCPAsynch = true → w.TimerReady ctor.stack
  | .accept id _ _ _ env => ∀ o ∈ w.objs.cell id,
      (env (.socketAccept o.socket w.objs.next)).err = .none → w.TimerReady o.socket.stack
  | _ => True

instance (w : World n) (api : SocketApi) : Decidable (w.runs api) :=
  inferInstanceAs (Decidable (∃ tick ∈ w.ticker.ticks, _))

instance (w : World n) (stack : Stack) : Decidable (w.TimerReady stack) :=
  inferInstanceAs (Decidable (_ ∨ _))

instance (w : World n) : (a : Action n) → Decidable (w.AddsTimed a)
  | .construct _ _ ctor _ => inferInstanceAs (Decidable (ctor.cls.isTCPAsynch = true → _))
  | .accept id _ _ _ _ => inferInstanceAs (Decidable (∀ o ∈ w.objs.cell id, _))
  | .register _ _ | .destruct _ _ | .op _ _ _ | .event _ _ | .dispatch _ | .tick _ =>
    isTrue trivial

theorem Served.of_same {w w' : World n} (hw : w.Served)
    (hticks : w'.ticker.ticks = w.ticker.ticks)
    (hobjs : ∀ id o', w'.objs.cell id = some o' → ∃ o, w.objs.cell id = some o ∧
      o'.cls = o.cls ∧ o'.socket.api = o.socket.api) : w'.Served := by
  intro id o' api hcell htcp hapi
  obtain ⟨o, ho, hcls, hsame⟩ := hobjs id o' hcell
  unfold runs
  rw [hticks]
  exact hw id o api ho (hcls ▸ htcp) (hsame ▸ hapi)

theorem Served.commit {w : World n} (hw : w.Served) {o : SocketObj} {f : Frame}
    (hcell : w.objs.cell f.this = some o) (hcls : f.obj.cls = o.cls)
    (hapi : f.obj.socket.api = o.socket.api) : (w.commit f).Served := by
  apply hw.of_same (congrArg Ticker.ticks (commit_ticker w f))
  intro id o' ho'
  rw [commit_objs, Lib.Heap.set_cell_eq_some _ hcell] at ho'
  rcases ho' with ⟨rfl, rfl⟩ | ⟨_, hold⟩
  · exact ⟨o, hcell, hcls, hapi⟩
  · exact ⟨o', hold, rfl, rfl⟩

/-- A destruction never takes a timer from a socket that stays: the tick is
cancelled with the last TCP socket only. -/
theorem Served.destructed {w : World n} (hinv : w.TickInv) (hw : w.Served) {id : ObjId}
    {o : SocketObj} (hcell : w.objs.cell id = some o) (env : Env) :
    (w.destructed id o env).Served := by
  have hold : ∀ i p, (w.destructed id o env).objs.cell i = some p → w.objs.cell i = some p := by
    intro i p hp
    rw [destructed_objs, Lib.Heap.free_cell_eq_some] at hp
    exact hp.2
  intro i p api hp htcp hapi
  have hafter := (hinv.destructed hcell env).sound
  have hpos : 0 < (w.destructed id o env).tcpLive := tcpLive_pos hp htcp
  have hticks : (w.destructed id o env).ticker.ticks = w.ticker.ticks := by
    rw [destructed_ticker]
    split
    · rename_i ho
      have hne : w.ticker.tcpSockets - 1 ≠ 0 := by
        intro hzero
        have hcount := hafter.count
        rw [destructed_ticker, if_pos ho, TCPAsynch.release_tcpSockets, hzero] at hcount
        simp only [BitVec.ofNat_eq_ofNat, BitVec.toNat_zero] at hcount
        omega
      rw [TCPAsynch.release_of_ne hne]
    · rfl
  obtain ⟨tick, hmem, htask⟩ := hw i p api (hold i p hp) htcp hapi
  exact ⟨tick, hticks ▸ hmem, htask⟩

/-- A construction keeps all sockets served exactly when the new one is. -/
theorem served_built_iff {w : World n} (hinv : w.TickInv) (hw : w.Served) (loc : BitVec n)
    (h : Handle) (env : Env) (ctor : Ctor) :
    (w.built loc h env ctor).Served ↔
      (ctor.cls.isTCPAsynch = true → w.TimerReady ctor.stack) := by
  let f := ctor.frame w.registry w.objs.next env
  have hnew : (w.built loc h env ctor).objs.cell w.objs.next = some f.obj := by simp [f]
  have hcells : ∀ id o, (w.built loc h env ctor).objs.cell id = some o →
      o = f.obj ∨ w.objs.cell id = some o := by
    intro id o hcell
    rw [built_objs, Lib.Heap.alloc_cell_eq_some] at hcell
    exact hcell.imp And.right (fun hold => hold)
  constructor
  · intro hserved htcp
    by_cases hzero : w.ticker.tcpSockets = 0
    · exact Or.inl hzero
    · refine Or.inr ?_
      intro api hapi
      have hrun := hserved w.objs.next f.obj api hnew (by simpa [f] using htcp)
        (by simpa [f] using hapi)
      unfold runs at hrun
      rwa [built_ticker, if_pos htcp, TCPAsynch.retain_of_ne _ _ hzero] at hrun
  · intro hready id o api hcell htcp hapi
    unfold runs
    rw [built_ticker]
    rcases hcells id o hcell with rfl | hold
    · have hcls : ctor.cls.isTCPAsynch = true := by simpa [f] using htcp
      have hreg : w.registry ctor.stack = some api := by simpa [f] using hapi
      rw [if_pos hcls]
      by_cases hzero : w.ticker.tcpSockets = 0
      · refine ⟨⟨h, api.periodicTask, api.periodicInterval, api.periodicInterval / 2⟩, ?_, rfl⟩
        simp only [TCPAsynch.retain, if_pos hzero, hreg, Ticker.postTick]
        simp
      · rw [TCPAsynch.retain_of_ne _ _ hzero]
        exact (hready hcls).resolve_left hzero api hreg
    · have hne := tcpSockets_ne_zero hinv.sound.count hold htcp
      have hrun := hw id o api hold htcp hapi
      split
      · rw [TCPAsynch.retain_of_ne _ _ hne]
        exact hrun
      · exact hrun

theorem served_step_iff (w : World n) (a : Action n) (w' : World n) (hinv : w.TickInv)
    (hw : w.Served) (_ha : w.RegistersPeriodic a) (hstep : w.next a = some w') :
    w'.Served ↔ w.AddsTimed a := by
  cases next_stepped hstep with
  | registered stack api hnew =>
      exact ⟨fun _ => trivial, fun _ => hw⟩
  | built loc h ctor env hvacant _ _ =>
      exact served_built_iff hinv hw loc h env ctor
  | destructed id o env hcell =>
      exact ⟨fun _ => trivial, fun _ => hw.destructed hinv hcell env⟩
  | ran id o op env ret f hcell _ hexec =>
      have hsame := (Op.exec_ran hexec).same
      exact ⟨fun _ => trivial, fun _ =>
        hw.commit (o := o) (by rw [hsame.this]; exact hcell) hsame.cls hsame.api⟩
  | accepted id o newImpl loc h env hcell hcls hvacant _ hok =>
      rw [served_built_iff hinv hw loc h env (acceptCtor o newImpl)]
      constructor
      · intro hready o' ho' _
        rw [hcell, Option.mem_some_iff] at ho'
        exact ho' ▸ hready rfl
      · intro hadds _
        exact hadds o hcell hok
  | refused id o newImpl loc h env hcell hcls hvacant _ hfail =>
      constructor
      · intro _ o' ho' hok
        rw [hcell, Option.mem_some_iff] at ho'
        exact absurd (ho' ▸ hok) hfail
      · intro _
        apply hw.of_same
        · rw [refused_ticker hinv.sound.count hcell hcls]
        · intro i p hp
          rw [refused_cell] at hp
          exact ⟨p, hp, rfl, rfl⟩
  | delivered id o ev hcell =>
      exact ⟨fun _ => trivial, fun _ => hw.commit hcell rfl rfl⟩
  | dispatched i b hb =>
      exact ⟨fun _ => trivial, fun _ => hw⟩
  | fired h hs =>
      rw [hinv.sound.fire_eq h]
      exact ⟨fun _ => trivial, fun _ => hw⟩

/-- A run leaves no TCP socket without its stack's timer exactly when each
TCP socket added while others live finds its own stack's task scheduled. -/
theorem served_iff_added_timed (as : List (Action n))
    (hperiodic : EachStep World.next RegistersPeriodic World.init as) :
    EachState World.next Served World.init as ↔
      EachStep World.next AddsTimed World.init as :=
  eachState_iff_eachStep tickInv_step served_step_iff init_tickInv
    (by intro id o api hcell; simp [init] at hcell) hperiodic

theorem served_sharedTick : EachState World.next Served World.init sharedTick :=
  (served_iff_added_timed sharedTick
    (eachStep_of_forall (by simp [sharedTick, RegistersPeriodic]) _)).mpr (by decide)

/-- A stream built before its stack is registered keeps a later one on the
same stack from getting a timer. -/
def lateStack : List (Action 32) :=
  [.construct 4096 1 (.stream 0) .quiet, .register 0 ⟨true, 250, 7⟩,
    .construct 8192 2 (.stream 0) .quiet]

theorem lateStack_not_served : ¬ EachState World.next Served World.init lateStack := by
  intro h
  have hend : ∃ w o, run World.next World.init lateStack = some w ∧
      w.objs.cell 1 = some o ∧ o.cls.isTCPAsynch = true ∧
      o.socket.api = some ⟨true, 250, 7⟩ ∧ w.ticker.ticks = [] :=
    ⟨_, _, rfl, rfl, rfl, rfl, rfl⟩
  obtain ⟨w, o, hrun, hcell, htcp, hapi, hticks⟩ := hend
  obtain ⟨tick, hmem, _⟩ := eachState_last h hrun 1 o _ hcell htcp hapi
  simp [hticks] at hmem

end World

end MbedSockets
