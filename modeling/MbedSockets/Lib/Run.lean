import Mathlib.Tactic

/-!
Runs of a guarded step function. `next s a` is `some s'` when the action `a`
is possible in `s`, and `none` otherwise; a run is a list of actions. A run
that reaches an impossible action stops there, so a statement about a run is
a statement about the states and steps up to that point.

Two rules carry the developments below. The invariant rule derives a property
of every state from what one step preserves. The exactness rule turns a local
equivalence, "the step keeps the property if and only if it meets the
condition", into the equivalence for whole runs.
-/

namespace MbedSockets.Lib.Run

variable {σ α : Type*} (next : σ → α → Option σ)

/-- The state after all actions, when each of them is possible. -/
def run : σ → List α → Option σ
  | s, [] => some s
  | s, a :: as => (next s a).bind fun s' => run s' as

/-- `P` holds in every state that the run visits, the first one included. -/
def EachState (P : σ → Prop) : σ → List α → Prop
  | s, [] => P s
  | s, a :: as => P s ∧ ∀ s', next s a = some s' → EachState P s' as

/-- Every step that the run takes starts in a state and with an action that
satisfy `C`. -/
def EachStep (C : σ → α → Prop) : σ → List α → Prop
  | _, [] => True
  | s, a :: as => ∀ s', next s a = some s' → C s a ∧ EachStep C s' as

/-- A condition on steps can be checked by running. -/
instance EachStep.decidable (C : σ → α → Prop) [∀ s a, Decidable (C s a)] :
    (s : σ) → (as : List α) → Decidable (EachStep next C s as)
  | _, [] => isTrue trivial
  | s, a :: as =>
    match h : next s a with
    | none => isTrue (fun s' hs' => by rw [h] at hs'; cases hs')
    | some t =>
      have := EachStep.decidable C t as
      decidable_of_iff (C s a ∧ EachStep next C t as)
        ⟨fun hc s' hs' => Option.some.inj (h.symm.trans hs') ▸ hc, fun hc => hc t h⟩

variable {next}

theorem run_append (s : σ) (as bs : List α) :
    run next s (as ++ bs) = (run next s as).bind fun s' => run next s' bs := by
  induction as generalizing s with
  | nil => rfl
  | cons a as ih => cases h : next s a <;> simp [run, h, ih]

theorem eachState_head {P : σ → Prop} {s : σ} {as : List α}
    (h : EachState next P s as) : P s := by
  cases as with
  | nil => exact h
  | cons a as => exact h.1

/-- The recursive definition says what it should: `P` holds after every
prefix of the run. -/
theorem eachState_iff {P : σ → Prop} {s : σ} {as : List α} :
    EachState next P s as ↔
      ∀ first, first <+: as → ∀ s', run next s first = some s' → P s' := by
  constructor
  · intro h first hprefix
    induction first generalizing s as with
    | nil =>
        intro s' hrun
        simp only [run, Option.some.injEq] at hrun
        exact hrun ▸ eachState_head h
    | cons a first ih =>
        intro s' hrun
        obtain ⟨rest, rfl⟩ := hprefix
        obtain ⟨t, ht, hrest⟩ := Option.bind_eq_some_iff.mp hrun
        exact ih (h.2 t ht) ⟨rest, rfl⟩ s' hrest
  · intro h
    induction as generalizing s with
    | nil => exact h [] List.prefix_rfl s rfl
    | cons a as ih =>
        refine ⟨h [] (List.nil_prefix) s rfl, ?_⟩
        intro t ht
        apply ih
        intro first hprefix s' hrun
        refine h (a :: first) (List.cons_prefix_cons.mpr ⟨rfl, hprefix⟩) s' ?_
        simpa [run, ht] using hrun

theorem eachState_last {P : σ → Prop} {s s' : σ} {as : List α}
    (h : EachState next P s as) (hrun : run next s as = some s') : P s' :=
  eachState_iff.mp h as List.prefix_rfl s' hrun

theorem EachState.mono {P Q : σ → Prop} {s : σ} {as : List α}
    (hPQ : ∀ s, P s → Q s) (h : EachState next P s as) :
    EachState next Q s as := by
  rw [eachState_iff] at h ⊢
  intro first hprefix s' hrun
  exact hPQ s' (h first hprefix s' hrun)

theorem EachStep.cons {C : σ → α → Prop} {s t : σ} {a : α} {as : List α}
    (hstep : next s a = some t) (hc : C s a) (hrest : EachStep next C t as) :
    EachStep next C s (a :: as) := by
  intro s' hs'
  obtain rfl : t = s' := Option.some.inj (hstep.symm.trans hs')
  exact ⟨hc, hrest⟩

theorem EachStep.and {C D : σ → α → Prop} {s : σ} {as : List α}
    (hC : EachStep next C s as) (hD : EachStep next D s as) :
    EachStep next (fun s a => C s a ∧ D s a) s as := by
  induction as generalizing s with
  | nil => trivial
  | cons a as ih =>
      intro s' hstep
      obtain ⟨hc, hcs⟩ := hC s' hstep
      obtain ⟨hd, hds⟩ := hD s' hstep
      exact ⟨⟨hc, hd⟩, ih hcs hds⟩

theorem eachStep_of_forall {C : σ → α → Prop} {as : List α}
    (h : ∀ a ∈ as, ∀ s, C s a) (s : σ) : EachStep next C s as := by
  induction as generalizing s with
  | nil => trivial
  | cons a as ih =>
      intro s' _
      exact ⟨h a (by simp) s, ih (fun b hb => h b (by simp [hb])) s'⟩

theorem eachStep_true (s : σ) (as : List α) : EachStep next (fun _ _ => True) s as :=
  eachStep_of_forall (fun _ _ _ => trivial) s

/-- The invariant rule: what every allowed step preserves holds in every
state of a run of allowed steps. -/
theorem eachState_of_step {I : σ → Prop} {A : σ → α → Prop}
    (hstep : ∀ s a s', I s → A s a → next s a = some s' → I s')
    {s : σ} {as : List α} (hinit : I s) (hallowed : EachStep next A s as) :
    EachState next I s as := by
  induction as generalizing s with
  | nil => exact hinit
  | cons a as ih =>
      refine ⟨hinit, ?_⟩
      intro s' hs'
      obtain ⟨ha, hrest⟩ := hallowed s' hs'
      exact ih (hstep s a s' hinit ha hs') hrest

/-- The invariant rule where the invariant speaks of an abstract state `t` beside
the state itself. -/
theorem eachState_exists {τ : Type*} {I : τ → σ → Prop} {A : σ → α → Prop}
    (hstep : ∀ t s a s', I t s → A s a → next s a = some s' → ∃ t', I t' s')
    {t : τ} {s : σ} {as : List α} (hinit : I t s) (hallowed : EachStep next A s as) :
    EachState next (fun s => ∃ t, I t s) s as :=
  eachState_of_step (fun s a s' ⟨t, hinv⟩ ha hs' => hstep t s a s' hinv ha hs') ⟨t, hinit⟩
    hallowed

/-- The potential rule: if every allowed action in `p` raises a potential and no
allowed action lowers it, the potential counts the actions in `p`. -/
theorem potential {τ : Type*} {I : τ → σ → Prop} {V : τ → σ → Nat} {A : σ → α → Prop}
    (p : α → Bool)
    (hstep : ∀ t s a s', I t s → A s a → next s a = some s' →
      ∃ t', I t' s' ∧ V t s + (p a).toNat ≤ V t' s')
    {t : τ} {s s' : σ} {as : List α} (hinit : I t s) (hallowed : EachStep next A s as)
    (hrun : run next s as = some s') :
    ∃ t', I t' s' ∧ V t s + as.countP p ≤ V t' s' := by
  induction as generalizing t s with
  | nil =>
      obtain rfl : s = s' := Option.some.inj hrun
      exact ⟨t, hinit, by simp⟩
  | cons a as ih =>
      obtain ⟨u, hu, hrest⟩ := Option.bind_eq_some_iff.mp hrun
      obtain ⟨ha, hmore⟩ := hallowed u hu
      obtain ⟨t', hinv, hpaid⟩ := hstep t s a u hinit ha hu
      obtain ⟨t'', hinv', hpaid'⟩ := ih hinv hmore hrest
      refine ⟨t'', hinv', ?_⟩
      rw [List.countP_cons]
      cases hp : p a <;> simp_all <;> omega

/-- The progress rule: if an allowed action can raise a bounded potential as long
as the goal is not met, there is a run of allowed actions that meets the goal. -/
theorem reaches_goal {τ : Type*} {I : τ → σ → Prop} {V : τ → σ → Nat} {A : σ → α → Prop}
    {G : σ → Prop} {bound : Nat} (hbound : ∀ t s, I t s → V t s ≤ bound)
    (hrises : ∀ t s, I t s →
      G s ∨ ∃ a s' t', A s a ∧ next s a = some s' ∧ I t' s' ∧ V t s < V t' s')
    {t : τ} {s : σ} (hinit : I t s) :
    ∃ as s', EachStep next A s as ∧ run next s as = some s' ∧ G s' := by
  -- By induction on what the potential can still rise.
  induction hleft : bound - V t s using Nat.strong_induction_on generalizing t s with
  | _ left ih =>
      rcases hrises t s hinit with hgoal | ⟨a, s', t', ha, hnext, hinv, hlt⟩
      · exact ⟨[], s, trivial, rfl, hgoal⟩
      · have hle := hbound t' s' hinv
        obtain ⟨as, u, hallowed, hrun, hgoal⟩ := ih (bound - V t' s') (by omega) hinv rfl
        exact ⟨a :: as, u, .cons hnext ha hallowed, by rw [run, hnext]; exact hrun, hgoal⟩

/-- The exactness rule. `J` is an auxiliary invariant of the allowed steps.
When an allowed step from a good state ends in a good state exactly if it
meets `C`, a run stays good exactly if all its steps meet `C`. -/
theorem eachState_iff_eachStep {J P : σ → Prop} {A C : σ → α → Prop}
    (hinv : ∀ s a s', J s → A s a → next s a = some s' → J s')
    (hexact : ∀ s a s', J s → P s → A s a → next s a = some s' →
      (P s' ↔ C s a))
    {s : σ} {as : List α} (hJ : J s) (hP : P s)
    (hallowed : EachStep next A s as) :
    EachState next P s as ↔ EachStep next C s as := by
  induction as generalizing s with
  | nil => exact ⟨fun _ => trivial, fun _ => hP⟩
  | cons a as ih =>
      constructor
      · rintro ⟨_, hrest⟩ s' hs'
        obtain ⟨ha, hmore⟩ := hallowed s' hs'
        have hP' : P s' := eachState_head (hrest s' hs')
        exact ⟨(hexact s a s' hJ hP ha hs').mp hP',
          (ih (hinv s a s' hJ ha hs') hP' hmore).mp (hrest s' hs')⟩
      · intro hcond
        refine ⟨hP, ?_⟩
        intro s' hs'
        obtain ⟨ha, hmore⟩ := hallowed s' hs'
        obtain ⟨hc, hcs⟩ := hcond s' hs'
        have hP' : P s' := (hexact s a s' hJ hP ha hs').mpr hc
        exact (ih (hinv s a s' hJ ha hs') hP' hmore).mpr hcs

/-- The exactness rule where no auxiliary invariant is needed. -/
theorem eachState_iff_eachStep_of_local {P : σ → Prop} {C : σ → α → Prop}
    (hexact : ∀ s a s', P s → next s a = some s' → (P s' ↔ C s a))
    {s : σ} (as : List α) (hP : P s) :
    EachState next P s as ↔ EachStep next C s as :=
  eachState_iff_eachStep (J := fun _ => True) (A := fun _ _ => True)
    (fun _ _ _ _ _ _ => trivial) (fun s a s' _ hP _ h => hexact s a s' hP h) trivial hP
    (eachStep_true _ _)

/-! ### Ghost state -/

section ghost

variable {τ : Type*} (next) (upd : σ → α → τ → τ)

/-- The same runs with a record that each step updates and none depends on. -/
def ghosted (s : σ × τ) (a : α) : Option (σ × τ) :=
  (next s.1 a).map fun s' => (s', upd s.1 a s.2)

variable {next upd}

theorem ghosted_eq_some {s s' : σ × τ} {a : α} (h : ghosted next upd s a = some s') :
    next s.1 a = some s'.1 ∧ s'.2 = upd s.1 a s.2 := by
  obtain ⟨t, ht, rfl⟩ := Option.map_eq_some_iff.mp h
  exact ⟨ht, rfl⟩

end ghost

/-! ### Simulation -/

section simulation

variable {τ β : Type*} (obs : σ → α → List β) (astep : τ → β → τ)

variable (next) in
/-- What an abstract machine gets to see of a run. -/
def observed : σ → List α → List β
  | _, [] => []
  | s, a :: as => obs s a ++ (next s a).elim [] (fun s' => observed s' as)

/-- The history rule: a relation between states and lists that each step keeps by
appending what is observed of it is kept by every run. -/
theorem observed_append {R : σ → List β → Prop}
    (hstep : ∀ s a s' l, R s l → next s a = some s' → R s' (l ++ obs s a))
    {s s' : σ} {l : List β} {as : List α} (hR : R s l) (hrun : run next s as = some s') :
    R s' (l ++ observed next obs s as) := by
  induction as generalizing s l with
  | nil =>
      obtain rfl : s = s' := Option.some.inj hrun
      simpa [observed] using hR
  | cons a as ih =>
      obtain ⟨u, hu, hrest⟩ := Option.bind_eq_some_iff.mp hrun
      rw [observed, hu, Option.elim_some, ← List.append_assoc]
      exact ih (hstep s a u l hR hu) hrest

/-- If each allowed step is simulated by the abstract machine on what is
observed of it, then so is every run of allowed steps. -/
theorem simulation {R : σ → τ → Prop} {A : σ → α → Prop}
    (hsim : ∀ s a s' t, R s t → A s a → next s a = some s' →
      R s' ((obs s a).foldl astep t))
    {s s' : σ} {t : τ} {as : List α} (hR : R s t) (hrun : run next s as = some s')
    (hallowed : EachStep next A s as) :
    R s' ((observed next obs s as).foldl astep t) := by
  induction as generalizing s t with
  | nil =>
      simp only [run, Option.some.injEq] at hrun
      simpa [observed, ← hrun] using hR
  | cons a as ih =>
      obtain ⟨u, hu, hrest⟩ := Option.bind_eq_some_iff.mp hrun
      obtain ⟨ha, hmore⟩ := hallowed u hu
      simp only [observed, hu, Option.elim_some, List.foldl_append]
      exact ih (hsim s a u t hR ha hu) hrest hmore

end simulation

end MbedSockets.Lib.Run
