import Mathlib.Data.List.Infix

/-! # Runs of a system

A system takes steps: `step s e` is the state after the event `e`, or `none` when the program has
ended there. A condition on the steps of a run is one on their events, each with the state that it
meets.

* `Runs.invariant`: what each step keeps, while the condition is met, holds after the run.
* `Runs.always_iff`: a property holds all the time in exactly the runs that meet a condition, when one
  step keeps it exactly when it meets the condition.
* `Runs.completes_iff`: the same for a program that has to run on, too.
* `Runs.along_iff`: the same for a property of the steps themselves.
-/

namespace PNet.Runs

variable {σ ε : Type} (step : σ → ε → Option σ)

/-- The state after a run. -/
def run (s : σ) : List ε → Option σ
  | [] => some s
  | e :: es => (step s e).bind fun s' => run s' es

/-- All steps of the run are such that `p` holds of the state they start in. -/
def Along (p : σ → ε → Prop) : σ → List ε → Prop
  | _, [] => True
  | s, e :: es => p s e ∧ ∀ s', step s e = some s' → Along p s' es

/-- A run can be checked step by step. -/
def decidableAlong (p : σ → ε → Prop) [∀ s e, Decidable (p s e)] :
    ∀ (es : List ε) (s : σ), Decidable (Along step p s es)
  | [], _ => isTrue trivial
  | e :: es, s =>
    match hstep : step s e with
    | none => decidable_of_iff (p s e) ⟨fun h => ⟨h, by simp [hstep]⟩, fun h => h.1⟩
    | some s' =>
      have := decidableAlong p es s'
      decidable_of_iff (p s e ∧ Along step p s' es)
        ⟨fun h => ⟨h.1, by simp [hstep, h.2]⟩, fun h => ⟨h.1, h.2 s' hstep⟩⟩

instance (p : σ → ε → Prop) [∀ s e, Decidable (p s e)] (s : σ) (es : List ε) :
    Decidable (Along step p s es) := decidableAlong step p es s

variable {step} {p : σ → ε → Prop} {I : σ → Prop} {s s' : σ} {es : List ε}

theorem run_append (s : σ) (es es' : List ε) :
    run step s (es ++ es') = (run step s es).bind fun s' => run step s' es' := by
  induction es generalizing s with
  | nil => rfl
  | cons e es ih =>
    rw [List.cons_append, run, run]
    cases step s e with
    | none => rfl
    | some s1 => exact ih s1

/-- The last step of a run. -/
theorem Along.last {e : ε} (hp : Along step p s (es ++ [e])) (hrun : run step s es = some s') :
    p s' e := by
  induction es generalizing s with
  | nil =>
    obtain rfl : s = s' := Option.some.inj hrun
    exact hp.1
  | cons e' es ih =>
    rcases Option.bind_eq_some_iff.mp hrun with ⟨s1, hs1, hrest⟩
    exact ih (hp.2 s1 hs1) hrest

theorem invariant (hstep : ∀ s e s', I s → p s e → step s e = some s' → I s') (hI : I s)
    (hp : Along step p s es) (hrun : run step s es = some s') : I s' := by
  induction es generalizing s with
  | nil =>
    obtain rfl : s = s' := Option.some.inj hrun
    exact hI
  | cons e es ih =>
    rcases Option.bind_eq_some_iff.mp hrun with ⟨s1, hs1, hrest⟩
    exact ih (hstep s e s1 hI hp.1 hs1) (hp.2 s1 hs1) hrest

/-- Without a condition on the steps. -/
theorem invariant_of_step (hstep : ∀ s e s', I s → step s e = some s' → I s') (hI : I s)
    (hrun : run step s es = some s') : I s' := by
  induction es generalizing s with
  | nil =>
    obtain rfl : s = s' := Option.some.inj hrun
    exact hI
  | cons e es ih =>
    rcases Option.bind_eq_some_iff.mp hrun with ⟨s1, hs1, hrest⟩
    exact ih (hstep s e s1 hI hs1) hrest

theorem Along.of_prefix {es' : List ε} (hp : Along step p s es) (h : es' <+: es) :
    Along step p s es' := by
  induction es' generalizing s es with
  | nil => trivial
  | cons e es' ih =>
    rcases h with ⟨t, rfl⟩
    exact ⟨hp.1, fun s1 hs1 => ih (hp.2 s1 hs1) ⟨t, rfl⟩⟩

/-- Two conditions on the steps of a run. -/
theorem Along.and {q : σ → ε → Prop} (hp : Along step p s es) (hq : Along step q s es) :
    Along step (fun s e => p s e ∧ q s e) s es := by
  induction es generalizing s with
  | nil => trivial
  | cons e es ih => exact ⟨⟨hp.1, hq.1⟩, fun s1 hs1 => ih (hp.2 s1 hs1) (hq.2 s1 hs1)⟩

/-- A run that goes on. -/
theorem Along.append {es' : List ε} (hp : Along step p s es)
    (hp' : ∀ s', run step s es = some s' → Along step p s' es') :
    Along step p s (es ++ es') := by
  induction es generalizing s with
  | nil => exact hp' s rfl
  | cons e es ih =>
    refine ⟨hp.1, ?_⟩
    intro s1 hs1
    apply ih (hp.2 s1 hs1)
    intro s' hrun
    apply hp' s'
    rw [run, hs1]
    exact hrun

/-- While the condition is met, the program does not end. -/
theorem completes (hstep : ∀ s e, I s → p s e → ∃ s', step s e = some s' ∧ I s') (hI : I s)
    (hp : Along step p s es) : ∃ s', run step s es = some s' ∧ I s' := by
  induction es generalizing s with
  | nil => exact ⟨s, rfl, hI⟩
  | cons e es ih =>
    rcases hstep s e hI hp.1 with ⟨s1, hs1, hI1⟩
    rcases ih hI1 (hp.2 s1 hs1) with ⟨s', hs', hI'⟩
    refine ⟨s', ?_, hI'⟩
    rw [run, hs1]
    exact hs'

theorem along_true (s : σ) (es : List ε) : Along step (fun _ _ => True) s es := by
  induction es generalizing s with
  | nil => trivial
  | cons e es ih => exact ⟨trivial, fun s' _ => ih s'⟩

/-- While the condition is met, the invariant holds; the first step that does not meet it ends `Q`.
All steps of the run are known to be such that `d` holds. -/
theorem always_iff_of {Q : σ → Prop} {d : σ → ε → Prop} (hI : I s) (hd : Along step d s es)
    (hQ : ∀ s, I s → Q s)
    (hstep : ∀ s e s', I s → d s e → step s e = some s' → (Q s' ↔ p s e) ∧ (p s e → I s'))
    (hstuck : ∀ s e, I s → d s e → step s e = none → p s e) :
    (∀ es' s', es' <+: es → run step s es' = some s' → Q s') ↔ Along step p s es := by
  induction es generalizing s with
  | nil =>
    refine ⟨fun _ => trivial, ?_⟩
    intro _ es' s' hprefix hrun
    obtain rfl := List.prefix_nil.mp hprefix
    obtain rfl : s = s' := Option.some.inj hrun
    exact hQ s hI
  | cons e es ih =>
    constructor
    · intro h
      have hp : p s e := by
        cases hs : step s e with
        | none => exact hstuck s e hI hd.1 hs
        | some s' =>
          have hrun : run step s [e] = some s' := by rw [run, hs]; rfl
          exact (hstep s e s' hI hd.1 hs).1.mp (h [e] s' ⟨es, rfl⟩ hrun)
      refine ⟨hp, ?_⟩
      intro s' hs
      apply (ih ((hstep s e s' hI hd.1 hs).2 hp) (hd.2 s' hs)).mp
      intro es' s2 hprefix hrun
      apply h (e :: es') s2 (List.cons_prefix_cons.mpr ⟨rfl, hprefix⟩)
      rw [run, hs]
      exact hrun
    · rintro ⟨hp, hrest⟩ es' s2 hprefix hrun
      cases es' with
      | nil =>
        obtain rfl : s = s2 := Option.some.inj hrun
        exact hQ s hI
      | cons e' es' =>
        obtain ⟨rfl, htail⟩ := List.cons_prefix_cons.mp hprefix
        rcases Option.bind_eq_some_iff.mp hrun with ⟨s1, hs1, hrun⟩
        exact (ih ((hstep s e' s1 hI hd.1 hs1).2 hp) (hd.2 s1 hs1)).mpr (hrest s1 hs1) es' s2 htail
          hrun

/-- Of any run. -/
theorem always_iff {Q : σ → Prop} (hI : I s) (hQ : ∀ s, I s → Q s)
    (hstep : ∀ s e s', I s → step s e = some s' → (Q s' ↔ p s e) ∧ (p s e → I s'))
    (hstuck : ∀ s e, step s e = none → p s e) :
    (∀ es' s', es' <+: es → run step s es' = some s' → Q s') ↔ Along step p s es :=
  always_iff_of hI (along_true s es) hQ (fun s e s' h _ => hstep s e s' h) fun s e _ _ => hstuck s e

/-- The program runs on and `Q` holds, in exactly the runs that meet the condition: one step keeps the
invariant when it meets the condition, and ends the program or `Q` when it does not. -/
theorem completes_iff {Q : σ → Prop} (hI : I s) (hQ : ∀ s, I s → Q s)
    (hstep : ∀ s e, I s → (p s e ∧ ∃ s', step s e = some s' ∧ I s') ∨
      (¬ p s e ∧ ∀ s', step s e = some s' → ¬ Q s')) :
    (∀ es', es' <+: es → ∃ s', run step s es' = some s' ∧ Q s') ↔ Along step p s es := by
  constructor
  · intro h
    induction es generalizing s with
    | nil => trivial
    | cons e es ih =>
      -- The first step meets the condition, since it goes on and keeps `Q`.
      rcases h [e] ⟨es, rfl⟩ with ⟨s1, hrun, hQ1⟩
      have hs1 : step s e = some s1 := by
        rcases Option.bind_eq_some_iff.mp hrun with ⟨s2, hs2, hlast⟩
        obtain rfl := Option.some.inj hlast
        exact hs2
      rcases hstep s e hI with ⟨hp, s2, hs2, hI2⟩ | ⟨-, hends⟩
      swap
      · exact absurd hQ1 (hends s1 hs1)
      obtain rfl : s1 = s2 := Option.some.inj (hs1.symm.trans hs2)
      refine ⟨hp, ?_⟩
      intro s' hs'
      obtain rfl : s1 = s' := Option.some.inj (hs1.symm.trans hs')
      apply ih hI2
      intro es' hprefix
      rcases h (e :: es') (List.cons_prefix_cons.mpr ⟨rfl, hprefix⟩) with ⟨s', hs', hQ'⟩
      refine ⟨s', ?_, hQ'⟩
      rw [run, hs1] at hs'
      exact hs'
  · intro hp es' hprefix
    have hkeep : ∀ s e, I s → p s e → ∃ s', step s e = some s' ∧ I s' := by
      intro s e hI hp
      rcases hstep s e hI with ⟨-, hnext⟩ | ⟨hno, -⟩
      · exact hnext
      · exact absurd hp hno
    rcases completes hkeep hI (hp.of_prefix hprefix) with ⟨s', hs', hI'⟩
    exact ⟨s', hs', hQ s' hI'⟩

/-- A condition on the steps of a run follows from one that keeps the invariant. -/
theorem Along.of_invariant {q : σ → ε → Prop} (hI : I s) (hpq : ∀ s e, I s → p s e → q s e)
    (hkeep : ∀ s e s', I s → p s e → step s e = some s' → I s') (hp : Along step p s es) :
    Along step q s es := by
  induction es generalizing s with
  | nil => trivial
  | cons e es ih =>
    refine ⟨hpq s e hI hp.1, ?_⟩
    intro s' hs
    exact ih (hkeep s e s' hI hp.1 hs) (hp.2 s' hs)

/-- Conditions that are the same as long as the invariant holds, which one of them keeps. -/
theorem along_iff {q : σ → ε → Prop} (hI : I s) (hiff : ∀ s e, I s → (q s e ↔ p s e))
    (hkeep : ∀ s e s', I s → p s e → step s e = some s' → I s') :
    Along step q s es ↔ Along step p s es := by
  constructor
  · intro hq
    apply hq.of_invariant hI
    · exact fun s e hI => (hiff s e hI).mp
    · exact fun s e s' hI hq => hkeep s e s' hI ((hiff s e hI).mp hq)
  · intro hp
    exact hp.of_invariant hI (fun s e hI => (hiff s e hI).mpr) hkeep

/-- Conditions that imply each other at each step. -/
theorem Along.mono {q : σ → ε → Prop} (hpq : ∀ s e, p s e → q s e) (hp : Along step p s es) :
    Along step q s es := by
  induction es generalizing s with
  | nil => trivial
  | cons e es ih => exact ⟨hpq s e hp.1, fun s1 hs1 => ih (hp.2 s1 hs1)⟩

end PNet.Runs
