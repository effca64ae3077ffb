import Mathlib.Tactic.Common

/-! # A lease

One client at a time holds a resource until its lease expires, and every use by the holder renews
the lease. It lapses when somebody looks at the clock and finds it over.

* `Run.until_over`: while its holder does not use the resource, the lease stays as it is until the
  clock is found to be over its expiry.
* `Run.kept_or_free`: while nobody uses the resource, the lease stays or lapses.
-/

/-- The holder, and when its lease expires. -/
structure Lease (α τ : Type*) where
  holder : α
  expiry : τ

namespace Lease

variable {α τ : Type*}

/-- What may happen to a lease. -/
inductive Op (α τ : Type*) where
  | use (client : α) (expiry : τ)
  | look (now : τ)
  | other

/-- `expired now expiry`: at the reading `now` the lease has expired. -/
inductive Step (expired : τ → τ → Prop) : Option (Lease α τ) → Op α τ → Option (Lease α τ) → Prop
  | take (a : α) (w : τ) : Step expired none (.use a w) (some ⟨a, w⟩)
  | renew (a : α) (v w : τ) : Step expired (some ⟨a, v⟩) (.use a w) (some ⟨a, w⟩)
  | lapse (a : α) (w now : τ) (h : expired now w) : Step expired (some ⟨a, w⟩) (.look now) none
  | stay (l : Option (Lease α τ)) (now : τ) : Step expired l (.look now) l
  | other (l : Option (Lease α τ)) : Step expired l .other l

inductive Run (expired : τ → τ → Prop) :
    Option (Lease α τ) → List (Op α τ) → Option (Lease α τ) → Prop
  | nil (l : Option (Lease α τ)) : Run expired l [] l
  | cons {l m n : Option (Lease α τ)} {op : Op α τ} {ops : List (Op α τ)}
      (hstep : Step expired l op m) (hrun : Run expired m ops n) : Run expired l (op :: ops) n

section
variable {expired : τ → τ → Prop} {l l' : Option (Lease α τ)} {a b : α} {v w : τ} {op : Op α τ}
  {ops : List (Op α τ)}

/-- Who uses the resource holds it. -/
theorem Step.of_use (h : Step expired l (.use a w) l') : l' = some ⟨a, w⟩ := by
  cases h with
  | take => rfl
  | renew => rfl

/-- What does not use a free resource leaves it free. -/
theorem Step.none_of_free (h : Step expired none op l') (hop : ∀ c u, op ≠ .use c u) : l' = none := by
  cases h with
  | take a w => exact absurd rfl (hop a w)
  | stay => rfl
  | other => rfl

/-- What the holder does not do leaves the lease as it is, or ends it because it has expired. -/
theorem Step.until_over (h : Step expired (some ⟨a, w⟩) op l') (hop : ∀ u, op ≠ .use a u) :
    l' = some ⟨a, w⟩ ∨ l' = none ∧ ∃ now, op = .look now ∧ expired now w := by
  cases h with
  | renew _ _ u => exact absurd rfl (hop u)
  | lapse _ _ now hover => exact .inr ⟨rfl, now, rfl, hover⟩
  | stay => exact .inl rfl
  | other => exact .inl rfl

theorem Run.until_over (h : Run expired (some ⟨a, w⟩) ops l') (hops : ∀ u, .use a u ∉ ops) :
    l' = some ⟨a, w⟩ ∨ ∃ now, .look now ∈ ops ∧ expired now w := by
  induction ops with
  | nil =>
    cases h
    exact .inl rfl
  | cons op ops ih =>
    cases h with
    | cons hstep hrun =>
      rcases hstep.until_over (fun u heq => hops u (heq ▸ List.mem_cons_self)) with
        rfl | ⟨-, now, rfl, hover⟩
      · rcases ih hrun (fun u hu => hops u (List.mem_cons_of_mem _ hu)) with
          hl | ⟨now, hlook, hover⟩
        · exact .inl hl
        · exact .inr ⟨now, List.mem_cons_of_mem _ hlook, hover⟩
      · exact .inr ⟨now, List.mem_cons_self, hover⟩

theorem Run.none_of_free (h : Run expired none ops l') (hops : ∀ c u, .use c u ∉ ops) :
    l' = none := by
  induction ops with
  | nil =>
    cases h
    rfl
  | cons op ops ih =>
    cases h with
    | cons hstep hrun =>
      obtain rfl := hstep.none_of_free (fun c u heq => hops c u (heq ▸ List.mem_cons_self))
      exact ih hrun (fun c u hu => hops c u (List.mem_cons_of_mem _ hu))

theorem Run.kept_or_free (h : Run expired (some ⟨a, w⟩) ops l') (hops : ∀ c u, .use c u ∉ ops) :
    l' = some ⟨a, w⟩ ∨ l' = none := by
  induction ops with
  | nil =>
    cases h
    exact .inl rfl
  | cons op ops ih =>
    have hrest : ∀ c u, .use c u ∉ ops := fun c u hu => hops c u (List.mem_cons_of_mem _ hu)
    cases h with
    | cons hstep hrun =>
      rcases hstep.until_over (fun u heq => hops a u (heq ▸ List.mem_cons_self)) with
        rfl | ⟨rfl, -⟩
      · exact ih hrun hrest
      · exact .inr (hrun.none_of_free hrest)

end

end Lease
