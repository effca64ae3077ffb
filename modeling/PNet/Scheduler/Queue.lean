import PNet.Lib.CircularTime
import PNet.Scheduler.Model

/-! # The scheduler as a queue of timers

What the scheduler is for, without the pool and its links: a list of pending timers in
order of expiry. A call takes at most one timer out, wherever it is, and then puts at
most one in, before the first timer that does not expire earlier.

As long as all expiries of a queue lie on one arc of the clock:

* `Queue.Effect.sorted`: the queue stays in order of expiry.
* `Queue.Effect.expired`: a call at or after `now` leaves, of the timers expired at
  `now`, those it does not take out, in their order, and adds none.
-/

namespace PNet.Scheduler

open CircularTime

/-- `a` does not expire after `b`. -/
def Timer.NotAfter (a b : Timer) : Prop := diff a.when b.when ≤ 0

instance : DecidableRel Timer.NotAfter :=
  fun a b => inferInstanceAs (Decidable (diff a.when b.when ≤ 0))

/-- The expiry is not after `now`. -/
def Timer.Expired (now : Time) (e : Timer) : Bool := decide (0 ≤ diff now e.when)

/-- The clock reading of a call that starts a timer. -/
def Call.now? : Call → Option Time
  | .add _ _ _ now => some now
  | .restart _ _ _ now => some now
  | _ => none

namespace Queue

/-- One timer is taken out, or none. -/
def Removes (q q' : List Timer) : Prop := q' = q ∨ ∃ e ∈ q, q' = q.erase e

/-- A timer that expires within half the clock's range is put in, or none. -/
def Inserts (now? : Option Time) (q q' : List Timer) : Prop :=
  q' = q ∨ ∃ now d e, now? = some now ∧ 1 ≤ d.toNat ∧ d.toNat ≤ 2 ^ 31 ∧
    e.when = now + d ∧ q' = q.orderedInsert Timer.NotAfter e

def Effect (c : Call) (q q' : List Timer) : Prop :=
  ∃ m, Removes q m ∧ Inserts c.now? m q'

theorem Effect.refl (c : Call) (q : List Timer) : Effect c q q :=
  ⟨q, Or.inl rfl, Or.inl rfl⟩

theorem Effect.of_removes {c : Call} {q q' : List Timer} (h : Removes q q') : Effect c q q' :=
  ⟨q', h, Or.inl rfl⟩

/-- In order of expiry, under the comparison that wraps. -/
def Sorted (q : List Timer) : Prop := q.Pairwise Timer.NotAfter

theorem Removes.subset {q q' : List Timer} (h : Removes q q') : ∀ e ∈ q', e ∈ q := by
  rcases h with rfl | ⟨e, -, rfl⟩
  · exact fun _ hx => hx
  · exact fun _ hx => List.mem_of_mem_erase hx

theorem Removes.sorted {q q' : List Timer} (h : Removes q q') (hs : Sorted q) : Sorted q' := by
  rcases h with rfl | ⟨e, -, rfl⟩
  · exact hs
  · exact hs.sublist List.erase_sublist

theorem Inserts.sorted {now? : Option Time} {q q' : List Timer} (h : Inserts now? q q')
    (hs : Sorted q) (harc : Arc (q'.map Timer.when)) : Sorted q' := by
  rcases h with rfl | ⟨now, d, e, -, -, -, -, rfl⟩
  · exact hs
  · have hmem : ∀ x, x = e ∨ x ∈ q → x.when ∈ (q.orderedInsert Timer.NotAfter e).map Timer.when :=
      fun x hx => List.mem_map_of_mem ((List.mem_orderedInsert _).mpr hx)
    have he := hmem e (Or.inl rfl)
    refine pairwise_orderedInsert hs ?_ ?_
    · intro b hb hab
      exact harc.total he (hmem b (Or.inr hb)) hab
    · intro b hb c hc hab hbc
      exact harc.trans he (hmem b (Or.inr hb)) (hmem c (Or.inr hc)) hab hbc

theorem Effect.sorted {c : Call} {q q' : List Timer} (h : Effect c q q') (hs : Sorted q)
    (harc : Arc (q'.map Timer.when)) : Sorted q' := by
  obtain ⟨m, hrem, hins⟩ := h
  exact hins.sorted (hrem.sorted hs) harc

/-! ## The timers expired at a given time -/

theorem Removes.filter {q q' : List Timer} (h : Removes q q') (hnd : q.Nodup)
    (p : Timer → Bool) : q'.filter p = (q.filter p).filter (· ∈ q') := by
  rcases h with rfl | ⟨e, -, rfl⟩
  · refine (List.filter_eq_self.mpr ?_).symm
    intro x hx
    simpa using (List.mem_filter.mp hx).1
  · rw [hnd.erase_eq_filter, List.filter_filter, List.filter_filter]
    refine List.filter_congr fun x hx => ?_
    simp [hx]
    grind

theorem Effect.expired {c : Call} {q q' : List Timer} {now : Time} (h : Effect c q q')
    (hnd : q.Nodup) (hclock : ∀ t, c.now? = some t → 0 ≤ diff t now)
    (harc : Arc ([now] ++ c.now?.toList ++ q'.map Timer.when)) :
    q'.filter (Timer.Expired now) = (q.filter (Timer.Expired now)).filter (· ∈ q') := by
  obtain ⟨m, hrem, hins⟩ := h
  have hm := hrem.filter hnd (Timer.Expired now)
  rcases hins with rfl | ⟨t, d, e, ht, hd, hd', hw, rfl⟩
  · exact hm
  · have hne : Timer.Expired now e = false := by
      have hlt := harc.add_after (a := t) (b := now) (d := d) (by simp [ht]) (by simp)
        (by simp [← hw]) (hclock t ht) hd hd'
      rw [← hw] at hlt
      simpa [Timer.Expired, diff] using hlt
    rw [filter_orderedInsert hne, hm]
    refine List.filter_congr fun x hx => ?_
    have hxe : x ≠ e := by
      rintro rfl
      simp [hne] at hx
    simp [hxe]

end Queue

end PNet.Scheduler
