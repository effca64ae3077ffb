import Mathlib.Data.List.Range
import Mathlib.Logic.Function.Iterate

/-! # Receiving in sequence

A receiver of numbered messages that expects one number at a time: a message with the
expected number is accepted, and the next number is expected from then on; every other
message is passed over. `accepted` is what such a receiver takes from a stream with losses,
duplicates and retransmissions, and `expected` the number it waits for.
-/

namespace StopAndWait

variable {φ σ : Type*} [DecidableEq σ] (seq : φ → σ) (next : σ → σ)

def expected : σ → List φ → σ
  | e, [] => e
  | e, f :: fs => expected (if seq f = e then next e else e) fs

def accepted : σ → List φ → List φ
  | _, [] => []
  | e, f :: fs => if seq f = e then f :: accepted (next e) fs else accepted e fs

theorem expected_concat (e : σ) (fs : List φ) (f : φ) :
    expected seq next e (fs ++ [f]) =
      if seq f = expected seq next e fs then next (expected seq next e fs)
      else expected seq next e fs := by
  induction fs generalizing e with
  | nil => rfl
  | cons g fs ih => exact ih _

theorem accepted_concat (e : σ) (fs : List φ) (f : φ) :
    accepted seq next e (fs ++ [f]) =
      accepted seq next e fs ++ if seq f = expected seq next e fs then [f] else [] := by
  induction fs generalizing e with
  | nil => rfl
  | cons g fs ih =>
    rw [List.cons_append, accepted, accepted, expected]
    split
    · rw [ih, List.cons_append]
    · rw [ih]

/-- The accepted messages have consecutive numbers, each number once. -/
theorem accepted_numbers (e : σ) (fs : List φ) :
    (accepted seq next e fs).map seq =
      (List.range (accepted seq next e fs).length).map fun i => next^[i] e := by
  induction fs generalizing e with
  | nil => rfl
  | cons g fs ih =>
    rw [accepted]
    split
    · next h =>
      rw [List.map_cons, ih, List.length_cons, List.range_succ_eq_map, List.map_cons, List.map_map]
      simp [h, Function.comp_def]
    · exact ih e

end StopAndWait
