import Mathlib.Algebra.BigOperators.Group.List.Basic
import Mathlib.Algebra.Group.Prod

/-! Counters with a change since they were last read. A reading gives the total and the
change and clears the change; of all the readings together nothing is counted twice and
nothing is missing. The counts may wrap around, so they are elements of any group. -/

namespace RmwOpendds.Library

structure Meter (G : Type*) where
  total : G
  unread : G
  /-- How many changes there were since the last reading. -/
  changes : ℕ
  deriving DecidableEq

namespace Meter

variable {G : Type*} [AddCommGroup G]

def zero : Meter G := ⟨0, 0, 0⟩

def add (m : Meter G) (d : G) : Meter G := ⟨m.total + d, m.unread + d, m.changes + 1⟩

def read (m : Meter G) : Meter G := ⟨m.total, 0, 0⟩

structure Readings (m : Meter G) (readings : List (G × G)) : Prop where
  conserved : (readings.map Prod.snd).sum + m.unread = m.total
  running : ∀ earlier r later, readings = earlier ++ r :: later →
    r.1 = ((earlier ++ [r]).map Prod.snd).sum
  silent : m.changes = 0 → m.unread = 0

namespace Readings

variable {m : Meter G} {readings : List (G × G)}

theorem start : (zero : Meter G).Readings [] := ⟨by simp [zero], by simp, fun _ => rfl⟩

theorem add (h : m.Readings readings) (d : G) : (m.add d).Readings readings := by
  refine ⟨?_, h.running, fun none => absurd none (Nat.succ_ne_zero _)⟩
  rw [Meter.add, ← add_assoc, h.conserved]

theorem read (h : m.Readings readings) : m.read.Readings (readings ++ [(m.total, m.unread)]) := by
  refine ⟨?_, fun earlier r later same => ?_, fun _ => rfl⟩
  · simp [Meter.read, h.conserved]
  · -- the new reading is the last one, or it is behind the one in question
    obtain rfl | ⟨later', last, rfl⟩ := List.eq_nil_or_concat' later
    · obtain ⟨rfl, one⟩ := List.append_inj' same rfl
      obtain rfl := List.singleton_inj.mp one
      simp [h.conserved]
    · rw [← List.cons_append, ← List.append_assoc] at same
      exact h.running earlier r later' (List.append_inj' same rfl).1

end Readings
end Meter
end RmwOpendds.Library
