import Mathlib
import RmwOpendds.Library.Exits
import RmwOpendds.Library.OrderedMap

/-! Memory that a program manages by hand: blocks are allocated, read, overwritten and
freed, and touching a block that is not there is a fault. `Owns` says which blocks there
are; its rules follow a program through them, whatever other blocks stand beside. A
program without faults frees nothing twice, and one that leaves what it found leaks
nothing. -/

namespace RmwOpendds.Library

open Std

/-- Undefined behaviour: a block that is not there, or a value that was never set. -/
inductive MemoryFault where
  | dangling | indeterminate
  deriving DecidableEq, Repr

structure Memory (α : Type) where
  blocks : ExtTreeMap ℕ α
  next : ℕ
  fresh : ∀ a, a ∈ blocks → a < next

abbrev Program (α β : Type) := EStateM MemoryFault (Memory α) β

namespace Memory

variable {α β : Type}

def empty : Memory α := ⟨∅, 0, by simp⟩

def insertNext (m : Memory α) (v : α) : Memory α where
  blocks := m.blocks.insert m.next v
  next := m.next + 1
  fresh a member := by
    rw [ExtTreeMap.mem_insert, LawfulEqCmp.compare_eq_iff_eq] at member
    obtain rfl | old := member
    · exact Nat.lt_succ_self _
    · exact Nat.lt_succ_of_lt (m.fresh a old)

def overwrite (m : Memory α) (a : ℕ) (v : α) : Memory α where
  blocks := if a ∈ m.blocks then m.blocks.insert a v else m.blocks
  next := m.next
  fresh b member := by
    split at member
    · rename_i present
      rw [ExtTreeMap.mem_insert, LawfulEqCmp.compare_eq_iff_eq] at member
      obtain rfl | old := member
      · exact m.fresh a present
      · exact m.fresh b old
    · exact m.fresh b member

def erase (m : Memory α) (a : ℕ) : Memory α where
  blocks := m.blocks.erase a
  next := m.next
  fresh b member := m.fresh b (ExtTreeMap.mem_of_mem_erase member)

def allocate (v : α) : Program α ℕ := modifyGet fun m => (m.next, m.insertNext v)

def tryAllocate (succeeds : Bool) (v : α) : Program α (Option ℕ) :=
  if succeeds then some <$> allocate v else pure none

def load (a : ℕ) : Program α α := do
  match (← get).blocks[a]? with
  | some v => pure v
  | none => throw .dangling

def store (a : ℕ) (v : α) : Program α PUnit := do
  let _ ← load a
  modify (·.overwrite a v)

def free (a : ℕ) : Program α PUnit := do
  let _ ← load a
  modify (·.erase a)

/-- What a program leaves; one with a fault leaves nothing that could be relied on. -/
def finish {σ : Type} (program : Program α β) (m : Memory α) (after : β → Memory α → σ) :
    Option σ :=
  match program.run m with
  | .ok result m' => some (after result m')
  | .error _ _ => none

theorem finish_spec {σ : Type} {program : Program α β} {m : Memory α} {after : β → Memory α → σ}
    {P : σ → Prop} {Q : Prop} (exits : Exits program m (fun r m' => P (after r m')) fun _ _ => Q) :
    (∀ s, finish program m after = some s → P s) ∧ (finish program m after = none → Q) := by
  unfold finish
  cases ran : program.run m with
  | ok result m' => exact ⟨fun _ same => Option.some.inj same ▸ exits.of_ok ran, nofun⟩
  | error fault m' => exact ⟨nofun, fun _ => exits.of_error ran⟩

structure Owns (m : Memory α) (s : Multiset (ℕ × α)) : Prop where
  nodup : (s.map Prod.fst).Nodup
  mem_iff : ∀ a v, m.blocks[a]? = some v ↔ (a, v) ∈ s

namespace Owns

variable {m : Memory α} {s t : Multiset (ℕ × α)} {a : ℕ} {v v' : α}

theorem empty : (Memory.empty : Memory α).Owns 0 := ⟨by simp, by simp [Memory.empty]⟩

theorem blocks_eq_empty (owns : m.Owns 0) : m.blocks = ∅ := by
  apply ExtTreeMap.ext_getElem?
  intro a
  cases found : m.blocks[a]? with
  | none => simp
  | some v => exact absurd ((owns.mem_iff a v).mp found) (Multiset.notMem_zero _)

theorem size (owns : m.Owns s) : m.blocks.size = s.card := by
  have keys : (m.blocks.toList.map Prod.fst).Nodup := by
    rw [ExtTreeMap.map_fst_toList_eq_keys]
    exact ExtTreeMap.nodup_keys
  have same : (m.blocks.toList : Multiset (ℕ × α)) = s := by
    refine (Multiset.Nodup.ext (Multiset.coe_nodup.mpr keys.of_map) owns.nodup.of_map).mpr ?_
    rintro ⟨a, v⟩
    rw [Multiset.mem_coe, ExtTreeMap.mem_toList_iff_getElem?_eq_some, owns.mem_iff]
  rw [← same, Multiset.coe_card, ExtTreeMap.length_toList]

theorem not_mem (owns : m.Owns ({(a, v)} + s)) (v' : α) : (a, v') ∉ s := by
  intro member
  have apart := owns.nodup
  rw [Multiset.map_add, Multiset.map_singleton, Multiset.singleton_add, Multiset.nodup_cons]
    at apart
  exact apart.1 (Multiset.mem_map.mpr ⟨(a, v'), member, rfl⟩)

theorem second {x y : Multiset (ℕ × α)} (owns : m.Owns (x + (y + s))) : m.Owns (y + (x + s)) := by
  rwa [add_left_comm] at owns

theorem third {x y z : Multiset (ℕ × α)} (owns : m.Owns (x + (y + (z + s)))) :
    m.Owns (z + (x + (y + s))) := by
  rwa [add_left_comm y, add_left_comm x] at owns

theorem insertNext (owns : m.Owns s) (v : α) : (m.insertNext v).Owns ({(m.next, v)} + s) where
  nodup := by
    rw [Multiset.map_add, Multiset.map_singleton, Multiset.singleton_add, Multiset.nodup_cons]
    refine ⟨fun member => ?_, owns.nodup⟩
    obtain ⟨⟨a, v⟩, held, same⟩ := Multiset.mem_map.mp member
    have present := m.fresh a (ExtTreeMap.mem_iff_isSome_getElem?.mpr
      (by rw [(owns.mem_iff a v).mpr held]; rfl))
    exact absurd same (Nat.ne_of_lt present)
  mem_iff b w := by
    simp only [Memory.insertNext, ExtTreeMap.getElem?_insert, LawfulEqCmp.compare_eq_iff_eq,
      Multiset.singleton_add, Multiset.mem_cons, Prod.mk.injEq]
    by_cases here : m.next = b
    · subst here
      have absent : (m.next, w) ∉ s := fun member => by
        have present := m.fresh m.next (ExtTreeMap.mem_iff_isSome_getElem?.mpr
          (by rw [(owns.mem_iff _ w).mpr member]; rfl))
        exact Nat.lt_irrefl _ present
      simp [absent, eq_comm]
    · simp [here, Ne.symm here, owns.mem_iff]

theorem getElem? (owns : m.Owns ({(a, v)} + s)) : m.blocks[a]? = some v :=
  (owns.mem_iff a v).mpr (by simp)

theorem mem (owns : m.Owns ({(a, v)} + s)) : a ∈ m.blocks := by
  rw [ExtTreeMap.mem_iff_isSome_getElem?, owns.getElem?]
  rfl

theorem overwrite (owns : m.Owns ({(a, v)} + s)) (v' : α) :
    (m.overwrite a v').Owns ({(a, v')} + s) where
  nodup := by simpa using owns.nodup
  mem_iff b w := by
    simp only [Memory.overwrite, owns.mem, if_true, ExtTreeMap.getElem?_insert,
      LawfulEqCmp.compare_eq_iff_eq, Multiset.singleton_add, Multiset.mem_cons, Prod.mk.injEq]
    by_cases here : a = b
    · subst here
      simp [owns.not_mem w, eq_comm]
    · have others := owns.mem_iff b w
      rw [Multiset.singleton_add, Multiset.mem_cons, Prod.mk.injEq] at others
      simp [here, Ne.symm here, others]

theorem erase (owns : m.Owns ({(a, v)} + s)) : (m.erase a).Owns s where
  nodup := by
    have apart := owns.nodup
    rw [Multiset.map_add, Multiset.map_singleton, Multiset.singleton_add, Multiset.nodup_cons]
      at apart
    exact apart.2
  mem_iff b w := by
    simp only [Memory.erase, ExtTreeMap.getElem?_erase, LawfulEqCmp.compare_eq_iff_eq]
    by_cases here : a = b
    · subst here
      simp [owns.not_mem w]
    · have others := owns.mem_iff b w
      rw [Multiset.singleton_add, Multiset.mem_cons, Prod.mk.injEq] at others
      simp [here, Ne.symm here, others]

end Owns

section Rules

variable {m : Memory α} {s : Multiset (ℕ × α)} {a : ℕ} {v v' : α}
  {throws : MemoryFault → Memory α → Prop}

theorem exits_allocate (owns : m.Owns s) {returns : ℕ → Memory α → Prop}
    (after : ∀ a m', m'.Owns ({(a, v)} + s) → returns a m') :
    Exits (allocate v) m returns throws := by
  rw [allocate, exits_modifyGet]
  exact after _ _ (owns.insertNext v)

theorem exits_load_of_getElem? (found : m.blocks[a]? = some v) {returns : α → Memory α → Prop} :
    Exits (load a) m returns throws ↔ returns v m := by
  unfold load
  simp only [exits_bind, exits_get, found, exits_pure]

theorem exits_load (owns : m.Owns ({(a, v)} + s)) {returns : α → Memory α → Prop} :
    Exits (load a) m returns throws ↔ returns v m :=
  exits_load_of_getElem? owns.getElem?

theorem exits_store (owns : m.Owns ({(a, v)} + s)) {returns : PUnit → Memory α → Prop}
    (after : ∀ m', m'.Owns ({(a, v')} + s) → returns ⟨⟩ m') :
    Exits (store a v') m returns throws := by
  rw [store, exits_bind, exits_load owns, exits_modify]
  exact after _ (owns.overwrite v')

theorem exits_free (owns : m.Owns ({(a, v)} + s)) {returns : PUnit → Memory α → Prop}
    (after : ∀ m', m'.Owns s → returns ⟨⟩ m') : Exits (free a) m returns throws := by
  rw [free, exits_bind, exits_load owns, exits_modify]
  exact after _ owns.erase

theorem exits_load_any {returns : α → Memory α → Prop}
    (present : ∀ v, m.blocks[a]? = some v → returns v m)
    (absent : m.blocks[a]? = none → throws .dangling m) : Exits (load a) m returns throws := by
  cases found : m.blocks[a]? with
  | some v => exact (exits_load_of_getElem? found).mpr (present v found)
  | none =>
    unfold load
    simp only [exits_bind, exits_get, found]
    exact absent found

theorem exits_tryAllocate (owns : m.Owns s) {succeeds : Bool}
    {returns : Option ℕ → Memory α → Prop}
    (allocated : succeeds = true → ∀ a m', m'.Owns ({(a, v)} + s) → returns (some a) m')
    (failed : succeeds = false → returns none m) :
    Exits (tryAllocate succeeds v) m returns throws := by
  unfold tryAllocate
  cases succeeds with
  | false => simpa using failed rfl
  | true =>
    rw [if_pos rfl, exits_map]
    exact exits_allocate owns (allocated rfl)

end Rules

section Shares

variable {ρ : Type} {Occupies : ρ → Multiset (ℕ × α) → Prop} {owners : Multiset ρ}
  {shares : Multiset (Multiset (ℕ × α))}

theorem exists_owner (rel : Multiset.Rel Occupies owners shares) {block : ℕ × α}
    (member : block ∈ shares.sum) :
    ∃ r ∈ owners, ∃ share ≤ shares.sum, Occupies r share ∧ block ∈ share := by
  obtain ⟨share, among, inside⟩ := Multiset.mem_join.mp member
  obtain ⟨r, held, occupies⟩ :=
    Multiset.exists_mem_of_rel_of_mem (Multiset.rel_flip.mpr rel) among
  exact ⟨r, held, share, Multiset.single_le_sum (fun _ _ => Multiset.zero_le _) share among,
    occupies, inside⟩

theorem exists_share [DecidableEq ρ] (rel : Multiset.Rel Occupies owners shares) {r : ρ}
    (held : r ∈ owners) :
    ∃ share rest, Occupies r share ∧ Multiset.Rel Occupies (owners.erase r) rest ∧
      shares.sum = share + rest.sum := by
  obtain ⟨others, rfl⟩ := Multiset.exists_cons_of_mem held
  obtain ⟨share, rest, occupies, apart, rfl⟩ := Multiset.rel_cons_left.mp rel
  rw [Multiset.erase_cons_head, Multiset.sum_cons]
  exact ⟨share, rest, occupies, apart, rfl⟩

end Shares
end Memory
end RmwOpendds.Library
