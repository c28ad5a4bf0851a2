import Mathlib.Data.List.Infix
import Mathlib.Data.List.Perm.Basic
import Mathlib.Data.Prod.Basic
import Mathlib.Logic.Function.Basic

/-! A queue that is fed by several sources. What a source sends waits on the link of
that source until it arrives in the common queue, whose head is removed. On the link and
in the queue entries may get lost. Between the sources any interleaving may occur; the
entries of one source stay in order. -/

namespace RmwOpendds.Library

structure Mailbox (ι α : Type*) where
  links : ι → List α
  queue : List (ι × α)

namespace Mailbox

variable {ι α : Type*} [DecidableEq ι]

def empty (ι α : Type*) : Mailbox ι α := ⟨fun _ => [], []⟩

def ofSource (i : ι) (entries : List (ι × α)) : List α :=
  entries.filterMap fun e => if e.1 = i then some e.2 else none

def send (m : Mailbox ι α) (i : ι) (a : α) : Mailbox ι α :=
  { m with links := Function.update m.links i (m.links i ++ [a]) }

def arrive (m : Mailbox ι α) (i : ι) : Option (Mailbox ι α) :=
  match m.links i with
  | [] => none
  | a :: rest => some ⟨Function.update m.links i rest, m.queue ++ [(i, a)]⟩

def remove (m : Mailbox ι α) : Mailbox ι α := { m with queue := m.queue.tail }

def lose (m : Mailbox ι α) (i : ι) (n : Nat) : Option (Mailbox ι α × (ι × α)) :=
  (m.links i)[n]?.map fun a =>
    ({ m with links := Function.update m.links i ((m.links i).eraseIdx n) }, (i, a))

def evict (m : Mailbox ι α) (n : Nat) : Option (Mailbox ι α × (ι × α)) :=
  m.queue[n]?.map fun e => ({ m with queue := m.queue.eraseIdx n }, e)

def pending (m : Mailbox ι α) (i : ι) : List α := ofSource i m.queue ++ m.links i

@[simp] theorem ofSource_append (i : ι) (xs ys : List (ι × α)) :
    ofSource i (xs ++ ys) = ofSource i xs ++ ofSource i ys := List.filterMap_append

theorem ofSource_singleton (i : ι) (e : ι × α) :
    ofSource i [e] = if e.1 = i then [e.2] else [] := by
  by_cases same : e.1 = i <;> simp [ofSource, same]

theorem pending_send (m : Mailbox ι α) (i j : ι) (a : α) :
    (m.send i a).pending j = m.pending j ++ if i = j then [a] else [] := by
  by_cases same : i = j
  · subst same
    simp [pending, send]
  · simp [pending, send, same, Function.update_of_ne (Ne.symm same)]

theorem pending_arrive {m m' : Mailbox ι α} {i : ι} (arrived : m.arrive i = some m') (j : ι) :
    m'.pending j = m.pending j := by
  unfold arrive at arrived
  cases link : m.links i with
  | nil => simp [link] at arrived
  | cons a rest =>
    obtain rfl : _ = m' := by simpa [link] using arrived
    by_cases same : i = j
    · subst same
      simp [pending, ofSource_singleton, link]
    · simp [pending, ofSource_singleton, same, Function.update_of_ne (Ne.symm same)]

theorem pending_remove (m : Mailbox ι α) (j : ι) :
    ofSource j m.queue.head?.toList ++ m.remove.pending j = m.pending j := by
  cases m with
  | mk links queue =>
    cases queue with
    | nil => rfl
    | cons e rest =>
      change ofSource j [e] ++ (ofSource j rest ++ links j) = ofSource j ([e] ++ rest) ++ links j
      rw [ofSource_append, List.append_assoc]

theorem perm_of_getElem? {β : Type*} {xs : List β} {n : Nat} {x : β} (found : xs[n]? = some x) :
    xs.Perm (xs.eraseIdx n ++ [x]) := by
  obtain ⟨bound, rfl⟩ := List.getElem?_eq_some_iff.mp found
  exact (List.getElem_cons_eraseIdx_perm bound).symm.trans (List.perm_append_singleton _ _).symm

theorem pending_lose {m m' : Mailbox ι α} {i : ι} {n : Nat} {e : ι × α}
    (lost : m.lose i n = some (m', e)) (j : ι) :
    (m'.pending j).Sublist (m.pending j) ∧
      (m.pending j).Perm (m'.pending j ++ ofSource j [e]) := by
  obtain ⟨a, found, same⟩ := Option.map_eq_some_iff.mp lost
  obtain ⟨rfl, rfl⟩ := Prod.mk.inj same
  by_cases own : i = j
  · subst own
    simp only [pending, Function.update_self, ofSource_singleton, if_true, List.append_assoc]
    exact ⟨(List.eraseIdx_sublist _ _).append_left _, (perm_of_getElem? found).append_left _⟩
  · simp [pending, ofSource_singleton, own, Function.update_of_ne (Ne.symm own)]

theorem pending_evict {m m' : Mailbox ι α} {n : Nat} {e : ι × α}
    (lost : m.evict n = some (m', e)) (j : ι) :
    (m'.pending j).Sublist (m.pending j) ∧
      (m.pending j).Perm (m'.pending j ++ ofSource j [e]) := by
  obtain ⟨e, found, same⟩ := Option.map_eq_some_iff.mp lost
  obtain ⟨rfl, rfl⟩ := Prod.mk.inj same
  constructor
  · exact ((List.eraseIdx_sublist _ _).filterMap _).append_right _
  · have parts : (ofSource j m.queue).Perm (ofSource j (m.queue.eraseIdx n) ++ ofSource j [e]) := by
      rw [← ofSource_append]
      exact (perm_of_getElem? found).filterMap _
    simp only [pending]
    refine (parts.append_right _).trans ?_
    rw [List.append_assoc, List.append_assoc]
    exact List.perm_append_comm.append_left _

/-- Everything sent is removed, pending or lost, once each, and what is not lost is in the
order in which its source sent it. -/
structure Accounts (m : Mailbox ι α) (sent : ι → List α) (removed lost : List (ι × α)) :
    Prop where
  ordered : ∀ i, (ofSource i removed ++ m.pending i).Sublist (sent i)
  complete : ∀ i, (sent i).Perm (ofSource i removed ++ m.pending i ++ ofSource i lost)

namespace Accounts

variable {m m' : Mailbox ι α} {sent : ι → List α} {removed lost : List (ι × α)}

theorem start : (empty ι α).Accounts (fun _ => []) [] [] := ⟨fun _ => .slnil, fun _ => .nil⟩

theorem send (h : m.Accounts sent removed lost) (i : ι) (a : α) :
    (m.send i a).Accounts (fun j => sent j ++ if i = j then [a] else []) removed lost := by
  constructor
  · intro j
    rw [pending_send, ← List.append_assoc]
    exact (h.ordered j).append_right _
  · intro j
    rw [pending_send, ← List.append_assoc]
    refine ((h.complete j).append_right _).trans ?_
    rw [List.append_assoc, List.append_assoc (ofSource j removed ++ m.pending j)]
    exact List.perm_append_comm.append_left _

theorem arrive (h : m.Accounts sent removed lost) {i : ι} (arrived : m.arrive i = some m') :
    m'.Accounts sent removed lost := by
  constructor
  · intro j
    rw [pending_arrive arrived]
    exact h.ordered j
  · intro j
    rw [pending_arrive arrived]
    exact h.complete j

theorem remove (h : m.Accounts sent removed lost) :
    m.remove.Accounts sent (removed ++ m.queue.head?.toList) lost := by
  constructor
  · intro j
    rw [ofSource_append, List.append_assoc, pending_remove]
    exact h.ordered j
  · intro j
    rw [ofSource_append, List.append_assoc (ofSource j removed), pending_remove]
    exact h.complete j

theorem loss (h : m.Accounts sent removed lost) {e : ι × α}
    (parts : ∀ j, (m'.pending j).Sublist (m.pending j) ∧
      (m.pending j).Perm (m'.pending j ++ ofSource j [e])) :
    m'.Accounts sent removed (lost ++ [e]) := by
  constructor
  · intro j
    exact ((parts j).1.append_left _).trans (h.ordered j)
  · intro j
    refine (h.complete j).trans ?_
    rw [ofSource_append, ← List.append_assoc]
    refine ((((parts j).2.append_left _).append_right _).trans ?_)
    rw [← List.append_assoc, List.append_assoc (ofSource j removed ++ m'.pending j),
      List.append_assoc (ofSource j removed ++ m'.pending j)]
    exact List.perm_append_comm.append_left _

theorem eq_of_kept (h : m.Accounts sent removed lost) {i : ι} (kept : ofSource i lost = []) :
    sent i = ofSource i removed ++ m.pending i := by
  have complete := h.complete i
  rw [kept, List.append_nil] at complete
  exact ((h.ordered i).eq_of_length complete.length_eq.symm).symm

end Accounts
end Mailbox
end RmwOpendds.Library
