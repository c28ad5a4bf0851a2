import Mathlib.Data.List.Basic

/-! Texts of `key=value;` pairs, over any alphabet with the two separators, and a
reader that gives the pairs back. A key that is not assigned is ignored. -/

namespace RmwOpendds.Library.KeyValue

variable {α : Type*} (assign terminator : α)

def text (pairs : List (List α × List α)) : List α :=
  pairs.flatMap fun pair => pair.1 ++ assign :: (pair.2 ++ [terminator])

variable {assign terminator}

theorem text_cons (pair : List α × List α) (pairs : List (List α × List α)) :
    text assign terminator (pair :: pairs) =
      pair.1 ++ assign :: (pair.2 ++ terminator :: text assign terminator pairs) := by
  simp [text]

theorem cut_unique {c : α} {u u' rest rest' : List α} (fresh : c ∉ u) (fresh' : c ∉ u')
    (same : u ++ c :: rest = u' ++ c :: rest') : u = u' ∧ rest = rest' := by
  obtain ⟨w, rfl, tails⟩ | ⟨w, rfl, tails⟩ := List.append_eq_append_iff.mp same
  all_goals
    cases w with
    | nil => simpa [eq_comm] using tails
    | cons d w =>
      obtain ⟨rfl, -⟩ := List.cons.inj tails
      simp at fresh fresh'

theorem exists_cons_of_text {pairs : List (List α × List α)} {key rest : List α}
    (fresh : ∀ pair ∈ pairs, assign ∉ pair.1) (fresh' : assign ∉ key)
    (same : text assign terminator pairs = key ++ assign :: rest) :
    ∃ value later, pairs = (key, value) :: later ∧
      value ++ terminator :: text assign terminator later = rest := by
  cases pairs with
  | nil => simp [text] at same
  | cons pair later =>
    rw [text_cons] at same
    obtain ⟨rfl, tail⟩ := cut_unique (fresh pair List.mem_cons_self) fresh' same
    exact ⟨pair.2, later, rfl, tail⟩

theorem text_after_terminator {pairs : List (List α × List α)} {front rest : List α}
    (apart : terminator ≠ assign)
    (fresh : ∀ pair ∈ pairs, terminator ∉ pair.1 ∧ terminator ∉ pair.2)
    (same : text assign terminator pairs = front ++ terminator :: rest) :
    ∃ later, later <:+ pairs ∧ rest = text assign terminator later := by
  induction pairs generalizing front with
  | nil => simp [text] at same
  | cons pair pairs ih =>
    obtain ⟨⟨key, value⟩, fresh⟩ := List.forall_mem_cons.mp fresh
    have word : terminator ∉ pair.1 ++ assign :: pair.2 := by simp [key, value, apart]
    have cut : (pair.1 ++ assign :: pair.2) ++ terminator :: text assign terminator pairs =
        front ++ terminator :: rest := by
      rw [← same, text_cons, List.append_assoc, List.cons_append]
    obtain ⟨w, rfl, tails⟩ | ⟨w, longer, tails⟩ := List.append_eq_append_iff.mp cut
    · cases w with
      | nil => exact ⟨pairs, List.suffix_cons _ _, by simpa using tails.symm⟩
      | cons d w =>
        obtain ⟨rfl, tail⟩ := List.cons.inj tails
        obtain ⟨later, suffix, rfl⟩ := ih fresh tail
        exact ⟨later, suffix.trans (List.suffix_cons _ _), rfl⟩
    · cases w with
      | nil => exact ⟨pairs, List.suffix_cons _ _, by simpa using tails⟩
      | cons d w =>
        obtain ⟨rfl, -⟩ := List.cons.inj tails
        rw [longer] at word
        simp at word

variable [DecidableEq α]

variable (assign terminator) in
def scan : List α → Option (List α) → List α → List (List α × List α)
  | _, _, [] => []
  | key, none, c :: rest =>
    if c = assign then scan key (some []) rest else scan (key ++ [c]) none rest
  | key, some value, c :: rest =>
    if c = terminator then (key, value) :: scan [] none rest
    else scan key (some (value ++ [c])) rest

variable (assign terminator) in
def read : List α → List (List α × List α) := scan assign terminator [] none

theorem scan_key {word : List α} (fresh : assign ∉ word) (key rest : List α) :
    scan assign terminator key none (word ++ assign :: rest) =
      scan assign terminator (key ++ word) (some []) rest := by
  induction word generalizing key with
  | nil => simp [scan]
  | cons c word ih =>
    rw [List.mem_cons, not_or] at fresh
    rw [List.cons_append, scan, if_neg (Ne.symm fresh.1), ih fresh.2, List.append_assoc,
      List.singleton_append]

theorem scan_value {word : List α} (fresh : terminator ∉ word) (key value rest : List α) :
    scan assign terminator key (some value) (word ++ terminator :: rest) =
      (key, value ++ word) :: scan assign terminator [] none rest := by
  induction word generalizing value with
  | nil => simp [scan]
  | cons c word ih =>
    rw [List.mem_cons, not_or] at fresh
    rw [List.cons_append, scan, if_neg (Ne.symm fresh.1), ih fresh.2, List.append_assoc,
      List.singleton_append]

theorem scan_unassigned {rest : List α} (fresh : assign ∉ rest) (key : List α) :
    scan assign terminator key none rest = [] := by
  induction rest generalizing key with
  | nil => rfl
  | cons c rest ih =>
    rw [List.mem_cons, not_or] at fresh
    rw [scan, if_neg (Ne.symm fresh.1), ih fresh.2]

theorem read_text {pairs : List (List α × List α)}
    (fresh : ∀ pair ∈ pairs, assign ∉ pair.1 ∧ terminator ∉ pair.2) {rest : List α}
    (ending : assign ∉ rest) : read assign terminator (text assign terminator pairs ++ rest) =
      pairs := by
  induction pairs with
  | nil => exact scan_unassigned ending []
  | cons pair pairs ih =>
    obtain ⟨⟨key, value⟩, later⟩ := List.forall_mem_cons.mp fresh
    rw [text, List.flatMap_cons, ← text, read, List.append_assoc, List.append_assoc,
      List.cons_append, scan_key key, List.append_assoc, List.singleton_append,
      scan_value value, ← read, ih later]
    rfl

end RmwOpendds.Library.KeyValue
