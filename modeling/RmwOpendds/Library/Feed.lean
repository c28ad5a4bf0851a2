import RmwOpendds.Library.Replay
import Mathlib.Logic.Function.Basic

/-! A feed of keyed events: the events of one key are received in the order in which
they are sent, those of different keys in any order. A follower that applies what it
receives is told how far it lags behind by the events that are still under way. -/

namespace RmwOpendds.Library

/-- The events that are under way, by key. -/
structure Feed {κ α : Type*} (key : α → κ) where
  queue : κ → List α
  keyed : ∀ k, ∀ a ∈ queue k, key a = k

namespace Feed

variable {κ α : Type*} [DecidableEq κ] {key : α → κ}

def send (f : Feed key) (a : α) : Feed key where
  queue := Function.update f.queue (key a) (f.queue (key a) ++ [a])
  keyed k b member := by
    by_cases same : k = key a
    · subst same
      rw [Function.update_self, List.mem_append, List.mem_singleton] at member
      obtain sent | rfl := member
      · exact f.keyed _ b sent
      · rfl
    · rw [Function.update_of_ne same] at member
      exact f.keyed k b member

theorem queue_send (f : Feed key) (a : α) (k : κ) :
    (f.send a).queue k = f.queue k ++ if key a = k then [a] else [] := by
  by_cases same : key a = k
  · subst same
    simp [send]
  · simp [send, same, Function.update_of_ne (Ne.symm same)]

theorem mem_modify {as : List α} {n : ℕ} {g : α → α} {b : α} (member : b ∈ as.modify n g) :
    ∃ a ∈ as, b = a ∨ b = g a := by
  obtain ⟨m, found⟩ := List.mem_iff_getElem?.mp member
  rw [List.getElem?_modify, Option.map_eq_map, Option.map_eq_some_iff] at found
  obtain ⟨a, held, rfl⟩ := found
  refine ⟨a, List.mem_of_getElem? held, ?_⟩
  by_cases here : n = m <;> simp [here]

def alter (f : Feed key) (k : κ) (n : ℕ) (g : α → α) (keeps : ∀ a, key (g a) = key a) :
    Feed key where
  queue := Function.update f.queue k ((f.queue k).modify n g)
  keyed j b member := by
    by_cases same : j = k
    · subst same
      rw [Function.update_self] at member
      obtain ⟨a, held, rfl | rfl⟩ := mem_modify member
      · exact f.keyed j _ held
      · exact (keeps a).trans (f.keyed j a held)
    · rw [Function.update_of_ne same] at member
      exact f.keyed j b member

theorem mem_alter {f : Feed key} {k j : κ} {n : ℕ} {g : α → α} {keeps : ∀ a, key (g a) = key a}
    {b : α} (member : b ∈ (f.alter k n g keeps).queue j) : ∃ a ∈ f.queue j, b = a ∨ b = g a := by
  by_cases same : j = k
  · subst same
    exact mem_modify (by simpa [alter] using member)
  · exact ⟨b, by simpa [alter, same] using member, .inl rfl⟩

def receiveOne (f : Feed key) (k : κ) : Option (α × Feed key) :=
  match held : f.queue k with
  | [] => none
  | a :: rest => some (a, {
      queue := Function.update f.queue k rest
      keyed := fun j b member => by
        by_cases same : j = k
        · subst same
          rw [Function.update_self] at member
          exact f.keyed j b (held ▸ List.mem_cons_of_mem a member)
        · rw [Function.update_of_ne same] at member
          exact f.keyed j b member })

def receive : List κ → Feed key → Option (List α × Feed key)
  | [], f => some ([], f)
  | k :: ks, f =>
    (f.receiveOne k).bind fun r => (receive ks r.2).map fun rest => (r.1 :: rest.1, rest.2)

theorem receiveOne_eq_some {f f' : Feed key} {k : κ} {a : α}
    (received : f.receiveOne k = some (a, f')) :
    key a = k ∧ ∀ j, f.queue j = (if key a = j then [a] else []) ++ f'.queue j := by
  unfold receiveOne at received
  split at received
  · cases received
  · rename_i b rest held
    cases received
    have known : key a = k := f.keyed k a (held ▸ List.mem_cons_self)
    refine ⟨known, fun j => ?_⟩
    by_cases same : k = j
    · subst same
      simp [known, held]
    · simp [known, same, Function.update_of_ne (Ne.symm same)]

/-- Of each key, the received events and those still under way make up what was. -/
def Receives (f : Feed key) (as : List α) (f' : Feed key) : Prop :=
  ∀ k, f.queue k = as.filter (key · = k) ++ f'.queue k

theorem Receives.refl (f : Feed key) : f.Receives [] f := fun _ => rfl

theorem receive_eq_some {ks : List κ} {f f' : Feed key} {as : List α}
    (received : f.receive ks = some (as, f')) : f.Receives as f' := by
  induction ks generalizing f as with
  | nil =>
    cases received
    exact .refl _
  | cons k ks ih =>
    intro j
    obtain ⟨⟨a, f₁⟩, first, rest⟩ := Option.bind_eq_some_iff.mp received
    obtain ⟨⟨bs, f₂⟩, later, same⟩ := Option.map_eq_some_iff.mp rest
    cases same
    rw [(receiveOne_eq_some first).2 j, ih later j]
    by_cases mine : key a = j <;> simp [mine]

theorem Receives.mem {f f' : Feed key} {as : List α} (received : f.Receives as f') {a : α}
    (member : a ∈ as) : a ∈ f.queue (key a) := by
  rw [received]
  exact List.mem_append_left _ (List.mem_filter.mpr ⟨member, by simp⟩)

theorem Receives.mem_left {f f' : Feed key} {as : List α} (received : f.Receives as f') {k : κ}
    {a : α} (member : a ∈ f'.queue k) : a ∈ f.queue k := by
  rw [received]
  exact List.mem_append_right _ member

/-- Once the events under way are applied, the follower holds the actual value. -/
def Leads {ν : Type*} (change : ν → α → ν) (f : Feed key) (k : κ) (held actual : ν) : Prop :=
  (f.queue k).foldl change held = actual

namespace Leads

variable {ν σ : Type*} {change : ν → α → ν} {f f' : Feed key} {k : κ} {held actual : ν}

theorem send (h : f.Leads change k held actual) (a : α) :
    (f.send a).Leads change k held (if key a = k then change actual a else actual) := by
  unfold Leads at h ⊢
  rw [queue_send, List.foldl_append, h]
  by_cases same : key a = k <;> simp [same]

theorem receive {look : σ → κ → Option ν} {step : σ → α → σ} {change : Option ν → α → Option ν}
    (law : ∀ s a k, look (step s a) k = if key a = k then change (look s k) a else look s k)
    {s : σ} {actual : Option ν} (h : f.Leads change k (look s k) actual)
    {as : List α} (received : f.Receives as f') :
    f'.Leads change k (look (as.foldl step s) k) actual := by
  unfold Leads at h ⊢
  rw [Replay.lookup_foldl key law, ← h, received k, List.foldl_append]

omit [DecidableEq κ] in
theorem of_queue_eq (h : f.Leads change k held actual) (same : f'.queue k = f.queue k) :
    f'.Leads change k held actual := by
  unfold Leads at h ⊢
  rw [same, h]

theorem alter (h : f.Leads change k held actual) {n m : ℕ} {b : α} (later : n < m)
    (found : (f.queue k)[m]? = some b) (settles : ∀ v w, change v b = change w b) {g : α → α}
    (keeps : ∀ a, key (g a) = key a) : (f.alter k n g keeps).Leads change k held actual := by
  have cut : ∀ as : List α, as[m]? = some b → ∀ v w,
      as.foldl change v = (as.drop m).foldl change w := by
    intro as at_m v w
    have rest : as.drop m = b :: as.drop (m + 1) := by
      obtain ⟨bound, rfl⟩ := List.getElem?_eq_some_iff.mp at_m
      exact List.drop_eq_getElem_cons bound
    conv_lhs => rw [← List.take_append_drop m as]
    rw [List.foldl_append, rest, List.foldl_cons, List.foldl_cons, settles _ w]
  unfold Leads at h ⊢
  have altered : (f.alter k n g keeps).queue k = (f.queue k).modify n g := Function.update_self ..
  have stays : ((f.queue k).modify n g)[m]? = some b := by
    rw [List.getElem?_modify_ne g _ later.ne, found]
  rw [altered, cut _ stays held held, List.drop_modify_of_lt g n m _ later,
    ← cut _ found held held, h]

theorem alter_same (h : f.Leads change k held actual) {n : ℕ} {a : α}
    (found : (f.queue k)[n]? = some a) {g : α → α} (same : ∀ v, change v (g a) = change v a)
    (keeps : ∀ a, key (g a) = key a) : (f.alter k n g keeps).Leads change k held actual := by
  obtain ⟨bound, rfl⟩ := List.getElem?_eq_some_iff.mp found
  have altered : (f.alter k n g keeps).queue k =
      (f.queue k).take n ++ g (f.queue k)[n] :: (f.queue k).drop (n + 1) := by
    rw [← List.modify_eq_take_cons_drop bound]
    exact Function.update_self ..
  unfold Leads at h ⊢
  rw [altered, List.foldl_append, List.foldl_cons, same, ← List.foldl_cons (f := change),
    ← List.foldl_append, ← List.drop_eq_getElem_cons bound, List.take_append_drop, h]

omit [DecidableEq κ] in
theorem of_queue_nil (h : f.Leads change k held actual) (quiet : f.queue k = []) :
    held = actual := by
  unfold Leads at h
  rw [quiet] at h
  exact h

end Leads
end Feed
end RmwOpendds.Library
