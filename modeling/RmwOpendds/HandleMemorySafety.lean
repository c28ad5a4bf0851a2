import RmwOpendds.HandleMemory

/-! Which calls on wait sets and guard conditions are free of undefined behaviour, and
what they leave in memory, over all runs. The cleanup of `create_wait_set` reads members
that are not set yet and destroys sequences that are not constructed yet, so that it is
sound only where there is nothing to clean. -/

namespace RmwOpendds.HandleMemory

open Library Memory Wait

section Objects

variable {m : Memory Contents} {s : Multiset (ℕ × Contents)} {a : ℕ}
  {throws : MemoryFault → Memory Contents → Prop}

theorem exits_construct (owns : m.Owns ({(a, .object false)} + s)) {outcome : Except String Unit}
    {returns : Except String Unit → Memory Contents → Prop}
    (constructed : outcome = .ok () → ∀ m', m'.Owns ({(a, .object true)} + s) →
      returns (.ok ()) m')
    (failed : ∀ text, outcome = .error text → returns (.error text) m) :
    Exits (construct a outcome) m returns throws := by
  unfold construct
  cases outcome with
  | ok u =>
    rw [exits_bind]
    exact exits_store owns fun m' owns => constructed rfl m' owns
  | error text => exact failed text rfl

theorem exits_destruct (owns : m.Owns ({(a, .object true)} + s))
    {returns : PUnit → Memory Contents → Prop}
    (after : ∀ m', m'.Owns ({(a, .object false)} + s) → returns ⟨⟩ m') :
    Exits (destruct a) m returns throws := by
  rw [destruct, exits_bind, exits_load owns]
  exact exits_store owns after

theorem exits_destroyObject (owns : m.Owns ({(a, .object true)} + s))
    {returns : PUnit → Memory Contents → Prop} (after : ∀ m', m'.Owns s → returns ⟨⟩ m') :
    Exits (destroyObject (some a)) m returns throws := by
  rw [destroyObject, exits_bind]
  exact exits_destruct owns fun m' owns => exits_free owns after

theorem exits_destroyObject_raw (owns : m.Owns ({(a, .object false)} + s))
    {returns : PUnit → Memory Contents → Prop} (fault : throws .indeterminate m) :
    Exits (destroyObject (some a)) m returns throws := by
  rw [destroyObject, exits_bind, destruct, exits_bind, exits_load owns]
  exact fault

end Objects

section CreateWaitSet

variable {m : Memory Contents} {s : Multiset (ℕ × Contents)} {w i : ℕ}
  {identifier : ImplementationIdentifier}

def Succeeds (o : WaitSetCreation) : Prop :=
  o.waitSetAllocated = true ∧ o.waitSetConstructed = .ok () ∧ o.activeAllocated = true ∧
    o.attachedAllocated = true ∧ o.activeConstructed = .ok () ∧ o.attachedConstructed = .ok ()

/-- Nothing fails once there is an info block. -/
def Clean (o : WaitSetCreation) : Prop :=
  o.handleAllocated = true → o.infoAllocated = true → Succeeds o

inductive Occupies : Resource → Multiset (ℕ × Contents) → Prop where
  | waitSet (w i dds active attached : ℕ) : Occupies (.waitSet w)
      ({(w, .rmwWaitSet .opendds (.holds (some i)))} +
        ({(i, .waitSetInfo ⟨.holds (some dds), .holds (some active), .holds (some attached)⟩)} +
          ({(active, .object true)} + ({(attached, .object true)} + {(dds, .object true)}))))
  | guardCondition (g a gc : ℕ) : Occupies (.guardCondition g)
      ({(g, .rmwGuardCondition .opendds (.holds (some a)))} +
        ({(a, .ddsGuardCondition (.holds (some gc)))} + {(gc, .object true)}))

theorem exits_loadInfo {info : InfoBlock} (owns : m.Owns ({(i, .waitSetInfo info)} + s))
    {returns : InfoBlock → Memory Contents → Prop}
    {throws : MemoryFault → Memory Contents → Prop} :
    Exits (loadInfo i) m returns throws ↔ returns info m := by
  rw [loadInfo, exits_bind, exits_load owns]
  exact Iff.rfl

theorem exits_loadWaitSet {data : Pointer} (owns : m.Owns ({(w, .rmwWaitSet identifier data)} + s))
    {returns : ImplementationIdentifier × Pointer → Memory Contents → Prop}
    {throws : MemoryFault → Memory Contents → Prop} :
    Exits (loadWaitSet w) m returns throws ↔ returns (identifier, data) m := by
  rw [loadWaitSet, exits_bind, exits_load owns]
  exact Iff.rfl

theorem fail_exits (owns : m.Owns ({(w, .rmwWaitSet identifier (.holds none))} + s))
    {text : String} {returns : Except String ℕ → Memory Contents → Prop}
    {throws : MemoryFault → Memory Contents → Prop}
    (after : ∀ m', m'.Owns s → returns (.error text) m') :
    Exits (fail text (some w) none) m returns throws := by
  unfold fail
  simp only [exits_bind, exits_pure, exits_loadWaitSet owns, Pointer.read]
  exact exits_free owns after

/-- The members that the cleanup must not meet. -/
inductive Unfinished (s : Multiset (ℕ × Contents)) : InfoBlock → Prop where
  | activeUnset (waitSet attached : Pointer) : Unfinished s ⟨waitSet, .uninitialised, attached⟩
  | attachedUnset (waitSet : Pointer) : Unfinished s ⟨waitSet, .holds none, .uninitialised⟩
  | activeRaw (waitSet attached : Pointer) (a : ℕ) (t : Multiset (ℕ × Contents))
      (held : s = {(a, .object false)} + t) : Unfinished s ⟨waitSet, .holds (some a), attached⟩
  | attachedRaw (waitSet : Pointer) (a b : ℕ) (t : Multiset (ℕ × Contents))
      (held : s = {(a, .object true)} + ({(b, .object false)} + t)) :
      Unfinished s ⟨waitSet, .holds (some a), .holds (some b)⟩

theorem fail_faults {info : InfoBlock} (owns : m.Owns ({(i, .waitSetInfo info)} + s))
    (unfinished : Unfinished s info) (text : String) (waitSet : Option ℕ) :
    Exits (fail text waitSet (some i)) m (fun _ _ => False) (fun _ _ => True) := by
  unfold fail
  simp only [exits_bind, exits_loadInfo owns]
  cases unfinished with
  | activeUnset => trivial
  | attachedUnset => trivial
  | activeRaw _ _ a t held =>
    subst held
    rw [add_left_comm] at owns
    exact exits_destroyObject_raw owns trivial
  | attachedRaw _ a b t held =>
    subst held
    rw [add_left_comm] at owns
    refine exits_destroyObject owns fun m' owns => ?_
    rw [add_left_comm] at owns
    exact exits_destroyObject_raw owns trivial

theorem exits_allocateMember {info : InfoBlock} (owns : m.Owns ({(i, .waitSetInfo info)} + s))
    {allocated : Bool} {assign : InfoBlock → Pointer → InfoBlock}
    {returns : Option ℕ → Memory Contents → Prop}
    {throws : MemoryFault → Memory Contents → Prop}
    (succeeds : allocated = true → ∀ a m',
      m'.Owns ({(i, .waitSetInfo (assign info (.holds (some a))))} + ({(a, .object false)} + s)) →
        returns (some a) m')
    (fails : allocated = false → ∀ m',
      m'.Owns ({(i, .waitSetInfo (assign info (.holds none)))} + s) → returns none m') :
    Exits (allocateMember i allocated assign) m returns throws := by
  unfold allocateMember
  rw [exits_bind]
  refine exits_tryAllocate owns (fun ok a m' owns => ?_) fun no => ?_
  · rw [add_left_comm] at owns
    rw [exits_bind, exits_loadInfo owns, exits_bind]
    exact exits_store owns fun m' owns => succeeds ok a m' owns
  · rw [exits_bind, exits_loadInfo owns, exits_bind]
    exact exits_store owns fun m' owns => fails no m' owns

/-- Every failure goes through a cleanup that it breaks. -/
theorem fillInfo_exits {o : WaitSetCreation}
    (owns : m.Owns
      ({(i, .waitSetInfo ⟨.uninitialised, .uninitialised, .uninitialised⟩)} +
        ({(w, .rmwWaitSet .opendds (.holds (some i)))} + s))) :
    Exits (fillInfo w i o) m
      (fun r m' => Succeeds o ∧ r = .ok w ∧
        ∃ blocks, Occupies (.waitSet w) blocks ∧ m'.Owns (blocks + s))
      (fun _ _ => ¬ Succeeds o) := by
  have broken : ∀ {m' : Memory Contents} {t : Multiset (ℕ × Contents)} {info : InfoBlock}
      (text : String), ¬ Succeeds o → m'.Owns ({(i, .waitSetInfo info)} + t) →
      Unfinished t info →
      Exits (fail text (some w) (some i)) m'
        (fun r m' => Succeeds o ∧ r = .ok w ∧
          ∃ blocks, Occupies (.waitSet w) blocks ∧ m'.Owns (blocks + s))
        (fun _ _ => ¬ Succeeds o) := fun text fails owns unfinished =>
    (fail_faults owns unfinished text (some w)).mono (fun _ _ no => no.elim) fun _ _ _ => fails
  unfold fillInfo
  rw [exits_bind]
  refine exits_allocateMember owns (fun hasDds dds m owns => ?_) fun no m owns => ?_
  swap
  · exact broken _ (fun all => by simp [Succeeds, no] at all) owns (.activeUnset _ _)
  rw [exits_bind]
  refine exits_construct owns.second (fun built m owns => ?_) fun text no => ?_
  swap
  · exact broken text (fun all => by simp [Succeeds, no] at all) owns (.activeUnset _ _)
  rw [exits_bind]
  refine exits_allocateMember owns.second (fun hasActive active m owns => ?_) fun no m owns => ?_
  swap
  · exact broken _ (fun all => by simp [Succeeds, no] at all) owns (.attachedUnset _)
  rw [exits_bind]
  refine exits_allocateMember owns (fun hasAttached attached m owns => ?_) fun no m owns => ?_
  swap
  · exact broken _ (fun all => by simp [Succeeds, no] at all) owns (.activeRaw _ _ active _ rfl)
  rw [exits_bind]
  refine exits_construct owns.third (fun builtActive m owns => ?_) fun text no => ?_
  swap
  · exact broken text (fun all => by simp [Succeeds, no] at all) owns
      (.activeRaw _ _ active _ (add_left_comm _ _ _))
  rw [exits_bind]
  refine exits_construct owns.third (fun builtAttached m owns => ?_) fun text no => ?_
  swap
  · exact broken text (fun all => by simp [Succeeds, no] at all) owns.second
      (.attachedRaw _ active attached _ rfl)
  refine ⟨⟨hasDds, built, hasActive, hasAttached, builtActive, builtAttached⟩, rfl, _,
    .waitSet w i dds active attached, ?_⟩
  convert owns using 1
  abel

def outcome {α : Type} (r : Except String α) : Except String Unit := r.map fun _ => ()

theorem createWaitSet_exits (owns : m.Owns s) (o : WaitSetCreation) :
    Exits (createWaitSet .opendds o) m
      (fun r m' => Clean o ∧ outcome r = outcome (Wait.createWaitSet .opendds o) ∧
        match r with
        | .ok w => ∃ blocks, Occupies (.waitSet w) blocks ∧ m'.Owns (blocks + s)
        | .error _ => m'.Owns s)
      (fun _ _ => ¬ Clean o) := by
  unfold createWaitSet
  rw [exits_bind]
  refine exits_tryAllocate owns (fun handle w m owns => ?_) fun no => ?_
  · rw [exits_bind]
    refine exits_tryAllocate owns (fun info i m owns => ?_) fun no => ?_
    · rw [exits_bind]
      refine exits_store owns.second fun m owns => (fillInfo_exits owns.second).mono ?_ ?_
      · rintro _ m ⟨succeeds, rfl, left⟩
        refine ⟨fun _ _ => succeeds, ?_, left⟩
        obtain ⟨hasDds, built, hasActive, hasAttached, builtActive, builtAttached⟩ := succeeds
        simp only [outcome, Wait.createWaitSet, checkAllocated, handle, info, hasDds, built,
          hasActive, hasAttached, builtActive, builtAttached]
        rfl
      · exact fun _ _ fails clean => fails (clean handle info)
    · rw [exits_bind]
      refine exits_store owns fun m owns => fail_exits owns fun m owns =>
        ⟨fun _ info => ?_, ?_, owns⟩
      · rw [no] at info
        cases info
      · simp only [outcome, Wait.createWaitSet, checkAllocated, handle, no]
        rfl
  · refine ⟨fun handle => absurd (no.symm.trans handle) (by decide), ?_, owns⟩
    simp only [outcome, Wait.createWaitSet, checkAllocated, no]
    rfl

end CreateWaitSet

section Destroy

variable {m : Memory Contents} {s blocks : Multiset (ℕ × Contents)} {w g : ℕ}

theorem destroyWaitSet_exits (occupies : Occupies (.waitSet w) blocks)
    (owns : m.Owns (blocks + s)) (d : WaitSetDestruction) :
    Exits (destroyWaitSet .opendds (some w) d) m
      (fun r m' => m'.Owns s ∧ r = (if d.thrown.isSome then .error else .ok, d.thrown))
      (fun _ _ => False) := by
  cases occupies with
  | waitSet _ i dds active attached =>
    simp only [add_assoc] at owns
    unfold destroyWaitSet
    simp only [exits_bind, exits_loadWaitSet owns, ne_eq, not_true_eq_false, if_false,
      Pointer.read, exits_pure, exits_loadInfo owns.second]
    refine exits_destroyObject owns.third fun m owns => ?_
    refine exits_destroyObject owns.third fun m owns => ?_
    refine exits_destroyObject owns.third fun m owns => ?_
    exact exits_free owns.second fun m owns => exits_free owns fun m owns => ⟨owns, trivial⟩

theorem destroyWaitSet_faults (owns : m.Owns s)
    (stranger : ∀ identifier data, (w, Contents.rmwWaitSet identifier data) ∉ s)
    (identifier : ImplementationIdentifier) (d : WaitSetDestruction) :
    Exits (destroyWaitSet identifier (some w) d) m (fun _ _ => False) (fun _ _ => True) := by
  unfold destroyWaitSet loadWaitSet
  simp only [exits_bind]
  refine exits_load_any (fun v present => ?_) fun _ => trivial
  cases v with
  | rmwWaitSet identifier data =>
    exact absurd ((owns.mem_iff _ _).mp present) (stranger identifier data)
  | _ => trivial

end Destroy

section GuardCondition

variable {m : Memory Contents} {s blocks : Multiset (ℕ × Contents)} {g a : ℕ}
  {throws : MemoryFault → Memory Contents → Prop}

theorem exits_loadGuardCondition {identifier : ImplementationIdentifier} {data : Pointer}
    (owns : m.Owns ({(g, .rmwGuardCondition identifier data)} + s))
    {returns : ImplementationIdentifier × Pointer → Memory Contents → Prop} :
    Exits (loadGuardCondition g) m returns throws ↔ returns (identifier, data) m := by
  rw [loadGuardCondition, exits_bind, exits_load owns]
  exact Iff.rfl

def GuardObject (a : ℕ) (blocks : Multiset (ℕ × Contents)) : Prop :=
  ∃ gc, blocks = {(a, .ddsGuardCondition (.holds (some gc)))} + {(gc, .object true)}

theorem createGuardObject_exits (owns : m.Owns s) (o : GuardConditionCreation) :
    Exits (RmwAllocateFree.create o.objectAllocated (.ddsGuardCondition .uninitialised)
        (constructGuardCondition o)) m
      (fun r m' => match r with
        | .ok a => ∃ blocks, GuardObject a blocks ∧ m'.Owns (blocks + s)
        | .error _ => m'.Owns s)
      (fun _ _ => False) := by
  refine RmwAllocateFree.exits_create owns (fun _ a m owns => ?_) fun _ => owns
  unfold constructGuardCondition
  rw [exits_bind]
  refine RmwAllocateFree.exits_create owns (fun _ gc m owns => ?_)
    fun _ => ⟨_, owns, fun m owns => owns⟩
  refine exits_construct owns (fun _ m owns => ?_) fun text _ => ⟨_, owns, fun m owns => ?_⟩
  · rw [exits_bind]
    refine exits_store owns.second fun m owns => ⟨_, ⟨gc, rfl⟩, ?_⟩
    rwa [add_assoc]
  · exact ⟨_, owns, fun m owns => owns⟩

theorem createGuardCondition_exits (owns : m.Owns s) (context : Option (RmwHandle Unit))
    (o : GuardConditionCreation) :
    Exits (createGuardCondition context o) m
      (fun r m' => context.isSome ∧ match r.1 with
        | some g => ∃ blocks, Occupies (.guardCondition g) blocks ∧ m'.Owns (blocks + s)
        | none => m'.Owns s)
      (fun _ _ => context = none) := by
  unfold createGuardCondition
  cases context with
  | none => exact rfl
  | some context =>
    dsimp only
    split
    · exact ⟨rfl, owns⟩
    · rw [exits_bind]
      refine exits_tryAllocate owns (fun _ g m owns => ?_) fun _ => ⟨rfl, owns⟩
      rw [exits_bind]
      refine (createGuardObject_exits owns o).mono (fun r m built => ?_) fun _ _ no => no.elim
      cases r with
      | ok a =>
        obtain ⟨_, ⟨gc, rfl⟩, owns⟩ := built
        rw [add_assoc] at owns
        rw [exits_bind]
        refine exits_store owns.third fun m owns => ⟨rfl, _, .guardCondition g a gc, ?_⟩
        simpa only [add_assoc, Except.toOption] using owns
      | error text =>
        rw [exits_bind]
        refine exits_store built fun m owns => ?_
        unfold cleanGuardCondition
        simp only [exits_bind, exits_loadGuardCondition owns, Except.toOption, Pointer.read,
          exits_pure]
        exact exits_free owns fun m owns => ⟨rfl, owns⟩

theorem destroyGuardCondition_exits (occupies : Occupies (.guardCondition g) blocks)
    (owns : m.Owns (blocks + s)) :
    Exits (destroyGuardCondition (some g)) m (fun r m' => m'.Owns s ∧ r = (.ok, none))
      (fun _ _ => False) := by
  cases occupies with
  | guardCondition _ a gc =>
    simp only [add_assoc] at owns
    unfold destroyGuardCondition cleanGuardCondition RmwAllocateFree.destroy destructGuardCondition
    simp only [exits_bind, exits_loadGuardCondition owns, checkImplId, Pointer.read, exits_pure,
      exits_load owns.second]
    refine exits_destroyObject owns.third fun m owns => ?_
    exact exits_free owns.second fun m owns => exits_free owns fun m owns => ⟨owns, trivial⟩

theorem destroyGuardCondition_faults (owns : m.Owns s)
    (stranger : ∀ identifier data, (g, Contents.rmwGuardCondition identifier data) ∉ s) :
    Exits (destroyGuardCondition (some g)) m (fun _ _ => False) (fun _ _ => True) := by
  unfold destroyGuardCondition loadGuardCondition
  simp only [exits_bind]
  refine exits_load_any (fun v present => ?_) fun _ => trivial
  cases v with
  | rmwGuardCondition identifier data =>
    exact absurd ((owns.mem_iff _ _).mp present) (stranger identifier data)
  | _ => trivial

end GuardCondition

section Runs

/-- The memory is that of the handles, each in blocks of its own. -/
def Balanced (w : World) : Prop :=
  ∃ blocks : Multiset (Multiset (ℕ × Contents)),
    Multiset.Rel Occupies w.live blocks ∧ w.memory.Owns blocks.sum

/-- A call that the code can be given: no wait set fails after it has an info block, a
guard condition is created in a context, and what is destroyed is held. -/
def Proper (w : World) : Call → Prop
  | .rmwCreateWaitSet o => Clean o
  | .rmwDestroyWaitSet waitSet _ => ∀ a ∈ waitSet, .waitSet a ∈ w.live
  | .rmwCreateGuardCondition context _ => context.isSome
  | .rmwDestroyGuardCondition guardCondition => ∀ a ∈ guardCondition, .guardCondition a ∈ w.live

variable {w : World}

theorem Balanced.split (balanced : Balanced w) {r : Resource} (held : r ∈ w.live) :
    ∃ b blocks, Occupies r b ∧ Multiset.Rel Occupies (w.live.erase r) blocks ∧
      w.memory.Owns (b + blocks.sum) := by
  obtain ⟨all, rel, owns⟩ := balanced
  obtain ⟨b, blocks, occupies, rel, total⟩ := exists_share rel held
  rw [total] at owns
  exact ⟨b, blocks, occupies, rel, owns⟩

theorem Balanced.erase {r : Resource} {m : Memory Contents}
    {blocks : Multiset (Multiset (ℕ × Contents))}
    (rel : Multiset.Rel Occupies (w.live.erase r) blocks) (owns : m.Owns blocks.sum) :
    Balanced ⟨m, w.live.erase r⟩ := ⟨blocks, rel, owns⟩

theorem Occupies.waitSet_eq {r : Resource} {b : Multiset (ℕ × Contents)} (occupies : Occupies r b)
    {a : ℕ} {identifier : ImplementationIdentifier} {data : Pointer}
    (member : (a, Contents.rmwWaitSet identifier data) ∈ b) : r = .waitSet a := by
  cases occupies <;> simp at member
  rw [member.1]

theorem Occupies.guardCondition_eq {r : Resource} {b : Multiset (ℕ × Contents)}
    (occupies : Occupies r b) {a : ℕ} {identifier : ImplementationIdentifier} {data : Pointer}
    (member : (a, Contents.rmwGuardCondition identifier data) ∈ b) : r = .guardCondition a := by
  cases occupies <;> simp at member
  rw [member.1]

theorem step_spec (balanced : Balanced w) (call : Call) :
    (∀ w', w.step call = some w' → Proper w call ∧ Balanced w') ∧
      (w.step call = none → ¬ Proper w call) := by
  cases call with
  | rmwCreateWaitSet o =>
    obtain ⟨blocks, rel, owns⟩ := balanced
    refine finish_spec ((createWaitSet_exits owns o).mono (fun r m left => ⟨left.1, ?_⟩)
      fun _ _ => id)
    cases r with
    | ok a =>
      obtain ⟨b, occupies, owns⟩ := left.2.2
      exact ⟨b ::ₘ blocks, .cons occupies rel, by rwa [Multiset.sum_cons]⟩
    | error text => exact ⟨blocks, rel, left.2.2⟩
  | rmwDestroyWaitSet waitSet d =>
    cases waitSet with
    | none =>
      refine ⟨fun w' taken => ?_, nofun⟩
      cases taken
      exact ⟨by simp [Proper], balanced⟩
    | some a =>
      by_cases held : Resource.waitSet a ∈ w.live
      · obtain ⟨b, blocks, occupies, rel, owns⟩ := balanced.split held
        refine finish_spec ((destroyWaitSet_exits occupies owns d).mono (fun r m left => ?_)
          fun _ _ no => no.elim)
        exact ⟨by simpa [Proper] using held, Balanced.erase rel left.1⟩
      · obtain ⟨blocks, rel, owns⟩ := balanced
        refine finish_spec ((destroyWaitSet_faults owns (fun identifier data member => held ?_)
          _ d).mono (fun _ _ no => no.elim) fun _ _ _ proper => held (proper a rfl))
        obtain ⟨r, live, b, -, occupies, inside⟩ := exists_owner rel member
        exact occupies.waitSet_eq inside ▸ live
  | rmwCreateGuardCondition context o =>
    obtain ⟨blocks, rel, owns⟩ := balanced
    refine finish_spec ((createGuardCondition_exits owns context o).mono
      (fun r m left => ⟨left.1, ?_⟩) fun _ _ null => by simp [Proper, null])
    obtain ⟨_ | a, text⟩ := r
    · exact ⟨blocks, rel, left.2⟩
    · obtain ⟨b, occupies, owns⟩ := left.2
      exact ⟨b ::ₘ blocks, .cons occupies rel, by rwa [Multiset.sum_cons]⟩
  | rmwDestroyGuardCondition guardCondition =>
    cases guardCondition with
    | none =>
      refine ⟨fun w' taken => ?_, nofun⟩
      cases taken
      exact ⟨by simp [Proper], balanced⟩
    | some a =>
      by_cases held : Resource.guardCondition a ∈ w.live
      · obtain ⟨b, blocks, occupies, rel, owns⟩ := balanced.split held
        refine finish_spec ((destroyGuardCondition_exits occupies owns).mono (fun r m left => ?_)
          fun _ _ no => no.elim)
        exact ⟨by simpa [Proper] using held, Balanced.erase rel left.1⟩
      · obtain ⟨blocks, rel, owns⟩ := balanced
        refine finish_spec ((destroyGuardCondition_faults owns (fun identifier data member =>
          held ?_)).mono (fun _ _ no => no.elim) fun _ _ _ proper => held (proper a rfl))
        obtain ⟨r, live, b, -, occupies, inside⟩ := exists_owner rel member
        exact occupies.guardCondition_eq inside ▸ live

end Runs
end RmwOpendds.HandleMemory
