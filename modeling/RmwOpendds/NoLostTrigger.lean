import RmwOpendds.GuardTriggers
import RmwOpendds.WaitReports

/-! No trigger is lost. A guard condition that was triggered is still true, or a
wait has cleared it since and keeps its entry. The three parts of a step are
described first: what it does to a wait, to an update and to the values. Where
an update and then a wait run alone, the array that the source returns reports it. -/

namespace RmwOpendds.GuardTriggers

open Library CustomDataReaderListener

variable {GUID Handle Key : Type} [LinearOrder GUID] {S : Setting Handle Key GUID}
  {s s' : State Handle Key GUID} {l : Label Handle Key}

inductive WaitState.Next : WaitState → WaitState → Prop where
  | same (x : WaitState) : Next x x
  | blocks (guards : List ℕ) : Next .idle (.blocked guards)
  | snapshot (guards snapshot : List ℕ) : Next (.blocked guards) (.resetting snapshot guards [])
  | entry (snapshot todo : List ℕ) (g : ℕ) (entries : List (Option ℕ)) (kept : Option ℕ) :
      Next (.resetting snapshot (g :: todo) entries) (.resetting snapshot todo (entries ++ [kept]))
  | fails (x : WaitState) : Next x .failed
  | returns (snapshot : List ℕ) (entries : List (Option ℕ)) :
      Next (.resetting snapshot [] entries) (.returned entries)

theorem setWait_next {w v : ℕ} {x : WaitState} (next : (s.waits w).Next x) :
    (s.waits v).Next ((s.setWait w x).waits v) := by
  unfold State.setWait
  by_cases same : v = w
  · subst same
    simpa using next
  · simpa [Function.update_of_ne same] using WaitState.Next.same (s.waits v)

theorem waits_step (h : step S s l = some s') (w : ℕ) : (s.waits w).Next (s'.waits w) := by
  cases l with
  | trigger g =>
    obtain rfl := Option.some.inj h
    exact .same _
  | start u update =>
    simp only [step] at h
    split at h <;> cases h
    exact .same _
  | mutate u =>
    simp only [step] at h
    split at h <;> cases h
    exact .same _
  | finish u =>
    simp only [step] at h
    split at h <;> cases h
    split <;> exact .same _
  | wait v guards =>
    simp only [step] at h
    split at h <;> cases h
    rename_i idle
    exact setWait_next (idle ▸ .blocks guards)
  | snapshot v =>
    simp only [step] at h
    split at h <;> cases h
    rename_i guards blocked
    exact setWait_next (blocked ▸ .snapshot guards _)
  | reset v settable =>
    simp only [step] at h
    split at h
    · rename_i snapshot g todo entries resetting
      split at h
      · split at h <;> cases h
        · exact setWait_next (s := s.setValue g false)
            (resetting ▸ .entry snapshot todo g entries _)
        · exact setWait_next (.fails _)
      · cases h
        exact setWait_next (resetting ▸ .entry snapshot todo g entries none)
    · cases h
  | fail v =>
    simp only [step] at h
    split at h <;> cases h <;> exact setWait_next (.fails _)
  | returns v =>
    simp only [step] at h
    split at h <;> cases h
    rename_i snapshot entries resetting
    exact setWait_next (resetting ▸ .returns snapshot entries)

/-- What a step does to an update, given the values after it: an update whose
code issues a trigger ends with the graph guard condition true. -/
inductive UpdateState.Next (S : Setting Handle Key GUID) (value : ℕ → Bool) :
    UpdateState Handle Key GUID → UpdateState Handle Key GUID → Prop where
  | same (x : UpdateState Handle Key GUID) : Next S value x x
  | starts (update : Update Handle Key) : Next S value .idle (.running update (ops S update) false)
  | mutates (update : Update Handle Key) (op : CacheOp GUID) (todo : List (CacheOp GUID))
      (b b' : Bool) : Next S value (.running update (op :: todo) b) (.running update todo b')
  | finishes (update : Update Handle Key) (b : Bool)
      (triggered : issues update b = true → value S.graphGuard = true) :
      Next S value (.running update [] b) .finished

theorem setUpdate_next {value : ℕ → Bool} {u v : ℕ} {x : UpdateState Handle Key GUID}
    (next : UpdateState.Next S value (s.updates u) x) :
    UpdateState.Next S value (s.updates v) ((s.setUpdate u x).updates v) := by
  unfold State.setUpdate
  by_cases same : v = u
  · subst same
    simpa using next
  · simpa [Function.update_of_ne same] using UpdateState.Next.same (s.updates v)

theorem updates_step (h : step S s l = some s') (u : ℕ) :
    UpdateState.Next S s'.value (s.updates u) (s'.updates u) := by
  cases l with
  | start v update =>
    simp only [step] at h
    split at h <;> cases h
    rename_i idle
    exact setUpdate_next (idle ▸ .starts update)
  | mutate v =>
    simp only [step] at h
    split at h <;> cases h
    rename_i update op todo b running
    have next : UpdateState.Next S s.value (s.updates v)
        (.running update todo (apply s.node op).1) := running ▸ .mutates update op todo b _
    exact setUpdate_next (s := { s with node := (apply s.node op).2 }) next
  | finish v =>
    simp only [step] at h
    split at h <;> cases h
    rename_i update b running
    split
    · exact setUpdate_next (running ▸ .finishes update b fun _ => Function.update_self ..)
    · rename_i silent
      exact setUpdate_next (running ▸ .finishes update b fun issued => absurd issued silent)
  | trigger g =>
    obtain rfl := Option.some.inj h
    exact .same _
  | reset w settable =>
    simp only [step] at h
    split at h
    · split at h
      · split at h <;> cases h <;> exact .same _
      · cases h
        exact .same _
    · cases h
  | wait w _ | snapshot w | fail w | returns w =>
    simp only [step] at h
    split at h <;> cases h <;> exact .same _

/-- The wait has cleared the guard and keeps its entry, in the array that it
returns or will return. -/
def WaitState.Keeps (g : ℕ) : WaitState → Prop
  | .resetting _ _ entries => some g ∈ entries
  | .returned entries => some g ∈ entries
  | _ => False

theorem WaitState.Next.keeps {x y : WaitState} (next : x.Next y) {g : ℕ} (keeps : x.Keeps g) :
    y.Keeps g ∨ y = .failed := by
  cases next with
  | same => exact .inl keeps
  | blocks => cases keeps
  | snapshot => cases keeps
  | entry => exact .inl (List.mem_append_left _ keeps)
  | fails => exact .inr rfl
  | returns => exact .inl keeps

theorem WaitState.Next.of_failed {y : WaitState} (next : WaitState.failed.Next y) :
    y = .failed := by
  cases next <;> rfl

def Clears (s : State Handle Key GUID) (l : Label Handle Key) (w g : ℕ) : Prop :=
  l = .reset w true ∧
    ∃ snapshot todo entries, s.waits w = .resetting snapshot (g :: todo) entries ∧ g ∈ snapshot

theorem value_step (h : step S s l = some s') {g : ℕ} (up : s.value g = true) :
    s'.value g = true ∨ ∃ w, Clears s l w g ∧ (s'.waits w).Keeps g := by
  cases l with
  | trigger g' =>
    obtain rfl := Option.some.inj h
    left
    simp [State.setValue, Function.update_apply, up]
  | finish u =>
    simp only [step] at h
    split at h <;> cases h
    left
    split
    · simp [State.setValue, State.setUpdate, Function.update_apply, up]
    · exact up
  | reset w settable =>
    simp only [step] at h
    split at h
    · rename_i snapshot g' todo entries resetting
      split at h
      · rename_i member
        split at h <;> cases h
        · by_cases same : g' = g
          · subst same
            rename_i settable
            refine .inr ⟨w, ⟨by rw [settable], snapshot, todo, entries, resetting, member⟩, ?_⟩
            simp [State.setWait, WaitState.Keeps]
          · left
            simpa [State.setValue, State.setWait, Function.update_of_ne (Ne.symm same)] using up
        · exact .inl up
      · cases h
        exact .inl up
    · cases h
  | start u _ | mutate u =>
    simp only [step] at h
    split at h <;> cases h
    exact .inl up
  | wait w _ | snapshot w | fail w | returns w =>
    simp only [step] at h
    split at h <;> cases h <;> exact .inl up

def UpdateState.Due : UpdateState Handle Key GUID → Prop
  | .running update todo success => issues update success ∧ (todo = [] ∨ ∀ b, issues update b)
  | _ => False

theorem due_step (h : step S s l = some s') {u : ℕ} (due : (s.updates u).Due) :
    (s'.updates u).Due ∨ s'.value S.graphGuard = true := by
  have next := updates_step h u
  generalize s.updates u = x at due next
  generalize s'.updates u = y at next ⊢
  cases next with
  | same => exact .inl due
  | starts => cases due
  | mutates update op todo b b' =>
    have always := due.2.resolve_left (List.cons_ne_nil op todo)
    exact .inl ⟨always b', .inr always⟩
  | finishes update b triggered => exact .inr (triggered due.1)

/-- Between its start and its end an update has the last of its operations to do. -/
def UpdateState.Placed (S : Setting Handle Key GUID) : UpdateState Handle Key GUID → Prop
  | .running update todo _ => todo <:+ ops S update
  | _ => True

omit [LinearOrder GUID] in
theorem UpdateState.Next.placed {value : ℕ → Bool} {x y : UpdateState Handle Key GUID}
    (next : Next S value x y) (placed : x.Placed S) : y.Placed S := by
  cases next with
  | same => exact placed
  | starts => exact List.suffix_rfl
  | mutates update op todo => exact (List.suffix_cons op todo).trans placed
  | finishes => trivial

theorem apply_refused (n : OpenDDSNode GUID) (entityType : EntityType) (guid : GUID)
    (refused : (apply n (.remove entityType guid)).1 = false) :
    (apply n (.remove entityType guid)).2 = n := by
  have same := removeInformation_listener (n.listener entityType) guid entityType refused
  rw [apply, same, OpenDDSNode.setListener_listener]

theorem due_of_change {u : ℕ} (placed : (s.updates u).Placed S)
    (h : step S s (.mutate u) = some s') (changed : s'.node ≠ s.node) : (s'.updates u).Due := by
  simp only [step] at h
  split at h <;> cases h
  rename_i update op todo b running
  rw [running] at placed
  have after : ({ s with node := (apply s.node op).2 }.setUpdate u
      (.running update todo (apply s.node op).1)).updates u =
      .running update todo (apply s.node op).1 := Function.update_self ..
  rw [after]
  change (apply s.node op).2 ≠ s.node at changed
  have last : ∀ only, ops S update = [only] → op = only ∧ todo = [] := by
    intro only one
    rw [UpdateState.Placed, one] at placed
    exact List.cons.inj (placed.eq_of_length_le (by simp))
  cases update with
  | addPub pub t ty => exact ⟨rfl, .inr fun _ => rfl⟩
  | addSub sub t ty => exact ⟨rfl, .inr fun _ => rfl⟩
  | removePub pub =>
    obtain ⟨rfl, rfl⟩ := last _ rfl
    refine ⟨?_, .inl rfl⟩
    by_contra refused
    exact changed (apply_refused s.node _ _ (Bool.eq_false_of_not_eq_true refused))
  | removeSub sub =>
    obtain ⟨rfl, rfl⟩ := last _ rfl
    refine ⟨?_, .inl rfl⟩
    by_contra refused
    exact changed (apply_refused s.node _ _ (Bool.eq_false_of_not_eq_true refused))
  | onDataAvailable entityType take =>
    have some : 0 < (CustomDataReaderListener.handled take).length := by
      have := placed.length_le
      simp only [ops, List.length_map, List.length_cons] at this
      omega
    exact ⟨by simp [issues, some], .inr fun _ => by simp [issues, some]⟩

def ClearedIn (S : Setting Handle Key GUID) (t : State Handle Key GUID)
    (post : List (Label Handle Key)) (w g : ℕ) : Prop :=
  ∃ mid l rest r, post = mid ++ l :: rest ∧ (machine S).runFrom t mid = some r ∧ Clears r l w g

theorem ClearedIn.cons {t t' : State Handle Key GUID} (h : step S t l = some t')
    {post : List (Label Handle Key)} {w g : ℕ} (cleared : ClearedIn S t' post w g) :
    ClearedIn S t (l :: post) w g := by
  obtain ⟨mid, l', rest, r, rfl, ran, clears⟩ := cleared
  have ran' : (machine S).runFrom t (l :: mid) = some r :=
    (Machine.runFrom_cons_eq_some _).mpr ⟨t', h, ran⟩
  exact ⟨l :: mid, l', rest, r, rfl, ran', clears⟩

theorem value_run {t : State Handle Key GUID} {post : List (Label Handle Key)}
    (ran : (machine S).runFrom t post = some s) (noError : ∀ w, s.waits w ≠ .failed) {g : ℕ}
    (up : t.value g = true) :
    s.value g = true ∨ ∃ w, ClearedIn S t post w g ∧ (s.waits w).Keeps g := by
  induction post using List.reverseRecOn generalizing s with
  | nil =>
    obtain rfl := Option.some.inj ran
    exact .inl up
  | append_singleton post l ih =>
    rw [Machine.runFrom_concat, Option.bind_eq_some_iff] at ran
    obtain ⟨r, ran, last⟩ := ran
    have noErrorBefore : ∀ w, r.waits w ≠ .failed := by
      intro w failed
      have next := waits_step last w
      rw [failed] at next
      exact noError w next.of_failed
    obtain stillUp | ⟨w, ⟨mid, l', rest, r', rfl, ran', clears⟩, keeps⟩ := ih ran noErrorBefore
    · obtain up' | ⟨w, clears, keeps⟩ := value_step last stillUp
      · exact .inl up'
      · exact .inr ⟨w, ⟨post, l, [], r, rfl, ran, clears⟩, keeps⟩
    · have kept := ((waits_step last w).keeps keeps).resolve_right (noError w)
      exact .inr ⟨w, ⟨mid, l', rest ++ [l], r', by simp, ran', clears⟩, kept⟩

theorem due_run {t : State Handle Key GUID} {post : List (Label Handle Key)}
    (ran : (machine S).runFrom t post = some s) (noError : ∀ w, s.waits w ≠ .failed) {u : ℕ}
    (due : (t.updates u).Due) (finished : s.updates u = .finished) :
    s.value S.graphGuard = true ∨
      ∃ w, ClearedIn S t post w S.graphGuard ∧ (s.waits w).Keeps S.graphGuard := by
  induction post generalizing t with
  | nil =>
    obtain rfl := Option.some.inj ran
    rw [finished] at due
    cases due
  | cons l post ih =>
    obtain ⟨t', first, ran⟩ := (Machine.runFrom_cons_eq_some _).mp ran
    have rest : s.value S.graphGuard = true ∨
        ∃ w, ClearedIn S t' post w S.graphGuard ∧ (s.waits w).Keeps S.graphGuard := by
      obtain due' | up := due_step first due
      · exact ih ran due'
      · exact value_run ran noError up
    obtain up | ⟨w, cleared, keeps⟩ := rest
    · exact .inl up
    · exact .inr ⟨w, cleared.cons first, keeps⟩

/-- The step triggers the guard: a trigger of its own, or the end of an update
that issues one. -/
def Triggers (S : Setting Handle Key GUID) (t : State Handle Key GUID) (l : Label Handle Key)
    (g : ℕ) : Prop :=
  l = .trigger g ∨ ∃ u update b, l = .finish u ∧ t.updates u = .running update [] b ∧
    issues update b ∧ g = S.graphGuard

theorem value_of_triggers {t t' : State Handle Key GUID} (h : step S t l = some t') {g : ℕ}
    (triggers : Triggers S t l g) : t'.value g = true := by
  obtain rfl | ⟨u, update, b, rfl, running, issued, rfl⟩ := triggers
  · obtain rfl := Option.some.inj h
    exact Function.update_self ..
  · simp only [step, running, issued, if_true, Option.some.injEq] at h
    subst h
    exact Function.update_self ..

def AllPlaced (S : Setting Handle Key GUID) (s : State Handle Key GUID) : Prop :=
  ∀ u, (s.updates u).Placed S

theorem placed_of_run {pre : List (Label Handle Key)} (ran : (machine S).run pre = some s) :
    AllPlaced S s := by
  refine Machine.Reachable.invariant (machine S) ⟨pre, ran⟩ (fun u => trivial) ?_
  intro t l t' placed h u
  exact (updates_step h u).placed (placed u)

/-- In every interleaving without a failed wait: whenever a guard was triggered,
it is still true or a wait has cleared it afterwards and returns its entry; and
an update that has changed a cache and is finished has the graph guard condition
true, or reported by a wait that cleared it, and so returns, after the change. -/
theorem no_trigger_lost (S : Setting Handle Key GUID) (is : List (Label Handle Key))
    (s : State Handle Key GUID) (ran : (machine S).run is = some s)
    (noError : ∀ w, s.waits w ≠ .failed) :
    (∀ pre l post t t' g, is = pre ++ l :: post → (machine S).run pre = some t →
      step S t l = some t' → Triggers S t l g →
      s.value g = true ∨ ∃ w, ClearedIn S t' post w g ∧ (s.waits w).Keeps g) ∧
    ∀ pre u post t t', is = pre ++ .mutate u :: post → (machine S).run pre = some t →
      step S t (.mutate u) = some t' → t'.node ≠ t.node → s.updates u = .finished →
      s.value S.graphGuard = true ∨
        ∃ w, ClearedIn S t' post w S.graphGuard ∧ (s.waits w).Keeps S.graphGuard := by
  have rest : ∀ pre l post t t', is = pre ++ l :: post → (machine S).run pre = some t →
      step S t l = some t' → (machine S).runFrom t' post = some s := by
    rintro pre l post t t' rfl before h
    rw [Machine.run, Machine.runFrom_append] at ran
    obtain ⟨r, same, after⟩ := Option.bind_eq_some_iff.mp ran
    obtain rfl := Option.some.inj (before.symm.trans same)
    obtain ⟨r', same', after'⟩ := (Machine.runFrom_cons_eq_some _).mp after
    obtain rfl := Option.some.inj (h.symm.trans same')
    exact after'
  constructor
  · intro pre l post t t' g split before h triggers
    exact value_run (rest pre l post t t' split before h) noError (value_of_triggers h triggers)
  · intro pre u post t t' split before h changed finished
    have due := due_of_change (placed_of_run before u) h changed
    exact due_run (rest pre _ post t t' split before h) noError due finished

/-- Handles and keys are their own GUIDs; the participant is 1, its graph guard 5. -/
def numbered : Setting ℕ ℕ ℕ := ⟨⟨id, id⟩, 1, 5⟩

def addAndWait : List (Label ℕ ℕ) :=
  [.start 0 (.addPub 7 [] []), .mutate 0, .finish 0, .wait 0 [5], .snapshot 0, .reset 0 true,
    .returns 0]

theorem no_trigger_lost_addAndWait :
    ∃ s, (machine numbered).run addAndWait = some s ∧ s.node.pubListener.countTopic [] = 1 ∧
      s.value 5 = false ∧ ∃ w, (s.waits w).Keeps 5 := by
  obtain ⟨s, ran⟩ : ∃ s, (machine numbered).run addAndWait = some s := ⟨_, rfl⟩
  obtain ⟨t, before⟩ : ∃ t, (machine numbered).run [.start 0 (.addPub 7 [] [])] = some t := ⟨_, rfl⟩
  have counted : s.node.pubListener.countTopic [] = 1 := by
    obtain rfl := Option.some.inj ran
    decide
  have cleared : s.value 5 = false := by
    obtain rfl := Option.some.inj ran
    rfl
  have noError : ∀ w, s.waits w ≠ .failed := by
    obtain rfl := Option.some.inj ran
    intro w
    cases w <;> exact nofun
  obtain ⟨t', h⟩ : ∃ t', step numbered t (.mutate 0) = some t' := by
    obtain rfl := Option.some.inj before
    exact ⟨_, rfl⟩
  have changed : t'.node ≠ t.node := by
    obtain rfl := Option.some.inj before
    obtain rfl := Option.some.inj h
    intro same
    have counts := congrArg (fun n => n.pubListener.countTopic []) same
    exact absurd counts (by decide)
  have finished : s.updates 0 = .finished := by
    obtain rfl := Option.some.inj ran
    rfl
  have law := (no_trigger_lost numbered addAndWait s ran noError).2 _ 0 _ t t' rfl before h
    changed finished
  obtain up | ⟨w, -, keeps⟩ := law
  · change s.value 5 = true at up
    rw [cleared] at up
    cases up
  · exact ⟨s, ran, counted, cleared, w, keeps⟩

def inTurn (S : Setting Handle Key GUID) (dds : Wait.Dds) (u : ℕ) (update : Update Handle Key)
    (w : ℕ) (guards : List ℕ) : List (Label Handle Key) :=
  (.start u update :: ((ops S update).map (fun _ => .mutate u) ++ [.finish u])) ++
    (.wait w guards :: .snapshot w ::
      (guards.map (fun g => .reset w (dds.setTriggerValue g = .ok)) ++ [.returns w]))

/-- What the guard loop of the source makes of an array whose true guards are the snapshot. -/
def resetArray (dds : Wait.Dds) (guards : List ℕ) (value : ℕ → Bool) :
    List (Option ℕ) × (ℕ → Bool) × Option String :=
  Wait.resetGuards dds ((guards.filter value).map .guard) (guards.map some) value

theorem resetArray_keeps (dds : Wait.Dds) {guards : List ℕ} {value : ℕ → Bool} {g : ℕ}
    (member : g ∈ guards) (up : value g = true)
    (settable : ∀ g ∈ guards, dds.setTriggerValue g = .ok) :
    some g ∈ (resetArray dds guards value).1 ∧ (resetArray dds guards value).2.2 = none := by
  have fine : ∀ entry ∈ guards.map some,
      ¬ Wait.GuardFails dds ((guards.filter value).map .guard) entry := by
    intro entry listed
    obtain ⟨h, given, rfl⟩ := List.mem_map.mp listed
    simp [Wait.GuardFails, settable h given]
  obtain ⟨arrays, -, done⟩ :=
    Wait.resetGuards_spec dds ((guards.filter value).map .guard) (guards.map some) value
  refine ⟨?_, done.mpr fine⟩
  rw [resetArray, arrays, rewriteUntil_of_forall fine]
  refine List.mem_map.mpr ⟨some g, List.mem_map_of_mem member, ?_⟩
  simp [Wait.keepGuard, Wait.GuardActive, member, up]

/-- Where the source triggers, a wait on the graph guard condition that comes after the
update reports it in the array that the source returns. -/
theorem update_reported (dds : Wait.Dds) (s : State Handle Key GUID) {u w : ℕ}
    (idle : s.updates u = .idle) (ready : s.waits w = .idle) (update : Update Handle Key)
    (triggered : (perform S s.node update).triggered) {guards : List ℕ}
    (member : S.graphGuard ∈ guards) (settable : ∀ g ∈ guards, dds.setTriggerValue g = .ok) :
    ∃ s', (machine S).runFrom s (inTurn S dds u update w guards) = some s' ∧
      s'.node = (perform S s.node update).node ∧
      s'.waits w = .returned (resetArray dds guards
        (Function.update s.value S.graphGuard true)).1 ∧
      (s'.waits w).Keeps S.graphGuard := by
  obtain ⟨t, ran, node, waits, value⟩ := sequential_update s u idle update
  rw [if_pos triggered] at value
  have up : t.value S.graphGuard = true := by simp [value]
  obtain ⟨kept, done⟩ := resetArray_keeps dds member up settable
  let blocked := t.setWait w (.blocked guards)
  let woken := blocked.setWait w (.resetting (guards.filter t.value) guards [])
  have blocks : step S t (.wait w guards) = some blocked := by
    simp only [step, waits, ready]
    rfl
  have wakes : step S blocked (.snapshot w) = some woken := by
    simp [step, blocked, woken, State.setWait]
  obtain ⟨t', resets, kept_node, cleared, -⟩ := sequential_resets dds w
    (guards.filter t.value) guards [] woken (Function.update_self ..) done
  let entries := (resetArray dds guards t.value).1
  change t'.waits w = .resetting (guards.filter t.value) [] entries at cleared
  have returns : step S t' (.returns w) = some (t'.setWait w (.returned entries)) := by
    simp only [step, cleared]
  have returned : (t'.setWait w (.returned entries)).waits w = .returned entries :=
    Function.update_self ..
  refine ⟨t'.setWait w (.returned entries), ?_, kept_node.trans node, ?_, ?_⟩
  · rw [inTurn, Machine.runFrom_append, ran, Option.bind_some]
    refine (Machine.runFrom_cons_eq_some _).mpr ⟨blocked, blocks, ?_⟩
    refine (Machine.runFrom_cons_eq_some _).mpr ⟨woken, wakes, ?_⟩
    rw [Machine.runFrom_concat, resets]
    exact returns
  · rw [returned, ← value]
  · rw [returned]
    exact kept

end RmwOpendds.GuardTriggers
