import RmwOpendds.Library.Machine
import RmwOpendds.Discovery
import RmwOpendds.OpenDDSNode
import RmwOpendds.Wait

/-! Guard conditions under interleaved triggers, graph updates and waits. An
update is a sequence of cache operations, each of them atomic under the mutex of
its listener, and then the trigger of the graph guard condition if the code
issues one. A wait blocks, takes the snapshot of its guards that are true, goes
through its array guard by guard and returns. -/

namespace RmwOpendds.GuardTriggers

open Library CustomDataReaderListener

variable {GUID Handle Key : Type} [LinearOrder GUID]

inductive CacheOp (GUID : Type) where
  | add (entityType : EntityType) (participantGuid guid : GUID) (topicName typeName : StdString)
  | remove (entityType : EntityType) (guid : GUID)

/-- An atomic cache operation: the returned bool and the node after it. -/
def apply (n : OpenDDSNode GUID) : CacheOp GUID → Bool × OpenDDSNode GUID
  | .add entityType p e t u =>
    let up := (n.listener entityType).addInformation p e t u entityType
    (up.success, n.setListener up.listener entityType)
  | .remove entityType e =>
    let up := (n.listener entityType).removeInformation e entityType
    (up.success, n.setListener up.listener entityType)

inductive Update (Handle Key : Type) where
  | addPub (pub : Handle) (topicName typeName : StdString)
  | addSub (sub : Handle) (topicName typeName : StdString)
  | removePub (pub : Handle)
  | removeSub (sub : Handle)
  | onDataAvailable (entityType : EntityType) (take : BuiltinTake Handle Key)

structure Setting (Handle Key GUID : Type) where
  ids : Identities Handle Key GUID
  dp : Handle
  graphGuard : ℕ

variable (S : Setting Handle Key GUID)

def sampleOp (entityType : EntityType) (s : BuiltinSample Handle Key) : CacheOp GUID :=
  if alive s then
    .add entityType (S.ids.builtinTopicKeyToGuid s.participantKey)
      (S.ids.getRepoid s.publicationHandle) s.topicName s.typeName
  else .remove entityType (S.ids.getRepoid s.publicationHandle)

def ops : Update Handle Key → List (CacheOp GUID)
  | .addPub pub t u => [.add .publisher (S.ids.getRepoid S.dp) (S.ids.getRepoid pub) t u]
  | .addSub sub t u => [.add .subscriber (S.ids.getRepoid S.dp) (S.ids.getRepoid sub) t u]
  | .removePub pub => [.remove .publisher (S.ids.getRepoid pub)]
  | .removeSub sub => [.remove .subscriber (S.ids.getRepoid sub)]
  | .onDataAvailable entityType take => (handled take).map (sampleOp S entityType)

/-- Whether the trigger is issued, given what the last cache operation returned. -/
def issues : Update Handle Key → Bool → Bool
  | .addPub .., _ => true
  | .addSub .., _ => true
  | .removePub _, success => success
  | .removeSub _, success => success
  | .onDataAvailable _ take, _ => decide (0 < (handled take).length)

inductive UpdateState (Handle Key GUID : Type) where
  | idle
  | running (update : Update Handle Key) (todo : List (CacheOp GUID)) (success : Bool)
  | finished

/-- A wait on an array of guard conditions; `entries` is the array as far as it
has been gone through, and as it is returned. -/
inductive WaitState where
  | idle
  | blocked (guards : List ℕ)
  | resetting (snapshot todo : List ℕ) (entries : List (Option ℕ))
  | returned (entries : List (Option ℕ))
  | failed
  deriving DecidableEq, Repr

structure State (Handle Key GUID : Type) [LinearOrder GUID] where
  node : OpenDDSNode GUID
  value : ℕ → Bool
  updates : ℕ → UpdateState Handle Key GUID
  waits : ℕ → WaitState

inductive Label (Handle Key : Type) where
  | trigger (g : ℕ)
  | start (u : ℕ) (update : Update Handle Key)
  | mutate (u : ℕ)
  | finish (u : ℕ)
  | wait (w : ℕ) (guards : List ℕ)
  | snapshot (w : ℕ)
  /-- The next entry of the array; `settable` says whether DDS lets it be cleared. -/
  | reset (w : ℕ) (settable : Bool)
  /-- Any other failure of a wait. -/
  | fail (w : ℕ)
  | returns (w : ℕ)

def State.setUpdate (s : State Handle Key GUID) (u : ℕ) (x : UpdateState Handle Key GUID) :
    State Handle Key GUID :=
  { s with updates := Function.update s.updates u x }

def State.setWait (s : State Handle Key GUID) (w : ℕ) (x : WaitState) : State Handle Key GUID :=
  { s with waits := Function.update s.waits w x }

def State.setValue (s : State Handle Key GUID) (g : ℕ) (b : Bool) : State Handle Key GUID :=
  { s with value := Function.update s.value g b }

def step (s : State Handle Key GUID) : Label Handle Key → Option (State Handle Key GUID)
  | .trigger g => some (s.setValue g true)
  | .start u update =>
    match s.updates u with
    | .idle => some (s.setUpdate u (.running update (ops S update) false))
    | _ => none
  | .mutate u =>
    match s.updates u with
    | .running update (op :: todo) _ =>
      let (success, node) := apply s.node op
      some ({ s with node }.setUpdate u (.running update todo success))
    | _ => none
  | .finish u =>
    match s.updates u with
    | .running update [] success =>
      let s' := s.setUpdate u .finished
      some (if issues update success then s'.setValue S.graphGuard true else s')
    | _ => none
  | .wait w guards =>
    match s.waits w with
    | .idle => some (s.setWait w (.blocked guards))
    | _ => none
  | .snapshot w =>
    match s.waits w with
    | .blocked guards => some (s.setWait w (.resetting (guards.filter s.value) guards []))
    | _ => none
  | .reset w settable =>
    match s.waits w with
    | .resetting snapshot (g :: todo) entries =>
      if g ∈ snapshot then
        if settable then
          some ((s.setValue g false).setWait w (.resetting snapshot todo (entries ++ [some g])))
        else some (s.setWait w .failed)
      else some (s.setWait w (.resetting snapshot todo (entries ++ [none])))
    | _ => none
  | .fail w =>
    match s.waits w with
    | .blocked _ => some (s.setWait w .failed)
    | .resetting .. => some (s.setWait w .failed)
    | _ => none
  | .returns w =>
    match s.waits w with
    | .resetting _ [] entries => some (s.setWait w (.returned entries))
    | _ => none

def machine : Machine (State Handle Key GUID) (Label Handle Key) where
  start := ⟨.create, fun _ => false, fun _ => .idle, fun _ => .idle⟩
  step := step S

/-! Without interference an update and the guard loop of a wait are the functions
of the source. -/

/-- An update as the node and its listeners perform it. -/
def perform (n : OpenDDSNode GUID) : Update Handle Key → OpenDDSNode.GraphUpdate GUID
  | .addPub pub t u => n.addPub S.ids S.dp pub t u
  | .addSub sub t u => n.addSub S.ids S.dp sub t u
  | .removePub pub => n.removePub S.ids pub
  | .removeSub sub => n.removeSub S.ids sub
  | .onDataAvailable entityType take =>
    let d := (n.listener entityType).onDataAvailable S.ids entityType take
    ⟨n.setListener d.listener entityType, d.triggered⟩

def applyAll (n : OpenDDSNode GUID) (todo : List (CacheOp GUID)) : OpenDDSNode GUID :=
  todo.foldl (fun n op => (apply n op).2) n

variable {S}

theorem applyAll_samples (n : OpenDDSNode GUID) (entityType : EntityType)
    (samples : List (BuiltinSample Handle Key)) :
    applyAll n (samples.map (sampleOp S entityType)) =
      n.setListener (samples.foldl (handleSample S.ids entityType) (n.listener entityType))
        entityType := by
  induction samples generalizing n with
  | nil => exact (n.setListener_listener entityType).symm
  | cons s samples ih =>
    have first : (apply n (sampleOp S entityType s)).2 =
        n.setListener (handleSample S.ids entityType (n.listener entityType) s) entityType := by
      unfold sampleOp handleSample alive
      dsimp only
      split <;> rfl
    rw [applyAll, List.map_cons, List.foldl_cons, first]
    refine (ih _).trans ?_
    rw [OpenDDSNode.setListener_setListener, OpenDDSNode.listener_setListener, List.foldl_cons]

theorem applyAll_ops (n : OpenDDSNode GUID) (update : Update Handle Key) :
    applyAll n (ops S update) = (perform S n update).node := by
  cases update with
  | addPub | addSub | removePub | removeSub => rfl
  | onDataAvailable entityType take =>
    rw [ops, applyAll_samples, ← onDataAvailable_listener]
    rfl

def lastSuccess (n : OpenDDSNode GUID) : List (CacheOp GUID) → Bool → Bool
  | [], success => success
  | op :: todo, _ => lastSuccess (apply n op).2 todo (apply n op).1

theorem issues_ops (n : OpenDDSNode GUID) (update : Update Handle Key) :
    issues update (lastSuccess n (ops S update) false) = (perform S n update).triggered := by
  cases update with
  | addPub | addSub | removePub | removeSub => rfl
  | onDataAvailable entityType take =>
    cases take with
    | notNarrowed => rfl
    | taken retcode samples => cases retcode <;> rfl

theorem run_mutates (S : Setting Handle Key GUID) (u : ℕ) (update : Update Handle Key)
    (todo : List (CacheOp GUID)) (b : Bool)
    (s : State Handle Key GUID) :
    (machine S).runFrom (s.setUpdate u (.running update todo b)) (todo.map fun _ => .mutate u) =
      some ({ s with node := applyAll s.node todo }.setUpdate u
        (.running update [] (lastSuccess s.node todo b))) := by
  induction todo generalizing s b with
  | nil => rfl
  | cons op todo ih =>
    have next : step S (s.setUpdate u (.running update (op :: todo) b)) (.mutate u) =
        some ({ s with node := (apply s.node op).2 }.setUpdate u
          (.running update todo (apply s.node op).1)) := by
      simp [step, State.setUpdate]
    rw [List.map_cons, Machine.runFrom_cons]
    refine (congrArg (Option.bind · _) next).trans ?_
    exact ih _ { s with node := (apply s.node op).2 }

/-- An update that nothing interrupts is the function of the source. -/
theorem sequential_update (s : State Handle Key GUID) (u : ℕ) (idle : s.updates u = .idle)
    (update : Update Handle Key) :
    ∃ s', (machine S).runFrom s (.start u update ::
        ((ops S update).map (fun _ => .mutate u) ++ [.finish u])) = some s' ∧
      s'.node = (perform S s.node update).node ∧ s'.waits = s.waits ∧
      s'.value = if (perform S s.node update).triggered then
        Function.update s.value S.graphGuard true else s.value := by
  have start : step S s (.start u update) =
      some (s.setUpdate u (.running update (ops S update) false)) := by
    simp [step, idle]
  have mutated := run_mutates S u update (ops S update) false s
  rw [applyAll_ops] at mutated
  let last : State Handle Key GUID := { s with node := (perform S s.node update).node }.setUpdate u
    (.running update [] (lastSuccess s.node (ops S update) false))
  let finished : State Handle Key GUID :=
    { s with node := (perform S s.node update).node }.setUpdate u .finished
  have finish : step S last (.finish u) = some (if (perform S s.node update).triggered then
      finished.setValue S.graphGuard true else finished) := by
    simp [last, finished, step, State.setUpdate, issues_ops]
  have ran : (machine S).runFrom s (.start u update ::
      ((ops S update).map (fun _ => .mutate u) ++ [.finish u])) =
      some (if (perform S s.node update).triggered then finished.setValue S.graphGuard true
        else finished) := by
    refine (Machine.runFrom_cons_eq_some _).mpr ⟨_, start, ?_⟩
    rw [Machine.runFrom_concat, mutated]
    exact finish
  refine ⟨_, ran, ?_⟩
  split <;> exact ⟨rfl, rfl, rfl⟩

/-- The guard loop of a wait that nothing interrupts is the loop of the source. -/
theorem sequential_resets (dds : Wait.Dds) (w : ℕ) (snapshot todo : List ℕ)
    (entries : List (Option ℕ)) (s : State Handle Key GUID)
    (resetting : s.waits w = .resetting snapshot todo entries)
    (finished : (Wait.resetGuards dds (snapshot.map .guard) (todo.map some) s.value).2.2 = none) :
    ∃ s', (machine S).runFrom s (todo.map fun g => .reset w (dds.setTriggerValue g = .ok)) =
        some s' ∧
      s'.node = s.node ∧
      s'.waits w = .resetting snapshot []
        (entries ++ (Wait.resetGuards dds (snapshot.map .guard) (todo.map some) s.value).1) ∧
      s'.value = (Wait.resetGuards dds (snapshot.map .guard) (todo.map some) s.value).2.1 := by
  induction todo generalizing s entries with
  | nil => exact ⟨s, rfl, rfl, by rw [resetting]; simp [Wait.resetGuards], rfl⟩
  | cons g todo ih =>
    have active : Wait.Condition.guard g ∈ snapshot.map .guard ↔ g ∈ snapshot := by simp
    simp only [List.map_cons, Wait.resetGuards, Wait.setGuard] at finished ⊢
    by_cases member : g ∈ snapshot
    · rw [if_pos (active.mpr member)] at finished ⊢
      by_cases settable : dds.setTriggerValue g = .ok
      · rw [if_pos settable] at finished ⊢
        have next : step S s (.reset w (dds.setTriggerValue g = .ok)) =
            some ((s.setValue g false).setWait w
              (.resetting snapshot todo (entries ++ [some g]))) := by
          simp [step, resetting, member, settable]
        obtain ⟨s', ran, node, waits, value⟩ := ih (entries ++ [some g])
          ((s.setValue g false).setWait w (.resetting snapshot todo (entries ++ [some g])))
          (Function.update_self ..) finished
        refine ⟨s', ?_, node, ?_, value⟩
        · exact (Machine.runFrom_cons_eq_some _).mpr ⟨_, next, ran⟩
        · rw [waits, List.append_assoc]
          rfl
      · rw [if_neg settable] at finished
        cases finished
    · rw [if_neg (active.not.mpr member)] at finished ⊢
      have next : step S s (.reset w (dds.setTriggerValue g = .ok)) =
          some (s.setWait w (.resetting snapshot todo (entries ++ [none]))) := by
        simp [step, resetting, member]
      obtain ⟨s', ran, node, waits, value⟩ := ih (entries ++ [none])
        (s.setWait w (.resetting snapshot todo (entries ++ [none])))
        (Function.update_self ..) finished
      refine ⟨s', ?_, node, ?_, value⟩
      · exact (Machine.runFrom_cons_eq_some _).mpr ⟨_, next, ran⟩
      · rw [waits, List.append_assoc]
        rfl

end RmwOpendds.GuardTriggers
