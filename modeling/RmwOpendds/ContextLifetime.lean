import RmwOpendds.Contexts

/-! The context that a node sees. `RmwAllocateFree::create` takes its arguments by
value, so that the reference member of an `OpenDDSNode` is bound to the parameter
of a call that has returned. -/

namespace RmwOpendds.Process

open Library

/-- Every node reads the current value of the context that it was created with. -/
def SeesCaller (p : Process) : Prop :=
  ∀ k n, p.nodes k = some n → p.deref n.contextRef = some (p.contexts n.context)

structure RefersToParameters (p : Process) : Prop where
  ended : ∀ k, p.parameters k = none
  refers : ∀ k n, p.nodes k = some n → ∃ call, n.contextRef = .parameter call

theorem refersToParameters_start : start.RefersToParameters :=
  ⟨fun _ => rfl, fun _ _ there => nomatch there⟩

theorem RefersToParameters.dangling {p : Process} (inv : p.RefersToParameters) {k : ℕ}
    {n : NodeObject} (there : p.nodes k = some n) : p.deref n.contextRef = none := by
  obtain ⟨call, ref⟩ := inv.refers k n there
  rw [ref]
  exact inv.ended call

theorem RefersToParameters.seesCaller_iff {p : Process} (inv : p.RefersToParameters) :
    p.SeesCaller ↔ ∀ k, p.nodes k = none := by
  constructor
  · intro sees k
    by_contra there
    obtain ⟨n, node⟩ := Option.ne_none_iff_exists'.mp there
    have seen := sees k n node
    rw [inv.dangling node] at seen
    cases seen
  · intro empty k n there
    rw [empty k] at there
    cases there

theorem nodes_step {p p' : Process} {i : ContextCall} (taken : p.step i = some p') :
    (p.Creates i ∧ ∃ n, n.contextRef = .parameter p.nextParameter ∧
      p' = p.afterArgument.addNode n) ∨
    (¬ p.Creates i ∧ ∀ k m, p'.nodes k = some m → p.nodes k = some m) := by
  cases i with
  | rmwInit options context dds =>
    cases taken
    obtain ⟨nodes, -, -⟩ := p.rmwInit_frame options context dds
    refine .inr ⟨id, fun k m there => ?_⟩
    rw [← nodes]
    exact there
  | rmwShutdown context =>
    cases taken
    obtain ⟨nodes, -⟩ := p.rmwShutdown_frame context
    refine .inr ⟨id, fun k m there => ?_⟩
    rw [← nodes]
    exact there
  | rmwCreateNode context name namespace_ dds =>
    obtain ⟨created, called, rfl⟩ := Option.map_eq_some_iff.mp taken
    by_cases creates : p.Creates (.rmwCreateNode context name namespace_ dds)
    · obtain ⟨n, ref, -, -, added⟩ := exists_of_creates creates called
      exact .inl ⟨creates, n, ref, added⟩
    · refine .inr ⟨creates, fun k m there => ?_⟩
      obtain ⟨-, same | gone⟩ := rmwCreateNode_of_not_creates creates called
      · rw [same] at there
        exact there
      · rw [gone] at there
        exact there
  | rmwDestroyNode node stale dds =>
    obtain ⟨called, destroyed, rfl⟩ := Option.map_eq_some_iff.mp taken
    refine .inr ⟨id, fun k m there => ?_⟩
    obtain same | ⟨j, participant, same⟩ := rmwDestroyNode_cases destroyed
    · rw [same] at there
      exact there
    · rw [same] at there
      exact (nodes_removeNode_eq_some there).2

theorem parameters_step {p p' : Process} {i : ContextCall} (taken : p.step i = some p')
    (ended : ∀ k, p.parameters k = none) (k : ℕ) : p'.parameters k = none := by
  cases i with
  | rmwInit options context dds =>
    cases taken
    obtain ⟨-, parameters, -⟩ := p.rmwInit_frame options context dds
    rw [parameters]
    exact ended k
  | rmwShutdown context =>
    cases taken
    obtain ⟨-, parameters⟩ := p.rmwShutdown_frame context
    rw [parameters]
    exact ended k
  | rmwCreateNode context name namespace_ dds =>
    obtain ⟨created, called, rfl⟩ := Option.map_eq_some_iff.mp taken
    have argument : p.afterArgument.parameters k = none := by
      rw [parameters_afterArgument, ended k, ite_self]
    by_cases creates : p.Creates (.rmwCreateNode context name namespace_ dds)
    · obtain ⟨n, -, -, -, added⟩ := exists_of_creates creates called
      rw [added]
      exact argument
    · obtain ⟨-, same | gone⟩ := rmwCreateNode_of_not_creates creates called
      · rw [same]
        exact ended k
      · rw [gone]
        exact argument
  | rmwDestroyNode node stale dds =>
    obtain ⟨called, destroyed, rfl⟩ := Option.map_eq_some_iff.mp taken
    obtain same | ⟨j, participant, same⟩ := rmwDestroyNode_cases destroyed
    · rw [same]
      exact ended k
    · rw [same]
      exact ended k

theorem RefersToParameters.step {p p' : Process} {i : ContextCall} (inv : p.RefersToParameters)
    (taken : p.step i = some p') : p'.RefersToParameters := by
  refine ⟨parameters_step taken inv.ended, fun k m there => ?_⟩
  obtain ⟨-, n, ref, rfl⟩ | ⟨-, old⟩ := nodes_step taken
  · obtain ⟨-, rfl⟩ | ⟨-, old⟩ := nodes_addNode_eq_some there
    · exact ⟨_, ref⟩
    · exact inv.refers k m old
  · exact inv.refers k m (old k m there)

theorem nodes_eq_none_iff {p p' : Process} {i : ContextCall} (empty : ∀ k, p.nodes k = none)
    (taken : p.step i = some p') : (∀ k, p'.nodes k = none) ↔ ¬ p.Creates i := by
  obtain ⟨creates, n, -, rfl⟩ | ⟨refused, old⟩ := nodes_step taken
  · refine iff_of_false (fun none => ?_) (not_not_intro creates)
    have there : (p.afterArgument.addNode n).nodes p.nextNode = some n := Function.update_self ..
    rw [none p.nextNode] at there
    cases there
  · refine iff_of_true (fun k => ?_) refused
    by_contra there
    obtain ⟨m, node⟩ := Option.ne_none_iff_exists'.mp there
    have known := old k m node
    rw [empty k] at known
    cases known

structure NoNodeYet (p : Process) : Prop extends RefersToParameters p where
  empty : ∀ k, p.nodes k = none

theorem noNodeYet_start : start.NoNodeYet := ⟨refersToParameters_start, fun _ => rfl⟩

theorem noNodeYet_step (p : Process) (i : ContextCall) (p' : Process) (inv : p.NoNodeYet)
    (refused : ¬ p.Creates i) (taken : p.step i = some p') : p'.NoNodeYet :=
  ⟨inv.step taken, (nodes_eq_none_iff inv.empty taken).mpr refused⟩

/-- Along a run the nodes see their callers' contexts exactly as long as no call
returns a node. The reference of a node never denotes an object that lives. -/
theorem caller_seen_until_created (is : List ContextCall) (enabled : (calls.run is).isSome) :
    (calls.Throughout SeesCaller start is ↔
      calls.Along (fun p i => ¬ p.Creates i) start is) ∧
    ∀ p, calls.run is = some p → ∀ k n, p.nodes k = some n → p.deref n.contextRef = none := by
  constructor
  · refine calls.throughout_iff_along noNodeYet_step ?_ ?_ noNodeYet_start enabled
    · intro p inv
      exact inv.seesCaller_iff.mpr inv.empty
    · intro p i p' inv taken sees
      have refers : p'.RefersToParameters := inv.step taken
      exact (nodes_eq_none_iff inv.empty taken).mp (refers.seesCaller_iff.mp sees)
  · intro p run k n there
    have inv : p.RefersToParameters :=
      Machine.Reachable.invariant calls ⟨is, run⟩ refersToParameters_start
        fun _ _ _ inv taken => inv.step taken
    exact inv.dangling there

def oneNode : List ContextCall :=
  [.rmwInit (some ⟨1, .opendds, 0, none⟩) (some 0) ⟨true, true⟩,
    .rmwCreateNode (some 0) (some "talker".toList) (some "/".toList) .allGranted]

theorem caller_seen_until_created_oneNode :
    (calls.Throughout SeesCaller start oneNode ↔
      calls.Along (fun p i => ¬ p.Creates i) start oneNode) ∧
    ∀ p, calls.run oneNode = some p →
      ∀ k n, p.nodes k = some n → p.deref n.contextRef = none :=
  caller_seen_until_created oneNode (by decide)

/-- The node's reference is bound to a parameter that is gone. -/
theorem parameter_seen :
    ¬ ∀ (is : List ContextCall) (p : Process), calls.run is = some p → p.SeesCaller := by
  intro claim
  have outcome : (calls.run oneNode).map (fun p => (p.nodes 0).map fun n => p.deref n.contextRef) =
      some (some none) := by decide
  obtain ⟨p, run, node⟩ := Option.map_eq_some_iff.mp outcome
  obtain ⟨n, there, gone⟩ := Option.map_eq_some_iff.mp node
  have seen := claim oneNode p run 0 n there
  rw [gone] at seen
  cases seen

end RmwOpendds.Process
