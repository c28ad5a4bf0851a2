import RmwOpendds.Contexts

/-! What one context's shutdown does to the nodes of the others. Each context holds
an implementation of its own, but the destructor of any of them shuts down the one
service that the participants of all nodes depend on. -/

namespace RmwOpendds.Process

open Library

/-- As long as a context is initialised, the service is up and the participants of
its nodes are usable. -/
structure Isolated (p : Process) : Prop where
  service : ∀ c, (p.contexts c).impl.isSome → p.serviceUp = true
  usable : ∀ k n, p.nodes k = some n → (p.contexts n.context).impl.isSome →
    p.participants k = some true

def SparesOthers (p : Process) (i : ContextCall) : Prop :=
  ∀ c, p.ShutsDown c i → ∀ c', c' ≠ c → (p.contexts c').impl = none

structure IsolatedNodes (p : Process) : Prop extends Isolated p where
  own : ∀ k n, p.nodes k = some n → (p.contexts n.context).implementationIdentifier = .opendds

theorem isolatedNodes_start : start.IsolatedNodes where
  service _ initialised := nomatch initialised
  usable _ _ there := nomatch there
  own _ _ there := nomatch there

theorem IsolatedNodes.rmwInit {p : Process} (inv : p.IsolatedNodes)
    (options : Option RmwInitOptions) (context : Option ℕ) (dds : ImplOutcome) :
    (p.rmwInit options context dds).process.IsolatedNodes := by
  obtain same | ⟨c, value, zero, contexts, serviceUp⟩ := p.rmwInit_cases options context dds
  · rw [same]
    exact inv
  · obtain ⟨nodes, -, participants⟩ := p.rmwInit_frame options context dds
    have others : ∀ k n, p.nodes k = some n → n.context ≠ c := by
      intro k n there same
      have own := inv.own k n there
      rw [same, zero] at own
      cases own
    refine ⟨⟨fun c' => ?_, fun k n there => ?_⟩, fun k n there => ?_⟩
    · rw [contexts, serviceUp, Function.update_apply, Bool.or_eq_true]
      split
      · exact .inr
      · exact fun initialised => .inl (inv.service c' initialised)
    · rw [nodes] at there
      rw [contexts, participants, Function.update_of_ne (others k n there)]
      exact inv.usable k n there
    · rw [nodes] at there
      rw [contexts, Function.update_of_ne (others k n there)]
      exact inv.own k n there

theorem IsolatedNodes.afterDestructor {p : Process} (inv : p.IsolatedNodes) {c : ℕ}
    (last : ∀ c', c' ≠ c → (p.contexts c').impl = none) :
    (p.afterDestructor c).IsolatedNodes := by
  have ended : ∀ c', ((p.afterDestructor c).contexts c').impl = none := by
    intro c'
    rw [contexts_afterDestructor]
    split
    · rfl
    · rename_i other
      exact last c' other
  refine ⟨⟨fun c' initialised => ?_, fun k n _ initialised => ?_⟩, fun k n there => ?_⟩
  · rw [ended c'] at initialised
    cases initialised
  · rw [ended n.context] at initialised
    cases initialised
  · have own := inv.own k n there
    rw [contexts_afterDestructor]
    split
    · rename_i same
      rw [← same]
      exact own
    · exact own

theorem IsolatedNodes.addNode {p : Process} (inv : p.IsolatedNodes) {n : NodeObject}
    (own : (p.contexts n.context).implementationIdentifier = .opendds)
    (initialised : (p.contexts n.context).impl.isSome) :
    (p.afterArgument.addNode n).IsolatedNodes := by
  have serviceUp := inv.service n.context initialised
  refine ⟨⟨inv.service, fun k m there => ?_⟩, fun k m there => ?_⟩
  · rw [participants_addNode]
    obtain ⟨new, -⟩ | ⟨old, there⟩ := nodes_addNode_eq_some there
    · intro _
      exact (if_pos new).trans (congrArg some serviceUp)
    · rw [if_neg old]
      exact inv.usable k m there
  · obtain ⟨-, rfl⟩ | ⟨-, there⟩ := nodes_addNode_eq_some there
    · exact own
    · exact inv.own k m there

theorem IsolatedNodes.rmwDestroyNode {p : Process} (inv : p.IsolatedNodes) {node : Option ℕ}
    {stale : RmwContext} {dds : CleanupOutcome} {called : Called}
    (taken : p.rmwDestroyNode node stale dds = some called) : called.process.IsolatedNodes := by
  obtain same | ⟨k, participant, same⟩ := rmwDestroyNode_cases taken
  · rw [same]
    exact inv
  · rw [same]
    refine ⟨⟨inv.service, fun j m there initialised => ?_⟩, fun j m there => ?_⟩
    · obtain ⟨other, old⟩ := nodes_removeNode_eq_some there
      rw [participants_removeNode other]
      exact inv.usable j m old initialised
    · exact inv.own j m (nodes_removeNode_eq_some there).2

theorem isolatedNodes_step (p : Process) (i : ContextCall) (p' : Process) (inv : p.IsolatedNodes)
    (spares : p.SparesOthers i) (taken : p.step i = some p') : p'.IsolatedNodes := by
  cases i with
  | rmwInit options context dds =>
    cases taken
    exact inv.rmwInit options context dds
  | rmwShutdown context =>
    cases taken
    obtain ⟨c, shuts, destroyed⟩ | ⟨-, same⟩ := p.rmwShutdown_cases context
    · rw [destroyed]
      exact inv.afterDestructor (spares c shuts)
    · rw [same]
      exact inv
  | rmwCreateNode context name namespace_ dds =>
    obtain ⟨created, called, rfl⟩ := Option.map_eq_some_iff.mp taken
    by_cases creates : p.Creates (.rmwCreateNode context name namespace_ dds)
    · obtain ⟨n, -, own, initialised, added⟩ := exists_of_creates creates called
      rw [added]
      exact inv.addNode own initialised
    · obtain ⟨-, same | gone⟩ := rmwCreateNode_of_not_creates creates called
      · rw [same]
        exact inv
      · rw [gone]
        exact ⟨⟨inv.service, inv.usable⟩, inv.own⟩
  | rmwDestroyNode node stale dds =>
    obtain ⟨called, destroyed, rfl⟩ := Option.map_eq_some_iff.mp taken
    exact inv.rmwDestroyNode destroyed

/-- After a shutdown the service is down, so that no context may be initialised. -/
theorem sparesOthers_of_isolated {p p' : Process} {i : ContextCall} (taken : p.step i = some p')
    (isolated : p'.Isolated) : p.SparesOthers i := by
  intro c shuts c' other
  cases i with
  | rmwShutdown context =>
    cases taken
    obtain ⟨c₁, shuts₁, destroyed⟩ | ⟨none, -⟩ := p.rmwShutdown_cases context
    · obtain rfl : c₁ = c := Option.some.inj (shuts₁.1.symm.trans shuts.1)
      change (p.rmwShutdown context).process.Isolated at isolated
      rw [destroyed] at isolated
      by_contra initialised
      have up : (p.afterDestructor c₁).serviceUp = true := by
        apply isolated.service c'
        rw [contexts_afterDestructor, if_neg other]
        exact Option.isSome_iff_ne_none.mpr initialised
      cases up
    · exact absurd shuts (none c)
  | _ => exact shuts.elim

/-- Along a run every initialised context keeps the service and the participants of
its nodes exactly if each shutdown comes when no other context is initialised. -/
theorem isolated_until_other_shutdown (is : List ContextCall)
    (enabled : (calls.run is).isSome) :
    calls.Throughout Isolated start is ↔ calls.Along SparesOthers start is :=
  calls.throughout_iff_along isolatedNodes_step (fun _ inv => inv.toIsolated)
    (fun _ _ _ _ taken isolated => sparesOthers_of_isolated taken isolated)
    isolatedNodes_start enabled

/-- Two contexts, a node on the second, and a shutdown of the first. -/
def otherShutDown : List ContextCall :=
  [.rmwInit (some ⟨1, .opendds, 0, none⟩) (some 0) ⟨true, true⟩,
    .rmwInit (some ⟨2, .opendds, 0, none⟩) (some 1) ⟨true, true⟩,
    .rmwCreateNode (some 1) (some "talker".toList) (some "/".toList) .allGranted,
    .rmwShutdown (some 0)]

theorem isolated_until_other_shutdown_twoContexts :
    calls.Throughout Isolated start otherShutDown ↔
      calls.Along SparesOthers start otherShutDown :=
  isolated_until_other_shutdown otherShutDown (by decide)

/-- The second context is initialised, but its node's participant has ended. -/
theorem other_context_shut_down :
    ¬ ∀ (is : List ContextCall) (p : Process), calls.run is = some p → p.Isolated := by
  intro claim
  have outcome : (calls.run otherShutDown).map (fun p => (p.nodes 0).map fun n =>
      ((p.contexts n.context).impl.isSome, p.participants 0)) =
      some (some (true, some false)) := by decide
  obtain ⟨p, run, node⟩ := Option.map_eq_some_iff.mp outcome
  obtain ⟨n, there, reads⟩ := Option.map_eq_some_iff.mp node
  obtain ⟨initialised, ended⟩ := Prod.mk.inj reads
  have usable := (claim otherShutDown p run).usable 0 n there initialised
  rw [ended] at usable
  cases usable

end RmwOpendds.Process
