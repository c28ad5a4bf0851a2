import Mathlib.Data.List.Nodup
import RmwOpendds.Library.Fallible
import RmwOpendds.WaitWoken

/-! A wait set from `create_wait_set` on, under any calls of `rmw_wait`. The
conditions sequences are overwritten before they are read, so that only their
allocation is followed; `max_conditions` is no more than their capacity. -/

namespace RmwOpendds.Wait

open Library

/-- The outcomes of the allocations and, with the message of the macro around
them, of the constructors. -/
structure WaitSetCreation where
  handleAllocated : Bool
  infoAllocated : Bool
  waitSetAllocated : Bool
  waitSetConstructed : Except String Unit
  activeAllocated : Bool
  attachedAllocated : Bool
  activeConstructed : Except String Unit
  attachedConstructed : Except String Unit

def checkAllocated (allocated : Bool) (text : String) : Except String Unit :=
  if allocated then .ok () else .error text

def waitSetOf (implementationIdentifier : ImplementationIdentifier) (held : List Condition) :
    RmwHandle WaitSetInfo :=
  ⟨implementationIdentifier, some ⟨some held, some [], some []⟩⟩

def createWaitSet (implementationIdentifier : ImplementationIdentifier) (o : WaitSetCreation) :
    Except String (RmwHandle WaitSetInfo) := do
  checkAllocated o.handleAllocated "failed to allocate wait set"
  checkAllocated o.infoAllocated "failed to allocate wait set"
  checkAllocated o.waitSetAllocated "failed to allocate wait set"
  o.waitSetConstructed
  checkAllocated o.activeAllocated "failed to allocate active_conditions sequence"
  checkAllocated o.attachedAllocated "failed to allocate attached_conditions sequence"
  o.activeConstructed
  o.attachedConstructed
  return waitSetOf implementationIdentifier []

theorem createWaitSet_ok {identifier : ImplementationIdentifier} {o : WaitSetCreation}
    {handle : RmwHandle WaitSetInfo} (created : createWaitSet identifier o = .ok handle) :
    handle = waitSetOf identifier [] := by
  unfold createWaitSet at created
  obtain ⟨-, -, created⟩ := bind_eq_ok.mp created
  obtain ⟨-, -, created⟩ := bind_eq_ok.mp created
  obtain ⟨-, -, created⟩ := bind_eq_ok.mp created
  obtain ⟨-, -, created⟩ := bind_eq_ok.mp created
  obtain ⟨-, -, created⟩ := bind_eq_ok.mp created
  obtain ⟨-, -, created⟩ := bind_eq_ok.mp created
  obtain ⟨-, -, created⟩ := bind_eq_ok.mp created
  obtain ⟨-, -, created⟩ := bind_eq_ok.mp created
  exact (Except.ok.inj created).symm

def attachedTo (handle : RmwHandle WaitSetInfo) : List Condition :=
  (handle.data.bind (·.waitSet)).getD []

def Call.result (call : Call) (handle : RmwHandle WaitSetInfo) : Option WaitResult :=
  wait call.dds call.arrays (some handle) call.waitTimeout call.triggers

def WaitResult.leave (r : WaitResult) (handle : RmwHandle WaitSetInfo) : RmwHandle WaitSetInfo :=
  { handle with
    data := handle.data.map fun info =>
      { info with waitSet := info.waitSet.map fun _ => r.attached } }

def waitSet (created : RmwHandle WaitSetInfo) : Machine (RmwHandle WaitSetInfo) Call where
  start := created
  step handle call := (call.result handle).map (·.leave handle)

/-- What is assumed of the cleanup: the attached conditions are listed, and those
of the call's own arguments can be detached. -/
structure Detaches (call : Call) : Prop where
  listed : call.dds.getConditions = .ok
  detached : ∀ c, .ok c ∈ wanted call.arrays → call.dds.detachCondition c = .ok

/-- What is attached when DDS waits is what the call's arguments ask for, once each. -/
structure OwnConditions (a : Arrays) (w : Waited) : Prop where
  nodup : w.attached.Nodup
  mem_iff : ∀ c, c ∈ w.attached ↔ .ok c ∈ wanted a

theorem nodup_attach {attached : List Condition} (nodup : attached.Nodup) (c : Condition) :
    (attach attached c).Nodup := by
  unfold attach
  split
  · exact nodup
  · rename_i absent
    rw [← List.concat_eq_append]
    exact nodup.concat absent

theorem nodup_attachAll (dds : Dds) (n : ℕ) {wants : List (Except String Condition)}
    {held : List Condition} (nodup : held.Nodup) : (attachAll dds n wants held).1.Nodup := by
  induction wants generalizing n held with
  | nil => exact nodup
  | cons want wants ih =>
    cases want with
    | error text => exact nodup
    | ok c =>
      rw [attachAll]
      split
      · exact nodup
      · exact ih (n + 1) (nodup_attach nodup c)

theorem clean_eq_nil {dds : Dds} {held attached : List Condition}
    (listed : dds.getConditions = .ok)
    (detached : ∀ c ∈ attached, dds.detachCondition c = .ok) :
    (clean dds ⟨some held, some [], some []⟩ attached).1 = [] := by
  simp only [clean, listed, Option.isSome_some, decide_true, Bool.and_self, if_true]
  exact List.filter_eq_nil_iff.mpr fun c member => by simp [detached c member]

theorem result_foreign {identifier : ImplementationIdentifier} (foreign : identifier ≠ .opendds)
    {call : Call} {held : List Condition} {r : WaitResult}
    (returned : call.result (waitSetOf identifier held) = some r) :
    r.attached = held ∧ r.waited = none := by
  simp only [Call.result, wait, openWaitSet, waitSetOf, ne_eq, foreign, not_false_eq_true,
    if_true] at returned
  obtain rfl := Option.some.inj returned
  exact ⟨rfl, rfl⟩

variable {identifier : ImplementationIdentifier} {call : Call} {r : WaitResult}

theorem leave_empty (detaches : Detaches call)
    (returned : call.result (waitSetOf identifier []) = some r) :
    r.leave (waitSetOf identifier []) = waitSetOf identifier [] := by
  have empty : r.attached = [] := by
    by_cases own : identifier = .opendds
    · subst own
      refine (wait_cases call.dds call.arrays [] call.waitTimeout call.triggers returned).1.trans ?_
      refine clean_eq_nil detaches.listed fun c member => detaches.detached c ?_
      exact (mem_of_mem_attachAll call.dds member).resolve_left List.not_mem_nil
    · exact (result_foreign own returned).1
  simp only [WaitResult.leave, empty]
  rfl

theorem ownConditions (returned : call.result (waitSetOf identifier []) = some r) {w : Waited}
    (waited : r.waited = some w) : OwnConditions call.arrays w := by
  by_cases own : identifier = .opendds
  · subst own
    obtain ⟨done, attached, -⟩ := waited_eq_some returned waited
    refine ⟨attached ▸ nodup_attachAll call.dds 0 List.nodup_nil, fun c => ?_⟩
    rw [attached, mem_attachAll call.dds done]
    simp
  · rw [(result_foreign own returned).2] at waited
    cases waited

/-- From its creation on, whatever the calls are given and wherever they return,
nothing is attached to a wait set between them, and a call that gets to wait waits
on its own arguments only. -/
theorem wait_set_empty (identifier : ImplementationIdentifier) (o : WaitSetCreation)
    (handle : RmwHandle WaitSetInfo) (created : createWaitSet identifier o = .ok handle)
    (calls : List Call) (detaches : ∀ call ∈ calls, Detaches call) :
    (waitSet handle).Throughout (attachedTo · = []) handle calls ∧
    (waitSet handle).Along
      (fun handle call => ∀ r w, call.result handle = some r → r.waited = some w →
        OwnConditions call.arrays w) handle calls := by
  obtain rfl := createWaitSet_ok created
  have empty : (waitSet (waitSetOf identifier [])).Throughout (· = waitSetOf identifier [])
      (waitSetOf identifier []) calls := by
    refine Machine.throughout_of_along _ ?_ rfl (Machine.along_of_forall _ detaches)
    rintro handle call handle' rfl detaches step
    obtain ⟨r, returned, rfl⟩ := Option.map_eq_some_iff.mp step
    exact leave_empty detaches returned
  refine ⟨empty.mono _ fun handle same => same ▸ rfl, Machine.along_of_throughout _ ?_ empty⟩
  rintro handle call rfl r w returned waited
  exact ownConditions returned waited

def creationSucceeds : WaitSetCreation := ⟨true, true, true, .ok (), true, true, .ok (), .ok ()⟩

def wokenCall : Call := ⟨prompt [.read 1], oneSubscription, none, fun _ => false⟩

def failingCall : Call :=
  ⟨silent, ⟨some [some ⟨some 1⟩, none], none, none, none, none⟩, none, fun _ => false⟩

theorem wait_set_empty_after_failure :
    (waitSet (waitSetOf .opendds [])).Throughout (attachedTo · = []) (waitSetOf .opendds [])
        [failingCall, wokenCall] ∧
      ((waitSet (waitSetOf .opendds [])).runFrom (waitSetOf .opendds [])
        [failingCall, wokenCall]).isSome ∧
      ∃ r w, wokenCall.result (waitSetOf .opendds []) = some r ∧ r.waited = some w ∧
        w.attached = [.read 1, .guard 3] ∧ OwnConditions oneSubscription w := by
  obtain ⟨empty, own⟩ := wait_set_empty .opendds creationSucceeds _ rfl [failingCall, wokenCall] (by
    intro call member
    obtain rfl | rfl : call = failingCall ∨ call = wokenCall := by simpa using member
    all_goals exact ⟨rfl, fun _ _ => rfl⟩)
  exact ⟨empty, rfl, _, _, rfl, rfl, rfl, (own.2 _ rfl).1 _ _ rfl rfl⟩

end RmwOpendds.Wait
