import RmwOpendds.TopicCacheInvariant

/-! What a refused call of the topic cache leaves behind. `add_topic` makes the
participant's slot before it looks for the endpoint, so a second announcement of
an endpoint under a participant without a slot leaves an empty multiset. -/

namespace RmwOpendds.TopicCache

open Std Library

variable {GUID : Type*} [LinearOrder GUID]

def RefusedUnchanged (c : TopicCache GUID) (call : Call GUID) : Prop :=
  (c.apply call).changed = false → (c.apply call).cache = c

def NoEmptySlot (c : TopicCache GUID) : Prop :=
  ∀ p : GUID, c.participantToEndpointGuids[p]? ≠ some (0 : Multiset GUID)

structure SlotsOwned (c : TopicCache GUID) : Prop where
  nonempty : c.NoEmptySlot
  owned : ∀ p, p ∈ c.participantToEndpointGuids ↔
    ∃ (e : GUID) (info : TopicInfo GUID), c.endpointGuidToInfo[e]? = some info ∧
      info.participantGuid = p

/-- A known endpoint is announced only for participants that have a slot. -/
def NoStrayAdd (c : TopicCache GUID) : Call GUID → Prop
  | .addTopic participantGuid endpointGuid _ _ =>
    endpointGuid ∈ c.endpointGuidToInfo → participantGuid ∈ c.participantToEndpointGuids
  | .removeTopic _ => True

theorem addTopic_known {c : TopicCache GUID} {p e : GUID} {t u : StdString}
    (known : e ∈ c.endpointGuidToInfo) :
    c.addTopic p e t u = ⟨false, some .addedTwice,
      { c with participantToEndpointGuids :=
          initializeParticipantMap c.participantToEndpointGuids p }⟩ := by
  rw [ExtTreeMap.mem_iff_isSome_getElem?] at known
  obtain ⟨info, found⟩ := Option.isSome_iff_exists.mp known
  simp only [addTopic, found]

theorem initializeParticipantMap_eq_iff {map : ExtTreeMap GUID (Multiset GUID)} {p : GUID} :
    initializeParticipantMap map p = map ↔ p ∈ map := by
  unfold initializeParticipantMap
  split
  · simp_all
  · rename_i absent
    refine iff_of_false (fun same => absent ?_) absent
    rw [← same]
    exact ExtTreeMap.mem_insert_self

theorem cache_addTopic_eq_iff {c : TopicCache GUID} {p e : GUID} {t u : StdString} :
    (c.addTopic p e t u).cache = c ↔
      e ∈ c.endpointGuidToInfo ∧ p ∈ c.participantToEndpointGuids := by
  by_cases known : e ∈ c.endpointGuidToInfo
  · simp only [addTopic_known known, TopicCache.ext_iff, true_and, initializeParticipantMap_eq_iff,
      known]
  · refine iff_of_false (fun same => known ?_) fun both => known both.1
    rw [← same, ExtTreeMap.mem_iff_isSome_getElem?, getElem?_addTopic, if_pos rfl]
    rfl

theorem removeTopic_refused {c : TopicCache GUID} {e : GUID}
    (refused : (c.removeTopic e).changed = false) : (c.removeTopic e).cache = c := by
  revert refused
  fun_cases removeTopic c e <;> simp

theorem refusedUnchanged_iff (c : TopicCache GUID) (call : Call GUID) :
    RefusedUnchanged c call ↔ NoStrayAdd c call := by
  cases call with
  | addTopic p e t u =>
    by_cases known : e ∈ c.endpointGuidToInfo
    · have refused : (c.addTopic p e t u).changed = false := by rw [addTopic_known known]
      simp only [RefusedUnchanged, NoStrayAdd, apply, refused, cache_addTopic_eq_iff, known,
        true_and, true_imp_iff]
    · have unknown := ExtTreeMap.getElem?_eq_none known
      have changed := (changed_addTopic c p e t u).mpr unknown
      simp [RefusedUnchanged, NoStrayAdd, apply, known, changed]
  | removeTopic e => exact iff_of_true removeTopic_refused trivial

theorem WellFormed.slotsOwned {c : TopicCache GUID} (wf : c.WellFormed)
    (nonempty : c.NoEmptySlot) : c.SlotsOwned where
  nonempty := nonempty
  owned p := by
    have holds : p ∈ c.participantToEndpointGuids ↔ c.guidsOf p ≠ 0 := by
      rw [ExtTreeMap.mem_iff_isSome_getElem?, guidsOf_eq]
      cases slot : c.participantToEndpointGuids[p]? with
      | none => simp
      | some guids =>
        have some_guids : guids ≠ 0 := fun none => nonempty p (none ▸ slot)
        simp [some_guids]
    rw [holds, ne_eq, Multiset.eq_zero_iff_forall_notMem, not_forall_not]
    simp only [wf.mem_guidsOf, Option.map_eq_some_iff]

theorem nonempty_addTopic {c : TopicCache GUID} {p e : GUID} {t u : StdString}
    (before : c.NoEmptySlot) (noStray : NoStrayAdd c (.addTopic p e t u)) :
    (c.addTopic p e t u).cache.NoEmptySlot := by
  intro q
  by_cases known : e ∈ c.endpointGuidToInfo
  · rw [addTopic_known known]
    dsimp only
    rw [initializeParticipantMap_eq_iff.mpr (noStray known)]
    exact before q
  · have unknown := ExtTreeMap.getElem?_eq_none known
    simp only [addTopic, unknown, ExtTreeMap.getElem?_insert, LawfulEqCmp.compare_eq_iff_eq]
    split
    · simp
    · rename_i other
      unfold initializeParticipantMap
      split
      · exact before q
      · simp only [ExtTreeMap.getElem?_insert, LawfulEqCmp.compare_eq_iff_eq, other, if_false]
        exact before q

theorem WellFormed.nonempty_removeTopic {c : TopicCache GUID} (wf : c.WellFormed) {e : GUID}
    (before : c.NoEmptySlot) : (c.removeTopic e).cache.NoEmptySlot := by
  intro q
  cases h : c.endpointGuidToInfo[e]? with
  | none =>
    rw [removeTopic_unknown c h]
    exact before q
  | some info =>
    rw [wf.removeTopic_known h]
    dsimp only
    split
    · rw [ExtTreeMap.getElem?_erase]
      split
      · nofun
      · exact before q
    · rename_i rest
      rw [ExtTreeMap.getElem?_insert]
      split
      · exact fun none => rest (Option.some.inj none)
      · exact before q

structure Tight (c : TopicCache GUID) : Prop where
  wellFormed : c.WellFormed
  nonempty : c.NoEmptySlot

theorem Tight.empty : (TopicCache.empty : TopicCache GUID).Tight :=
  ⟨.empty, fun p => by simp [TopicCache.empty]⟩

theorem Tight.step (c : TopicCache GUID) (call : Call GUID) (c' : TopicCache GUID)
    (tight : c.Tight) (noStray : NoStrayAdd c call)
    (step : (machine GUID).step c call = some c') : c'.Tight := by
  obtain rfl := Option.some.inj step
  refine ⟨tight.wellFormed.apply call, ?_⟩
  cases call with
  | addTopic p e t u => exact nonempty_addTopic tight.nonempty noStray
  | removeTopic e => exact tight.wellFormed.nonempty_removeTopic tight.nonempty

theorem noStrayAdd_of_slotsOwned (c : TopicCache GUID) (call : Call GUID) (c' : TopicCache GUID)
    (step : (machine GUID).step c call = some c') (after : c'.SlotsOwned) : NoStrayAdd c call := by
  obtain rfl := Option.some.inj step
  cases call with
  | removeTopic e => trivial
  | addTopic p e t u =>
    intro known
    by_contra absent
    refine after.nonempty p ?_
    simp [apply, addTopic_known known, initializeParticipantMap, absent]

/-- In a run from the empty cache every refused call leaves both maps alone, and
the slots are those of the owners of some endpoint at every moment, exactly if no
known endpoint is announced for a participant without a slot. -/
theorem refused_calls_iff (calls : List (Call GUID)) :
    ((machine GUID).Along RefusedUnchanged empty calls ∧
      (machine GUID).Throughout SlotsOwned empty calls) ↔
    (machine GUID).Along NoStrayAdd empty calls := by
  have same : (RefusedUnchanged : TopicCache GUID → Call GUID → Prop) = NoStrayAdd := by
    funext c call
    exact propext (refusedUnchanged_iff c call)
  have enabled := (machine GUID).isSome_runFrom (fun _ _ => rfl) empty calls
  have slots := (machine GUID).throughout_iff_along Tight.step
    (fun c tight => tight.wellFormed.slotsOwned tight.nonempty)
    (fun c call c' _ => noStrayAdd_of_slotsOwned c call c') Tight.empty enabled
  rw [same, slots, and_self]

/-- The second announcement of an endpoint, for another participant, is refused
and leaves an empty multiset for it. -/
theorem refused_call_leaves_slot :
    ¬ ∀ calls : List (Call ℕ), (machine ℕ).Along RefusedUnchanged empty calls ∧
      (machine ℕ).Throughout SlotsOwned empty calls := by
  intro claim
  have owned := (claim [.addTopic 1 7 [] [], .addTopic 2 7 [] []]).2.2 _ rfl |>.2 _ rfl
  exact owned.nonempty 2 (by decide)

end RmwOpendds.TopicCache
