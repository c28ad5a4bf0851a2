import RmwOpendds.TopicCache

/-! The representation invariant of `TopicCache`: the multisets count every
recorded endpoint once, under its recorded participant, and nothing else. The
invariant is stated on the total view `guidsOf` of the participant map, so that
the empty slot a refused `add_topic` leaves behind is invisible to it. -/

namespace RmwOpendds.TopicCache

open Std Library

variable {GUID : Type*} [LinearOrder GUID]

def guidsOf (c : TopicCache GUID) (p : GUID) : Multiset GUID :=
  c.participantToEndpointGuids.getD p 0

structure WellFormed (c : TopicCache GUID) : Prop where
  endpointGuid_eq : ∀ (e : GUID) (info : TopicInfo GUID), c.endpointGuidToInfo[e]? = some info →
    info.endpointGuid = e
  count_eq : ∀ p e, (c.guidsOf p).count e =
    if c.endpointGuidToInfo[e]?.map TopicInfo.participantGuid = some p then 1 else 0

theorem guidsOf_eq (c : TopicCache GUID) (p : GUID) :
    c.guidsOf p = c.participantToEndpointGuids[p]?.getD 0 :=
  ExtTreeMap.getD_eq_getD_getElem?

theorem getD_initializeParticipantMap (map : ExtTreeMap GUID (Multiset GUID)) (p q : GUID) :
    (initializeParticipantMap map p).getD q 0 = map.getD q 0 := by
  unfold initializeParticipantMap
  split
  · rfl
  · rename_i absent
    rw [ExtTreeMap.getD_insert]
    split
    · rename_i same
      rw [← LawfulEqCmp.eq_of_compare same, ExtTreeMap.getD_eq_fallback absent]
    · rfl

theorem getElem?_addTopic (c : TopicCache GUID) (p e e' : GUID) (t u : StdString) :
    (c.addTopic p e t u).cache.endpointGuidToInfo[e']? =
      if e = e' then some (c.endpointGuidToInfo[e]?.getD ⟨t, u, p, e⟩)
      else c.endpointGuidToInfo[e']? := by
  unfold addTopic
  cases h : c.endpointGuidToInfo[e]? with
  | none => simp [ExtTreeMap.getElem?_insert, LawfulEqCmp.compare_eq_iff_eq]
  | some info =>
    by_cases same : e = e'
    · simp [← same, h]
    · simp [same]

theorem getElem?_addTopic_of_ne (c : TopicCache GUID) {p e : GUID} {t u : StdString} {e' : GUID}
    {info : TopicInfo GUID} (other : info ≠ ⟨t, u, p, e⟩) :
    (c.addTopic p e t u).cache.endpointGuidToInfo[e']? = some info ↔
      c.endpointGuidToInfo[e']? = some info := by
  rw [getElem?_addTopic]
  by_cases here : e = e'
  · subst here
    rw [if_pos rfl]
    cases c.endpointGuidToInfo[e]? with
    | none => exact iff_of_false (fun new => other (Option.some.inj new).symm) (by simp)
    | some old => rfl
  · rw [if_neg here]

theorem guidsOf_addTopic (c : TopicCache GUID) (p e q : GUID) (t u : StdString) :
    (c.addTopic p e t u).cache.guidsOf q =
      if p = q ∧ c.endpointGuidToInfo[e]? = none then e ::ₘ c.guidsOf q else c.guidsOf q := by
  unfold addTopic guidsOf
  cases c.endpointGuidToInfo[e]? with
  | none =>
    simp only [ExtTreeMap.getD_insert, LawfulEqCmp.compare_eq_iff_eq, and_true,
      getD_initializeParticipantMap]
    by_cases same : p = q <;> simp [same]
  | some info => simp [getD_initializeParticipantMap]

theorem changed_addTopic (c : TopicCache GUID) (p e : GUID) (t u : StdString) :
    (c.addTopic p e t u).changed = true ↔ c.endpointGuidToInfo[e]? = none := by
  unfold addTopic
  cases c.endpointGuidToInfo[e]? <;> simp

theorem removeTopic_unknown (c : TopicCache GUID) {e : GUID}
    (unknown : c.endpointGuidToInfo[e]? = none) :
    c.removeTopic e = ⟨false, some .unexpectedRemoval, c⟩ := by
  simp [removeTopic, unknown]

namespace WellFormed

variable {c : TopicCache GUID}

theorem empty : (TopicCache.empty : TopicCache GUID).WellFormed where
  endpointGuid_eq := by simp [TopicCache.empty]
  count_eq := by simp [TopicCache.empty, guidsOf]

theorem addTopic (wf : c.WellFormed) (p e : GUID) (t u : StdString) :
    (c.addTopic p e t u).cache.WellFormed where
  endpointGuid_eq e' info found := by
    rw [getElem?_addTopic] at found
    by_cases same : e = e'
    · rw [if_pos same, Option.some.injEq] at found
      cases h : c.endpointGuidToInfo[e]? with
      | none => rw [← found, h, ← same]; rfl
      | some old =>
        rw [h] at found
        exact same ▸ wf.endpointGuid_eq e info (found ▸ h)
    · rw [if_neg same] at found
      exact wf.endpointGuid_eq e' info found
  count_eq q e' := by
    rw [guidsOf_addTopic, getElem?_addTopic]
    have before := wf.count_eq q e'
    cases h : c.endpointGuidToInfo[e]? with
    | some old =>
      -- a known endpoint: neither map changes
      by_cases same : e = e'
      · rw [← same, h] at before
        simpa [← same] using before
      · simpa [same] using before
    | none =>
      by_cases same : e = e'
      · rw [← same, h] at before
        by_cases part : p = q <;> simp_all
      · by_cases part : p = q <;> simp_all [Ne.symm same]

theorem mem_guidsOf (wf : c.WellFormed) {p e : GUID} :
    e ∈ c.guidsOf p ↔ c.endpointGuidToInfo[e]?.map TopicInfo.participantGuid = some p := by
  rw [← Multiset.count_pos, wf.count_eq]
  split <;> simp_all

theorem known_of_mem_guidsOf (wf : c.WellFormed) {p e : GUID} (member : e ∈ c.guidsOf p) :
    e ∈ c.endpointGuidToInfo := by
  obtain ⟨info, known, -⟩ := Option.map_eq_some_iff.mp (wf.mem_guidsOf.mp member)
  rw [ExtTreeMap.mem_iff_isSome_getElem?, known]
  rfl

/-- With the invariant, only the last branch of `remove_topic` is left for a
known endpoint. -/
theorem removeTopic_known (wf : c.WellFormed) {e : GUID} {info : TopicInfo GUID}
    (known : c.endpointGuidToInfo[e]? = some info) :
    c.removeTopic e = ⟨true, none,
      { endpointGuidToInfo := c.endpointGuidToInfo.erase e
        participantToEndpointGuids :=
          if (c.guidsOf info.participantGuid).erase e = 0
          then c.participantToEndpointGuids.erase info.participantGuid
          else c.participantToEndpointGuids.insert info.participantGuid
            ((c.guidsOf info.participantGuid).erase e) }⟩ := by
  have member : e ∈ c.guidsOf info.participantGuid := wf.mem_guidsOf.mpr (by rw [known]; rfl)
  rw [guidsOf_eq] at member ⊢
  cases slot : c.participantToEndpointGuids[info.participantGuid]? with
  | none => simp [slot] at member
  | some guids =>
    have inside : e ∈ guids := by simpa [slot] using member
    simp only [TopicCache.removeTopic, known, slot, if_pos inside, Option.getD_some]

theorem changed_removeTopic (wf : c.WellFormed) (e : GUID) :
    (c.removeTopic e).changed = true ↔ e ∈ c.endpointGuidToInfo := by
  rw [ExtTreeMap.mem_iff_isSome_getElem?]
  cases h : c.endpointGuidToInfo[e]? with
  | none => simp [removeTopic_unknown c h]
  | some info => simp [wf.removeTopic_known h]

theorem warning_removeTopic (wf : c.WellFormed) (e : GUID) :
    (c.removeTopic e).warning =
      if e ∈ c.endpointGuidToInfo then none else some .unexpectedRemoval := by
  cases h : c.endpointGuidToInfo[e]? with
  | none => simp [removeTopic_unknown c h, ExtTreeMap.mem_iff_isSome_getElem?, h]
  | some info => simp [wf.removeTopic_known h, ExtTreeMap.mem_iff_isSome_getElem?, h]

theorem getElem?_removeTopic (wf : c.WellFormed) (e e' : GUID) :
    (c.removeTopic e).cache.endpointGuidToInfo[e']? =
      if e = e' then none else c.endpointGuidToInfo[e']? := by
  cases h : c.endpointGuidToInfo[e]? with
  | none =>
    rw [removeTopic_unknown c h]
    by_cases same : e = e'
    · simp [← same, h]
    · simp [same]
  | some info =>
    simp [wf.removeTopic_known h, ExtTreeMap.getElem?_erase, LawfulEqCmp.compare_eq_iff_eq]

theorem getElem?_removeTopic_of_ne (wf : c.WellFormed) {e e' : GUID} {info : TopicInfo GUID}
    (other : c.endpointGuidToInfo[e]? ≠ some info) :
    (c.removeTopic e).cache.endpointGuidToInfo[e']? = some info ↔
      c.endpointGuidToInfo[e']? = some info := by
  rw [wf.getElem?_removeTopic]
  by_cases here : e = e'
  · subst here
    rw [if_pos rfl]
    exact iff_of_false (by simp) other
  · rw [if_neg here]

theorem not_mem_guidsOf (wf : c.WellFormed) {p e : GUID} {info : TopicInfo GUID}
    (known : c.endpointGuidToInfo[e]? = some info) (other : p ≠ info.participantGuid) :
    e ∉ c.guidsOf p := by
  rw [wf.mem_guidsOf, known]
  simpa using Ne.symm other

theorem guidsOf_removeTopic (wf : c.WellFormed) (e q : GUID) :
    (c.removeTopic e).cache.guidsOf q = (c.guidsOf q).erase e := by
  cases h : c.endpointGuidToInfo[e]? with
  | none =>
    have absent : e ∉ c.guidsOf q := by
      rw [wf.mem_guidsOf, h]
      simp
    rw [removeTopic_unknown c h, Multiset.erase_of_notMem absent]
  | some info =>
    rw [wf.removeTopic_known h]
    by_cases part : info.participantGuid = q
    · subst part
      rw [guidsOf_eq]
      split
      · rename_i last
        simp [last]
      · simp
    · have absent := wf.not_mem_guidsOf h (Ne.symm part)
      rw [Multiset.erase_of_notMem absent]
      simp only [guidsOf_eq]
      split <;> simp [ExtTreeMap.getElem?_erase, ExtTreeMap.getElem?_insert,
        LawfulEqCmp.compare_eq_iff_eq, part]

theorem slot_removeTopic (wf : c.WellFormed) {p e : GUID} (absent : e ∉ c.guidsOf p) :
    (c.removeTopic e).cache.participantToEndpointGuids[p]? =
      c.participantToEndpointGuids[p]? := by
  cases h : c.endpointGuidToInfo[e]? with
  | none => rw [removeTopic_unknown c h]
  | some info =>
    have other : info.participantGuid ≠ p := by
      rintro rfl
      exact absent (wf.mem_guidsOf.mpr (by rw [h]; rfl))
    rw [wf.removeTopic_known h]
    dsimp only
    split <;> simp [ExtTreeMap.getElem?_erase, ExtTreeMap.getElem?_insert,
      LawfulEqCmp.compare_eq_iff_eq, other]

theorem removeTopic (wf : c.WellFormed) (e : GUID) : (c.removeTopic e).cache.WellFormed where
  endpointGuid_eq e' info found := by
    rw [wf.getElem?_removeTopic] at found
    split at found
    · cases found
    · exact wf.endpointGuid_eq e' info found
  count_eq q e' := by
    rw [wf.guidsOf_removeTopic, wf.getElem?_removeTopic]
    by_cases same : e = e'
    · subst same
      rw [Multiset.count_erase_self, wf.count_eq]
      split <;> simp
    · rw [Multiset.count_erase_of_ne (Ne.symm same), wf.count_eq, if_neg same]

end WellFormed

inductive Call (GUID : Type*) where
  | addTopic (participantGuid endpointGuid : GUID) (topicName typeName : StdString)
  | removeTopic (endpointGuid : GUID)

def apply (c : TopicCache GUID) : Call GUID → Outcome GUID
  | .addTopic participantGuid endpointGuid topicName typeName =>
    c.addTopic participantGuid endpointGuid topicName typeName
  | .removeTopic endpointGuid => c.removeTopic endpointGuid

/-- The cache under arbitrary calls; every call is enabled in every state. -/
def machine (GUID : Type*) [LinearOrder GUID] : Machine (TopicCache GUID) (Call GUID) where
  start := empty
  step c call := some (c.apply call).cache

abbrev Reachable (c : TopicCache GUID) : Prop := (machine GUID).Reachable c

theorem WellFormed.apply {c : TopicCache GUID} (wf : c.WellFormed) (call : Call GUID) :
    (c.apply call).cache.WellFormed := by
  cases call with
  | addTopic p e t u => exact wf.addTopic p e t u
  | removeTopic e => exact wf.removeTopic e

theorem Reachable.wellFormed {c : TopicCache GUID} (reach : c.Reachable) : c.WellFormed := by
  refine Machine.Reachable.invariant _ reach WellFormed.empty ?_
  intro c call c' wf step
  exact Option.some.inj step ▸ wf.apply call

/-- Whatever calls were made: an entry is filed under its own GUID, counted once
for its participant and for no other, every GUID of a multiset has an entry, and
`remove_topic` succeeds exactly on known endpoints, taking the endpoint out of
both maps and leaving everything else alone. -/
theorem representation (calls : List (Call GUID)) (c : TopicCache GUID)
    (ran : (machine GUID).run calls = some c) :
    (∀ (e : GUID) (info : TopicInfo GUID), c.endpointGuidToInfo[e]? = some info →
      info.endpointGuid = e ∧ (c.guidsOf info.participantGuid).count e = 1 ∧
      ∀ p, p ≠ info.participantGuid → e ∉ c.guidsOf p) ∧
    (∀ p e, e ∈ c.guidsOf p → e ∈ c.endpointGuidToInfo) ∧
    ∀ e, ((c.removeTopic e).changed = true ↔ e ∈ c.endpointGuidToInfo) ∧
      (c.removeTopic e).warning =
        (if e ∈ c.endpointGuidToInfo then none else some .unexpectedRemoval) ∧
      (c.removeTopic e).cache.endpointGuidToInfo = c.endpointGuidToInfo.erase e ∧
      (∀ p, (c.removeTopic e).cache.guidsOf p = (c.guidsOf p).erase e) ∧
      ∀ p, e ∉ c.guidsOf p →
        (c.removeTopic e).cache.participantToEndpointGuids[p]? =
          c.participantToEndpointGuids[p]? := by
  have wf : c.WellFormed := Reachable.wellFormed ⟨calls, ran⟩
  refine ⟨fun e info known => ⟨wf.endpointGuid_eq e info known, ?_, ?_⟩, ?_, fun e => ?_⟩
  · rw [wf.count_eq, known]
    simp
  · exact fun p other => wf.not_mem_guidsOf known other
  · exact fun p e => wf.known_of_mem_guidsOf
  · refine ⟨wf.changed_removeTopic e, wf.warning_removeTopic e, ?_, wf.guidsOf_removeTopic e,
      fun p absent => wf.slot_removeTopic absent⟩
    apply ExtTreeMap.ext_getElem?
    intro e'
    rw [wf.getElem?_removeTopic, ExtTreeMap.getElem?_erase]
    simp [LawfulEqCmp.compare_eq_iff_eq]

/-- Two participants announce the same endpoint; the second announcement is refused. -/
theorem representation_duplicate :
    ∃ c : TopicCache ℕ, (machine ℕ).run [.addTopic 1 7 [] [], .addTopic 2 7 [] []] = some c ∧
      (∀ p e, e ∈ c.guidsOf p → e ∈ c.endpointGuidToInfo) ∧
      (c.removeTopic 7).changed = true := by
  have law := representation [.addTopic 1 7 [] [], .addTopic 2 7 [] []] _ rfl
  exact ⟨_, rfl, law.2.1, (law.2.2 7).1.mpr (by decide)⟩

end RmwOpendds.TopicCache
