import RmwOpendds.Lifecycle

/-! The calls on init options, contexts and nodes refine the automaton of their phases:
every run returns the codes of the automaton, and the objects in a zero phase are
zero-initialised again. -/

namespace RmwOpendds.Lifecycle

open Library

def phase (c : RmwContext) : Phase :=
  if c.implementationIdentifier = .null then .zero
  else if c.impl.isSome then .active
  else .ended

def isReady (o : InitOptions) : Bool := o.options.implementationIdentifier = .opendds

def abstract (s : System) : Spec where
  contexts c := phase (s.process.contexts c)
  ready k := isReady (s.options k)
  nodes k := (s.process.nodes k).map (·.context)
  nextNode := s.process.nextNode
  codes := s.codes

inductive SoundOptions (defaultDomainId : ℕ) (o : InitOptions) : Prop where
  | zero (same : o = .zero defaultDomainId)
  | ready (own : o.options.implementationIdentifier = .opendds)
      (allocator : o.allocatorValid = true)

inductive SoundContext (nextImpl : ℕ) (c : RmwContext) : Prop where
  | zero (same : c = .zero)
  | own (own : c.implementationIdentifier = .opendds) (older : ∀ i ∈ c.impl, i < nextImpl)

structure Sound (defaultDomainId : ℕ) (s : System) : Prop where
  options : ∀ k, SoundOptions defaultDomainId (s.options k)
  contexts : ∀ c, SoundContext s.process.nextImpl (s.process.contexts c)
  apart : ∀ c c' i, (s.process.contexts c).impl = some i → (s.process.contexts c').impl = some i →
    c = c'

section Objects

variable {defaultDomainId nextImpl : ℕ} {o : InitOptions} {c : RmwContext}

theorem SoundOptions.isReady_iff (sound : SoundOptions defaultDomainId o) :
    isReady o = !isZeroInitialized defaultDomainId o := by
  cases sound with
  | zero same =>
    rw [same, isZeroInitialized_zero]
    rfl
  | ready own allocator => simp [isReady, isZeroInitialized, own]

theorem SoundOptions.eq_zero (sound : SoundOptions defaultDomainId o) (fresh : isReady o = false) :
    o = .zero defaultDomainId := by
  cases sound with
  | zero same => exact same
  | ready own allocator => simp [isReady, own] at fresh

theorem phase_of_own (own : c.implementationIdentifier = .opendds) :
    phase c = if c.impl.isSome then .active else .ended := by
  rw [phase, own]
  rfl

theorem SoundContext.phase_eq_zero (sound : SoundContext nextImpl c) :
    phase c = .zero ↔ c = .zero := by
  cases sound with
  | zero same => simp [same, phase, RmwContext.zero]
  | own own older =>
    refine iff_of_false ?_ ?_
    · rw [phase_of_own own]
      cases c.impl <;> simp
    · rintro rfl
      cases own

theorem SoundContext.mono {nextImpl' : ℕ} (sound : SoundContext nextImpl c)
    (grown : nextImpl ≤ nextImpl') : SoundContext nextImpl' c := by
  cases sound with
  | zero same => exact .zero same
  | own own older => exact .own own fun i held => (older i held).trans_le grown

theorem SoundContext.older (sound : SoundContext nextImpl c) {i : ℕ} (held : c.impl = some i) :
    i < nextImpl := by
  cases sound with
  | zero same =>
    rw [same] at held
    cases held
  | own own older => exact older i held

theorem rmwInitOptionsInit_spec (sound : SoundOptions defaultDomainId o) (valid : Bool) :
    let r := rmwInitOptionsInit defaultDomainId o valid
    SoundOptions defaultDomainId r.object ∧
      ((isReady o || !valid) = true ∧ r.ret = .invalidArgument ∧ r.object = o ∨
        (isReady o || !valid) = false ∧ r.ret = .ok ∧ isReady r.object = true) := by
  have recognised := sound.isReady_iff
  unfold rmwInitOptionsInit
  cases ready : isReady o with
  | true =>
    rw [ready] at recognised
    rw [if_pos recognised.symm]
    exact ⟨sound, .inl ⟨rfl, rfl, rfl⟩⟩
  | false =>
    rw [ready] at recognised
    rw [if_neg (by simp [← recognised])]
    cases valid with
    | false => exact ⟨sound, .inl ⟨rfl, rfl, rfl⟩⟩
    | true => exact ⟨.ready rfl rfl, .inr ⟨rfl, rfl, rfl⟩⟩

theorem rmwInitOptionsCopy_ret {src : InitOptions} (dst : Option InitOptions)
    (foreign : isReady src = false) :
    rmwInitOptionsCopy defaultDomainId src dst = ⟨.incorrectRmwImplementation, none, dst⟩ := by
  unfold rmwInitOptionsCopy
  rw [if_pos (by simpa [isReady] using foreign)]

theorem rmwInitOptionsCopy_ready {src : InitOptions} (sound : SoundOptions defaultDomainId o)
    (ready : isReady src = true) :
    rmwInitOptionsCopy defaultDomainId src (some o) =
      if isReady o then ⟨.invalidArgument, some "expected zero-initialized dst", some o⟩
      else ⟨.ok, none, some src⟩ := by
  have own : src.options.implementationIdentifier = .opendds := by simpa [isReady] using ready
  unfold rmwInitOptionsCopy
  rw [if_neg (not_not.mpr own), sound.isReady_iff]

theorem rmwInitOptionsFini_spec (sound : SoundOptions defaultDomainId o) :
    let r := rmwInitOptionsFini defaultDomainId o
    SoundOptions defaultDomainId r.object ∧ isReady r.object = false ∧
      r.ret = if isReady o then .ok else .invalidArgument := by
  cases sound with
  | zero same =>
    subst same
    exact ⟨.zero rfl, rfl, rfl⟩
  | ready own allocator =>
    have finished : rmwInitOptionsFini defaultDomainId o = ⟨.ok, none, .zero defaultDomainId⟩ := by
      simp [rmwInitOptionsFini, allocator, own]
    rw [finished]
    exact ⟨.zero rfl, rfl, by simp [isReady, own]⟩

theorem rmwContextFini_spec (sound : SoundContext nextImpl c) :
    let r := rmwContextFini c
    (phase c = .ended ∧ r.ret = .ok ∧ r.object = .zero) ∨
      (phase c ≠ .ended ∧ r.ret = .invalidArgument ∧ r.object = c) := by
  cases sound with
  | zero same =>
    subst same
    exact .inr ⟨by decide, rfl, rfl⟩
  | own own older =>
    rw [phase_of_own own]
    unfold rmwContextFini
    rw [own, if_neg (by decide), if_neg (by decide)]
    cases c.impl with
    | none => exact .inl ⟨rfl, rfl, rfl⟩
    | some i => exact .inr ⟨by simp, rfl, rfl⟩

end Objects

section Steps

variable {defaultDomainId : ℕ} {s s' : System}

theorem Spec.setReady_self (t : Spec) (k : ℕ) {ready : Bool} (same : t.ready k = ready) :
    t.setReady k ready = t := by
  rw [setReady, ← same, Function.update_eq_self]

theorem Spec.enter_self (t : Spec) (c : ℕ) {p : Phase} (same : t.contexts c = p) :
    t.enter c p = t := by
  rw [enter, ← same, Function.update_eq_self]

@[simp] theorem abstract_answer (s : System) (ret : RmwRet) :
    abstract (s.answer ret) = (abstract s).answer ret := rfl

theorem abstract_setOptions (s : System) (k : ℕ) (o : InitOptions) :
    abstract (s.setOptions k o) = (abstract s).setReady k (isReady o) := by
  have ready : (fun j => isReady (Function.update s.options k o j)) =
      Function.update (fun j => isReady (s.options j)) k (isReady o) := by
    funext j
    by_cases same : j = k
    · subst same
      simp
    · simp [same]
  simp only [abstract, System.setOptions, Spec.setReady, ready]

theorem abstract_setOptions_of_ready (s : System) (k : ℕ) {o : InitOptions}
    (same : isReady o = isReady (s.options k)) : abstract (s.setOptions k o) = abstract s := by
  rw [abstract_setOptions, same]
  exact Spec.setReady_self _ k rfl

theorem abstract_setProcess (s : System) {p : Process} {c : ℕ} {value : RmwContext}
    (contexts : p.contexts = Function.update s.process.contexts c value)
    (nodes : p.nodes = s.process.nodes) (nextNode : p.nextNode = s.process.nextNode) :
    abstract (s.setProcess p) = (abstract s).enter c (phase value) := by
  have phases : (fun j => phase (Function.update s.process.contexts c value j)) =
      Function.update (fun j => phase (s.process.contexts j)) c (phase value) := by
    funext j
    by_cases same : j = c
    · subst same
      simp
    · simp [same]
  simp only [abstract, System.setProcess, Spec.enter, contexts, nodes, nextNode, phases]

theorem Sound.answer (sound : Sound defaultDomainId s) (ret : RmwRet) :
    Sound defaultDomainId (s.answer ret) := ⟨sound.options, sound.contexts, sound.apart⟩

theorem Sound.setOptions (sound : Sound defaultDomainId s) (k : ℕ) {o : InitOptions}
    (object : SoundOptions defaultDomainId o) : Sound defaultDomainId (s.setOptions k o) where
  options j := by
    by_cases same : j = k
    · subst same
      simpa [System.setOptions] using object
    · simpa [System.setOptions, same] using sound.options j
  contexts := sound.contexts
  apart := sound.apart

theorem Sound.setProcess (sound : Sound defaultDomainId s) {p : Process} {c : ℕ}
    {value : RmwContext} (older : s.process.nextImpl ≤ p.nextImpl)
    (contexts : p.contexts = Function.update s.process.contexts c value)
    (own : SoundContext p.nextImpl value)
    (impl : ∀ i ∈ value.impl, i = s.process.nextImpl ∨ (s.process.contexts c).impl = some i) :
    Sound defaultDomainId (s.setProcess p) where
  options := sound.options
  contexts j := by
    change SoundContext p.nextImpl (p.contexts j)
    rw [contexts]
    by_cases same : j = c
    · subst same
      simpa using own
    · simpa [same] using (sound.contexts j).mono older
  apart j j' i held held' := by
    change (p.contexts j).impl = some i at held
    change (p.contexts j').impl = some i at held'
    rw [contexts] at held held'
    -- another context has no new implementation
    have other : ∀ j, j ≠ c → value.impl = some i → (s.process.contexts j).impl = some i →
        j = c := by
      intro j apart own held
      obtain new | old := impl i own
      · exact absurd ((sound.contexts j).older held) (by omega)
      · exact sound.apart j c i held old
    by_cases same : j = c <;> by_cases same' : j' = c
    · rw [same, same']
    · rw [same, Function.update_self] at held
      rw [Function.update_of_ne same'] at held'
      exact absurd (other j' same' held held') same'
    · rw [same', Function.update_self] at held'
      rw [Function.update_of_ne same] at held
      exact absurd (other j same held' held) same
    · rw [Function.update_of_ne same] at held
      rw [Function.update_of_ne same'] at held'
      exact sound.apart j j' i held held'

theorem abstract_setContext (s : System) (c : ℕ) (value : RmwContext) :
    abstract (s.setProcess (s.process.setContext c value)) = (abstract s).enter c (phase value) :=
  abstract_setProcess s rfl rfl rfl

theorem Sound.setContext (sound : Sound defaultDomainId s) (c : ℕ) {value : RmwContext}
    (own : SoundContext s.process.nextImpl value)
    (impl : ∀ i ∈ value.impl, (s.process.contexts c).impl = some i) :
    Sound defaultDomainId (s.setProcess (s.process.setContext c value)) :=
  sound.setProcess (Nat.le_refl s.process.nextImpl) rfl own fun i held => .inr (impl i held)

def Commutes (defaultDomainId : ℕ) (s : System) (call : Call) : Prop :=
  (s.step defaultDomainId call).map abstract = (abstract s).step call ∧
    ∀ s', s.step defaultDomainId call = some s' → Sound defaultDomainId s'

theorem commutes_of_eq {call : Call} (stepped : s.step defaultDomainId call = some s')
    (spec : (abstract s).step call = some (abstract s')) (sound : Sound defaultDomainId s') :
    Commutes defaultDomainId s call := by
  refine ⟨by rw [stepped, spec, Option.map_some], fun s'' taken => ?_⟩
  rw [stepped] at taken
  exact Option.some.inj taken ▸ sound

theorem commutes_rmwInitOptionsInit (sound : Sound defaultDomainId s) (initOptions : Option ℕ)
    (valid : Bool) : Commutes defaultDomainId s (.rmwInitOptionsInit initOptions valid) := by
  cases initOptions with
  | none => exact commutes_of_eq rfl rfl (sound.answer _)
  | some k =>
    obtain ⟨object, law⟩ := rmwInitOptionsInit_spec (sound.options k) valid
    refine commutes_of_eq rfl ?_ ((sound.setOptions k object).answer _)
    change some (if isReady (s.options k) || !valid then _ else _) = _
    obtain ⟨refused, ret, same⟩ | ⟨accepted, ret, ready⟩ := law
    · rw [if_pos refused, ret, same, abstract_answer, abstract_setOptions_of_ready s k rfl]
    · rw [if_neg (by simp [accepted]), ret, abstract_answer, abstract_setOptions, ready]

theorem commutes_rmwInitOptionsCopy (sound : Sound defaultDomainId s) (src dst : Option ℕ) :
    Commutes defaultDomainId s (.rmwInitOptionsCopy src dst) := by
  cases src with
  | none => exact commutes_of_eq rfl rfl (sound.answer _)
  | some src =>
    cases ready : isReady (s.options src) with
    | false =>
      have foreign : (abstract s).ready src = false := ready
      cases dst with
      | none =>
        refine commutes_of_eq rfl ?_ (sound.answer _)
        rw [rmwInitOptionsCopy_ret none ready]
        simp [Spec.step, foreign]
      | some dst =>
        refine commutes_of_eq rfl ?_ ((sound.setOptions dst ?_).answer _)
        · rw [rmwInitOptionsCopy_ret _ ready, abstract_answer, Option.getD_some,
            abstract_setOptions_of_ready s dst rfl]
          simp [Spec.step, foreign]
        · rw [rmwInitOptionsCopy_ret _ ready]
          exact sound.options dst
    | true =>
      have own : (abstract s).ready src = true := ready
      cases dst with
      | none =>
        refine commutes_of_eq rfl ?_ (sound.answer _)
        have opendds : (s.options src).options.implementationIdentifier = .opendds := by
          simpa [isReady] using ready
        simp [Spec.step, own, rmwInitOptionsCopy, opendds]
      | some dst =>
        have copied := rmwInitOptionsCopy_ready (sound.options dst) ready
        cases taken : isReady (s.options dst) with
        | true =>
          have occupied : (abstract s).ready dst = true := taken
          rw [taken, if_pos rfl] at copied
          refine commutes_of_eq rfl ?_ ((sound.setOptions dst ?_).answer _)
          · rw [copied, abstract_answer, Option.getD_some, abstract_setOptions_of_ready s dst rfl]
            simp [Spec.step, own, occupied]
          · rw [copied]
            exact sound.options dst
        | false =>
          have free : (abstract s).ready dst = false := taken
          rw [taken, if_neg (by decide)] at copied
          refine commutes_of_eq rfl ?_ ((sound.setOptions dst ?_).answer _)
          · rw [copied, abstract_answer, Option.getD_some, abstract_setOptions, ready]
            simp [Spec.step, own, free]
          · rw [copied]
            exact sound.options src

theorem commutes_rmwInitOptionsFini (sound : Sound defaultDomainId s) (initOptions : Option ℕ) :
    Commutes defaultDomainId s (.rmwInitOptionsFini initOptions) := by
  cases initOptions with
  | none => exact commutes_of_eq rfl rfl (sound.answer _)
  | some k =>
    obtain ⟨object, ready, ret⟩ := rmwInitOptionsFini_spec (sound.options k)
    refine commutes_of_eq rfl ?_ ((sound.setOptions k object).answer _)
    rw [abstract_answer, abstract_setOptions, ready, ret]
    cases known : isReady (s.options k) with
    | true =>
      have own : (abstract s).ready k = true := known
      simp [Spec.step, own]
    | false =>
      have free : (abstract s).ready k = false := known
      simp [Spec.step, free, Spec.setReady_self _ k free]

theorem commutes_configure (sound : Sound defaultDomainId s) (k : ℕ) (settings : Settings) :
    Commutes defaultDomainId s (.configure k settings) := by
  cases ready : isReady (s.options k) with
  | false =>
    have foreign : (abstract s).ready k = false := ready
    have other : (s.options k).options.implementationIdentifier ≠ .opendds := by
      simpa [isReady] using ready
    simp [Commutes, System.step, Spec.step, foreign, other]
  | true =>
    have own : (abstract s).ready k = true := ready
    have opendds : (s.options k).options.implementationIdentifier = .opendds := by
      simpa [isReady] using ready
    refine commutes_of_eq (by rw [System.step, if_pos opendds]) ?_ (sound.setOptions k ?_)
    · have still : isReady ((s.options k).configure settings) = isReady (s.options k) := rfl
      rw [abstract_setOptions_of_ready s k still]
      simp [Spec.step, own]
    · cases sound.options k with
      | zero same =>
        rw [same] at opendds
        cases opendds
      | ready own allocator => exact .ready own allocator

theorem commutes_rmwContextFini (sound : Sound defaultDomainId s) (context : Option ℕ) :
    Commutes defaultDomainId s (.rmwContextFini context) := by
  cases context with
  | none => exact commutes_of_eq rfl rfl (sound.answer _)
  | some c =>
    obtain ⟨ended, ret, object⟩ | ⟨unended, ret, object⟩ := rmwContextFini_spec (sound.contexts c)
    · have known : (abstract s).contexts c = .ended := ended
      refine commutes_of_eq rfl ?_ (Sound.answer (sound.setContext c ?_ ?_) _)
      · rw [abstract_answer, abstract_setContext, ret, object]
        simp only [Spec.step, known]
        rfl
      · rw [object]
        exact .zero rfl
      · rw [object]
        rintro i ⟨⟩
    · have known : (abstract s).contexts c ≠ .ended := unended
      refine commutes_of_eq rfl ?_ (Sound.answer (sound.setContext c ?_ ?_) _)
      · have same := Spec.enter_self (abstract s) c (p := phase (s.process.contexts c)) rfl
        rw [abstract_answer, abstract_setContext, ret, object, same]
        cases now : (abstract s).contexts c with
        | ended => exact absurd now known
        | zero => simp [Spec.step, now]
        | active => simp [Spec.step, now]
      · rw [object]
        exact sound.contexts c
      · rw [object]
        exact fun i held => held

theorem commutes_rmwShutdown (sound : Sound defaultDomainId s) (context : Option ℕ) :
    Commutes defaultDomainId s (.rmwShutdown context) := by
  cases context with
  | none => exact commutes_of_eq rfl rfl (sound.answer _)
  | some c =>
    cases sound.contexts c with
    | zero same =>
      have foreign : s.process.rmwShutdown (some c) =
          ⟨.incorrectRmwImplementation, [], s.process⟩ := by
        simp [Process.rmwShutdown, same, RmwContext.zero]
      have known : (abstract s).contexts c = .zero := by
        change phase (s.process.contexts c) = .zero
        rw [same]
        rfl
      have stepped : s.step defaultDomainId (.rmwShutdown (some c)) =
          some (s.answer .incorrectRmwImplementation) := by
        simp only [System.step, foreign]
        rfl
      refine commutes_of_eq stepped ?_ (sound.answer _)
      simp only [Spec.step, known]
      rfl
    | own own older =>
      have ended : (abstract s).contexts c ≠ .zero := by
        change phase (s.process.contexts c) ≠ .zero
        rw [phase_of_own own]
        split <;> decide
      have spec : (abstract s).step (.rmwShutdown (some c)) =
          some (((abstract s).enter c .ended).answer .ok) := by
        cases now : (abstract s).contexts c with
        | zero => exact absurd now ended
        | active => simp [Spec.step, now]
        | ended => simp [Spec.step, now]
      have shut : s.process.rmwShutdown (some c) = ⟨.ok, [], s.process.shutdown c⟩ := by
        simp [Process.rmwShutdown, own]
      have stepped : s.step defaultDomainId (.rmwShutdown (some c)) =
          some ((s.setProcess (s.process.shutdown c)).answer .ok) := by
        simp only [System.step, shut]
      -- the context as it is after the call, whether or not it was active
      have contexts : (s.process.shutdown c).contexts =
          Function.update s.process.contexts c { s.process.contexts c with impl := none } := by
        unfold Process.shutdown
        split
        · rfl
        · rename_i inactive
          have ended : (s.process.contexts c).impl = none := by simpa using inactive
          have same : ({ s.process.contexts c with impl := none } : RmwContext) =
              s.process.contexts c := by rw [← ended]
          rw [same, Function.update_eq_self]
      have closed : phase ({ s.process.contexts c with impl := none } : RmwContext) = .ended := by
        simp [phase, own]
      have frame := s.process.rmwShutdown_frame (some c)
      rw [shut] at frame
      refine commutes_of_eq stepped ?_ (Sound.answer (sound.setProcess ?_ contexts ?_ ?_) _)
      · rw [abstract_answer, abstract_setProcess s contexts frame.1 ?_, spec, closed]
        · unfold Process.shutdown
          split <;> rfl
      · unfold Process.shutdown
        split <;> exact Nat.le_refl _
      · exact .own own (by rintro i ⟨⟩)
      · rintro i ⟨⟩

theorem rmwInit_of_zero {p : Process} {options : RmwInitOptions} {c : ℕ}
    (own : options.implementationIdentifier = .opendds) (zero : p.contexts c = .zero)
    (dds : Process.ImplOutcome) :
    let r := p.rmwInit (some options) (some c) dds
    r.process.nextNode = p.nextNode ∧
      ((dds.allocated && dds.factoryGiven) = true ∧ r.ret = .ok ∧
          r.process.nextImpl = p.nextImpl + 1 ∧ r.process.contexts = Function.update p.contexts c
            ⟨options.instanceId, .opendds, options, some p.nextImpl⟩ ∨
        (dds.allocated && dds.factoryGiven) = false ∧ r.ret = .error ∧
          r.process.nextImpl = p.nextImpl ∧
          r.process.contexts = Function.update p.contexts c .zero) := by
  have null : ¬ (p.contexts c).implementationIdentifier ≠ .null := by
    rw [zero]
    exact not_not.mpr rfl
  simp only [Process.rmwInit, own, ne_eq, not_true_eq_false, if_false, if_neg null]
  unfold Process.init
  cases dds.allocated with
  | false => exact ⟨rfl, .inr ⟨rfl, rfl, rfl, by simp [Process.setContext]⟩⟩
  | true =>
    cases dds.factoryGiven with
    | false => exact ⟨rfl, .inr ⟨rfl, rfl, rfl, by simp [Process.setContext]⟩⟩
    | true => exact ⟨rfl, .inl ⟨rfl, rfl, rfl, by simp [Process.setContext]⟩⟩

theorem commutes_rmwInit (sound : Sound defaultDomainId s) (options context : Option ℕ)
    (dds : Process.ImplOutcome) : Commutes defaultDomainId s (.rmwInit options context dds) := by
  cases options with
  | none =>
    have stepped : s.step defaultDomainId (.rmwInit none context dds) =
        some (s.answer .invalidArgument) := by
      cases context <;> rfl
    exact commutes_of_eq stepped (by cases context <;> rfl) (sound.answer _)
  | some k =>
    cases context with
    | none => exact commutes_of_eq rfl rfl (sound.answer _)
    | some c =>
      cases ready : isReady (s.options k) with
      | false =>
        have foreign : (abstract s).ready k = false := ready
        have other : (s.options k).options.implementationIdentifier ≠ .opendds := by
          simpa [isReady] using ready
        have stepped : s.step defaultDomainId (.rmwInit (some k) (some c) dds) =
            some (s.answer .incorrectRmwImplementation) := by
          simp only [System.step, Process.rmwInit, Option.map_some, if_pos other]
          rfl
        exact commutes_of_eq stepped (by simp [Spec.step, foreign]) (sound.answer _)
      | true =>
        have own : (abstract s).ready k = true := ready
        have opendds : ¬ (s.options k).options.implementationIdentifier ≠ .opendds := by
          simpa [isReady] using ready
        cases sound.contexts c with
        | own held older =>
          have taken : (abstract s).contexts c ≠ .zero := by
            change phase (s.process.contexts c) ≠ .zero
            rw [phase_of_own held]
            split <;> decide
          have stepped : s.step defaultDomainId (.rmwInit (some k) (some c) dds) =
              some (s.answer .invalidArgument) := by
            simp only [System.step, Process.rmwInit, Option.map_some, if_neg opendds, held]
            rfl
          refine commutes_of_eq stepped ?_ (sound.answer _)
          cases now : (abstract s).contexts c with
          | zero => exact absurd now taken
          | active => simp [Spec.step, own, now]
          | ended => simp [Spec.step, own, now]
        | zero same =>
          have fresh : (abstract s).contexts c = .zero := by
            change phase (s.process.contexts c) = .zero
            rw [same]
            rfl
          obtain ⟨nodes, -, -⟩ := s.process.rmwInit_frame (some (s.options k).options) (some c) dds
          obtain ⟨nextNode, ⟨given, ret, nextImpl, contexts⟩ | ⟨refused, ret, nextImpl, contexts⟩⟩
            := rmwInit_of_zero (not_not.mp opendds) same dds
          · refine commutes_of_eq rfl ?_ (Sound.answer (sound.setProcess ?_ contexts ?_ ?_) _)
            · simp only [Option.map_some]
              rw [abstract_answer, abstract_setProcess s contexts nodes nextNode, ret]
              simp only [Spec.step, own, fresh, given]
              rfl
            · exact nextImpl ▸ Nat.le_succ _
            · refine .own rfl ?_
              rintro i ⟨⟩
              exact nextImpl ▸ Nat.lt_succ_self _
            · rintro i ⟨⟩
              exact .inl rfl
          · refine commutes_of_eq rfl ?_ (Sound.answer (sound.setProcess ?_ contexts ?_ ?_) _)
            · simp only [Option.map_some]
              have still := Spec.enter_self (abstract s) c (p := phase .zero) fresh
              rw [abstract_answer, abstract_setProcess s contexts nodes nextNode, ret, still]
              simp only [Spec.step, own, fresh, refused]
              rfl
            · exact nextImpl ▸ Nat.le_refl _
            · exact .zero rfl
            · rintro i ⟨⟩

theorem SoundContext.phase_eq_active {nextImpl : ℕ} {c : RmwContext}
    (sound : SoundContext nextImpl c) :
    phase c = .active ↔ c.implementationIdentifier = .opendds ∧ c.impl.isSome := by
  cases sound with
  | zero same => simp [same, phase, RmwContext.zero]
  | own own older =>
    rw [phase_of_own own]
    cases c.impl <;> simp [own]

/-- What the caller sees of a process does not include parameters and participants. -/
theorem abstract_setProcess_same (s : System) {p : Process}
    (contexts : p.contexts = s.process.contexts) (nodes : p.nodes = s.process.nodes)
    (nextNode : p.nextNode = s.process.nextNode) : abstract (s.setProcess p) = abstract s := by
  simp only [abstract, System.setProcess, contexts, nodes, nextNode]

theorem Sound.setProcess_same (sound : Sound defaultDomainId s) {p : Process}
    (contexts : p.contexts = s.process.contexts) (nextImpl : p.nextImpl = s.process.nextImpl) :
    Sound defaultDomainId (s.setProcess p) where
  options := sound.options
  contexts c := by
    change SoundContext p.nextImpl (p.contexts c)
    rw [contexts, nextImpl]
    exact sound.contexts c
  apart := by
    change ∀ c c' i, (p.contexts c).impl = some i → (p.contexts c').impl = some i → c = c'
    rw [contexts]
    exact sound.apart

theorem SoundContext.phase_eq_ended {nextImpl : ℕ} {c : RmwContext}
    (sound : SoundContext nextImpl c) :
    phase c = .ended ↔ c.implementationIdentifier = .opendds ∧ c.impl = none := by
  cases sound with
  | zero same => simp [same, phase, RmwContext.zero]
  | own own older =>
    rw [phase_of_own own]
    cases c.impl <;> simp [own]

theorem Spec.step_rmwCreateNode_error {s : Spec} {c : ℕ} {name namespace_ : Option StdString}
    {dds : NodeOutcome}
    (inactive : s.contexts c = .active → ∀ names, validateNameNamespace name namespace_ =
      .ok names → ¬ dds.granted names.1 names.2)
    (defined : s.contexts c = .ended → ∀ names, validateNameNamespace name namespace_ =
      .ok names → ¬ (dds.nodeAllocated && dds.objectAllocated) = true) :
    s.step (.rmwCreateNode (some c) name namespace_ dds) = some (s.answer .error) := by
  unfold Spec.step
  dsimp only
  split
  · rename_i active valid
    rw [if_neg (inactive active _ valid)]
  · rename_i ended valid
    rw [if_neg (defined ended _ valid)]
  · rfl

theorem commutes_of_undefined_creation (sound : Sound defaultDomainId s) {context : Option ℕ}
    {name namespace_ : Option StdString} {dds : NodeOutcome}
    (called : s.process.rmwCreateNode context name namespace_ dds = none) :
    Commutes defaultDomainId s (.rmwCreateNode context name namespace_ dds) := by
  have stepped : s.step defaultDomainId (.rmwCreateNode context name namespace_ dds) = none := by
    rw [System.step, called, Option.map_none]
  have spec : (abstract s).step (.rmwCreateNode context name namespace_ dds) = none := by
    cases context with
    | none => rfl
    | some c =>
      obtain ⟨own, noImpl, valid, allocated, object⟩ :=
        (Process.rmwCreateNode_eq_none_iff ..).mp called c rfl
      have ended : (abstract s).contexts c = .ended :=
        (sound.contexts c).phase_eq_ended.mpr ⟨own, noImpl⟩
      cases named : validateNameNamespace name namespace_ with
      | error text =>
        rw [named] at valid
        cases valid
      | ok names => simp [Spec.step, ended, named, allocated, object]
  rw [Commutes, stepped, spec]
  exact ⟨rfl, nofun⟩

theorem abstract_addNode (s : System) (node : NodeObject) :
    abstract (s.setProcess ((s.process.afterArgument).addNode node)) =
      (abstract s).addNode node.context := by
  have nodes : (fun k => (Function.update s.process.nodes s.process.nextNode (some node) k).map
      (·.context)) = Function.update (fun k => (s.process.nodes k).map (·.context))
        s.process.nextNode (some node.context) := by
    funext k
    by_cases same : k = s.process.nextNode
    · subst same
      simp
    · simp [same]
  simp only [abstract, System.setProcess, Process.addNode, Process.afterArgument, nodes,
    Spec.addNode]

theorem commutes_of_creates (sound : Sound defaultDomainId s) {context : Option ℕ}
    {name namespace_ : Option StdString} {dds : NodeOutcome}
    (creates : s.process.Creates (.rmwCreateNode context name namespace_ dds)) :
    Commutes defaultDomainId s (.rmwCreateNode context name namespace_ dds) := by
  match context, name, namespace_, creates with
  | some c, some name, some namespace_, creates =>
    have stepped := congrArg (Option.map fun created : Process.Created =>
      (s.setProcess created.process).answer (if created.node.isSome then .ok else .error))
        (Process.rmwCreateNode_of_creates creates)
    obtain ⟨own, initialised, named, placed, granted⟩ := creates
    have active : (abstract s).contexts c = .active :=
      (sound.contexts c).phase_eq_active.mpr ⟨own, initialised⟩
    have valid : validateNameNamespace (some name) (some namespace_) = .ok (name, namespace_) :=
      validateNameNamespace_eq_ok.mpr ⟨rfl, rfl, named, placed⟩
    have spec : (abstract s).step (.rmwCreateNode (some c) (some name) (some namespace_) dds) =
        some (((abstract s).addNode c).answer .ok) := by
      simp only [Spec.step, active, valid, granted]
      rfl
    refine commutes_of_eq stepped ?automaton
      (Sound.answer (sound.setProcess_same ?contexts ?impl) _)
    case contexts => rfl
    case impl => rfl
    rw [spec, abstract_answer, abstract_addNode]
    rfl

theorem commutes_of_not_creates (sound : Sound defaultDomainId s) {context : Option ℕ}
    {name namespace_ : Option StdString} {dds : NodeOutcome} {created : Process.Created}
    (creates : ¬ s.process.Creates (.rmwCreateNode context name namespace_ dds))
    (called : s.process.rmwCreateNode context name namespace_ dds = some created) :
    Commutes defaultDomainId s (.rmwCreateNode context name namespace_ dds) := by
  have stepped : s.step defaultDomainId (.rmwCreateNode context name namespace_ dds) = some
      ((s.setProcess created.process).answer (if created.node.isSome then .ok else .error)) := by
    rw [System.step, called, Option.map_some]
  obtain ⟨node, process⟩ := Process.rmwCreateNode_of_not_creates creates called
  have frame : ∀ q : Process, q = s.process ∨ q = s.process.afterArgument →
      q.contexts = s.process.contexts ∧ q.nodes = s.process.nodes ∧
        q.nextNode = s.process.nextNode ∧ q.nextImpl = s.process.nextImpl := by
    rintro q (rfl | rfl) <;> exact ⟨rfl, rfl, rfl, rfl⟩
  obtain ⟨contexts, nodes, nextNode, nextImpl⟩ := frame _ process
  refine commutes_of_eq stepped ?_ (Sound.answer (sound.setProcess_same contexts nextImpl) _)
  rw [node, abstract_answer, abstract_setProcess_same s contexts nodes nextNode]
  cases context with
  | none => cases called
  | some c =>
    refine Spec.step_rmwCreateNode_error (fun active names valid granted => creates ?_)
      fun ended names valid allocated => ?_
    · obtain ⟨own, initialised⟩ := (sound.contexts c).phase_eq_active.mp active
      exact (Process.creates_iff ..).mpr ⟨own, initialised, names, valid, granted⟩
    · obtain ⟨own, noImpl⟩ := (sound.contexts c).phase_eq_ended.mp ended
      have undefined : s.process.rmwCreateNode (some c) name namespace_ dds = none := by
        rw [Process.rmwCreateNode_eq_none_iff]
        intro c' same
        obtain rfl := Option.some.inj same
        exact ⟨own, noImpl, by rw [valid]; rfl, Bool.and_eq_true_iff.mp allocated⟩
      rw [undefined] at called
      cases called

theorem commutes_rmwCreateNode (sound : Sound defaultDomainId s) (context : Option ℕ)
    (name namespace_ : Option StdString) (dds : NodeOutcome) :
    Commutes defaultDomainId s (.rmwCreateNode context name namespace_ dds) := by
  cases called : s.process.rmwCreateNode context name namespace_ dds with
  | none => exact commutes_of_undefined_creation sound called
  | some created =>
    by_cases creates : s.process.Creates (.rmwCreateNode context name namespace_ dds)
    · exact commutes_of_creates sound creates
    · exact commutes_of_not_creates sound creates called

theorem cleanup_frame (p : Process) (k : ℕ) (n : NodeObject) (stale : RmwContext)
    (dds : Process.CleanupOutcome) :
    let q := (p.cleanup k n stale dds).2
    q.contexts = p.contexts ∧ q.nodes = p.nodes ∧ q.nextNode = p.nextNode ∧
      q.nextImpl = p.nextImpl := by
  fun_cases Process.cleanup p k n stale dds <;> exact ⟨rfl, rfl, rfl, rfl⟩

theorem commutes_rmwDestroyNode (sound : Sound defaultDomainId s) (node : Option ℕ)
    (stale : RmwContext) (dds : Process.CleanupOutcome) :
    Commutes defaultDomainId s (.rmwDestroyNode node stale dds) := by
  cases node with
  | none => exact ⟨rfl, nofun⟩
  | some k =>
    cases there : s.process.nodes k with
    | none => simp [Commutes, System.step, Spec.step, abstract, Process.rmwDestroyNode, there]
    | some n =>
      have known : (abstract s).nodes k = some n.context := by simp [abstract, there]
      cases initialised : (s.process.contexts n.context).impl.isSome with
      | false =>
        have inactive : (abstract s).contexts n.context ≠ .active := by
          intro active
          have := ((sound.contexts n.context).phase_eq_active.mp active).2
          simp [initialised] at this
        have stepped : s.step defaultDomainId (.rmwDestroyNode (some k) stale dds) =
            some (s.answer .error) := by
          simp only [System.step, Process.rmwDestroyNode, there, Option.map_some, initialised]
          rfl
        refine commutes_of_eq stepped ?_ (sound.answer _)
        simp only [Spec.step, known, Option.map_some, if_neg inactive]
        rfl
      | true =>
        have active : (abstract s).contexts n.context = .active := by
          refine (sound.contexts n.context).phase_eq_active.mpr ⟨?_, initialised⟩
          cases sound.contexts n.context with
          | zero same =>
            rw [same] at initialised
            cases initialised
          | own own older => exact own
        obtain ⟨p, stepped, contexts, nodes, nextNode, nextImpl⟩ : ∃ p : Process,
            s.step defaultDomainId (.rmwDestroyNode (some k) stale dds) =
              some ((s.setProcess p).answer .ok) ∧ p.contexts = s.process.contexts ∧
            p.nodes = Function.update s.process.nodes k none ∧
            p.nextNode = s.process.nextNode ∧ p.nextImpl = s.process.nextImpl := by
          simp only [System.step, Process.rmwDestroyNode, there, Option.map_some, initialised,
            if_true]
          obtain ⟨contexts, nodes, counters⟩ := cleanup_frame s.process k n stale dds
          exact ⟨_, rfl, contexts, by rw [nodes], counters⟩
        refine commutes_of_eq stepped ?_ (Sound.answer (sound.setProcess_same contexts nextImpl) _)
        have removed : (fun j => (Function.update s.process.nodes k none j).map
            (NodeObject.context ·)) =
            Function.update (fun j => (s.process.nodes j).map (·.context)) k none := by
          funext j
          by_cases same : j = k
          · subst same
            simp
          · simp [same]
        simp only [Spec.step, known, Option.map_some, if_pos active, abstract_answer]
        simp only [abstract, System.setProcess, contexts, nodes, nextNode, removed]

theorem commutes (sound : Sound defaultDomainId s) (call : Call) :
    Commutes defaultDomainId s call := by
  cases call with
  | rmwInitOptionsInit initOptions valid =>
    exact commutes_rmwInitOptionsInit sound initOptions valid
  | rmwInitOptionsCopy src dst => exact commutes_rmwInitOptionsCopy sound src dst
  | rmwInitOptionsFini initOptions => exact commutes_rmwInitOptionsFini sound initOptions
  | configure k settings => exact commutes_configure sound k settings
  | rmwInit options context dds => exact commutes_rmwInit sound options context dds
  | rmwShutdown context => exact commutes_rmwShutdown sound context
  | rmwContextFini context => exact commutes_rmwContextFini sound context
  | rmwCreateNode context name namespace_ dds =>
    exact commutes_rmwCreateNode sound context name namespace_ dds
  | rmwDestroyNode node stale dds => exact commutes_rmwDestroyNode sound node stale dds

theorem sound_start (defaultDomainId : ℕ) :
    Sound defaultDomainId (machine defaultDomainId).start where
  options _ := .zero rfl
  contexts _ := .zero rfl
  apart := by
    rintro c c' i ⟨⟩

theorem sound_of_run {calls : List Call} (run : (machine defaultDomainId).run calls = some s) :
    Sound defaultDomainId s :=
  Machine.Reachable.invariant _ ⟨calls, run⟩ (sound_start defaultDomainId)
    fun _ call s' sound taken => (commutes sound call).2 s' taken

end Steps
end RmwOpendds.Lifecycle
