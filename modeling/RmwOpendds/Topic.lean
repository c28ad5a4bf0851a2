import RmwOpendds.Names
import RmwOpendds.Participant

/-! `DDSTopic`: the lookup of the type support, which `Service` repeats with its
own texts, and the constructor. The identifiers of the two type supports are
constants of other packages. The null checks of the participant are left out, as
a node has one. -/

namespace RmwOpendds

open Std Library

/-- `rosidl_message_type_support_t` or `rosidl_service_type_support_t`;
`forIdentifier` is what `get_*_typesupport_handle` finds, by its `data`. -/
structure TypeSupport (Callbacks : Type) where
  typesupportIdentifier : String
  forIdentifier : String → Option (Option Callbacks)

structure TypesupportIdentifiers where
  c : String
  cpp : String

namespace TypeSupport

variable {Callbacks : Type} (known : TypesupportIdentifiers)

def getTypeSupport (isNull : String) (ts : Option (TypeSupport Callbacks)) :
    Except String (Option Callbacks) :=
  match ts with
  | none => .error isNull
  | some ts =>
    match ts.forIdentifier known.c with
    | some data => .ok data
    | none =>
      match ts.forIdentifier known.cpp with
      | some data => .ok data
      | none => .error ("type support implementation '" ++ ts.typesupportIdentifier ++
          "' does not match '" ++ known.cpp ++ "'")

def getCallbacks (isNull callbacksNull : String) (ts : Option (TypeSupport Callbacks)) :
    Except String Callbacks := do
  match ← getTypeSupport known isNull ts with
  | some cb => .ok cb
  | none => .error callbacksNull

end TypeSupport

structure MessageCallbacks where
  messageNamespace : StdString
  messageName : StdString
  deriving DecidableEq, Repr

structure Topic where
  name : StdString
  typeName : StdString
  deriving DecidableEq, Repr

/-- `topic_` is the topic of the participant that the object uses. -/
structure DDSTopic where
  name : StdString
  type : StdString
  topic : Topic
  deriving DecidableEq, Repr

/-- The arguments of `rmw_create_publisher` and `rmw_create_subscription`. -/
structure EndpointArguments where
  typeSupports : Option (TypeSupport MessageCallbacks)
  topicName : Option StdString
  rmwQos : Option RmwQosProfile

/-- Whether `register_type` succeeds, and whether `find_topic` or
`create_topic`, whichever is called, gives a topic. -/
structure TopicOutcome where
  typeRegistered : Bool
  topicGiven : Bool
  deriving DecidableEq, Repr

namespace DDSTopic

def getCallbacks (known : TypesupportIdentifiers) (ts : Option (TypeSupport MessageCallbacks)) :
    Except String MessageCallbacks :=
  TypeSupport.getCallbacks known "DDSTopic type support is null" "DDSTopic callbacks_ is null" ts

def registerType (registered : Bool) : Except String Unit :=
  if registered then .ok () else .error "register_type failed"

def findOrCreateTopic (given : Bool) (name type : StdString) :
    EStateM String Participant Topic := do
  let p ← get
  match p.topics[name]? with
  | some typeName =>
    if given then return ⟨name, typeName⟩
    else throw "find_topic failed"
  | none =>
    if given then
      set { p with topics := p.topics.insert name type }
      return ⟨name, type⟩
    else throw "create_topic failed"

/-- The initialisers of the members `cb_`, `name_` and `type_`. -/
def nameAndType (known : TypesupportIdentifiers) (args : EndpointArguments) :
    Except String (StdString × StdString) := do
  let cb ← getCallbacks known args.typeSupports
  let name ← Names.createTopicName args.topicName args.rmwQos
  return (name, Names.createTypeName cb.messageNamespace cb.messageName)

def construct (known : TypesupportIdentifiers) (args : EndpointArguments) (dds : TopicOutcome) :
    EStateM String Participant DDSTopic := do
  let (name, type) ← fromExcept Participant (nameAndType known args)
  let _ ← fromExcept Participant (registerType dds.typeRegistered)
  let topic ← findOrCreateTopic dds.topicGiven name type
  return { name, type, topic }

def requested (known : TypesupportIdentifiers) (args : EndpointArguments) (dds : TopicOutcome) :
    Option (StdString × StdString) :=
  if dds.typeRegistered && dds.topicGiven then (nameAndType known args).toOption else none

end DDSTopic

namespace DDSTopic

variable {p : Participant} {throws : String → Participant → Prop}

/-- An existing topic is taken whatever its type, and none is ever replaced. -/
theorem exits_findOrCreateTopic {returns : Topic → Participant → Prop} (given : Bool)
    (name type : StdString) (failed : ∀ e, ¬ given → throws e p)
    (found : given → returns ⟨name, p.topics.getD name type⟩ (p.withTopic name type)) :
    Exits (findOrCreateTopic given name type) p returns throws := by
  have taken : p.topics.getD name type = p.topics[name]?.getD type :=
    ExtTreeMap.getD_eq_getD_getElem?
  simp only [findOrCreateTopic, exits_bind, exits_get]
  cases known : p.topics[name]? with
  | some typeName =>
    rw [taken, known, Participant.withTopic_known known] at found
    by_cases h : given <;> simp_all
  | none =>
    rw [taken, known, Participant.withTopic_unknown known] at found
    by_cases h : given <;> simp_all

theorem exits_construct {returns : DDSTopic → Participant → Prop} (known : TypesupportIdentifiers)
    (args : EndpointArguments) (dds : TopicOutcome)
    (failed : ∀ e, requested known args dds = none → throws e p)
    (made : ∀ name type, requested known args dds = some (name, type) →
      returns ⟨name, type, ⟨name, p.topics.getD name type⟩⟩ (p.withTopic name type)) :
    Exits (construct known args dds) p returns throws := by
  unfold requested at failed made
  simp only [construct, registerType, exits_bind, exits_fromExcept]
  cases named : nameAndType known args with
  | error e =>
    have refused := failed e (by simp [named, Except.toOption])
    simpa using refused
  | ok nameType =>
    rw [named] at failed made
    cases registered : dds.typeRegistered with
    | false => simpa using failed _ (by simp [registered])
    | true =>
      have topic : Exits (findOrCreateTopic dds.topicGiven nameType.1 nameType.2) p
          (fun topic p' => returns ⟨nameType.1, nameType.2, topic⟩ p') throws := by
        apply exits_findOrCreateTopic
        · intro e none
          exact failed e (by simp [none])
        · intro given
          exact made nameType.1 nameType.2 (by simp [registered, given, Except.toOption])
      simpa using topic

end DDSTopic
end RmwOpendds
