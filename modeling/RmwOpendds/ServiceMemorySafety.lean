import RmwOpendds.ServiceMemory

/-! What the calls on clients and services leave in memory, over all runs. A client is
freed as a whole when it is destroyed or its creation fails; of a service everything stays,
also what a failed creation has allocated. -/

namespace RmwOpendds.ServiceMemory

open Library Memory

variable {kind : Kind} {m : Memory Contents} {s blocks : Multiset (ℕ × Contents)} {h a g : ℕ}

def Occupies (kind : Kind) (h : ℕ) (blocks : Multiset (ℕ × Contents)) : Prop :=
  ∃ a g, blocks = {(h, .handle kind .opendds (some a))} +
    ({(a, .endpoint kind (some g))} + {(g, .generated kind)})

theorem Occupies.card (occupies : Occupies kind h blocks) : blocks.card = 3 := by
  obtain ⟨a, g, rfl⟩ := occupies
  rfl

inductive Left : ℕ → Multiset (ℕ × Contents) → Prop where
  | nothing : Left 0 0
  | handle (h : ℕ) : Left 1 {(h, .handle .server .opendds none)}
  | whole (h : ℕ) (blocks : Multiset (ℕ × Contents)) (occupies : Occupies .server h blocks) :
    Left 3 blocks

theorem Left.card {n : ℕ} (left : Left n blocks) : blocks.card = n := by
  cases left with
  | nothing => rfl
  | handle h => rfl
  | whole h blocks occupies => exact occupies.card

def Kind.bare : Kind → ℕ
  | .client => 0
  | .server => 1

def Kind.whole : Kind → ℕ
  | .client => 0
  | .server => 3

def Creation.constructed (o : Creation) (kind : Kind) : Except String Unit :=
  match o.service with
  | .error text => .error text
  | .ok () => (o.missing kind).elim (.ok ()) .error

def Creation.completes (o : Creation) (kind : Kind) : Bool :=
  o.objectAllocated && (o.constructed kind).toBool

def lost (kind : Kind) (node : Option (RmwHandle Unit)) (o : Creation) : ℕ :=
  if (RmwHandle.fromHandle "node is null" "dds_node is null" node).toBool && o.handleAllocated then
    if o.completes kind then if o.added.toBool then 0 else kind.whole else kind.bare
  else 0

theorem lost_client (node : Option (RmwHandle Unit)) (o : Creation) : lost .client node o = 0 := by
  simp [lost, Kind.whole, Kind.bare]

section Programs

variable {throws : MemoryFault → Memory Contents → Prop}

theorem exits_loadEndpoint {generated : Option ℕ}
    (owns : m.Owns ({(a, .endpoint kind generated)} + s))
    {returns : Option ℕ → Memory Contents → Prop} :
    Exits (loadEndpoint kind a) m returns throws ↔ returns generated m := by
  rw [loadEndpoint, exits_bind, exits_load owns]
  simp only [if_true, exits_pure]

theorem exits_loadHandle {implementationIdentifier : ImplementationIdentifier} {data : Option ℕ}
    (found : m.blocks[h]? = some (.handle kind implementationIdentifier data))
    {returns : ImplementationIdentifier × Option ℕ → Memory Contents → Prop} :
    Exits (loadHandle kind h) m returns throws ↔ returns (implementationIdentifier, data) m := by
  rw [loadHandle, exits_bind, exits_load_of_getElem? found]
  simp only [if_true, exits_pure]

theorem cleanup_exits
    (owns : m.Owns ({(a, .endpoint kind (some g))} + ({(g, .generated kind)} + s)))
    {returns : PUnit → Memory Contents → Prop}
    (after : ∀ m', m'.Owns ({(a, .endpoint kind none)} + s) → returns ⟨⟩ m') :
    Exits (cleanup kind a) m returns throws := by
  rw [cleanup, exits_bind, exits_loadEndpoint owns]
  simp only [exits_bind]
  exact exits_free owns.second fun m owns => exits_store owns after

theorem construct_exits (o : Creation) (owns : m.Owns ({(a, .raw)} + s)) :
    Exits (construct kind o a) m
      (fun r m' => r = o.constructed kind ∧ match r with
        | .ok () => ∃ g, m'.Owns ({(a, .endpoint kind (some g))} + ({(g, .generated kind)} + s))
        | .error _ => ∃ v, m'.Owns ({(a, v)} + s))
      throws := by
  unfold construct
  cases service : o.service with
  | error text => exact ⟨by rw [Creation.constructed, service], _, owns⟩
  | ok u =>
    have constructed : o.constructed kind = (o.missing kind).elim (.ok ()) .error := by
      rw [Creation.constructed, service]
    simp only [exits_bind]
    refine exits_tryAllocate owns (fun created g m owns => ?_) fun refused => ?_
    · refine exits_store owns.second fun m owns => ?_
      rw [constructed]
      cases o.missing kind with
      | none => exact ⟨rfl, g, owns⟩
      | some text =>
        rw [exits_bind]
        exact cleanup_exits owns fun m owns => ⟨rfl, _, owns⟩
    · refine exits_store owns fun m owns => ?_
      have missing : o.missing kind = some kind.texts.createFailed := by
        simp [Creation.missing, refused]
      rw [constructed]
      simp only [missing, exits_bind, cleanup, exits_loadEndpoint owns]
      exact ⟨rfl, _, owns⟩

theorem exits_destroyObject
    (owns : m.Owns ({(a, .endpoint kind (some g))} + ({(g, .generated kind)} + s)))
    {returns : PUnit → Memory Contents → Prop} (after : ∀ m', m'.Owns s → returns ⟨⟩ m') :
    Exits (RmwAllocateFree.destroy (cleanup kind) (some a)) m returns throws := by
  rw [RmwAllocateFree.destroy, exits_bind]
  exact cleanup_exits owns fun m owns => exits_free owns after

theorem cleanClient_exits (occupies : Occupies .client h blocks) (owns : m.Owns (blocks + s))
    {returns : PUnit → Memory Contents → Prop} (after : ∀ m', m'.Owns s → returns ⟨⟩ m') :
    Exits (cleanClient h) m returns throws := by
  obtain ⟨a, g, rfl⟩ := occupies
  simp only [add_assoc] at owns
  rw [cleanClient, exits_bind, exits_loadHandle owns.getElem?, exits_bind]
  have inner : m.Owns ({(a, .endpoint .client (some g))} + ({(g, .generated .client)} +
      ({(h, .handle .client .opendds (some a))} + s))) := by
    convert owns using 1
    abel
  exact exits_destroyObject inner fun m owns => exits_free owns after

theorem clean_bare (owns : m.Owns ({(h, .handle kind .opendds none)} + s))
    {returns : PUnit → Memory Contents → Prop}
    (after : ∀ m' b, Left kind.bare b → m'.Owns (b + s) → returns ⟨⟩ m') :
    Exits (clean kind h) m returns throws := by
  cases kind with
  | client =>
    rw [clean, cleanClient, exits_bind, exits_loadHandle owns.getElem?, exits_bind]
    exact exits_free owns fun m owns => after m 0 .nothing (by rwa [zero_add])
  | server => exact after m _ (.handle h) owns

theorem clean_whole (occupies : Occupies kind h blocks) (owns : m.Owns (blocks + s))
    {returns : PUnit → Memory Contents → Prop}
    (after : ∀ m' b, Left kind.whole b → m'.Owns (b + s) → returns ⟨⟩ m') :
    Exits (clean kind h) m returns throws := by
  cases kind with
  | client =>
    exact cleanClient_exits occupies owns fun m owns => after m 0 .nothing (by rwa [zero_add])
  | server => exact after m _ (.whole h _ occupies) owns

def Creates (kind : Kind) (node : Option (RmwHandle Unit)) (o : Creation)
    (s : Multiset (ℕ × Contents)) (r : Except String ℕ) (m : Memory Contents) : Prop :=
  (∃ h b, r = .ok h ∧ lost kind node o = 0 ∧ Occupies kind h b ∧ m.Owns (b + s)) ∨
    ∃ text b, r = .error text ∧ Left (lost kind node o) b ∧ m.Owns (b + s)

theorem create_exits (node : Option (RmwHandle Unit)) (o : Creation) (owns : m.Owns s) :
    Exits (create kind node o) m (Creates kind node o s) throws := by
  unfold create
  cases from_node : RmwHandle.fromHandle "node is null" "dds_node is null" node with
  | error text =>
    have none : lost kind node o = 0 := by simp [lost, from_node, Except.toBool]
    exact .inr ⟨text, 0, rfl, none ▸ .nothing, by rwa [zero_add]⟩
  | ok u =>
    rw [exits_bind]
    refine exits_tryAllocate owns (fun allocated h m owns => ?_) fun refused => ?_
    · rw [exits_bind]
      refine exits_store owns fun m owns => ?_
      have count : lost kind node o = if o.completes kind then
          if o.added.toBool then 0 else kind.whole else kind.bare := by
        simp [lost, from_node, allocated, Except.toBool]
      have failed : ∀ {m : Memory Contents}, o.completes kind = false →
          m.Owns ({(h, .handle kind .opendds none)} + s) →
          Exits (do clean kind h; return .error kind.texts.objectFailed) m
            (Creates kind node o s) throws := by
        intro m incomplete owns
        rw [exits_bind]
        refine clean_bare owns fun m b left owns => .inr ⟨_, b, rfl, ?_, owns⟩
        rwa [count, incomplete]
      rw [exits_bind]
      refine RmwAllocateFree.exits_create owns (fun given a m owns => ?_) fun refused =>
        failed (by simp [Creation.completes, refused]) owns
      refine (construct_exits o owns).mono (fun r m built => ?_) fun _ _ fault => fault
      obtain ⟨constructed, left⟩ := built
      have completes : o.completes kind = r.toBool := by
        rw [Creation.completes, given, Bool.true_and, constructed]
      cases r with
      | error text =>
        obtain ⟨v, owns⟩ := left
        exact ⟨v, owns, fun m owns => failed completes owns⟩
      | ok u =>
        obtain ⟨g, owns⟩ := left
        dsimp only
        rw [exits_bind]
        refine exits_store owns.third fun m owns => ?_
        have whole : m.Owns (({(h, .handle kind .opendds (some a))} +
            ({(a, .endpoint kind (some g))} + {(g, .generated kind)})) + s) := by
          simpa only [add_assoc] using owns
        cases added : o.added with
        | ok u =>
          refine .inl ⟨h, _, rfl, ?_, ⟨a, g, rfl⟩, whole⟩
          simp [count, completes, added, Except.toBool]
        | error text =>
          rw [exits_bind]
          refine clean_whole ⟨a, g, rfl⟩ whole fun m b left owns => .inr ⟨_, b, rfl, ?_, owns⟩
          rw [count, completes, added]
          exact left
    · have none : lost kind node o = 0 := by simp [lost, refused]
      exact .inr ⟨_, 0, rfl, none ▸ .nothing, by rwa [zero_add]⟩

end Programs

section Reading

def HandleAt (m : Memory Contents) (kind : Kind) (h : ℕ) : Prop :=
  ∃ implementationIdentifier data,
    m.blocks[h]? = some (.handle kind implementationIdentifier data)

def Valid (m : Memory Contents) (kind : Kind) (h : ℕ) : Prop :=
  ∃ data, m.blocks[h]? = some (.handle kind .opendds data) ∧ ∀ a ∈ data, ∃ g,
    m.blocks[a]? = some (.endpoint kind (some g)) ∧ m.blocks[g]? = some (.generated kind)

theorem fromHandle_exits {handle : Option ℕ} (valid : ∀ h ∈ handle, Valid m kind h)
    {throws : MemoryFault → Memory Contents → Prop} :
    Exits (fromHandle kind handle) m (fun r m' => m' = m ∧ ∀ a, r = .ok a → ∃ g,
      m.blocks[a]? = some (.endpoint kind (some g)) ∧ m.blocks[g]? = some (.generated kind))
      throws := by
  cases handle with
  | none => exact ⟨rfl, nofun⟩
  | some h =>
    obtain ⟨data, found, whole⟩ := valid h rfl
    rw [fromHandle, exits_bind, exits_loadHandle found]
    refine ⟨rfl, fun a given => whole a ?_⟩
    exact RmwHandle.data_of_fromHandle given

theorem fromHandle_faults {handle : Option ℕ} (stranger : ∃ h ∈ handle, ¬ HandleAt m kind h) :
    Exits (fromHandle kind handle) m (fun _ _ => False) (fun _ _ => True) := by
  obtain ⟨h, rfl, stranger⟩ := stranger
  rw [fromHandle, exits_bind, loadHandle, exits_bind]
  refine exits_load_any (fun v found => ?_) fun _ => trivial
  cases v with
  | handle k implementationIdentifier data =>
    by_cases same : k = kind
    · subst same
      exact absurd ⟨_, _, found⟩ stranger
    · simp only [if_neg same]
      trivial
  | _ => trivial

/-- A program that only reads, and meets a fault if its handle is none of the kind. -/
structure Reads (kind : Kind) (handle : Option ℕ) (program : Program Contents Answer) : Prop where
  sound : ∀ m, (∀ h ∈ handle, Valid m kind h) →
    Exits program m (fun _ m' => m' = m) (fun _ _ => False)
  faults : ∀ m, (∃ h ∈ handle, ¬ HandleAt m kind h) →
    Exits program m (fun _ _ => False) (fun _ _ => True)

theorem reads_of_object {handle : Option ℕ} {rest : Except String ℕ → Program Contents Answer}
    (refused : ∀ text m, Exits (rest (.error text)) m (fun _ m' => m' = m) (fun _ _ => False))
    (object : ∀ a g m, m.blocks[a]? = some (.endpoint kind (some g)) →
      m.blocks[g]? = some (.generated kind) →
      Exits (rest (.ok a)) m (fun _ m' => m' = m) (fun _ _ => False)) :
    Reads kind handle (fromHandle kind handle >>= rest) where
  sound m valid := by
    rw [exits_bind]
    refine (fromHandle_exits valid).mono ?_ fun _ _ fault => fault
    rintro (text | a) _ ⟨rfl, given⟩
    · exact refused text _
    · obtain ⟨g, endpoint, generated⟩ := given a rfl
      exact object a g _ endpoint generated
  faults m stranger := by
    rw [exits_bind]
    exact (fromHandle_faults stranger).mono (fun _ _ no => no.elim) fun _ _ => id

theorem exits_loadEndpoint_of_getElem? {generated : Option ℕ}
    (found : m.blocks[a]? = some (.endpoint kind generated))
    {returns : Option ℕ → Memory Contents → Prop}
    {throws : MemoryFault → Memory Contents → Prop} :
    Exits (loadEndpoint kind a) m returns throws ↔ returns generated m := by
  rw [loadEndpoint, exits_bind, exits_load_of_getElem? found]
  simp only [if_true, exits_pure]

theorem reads_exchange (handle : Option ℕ) (pointers : List (Bool × String)) (answer : RmwRet) :
    Reads kind handle (exchange kind handle pointers answer) := by
  refine reads_of_object (fun text m => rfl) fun a g m endpoint generated => ?_
  cases pointers.find? (!·.1) with
  | some missing => exact rfl
  | none =>
    dsimp only
    rw [exits_bind, useGenerated, exits_bind, exits_loadEndpoint_of_getElem? endpoint]
    dsimp only
    rw [exits_bind, exits_load_of_getElem? generated]
    simp only [if_true, exits_pure]

theorem destroyClient_exits (occupies : Occupies .client h blocks) (owns : m.Owns (blocks + s))
    (node : Option (RmwHandle Unit)) {throws : MemoryFault → Memory Contents → Prop} :
    Exits (rmwDestroyClient node (some h)) m
      (fun r m' => (r.1 = .ok ∧ m'.Owns s) ∨ (r.1 = .error ∧ m' = m)) throws := by
  have whole := occupies
  have all := owns
  obtain ⟨a, g, rfl⟩ := occupies
  simp only [add_assoc] at owns
  rw [rmwDestroyClient, destroy, exits_bind, fromHandle, exits_bind,
    exits_loadHandle owns.getElem?, exits_pure]
  change Exits (match RmwHandle.fromHandle "node is null" "dds_node is null" node with
    | .error text => _
    | .ok () => _) m _ _
  cases RmwHandle.fromHandle "node is null" "dds_node is null" node with
  | error text => exact .inr ⟨rfl, rfl⟩
  | ok u =>
    dsimp only
    rw [exits_bind, exits_loadEndpoint owns.second, exits_bind]
    exact cleanClient_exits whole all fun m owns => .inl ⟨rfl, owns⟩

theorem destroyClient_faults {client : Option ℕ}
    (stranger : ∃ h ∈ client, ¬ HandleAt m .client h) (node : Option (RmwHandle Unit)) :
    Exits (rmwDestroyClient node client) m (fun _ _ => False) (fun _ _ => True) := by
  rw [rmwDestroyClient, destroy, exits_bind]
  exact (fromHandle_faults stranger).mono (fun _ _ no => no.elim) fun _ _ => id

theorem reads_destroyService (node : Option (RmwHandle Unit)) (service : Option ℕ) :
    Reads .server service (rmwDestroyService node service) := by
  refine reads_of_object (fun text m => rfl) fun a g m endpoint _ => ?_
  cases RmwHandle.fromHandle "node is null" "dds_node is null" node with
  | error text => exact rfl
  | ok u =>
    dsimp only
    rw [exits_bind, exits_loadEndpoint_of_getElem? endpoint]
    cases service <;> exact rfl

theorem reads_isAvailable {node : Option (RmwHandle Unit)} (client : Option ℕ)
    (isAvailable : Bool)
    (given : RmwHandle.fromHandle "node is null" "dds_node is null" node = .ok ()) :
    Reads .client client (rmwServiceServerIsAvailable node client isAvailable) := by
  unfold rmwServiceServerIsAvailable
  rw [given]
  refine reads_of_object (fun text m => rfl) fun a g m endpoint _ => ?_
  cases isAvailable with
  | false => exact rfl
  | true =>
    change Exits (loadEndpoint .client a >>= fun _ => _) m _ _
    rw [exits_bind, exits_loadEndpoint_of_getElem? endpoint]
    exact rfl

end Reading

section Runs

variable {w : World} {n : Multiset ℕ}

/-- The memory is that of the clients that are held, of all services that there have been,
and of creations of services that failed, which have lost so many blocks each. -/
def Balanced (lost : Multiset ℕ) (w : World) : Prop :=
  ∃ clients services orphans : Multiset (Multiset (ℕ × Contents)),
    Multiset.Rel (Occupies .client) w.clients clients ∧
    Multiset.Rel (Occupies .server) w.services services ∧ Multiset.Rel Left lost orphans ∧
    w.memory.Owns (clients.sum + (services.sum + orphans.sum))

theorem Occupies.valid {total : Multiset (ℕ × Contents)} {kind' : Kind} {h' : ℕ}
    {implementationIdentifier : ImplementationIdentifier} {data : Option ℕ}
    (owns : m.Owns total) (occupies : Occupies kind' h' blocks) (part : blocks ≤ total)
    (member : (h, Contents.handle kind implementationIdentifier data) ∈ blocks) :
    kind = kind' ∧ h = h' ∧ Valid m kind h := by
  have found : ∀ a v, (a, v) ∈ blocks → m.blocks[a]? = some v :=
    fun a v inside => (owns.mem_iff a v).mpr (Multiset.mem_of_le part inside)
  obtain ⟨a, g, rfl⟩ := occupies
  have same : h = h' ∧ kind = kind' := by
    simp at member
    exact ⟨member.1, member.2.1⟩
  obtain ⟨rfl, rfl⟩ := same
  refine ⟨rfl, rfl, some a, found h _ (by simp), fun b given => ?_⟩
  obtain rfl := Option.some.inj given
  exact ⟨g, found a _ (by simp), found g _ (by simp)⟩

theorem Balanced.valid (balanced : Balanced n w) (stands : HandleAt w.memory kind h) :
    Valid w.memory kind h ∧ (kind = .client → h ∈ w.clients) := by
  obtain ⟨clients, services, orphans, ofClients, ofServices, ofOrphans, owns⟩ := balanced
  obtain ⟨implementationIdentifier, data, found⟩ := stands
  have member := (owns.mem_iff _ _).mp found
  rw [Multiset.mem_add, Multiset.mem_add] at member
  obtain inClients | inServices | inOrphans := member
  · obtain ⟨h', held, b, part, occupies, inside⟩ := exists_owner ofClients inClients
    obtain ⟨-, rfl, valid⟩ := occupies.valid owns (part.trans (Multiset.le_add_right _ _)) inside
    exact ⟨valid, fun _ => held⟩
  · obtain ⟨h', held, b, part, occupies, inside⟩ := exists_owner ofServices inServices
    have part' : b ≤ clients.sum + (services.sum + orphans.sum) :=
      part.trans ((Multiset.le_add_right _ _).trans (Multiset.le_add_left _ _))
    obtain ⟨rfl, -, valid⟩ := occupies.valid owns part' inside
    exact ⟨valid, nofun⟩
  · obtain ⟨k, -, b, part, left, inside⟩ := exists_owner ofOrphans inOrphans
    have part : b ≤ clients.sum + (services.sum + orphans.sum) :=
      part.trans ((Multiset.le_add_left _ _).trans (Multiset.le_add_left _ _))
    cases left with
    | nothing => cases inside
    | handle h' =>
      simp at inside
      obtain ⟨rfl, rfl, rfl, rfl⟩ := inside
      exact ⟨⟨none, found, nofun⟩, nofun⟩
    | whole h' _ occupies =>
      obtain ⟨rfl, -, valid⟩ := occupies.valid owns part inside
      exact ⟨valid, nofun⟩

theorem handleAt_of_mem {handles : Multiset ℕ} {all : Multiset (Multiset (ℕ × Contents))}
    {total : Multiset (ℕ × Contents)} (rel : Multiset.Rel (Occupies kind) handles all)
    (owns : m.Owns total) (part : all.sum ≤ total) (held : h ∈ handles) : HandleAt m kind h := by
  obtain ⟨b, among, a, g, rfl⟩ := Multiset.exists_mem_of_rel_of_mem rel held
  have whole := (Multiset.single_le_sum (fun _ _ => Multiset.zero_le _) _ among).trans part
  exact ⟨.opendds, some a, (owns.mem_iff h _).mpr (Multiset.mem_of_le whole (by simp))⟩

theorem Balanced.handleAt_client (balanced : Balanced n w) :
    h ∈ w.clients ↔ HandleAt w.memory .client h := by
  refine ⟨fun held => ?_, fun stands => (balanced.valid stands).2 rfl⟩
  obtain ⟨clients, services, orphans, ofClients, -, -, owns⟩ := balanced
  exact handleAt_of_mem ofClients owns (Multiset.le_add_right _ _) held

theorem Balanced.handleAt_service (balanced : Balanced n w) (held : h ∈ w.services) :
    HandleAt w.memory .server h := by
  obtain ⟨clients, services, orphans, -, ofServices, -, owns⟩ := balanced
  exact handleAt_of_mem ofServices owns
    ((Multiset.le_add_right _ _).trans (Multiset.le_add_left _ _)) held

theorem card_sum_of_rel {ρ : Type} {R : ρ → Multiset (ℕ × Contents) → Prop} (size : ρ → ℕ)
    (card : ∀ r b, R r b → b.card = size r) {owners : Multiset ρ}
    {shares : Multiset (Multiset (ℕ × Contents))} (rel : Multiset.Rel R owners shares) :
    shares.sum.card = (owners.map size).sum := by
  induction rel with
  | zero => rfl
  | cons share _ ih =>
    rw [Multiset.sum_cons, Multiset.card_add, card _ _ share, ih, Multiset.map_cons,
      Multiset.sum_cons]

theorem Balanced.size (balanced : Balanced n w) :
    w.memory.blocks.size = 3 * (w.clients.card + w.services.card) + n.sum := by
  obtain ⟨clients, services, orphans, ofClients, ofServices, ofOrphans, owns⟩ := balanced
  have whole : ∀ {kind : Kind} h b, Occupies kind h b → b.card = 3 := fun _ _ => Occupies.card
  have held := card_sum_of_rel _ whole ofClients
  have kept := card_sum_of_rel _ whole ofServices
  have lost := card_sum_of_rel id (fun _ _ => Left.card) ofOrphans
  rw [Multiset.map_const', Multiset.sum_replicate, smul_eq_mul] at held kept
  rw [Multiset.map_id] at lost
  rw [owns.size, Multiset.card_add, Multiset.card_add, held, kept, lost]
  omega

/-- A handle of a service that was never returned. A creation that failed has left it. -/
def LeftBehind (w : World) (h : ℕ) : Prop := HandleAt w.memory .server h ∧ h ∉ w.services

/-- A call reads no handle but those of clients that are held, of services that there
have been, and of services whose creation has failed. -/
def Proper (w : World) : Call → Prop
  | .rmwCreateClient _ _ => True
  | .rmwDestroyClient _ client => ∀ h ∈ client, h ∈ w.clients
  | .rmwSendRequest client _ _ => ∀ h ∈ client, h ∈ w.clients
  | .rmwTakeResponse client _ _ _ => ∀ h ∈ client, h ∈ w.clients
  | .rmwServiceServerIsAvailable node client _ =>
    RmwHandle.fromHandle "node is null" "dds_node is null" node = .ok () →
      ∀ h ∈ client, h ∈ w.clients
  | .rmwCreateService _ _ => True
  | .rmwDestroyService _ service => ∀ h ∈ service, h ∈ w.services ∨ LeftBehind w h
  | .rmwTakeRequest service _ _ _ => ∀ h ∈ service, h ∈ w.services ∨ LeftBehind w h
  | .rmwSendResponse service _ _ _ => ∀ h ∈ service, h ∈ w.services ∨ LeftBehind w h

theorem Balanced.handleAt_server (balanced : Balanced n w) :
    h ∈ w.services ∨ LeftBehind w h ↔ HandleAt w.memory .server h := by
  constructor
  · rintro (returned | left)
    · exact balanced.handleAt_service returned
    · exact left.1
  · intro stands
    by_cases returned : h ∈ w.services
    · exact .inl returned
    · exact .inr ⟨stands, returned⟩

theorem Balanced.pay (balanced : Balanced n w) : Balanced (n + {0}) w := by
  obtain ⟨clients, services, orphans, ofClients, ofServices, ofOrphans, owns⟩ := balanced
  refine ⟨clients, services, orphans + {0}, ofClients, ofServices,
    ofOrphans.add (.cons .nothing .zero), ?_⟩
  rwa [Multiset.sum_add, Multiset.sum_singleton, add_zero]

def lostBlocks : Call → ℕ
  | .rmwCreateService node o => lost .server node o
  | _ => 0

theorem keep_spec (balanced : Balanced n w) {handle : Option ℕ} {program : Program Contents Answer}
    (reads : Reads kind handle program) {known : ℕ → Prop}
    (stands : ∀ h, known h ↔ HandleAt w.memory kind h) :
    (∀ w', w.keep program = some w' → (∀ h ∈ handle, known h) ∧ Balanced (n + {0}) w') ∧
    (w.keep program = none → ¬ ∀ h ∈ handle, known h) := by
  simp only [stands]
  by_cases stand : ∀ h ∈ handle, HandleAt w.memory kind h
  · have valid : ∀ h ∈ handle, Valid w.memory kind h :=
      fun h given => (balanced.valid (stand h given)).1
    refine finish_spec ((reads.sound _ valid).mono ?_ fun _ _ no => no.elim)
    rintro _ _ rfl
    exact ⟨stand, balanced.pay⟩
  · refine finish_spec ((reads.faults _ ?_).mono (fun _ _ no => no.elim) fun _ _ _ => stand)
    simpa using stand

theorem Balanced.split (balanced : Balanced n w) (held : h ∈ w.clients) :
    ∃ b rest, Occupies .client h b ∧ w.memory.Owns (b + rest) ∧
      ∀ m, m.Owns rest → Balanced n ⟨m, w.clients.erase h, w.services⟩ := by
  obtain ⟨all, services, orphans, ofClients, ofServices, ofOrphans, owns⟩ := balanced
  obtain ⟨b, blocks, occupies, rel, total⟩ := exists_share ofClients held
  rw [total, add_assoc] at owns
  exact ⟨b, _, occupies, owns, fun m owns =>
    ⟨blocks, services, orphans, rel, ofServices, ofOrphans, owns⟩⟩

theorem step_spec (balanced : Balanced n w) (call : Call) :
    (∀ w', w.step call = some w' → Proper w call ∧ Balanced (n + {lostBlocks call}) w') ∧
      (w.step call = none → ¬ Proper w call) := by
  have held : ∀ h, h ∈ w.clients ↔ HandleAt w.memory .client h := fun _ => balanced.handleAt_client
  have known : ∀ h, h ∈ w.services ∨ LeftBehind w h ↔ HandleAt w.memory .server h :=
    fun _ => balanced.handleAt_server
  cases call with
  | rmwCreateClient node o =>
    obtain ⟨clients, services, orphans, ofClients, ofServices, ofOrphans, owns⟩ := balanced
    refine finish_spec ((create_exits node o owns).mono (fun r m created => ⟨trivial, .pay ?_⟩)
      fun _ _ no => no)
    obtain ⟨h, b, rfl, -, occupies, owns⟩ | ⟨text, b, rfl, none, owns⟩ := created
    · refine ⟨b ::ₘ clients, services, orphans, .cons occupies ofClients, ofServices, ofOrphans, ?_⟩
      rwa [Multiset.sum_cons, add_assoc]
    · rw [lost_client] at none
      rw [Multiset.card_eq_zero.mp none.card, zero_add] at owns
      exact ⟨clients, services, orphans, ofClients, ofServices, ofOrphans, owns⟩
  | rmwDestroyClient node client =>
    cases client with
    | none =>
      refine ⟨fun w' taken => ?_, nofun⟩
      cases taken
      exact ⟨by simp [Proper], balanced.pay⟩
    | some h =>
      by_cases mine : h ∈ w.clients
      · obtain ⟨b, rest, occupies, owns, without⟩ := balanced.split mine
        refine finish_spec ((destroyClient_exits occupies owns node).mono
          (fun r m left => ⟨by simpa [Proper] using mine, .pay ?_⟩) fun _ _ no => no)
        obtain ⟨ok, owns⟩ | ⟨failed, rfl⟩ := left
        · simpa [ok] using without m owns
        · simpa [failed] using balanced
      · have stranger : ∃ a ∈ some h, ¬ HandleAt w.memory .client a :=
          ⟨h, rfl, fun stands => mine ((held h).mpr stands)⟩
        exact finish_spec ((destroyClient_faults stranger node).mono (fun _ _ no => no.elim)
          fun _ _ _ proper => mine (proper h rfl))
  | rmwSendRequest client rosRequest sequenceId =>
    exact keep_spec balanced (reads_exchange ..) held
  | rmwTakeResponse client requestHeader rosResponse taken =>
    exact keep_spec balanced (reads_exchange ..) held
  | rmwServiceServerIsAvailable node client isAvailable =>
    cases given : RmwHandle.fromHandle "node is null" "dds_node is null" node with
    | error text =>
      have unread : Exits (ServiceMemory.rmwServiceServerIsAvailable node client isAvailable)
          w.memory (fun _ m => m = w.memory) fun _ _ => False := by
        unfold ServiceMemory.rmwServiceServerIsAvailable
        rw [given]
        exact rfl
      refine finish_spec (unread.mono ?_ fun _ _ no => no.elim)
      rintro _ _ rfl
      exact ⟨by simp [Proper, given], balanced.pay⟩
    | ok u =>
      have proper : Proper w (.rmwServiceServerIsAvailable node client isAvailable) ↔
          ∀ h ∈ client, h ∈ w.clients := by simp [Proper, given]
      rw [proper]
      exact keep_spec balanced (reads_isAvailable client isAvailable given) held
  | rmwCreateService node o =>
    obtain ⟨clients, services, orphans, ofClients, ofServices, ofOrphans, owns⟩ := balanced
    refine finish_spec ((create_exits node o owns).mono (fun r m created => ⟨trivial, ?_⟩)
      fun _ _ no => no)
    rw [lostBlocks]
    obtain ⟨h, b, rfl, none, occupies, owns⟩ | ⟨text, b, rfl, lost, owns⟩ := created
    · rw [none]
      refine .pay ⟨clients, b ::ₘ services, orphans, ofClients, .cons occupies ofServices,
        ofOrphans, ?_⟩
      rwa [Multiset.sum_cons, add_assoc, add_left_comm]
    · refine ⟨clients, services, orphans + {b}, ofClients, ofServices,
        ofOrphans.add (.cons lost .zero), ?_⟩
      rw [Multiset.sum_add, Multiset.sum_singleton]
      convert owns using 1
      abel
  | rmwDestroyService node service => exact keep_spec balanced (reads_destroyService ..) known
  | rmwTakeRequest service requestHeader rosRequest taken =>
    exact keep_spec balanced (reads_exchange ..) known
  | rmwSendResponse service requestHeader rosResponse sent =>
    exact keep_spec balanced (reads_exchange ..) known

theorem sum_lostBlocks (calls : List Call) :
    (calls.map fun call => ({lostBlocks call} : Multiset ℕ)).sum =
      (calls.map lostBlocks : List ℕ) := by
  induction calls with
  | nil => rfl
  | cons call calls ih =>
    rw [List.map_cons, List.sum_cons, ih, List.map_cons]
    rfl

end Runs
end RmwOpendds.ServiceMemory
