import RmwOpendds.NamesAndTypes

/-! A copy of a map of names and types either shows all of it or has released
everything that it allocated. -/

namespace RmwOpendds

open Std Library

theorem modify_at {α : Type*} (before after : List α) (a : α) (f : α → α) :
    (before ++ a :: after).modify before.length f = before ++ f a :: after := by
  induction before with
  | nil => rfl
  | cons b before ih => simp [ih]

theorem set_at {α : Type*} (before after : List α) (a b : α) :
    (before ++ a :: after).set before.length b = before ++ b :: after := by
  simp

namespace StringArray

theorem blocks_append (b : Option ℕ) (strings : List CString) (left : ℕ) :
    blocks ⟨b, strings.map some ++ List.replicate left none⟩ =
      (b.toList : List ℕ) + (strings.map CString.block : List ℕ) := by
  simp [blocks, List.reduceOption]

@[simp] theorem blocks_zero : blocks zero = 0 := by
  simp [blocks, zero]

theorem blocks_snoc (b : Option ℕ) (strings : List CString) (c : CString) (left left' : ℕ) :
    blocks ⟨b, (strings ++ [c]).map some ++ List.replicate left none⟩ =
      {c.block} + blocks ⟨b, strings.map some ++ List.replicate left' none⟩ := by
  rw [blocks_append, blocks_append, List.map_append, ← Multiset.coe_add]
  change _ + (_ + {c.block}) = _
  abel

theorem blocks_fresh (b size : ℕ) :
    blocks ⟨some b, List.replicate size none⟩ = {b} + blocks zero := by
  simpa using blocks_append (some b) [] size

end StringArray

namespace NamesAndTypes

theorem blocks_replace {nt : NamesAndTypes} {before after : List StringArray}
    {a a' : StringArray} {added : Multiset ℕ} (shape : nt.types = before ++ a :: after)
    (grown : a'.blocks = added + a.blocks) :
    blocks { nt with types := before ++ a' :: after } = added + nt.blocks := by
  simp only [blocks, shape, List.map_append, List.map_cons, List.sum_append, List.sum_cons, grown]
  abel

theorem storeType_eq {nt : NamesAndTypes} {before after : List StringArray} {b : Option ℕ}
    {strings : List CString} {free : List (Option CString)} (c : CString)
    (shape : nt.types = before ++ ⟨b, strings.map some ++ none :: free⟩ :: after) :
    nt.storeType before.length strings.length c =
      { nt with types := before ++ ⟨b, (strings ++ [c]).map some ++ free⟩ :: after } := by
  have place := set_at (strings.map some) free none (some c)
  rw [List.length_map] at place
  simp only [storeType, shape, modify_at, place]
  simp

theorem blocks_replaceNames (nt : NamesAndTypes) {a : StringArray} {added : Multiset ℕ}
    (grown : a.blocks = added + nt.names.blocks) :
    blocks { nt with names := a } = added + nt.blocks := by
  simp only [blocks, grown]
  abel

theorem storeName_eq (nt : NamesAndTypes) {b : Option ℕ} (strings : List CString)
    {free : List (Option CString)} (c : CString)
    (shape : nt.names = ⟨b, strings.map some ++ none :: free⟩) :
    nt.storeName strings.length c =
      { nt with names := ⟨b, (strings ++ [c]).map some ++ free⟩ } := by
  have place := set_at (strings.map some) free none (some c)
  rw [List.length_map] at place
  simp only [storeName, shape, place]
  simp

/-- The handle between two passes of the outer loop: the rows that are done, and
the free places after them. -/
def partway (b b' : Option ℕ) (done : List (CString × StringArray)) (left : ℕ) : NamesAndTypes where
  names := ⟨b, (done.map Prod.fst).map some ++ List.replicate left none⟩
  typesBlock := b'
  types := done.map Prod.snd ++ List.replicate left .zero

theorem blocks_start (b b' size : ℕ) :
    blocks (partway (some b) (some b') [] size) = b ::ₘ {b'} := by
  have names : StringArray.blocks ⟨some b, List.replicate size none⟩ = {b} :=
    StringArray.blocks_fresh b size
  simp [partway, blocks, names, List.map_replicate]

end NamesAndTypes

variable {H : Type} {rc : Rcutils H}

def Rcutils.Accounts (rc : Rcutils H) (rest : Multiset ℕ) (s : NamesAndTypes × H) : Prop :=
  rc.live s.2 = s.1.blocks + rest

inductive Request where
  | string (s : StdString)
  | array (size : ℕ)
  | table (size : ℕ)
  deriving DecidableEq, Repr

def Rcutils.grant (rc : Rcutils H) : Request → H → Option H
  | .string s, h =>
    match rc.strdup s h with
    | (some _, h) => some h
    | (none, _) => none
  | .array size, h =>
    match rc.stringArrayInit .zero size h with
    | (ret, _, h) => if ret = .ok then some h else none
  | .table size, h =>
    match rc.namesAndTypesInit .zero size h with
    | (ret, _, h) => if ret = .ok then some h else none

def Rcutils.serve (rc : Rcutils H) (requests : List Request) (h : H) : Option H :=
  requests.foldlM (fun h request => rc.grant request h) h

@[simp] theorem Rcutils.serve_nil (rc : Rcutils H) (h : H) : rc.serve [] h = some h := by
  simp only [serve, List.foldlM_nil, Option.pure_def]

theorem Rcutils.serve_cons (rc : Rcutils H) (request : Request) (requests : List Request) (h : H) :
    rc.serve (request :: requests) h = (rc.grant request h).bind (rc.serve requests) := by
  rw [serve, List.foldlM_cons]
  rfl

theorem Rcutils.serve_append (rc : Rcutils H) (requests requests' : List Request) (h : H) :
    rc.serve (requests ++ requests') h = (rc.serve requests h).bind (rc.serve requests') := by
  rw [serve, List.foldlM_append]
  rfl

theorem Rcutils.serve_singleton (rc : Rcutils H) (request : Request) (h : H) :
    rc.serve [request] h = rc.grant request h := by
  rw [serve_cons]
  cases rc.grant request h <;> rfl

section Serves

variable {ε σ α β : Type} {requests requests' : List Request} {s : σ × H}

/-- The program returns if its requests are served, and throws if one is refused. -/
def Rcutils.Serves (rc : Rcutils H) (requests : List Request) (x : EStateM ε (σ × H) α)
    (s : σ × H) (returns : α → σ × H → Prop) (throws : ε → σ × H → Prop) : Prop :=
  Exits x s (fun a t => rc.serve requests s.2 = some t.2 ∧ returns a t)
    fun e t => rc.serve requests s.2 = none ∧ throws e t

theorem Rcutils.Serves.pure {returns : α → σ × H → Prop} {throws : ε → σ × H → Prop} {a : α}
    (h : returns a s) : rc.Serves [] (pure a) s returns throws :=
  ⟨rfl, h⟩

theorem Rcutils.Serves.mono {x : EStateM ε (σ × H) α} {returns returns' : α → σ × H → Prop}
    {throws throws' : ε → σ × H → Prop} (serves : rc.Serves requests x s returns throws)
    (hr : ∀ a t, returns a t → returns' a t) (ht : ∀ e t, throws e t → throws' e t) :
    rc.Serves requests x s returns' throws' :=
  Exits.mono serves (fun a t => And.imp_right (hr a t)) fun e t => And.imp_right (ht e t)

theorem Rcutils.Serves.bind {x : EStateM ε (σ × H) α} {f : α → EStateM ε (σ × H) β}
    {middle : α → σ × H → Prop} {returns : β → σ × H → Prop} {throws : ε → σ × H → Prop}
    (first : rc.Serves requests x s middle throws)
    (second : ∀ a t, middle a t → rc.Serves requests' (f a) t returns throws) :
    rc.Serves (requests ++ requests') (x >>= f) s returns throws := by
  unfold Rcutils.Serves at *
  simp only [exits_bind, Rcutils.serve_append]
  refine first.mono ?_ ?_
  · rintro a t ⟨served, h⟩
    simpa [served] using second a t h
  · rintro e t ⟨refused, h⟩
    simpa [refused] using h

theorem Rcutils.Serves.modify {k : PUnit → EStateM ε (σ × H) α} {returns : α → σ × H → Prop}
    {throws : ε → σ × H → Prop} {f : σ × H → σ × H} (same : (f s).2 = s.2)
    (next : rc.Serves requests (k ⟨⟩) (f s) returns throws) :
    rc.Serves requests (modify f >>= k) s returns throws := by
  unfold Rcutils.Serves at *
  rw [same] at next
  simpa using next

end Serves

theorem duplicate_serves (law : rc.Lawful) (failure : String) (s : StdString)
    {nt : NamesAndTypes} {h : H} {rest : Multiset ℕ} (accounts : rc.Accounts rest (nt, h)) :
    rc.Serves [.string s] (duplicate rc failure s) (nt, h)
      (fun c t => c.text = s ∧ t.1 = nt ∧ rc.live t.2 = c.block ::ₘ rc.live h)
      (fun e t => e.1 ≠ .ok ∧ rc.Accounts rest t) := by
  unfold Rcutils.Serves Exits EStateM.run duplicate
  simp only [Rcutils.serve_singleton, Rcutils.grant]
  obtain ⟨h', refused, same⟩ | ⟨b, h', given, grown⟩ := law.strdup s h
  · have accounts' : rc.Accounts rest (nt, h') := same.trans accounts
    simp [refused, accounts']
  · simp [given, grown]

theorem initTypes_serves (law : rc.Lawful) {before after : List StringArray} (size : ℕ)
    {nt : NamesAndTypes} (shape : nt.types = before ++ .zero :: after) {h : H} {rest : Multiset ℕ}
    (accounts : rc.Accounts rest (nt, h)) :
    rc.Serves [.array size] (initTypes rc before.length size) (nt, h)
      (fun _ t => ∃ b,
        t.1 = { nt with types := before ++ ⟨some b, List.replicate size none⟩ :: after } ∧
        rc.live t.2 = b ::ₘ rc.live h)
      (fun e t => e.1 ≠ .ok ∧ rc.Accounts rest t) := by
  unfold Rcutils.Serves Exits EStateM.run initTypes
  have slot : nt.types.getD before.length .zero = .zero := by simp [shape]
  simp only [slot, Rcutils.serve_singleton, Rcutils.grant]
  obtain ⟨ret, h', refused, failed, same⟩ | ⟨b, h', given, grown⟩ := law.stringArrayInit size h
  · have code : rc.convertRet ret ≠ .ok := fun ok => failed ((law.convertRet ret).mp ok)
    have unset : { nt with types := before ++ .zero :: after } = nt := by rw [← shape]
    have accounts' : rc.Accounts rest (nt, h') := same.trans accounts
    simp [refused, failed, code, shape, unset, accounts']
  · simp [given, grown, shape]

def typeRequests (rewriteType : StdString → StdString) (types : List StdString) : List Request :=
  types.map fun type => .string (rewriteType type)

theorem copyTypes_serves (law : rc.Lawful) (rewriteType : StdString → StdString)
    (before after : List StringArray) (b : Option ℕ) (types : List StdString)
    (strings : List CString) {nt : NamesAndTypes} {h : H} {rest : Multiset ℕ}
    (shape : nt.types =
      before ++ ⟨b, strings.map some ++ List.replicate types.length none⟩ :: after)
    (accounts : rc.Accounts rest (nt, h)) :
    rc.Serves (typeRequests rewriteType types)
      (copyTypes rc rewriteType before.length types strings.length) (nt, h)
      (fun _ t => rc.Accounts rest t ∧
        ∃ copied : List CString, copied.map CString.text = types.map rewriteType ∧
        t.1 = { nt with types := before ++ ⟨b, (strings ++ copied).map some⟩ :: after })
      (fun e t => e.1 ≠ .ok ∧ rc.Accounts rest t) := by
  induction types generalizing strings nt h with
  | nil =>
    refine .pure ⟨accounts, [], rfl, ?_⟩
    simpa [NamesAndTypes.ext_iff] using shape
  | cons type types ih =>
    rw [copyTypes, typeRequests, List.map_cons, ← List.singleton_append, ← typeRequests]
    refine (duplicate_serves law _ (rewriteType type) accounts).bind ?_
    rintro c ⟨nt', h'⟩ ⟨text, rfl, grown⟩
    have stored := NamesAndTypes.storeType_eq c shape
    have larger := NamesAndTypes.blocks_replace
      shape (StringArray.blocks_snoc b strings c types.length (types.length + 1))
    rw [← stored] at larger
    have accounted : rc.Accounts rest (nt'.storeType before.length strings.length c, h') := by
      rw [Rcutils.Accounts, grown, larger, add_assoc, ← accounts, Multiset.singleton_add]
    have next := ih (strings ++ [c]) (by rw [stored]) accounted
    rw [List.length_append, List.length_singleton] at next
    refine .modify rfl (next.mono ?_ fun _ _ => id)
    rintro _ t ⟨accounted, copied, texts, final⟩
    refine ⟨accounted, c :: copied, by simp [texts, text], ?_⟩
    simpa [stored] using final

theorem copyRowTypes_serves (law : rc.Lawful) (rewriteType : StdString → StdString)
    (before after : List StringArray) (types : ExtTreeSet StdString) {nt : NamesAndTypes} {h : H}
    {rest : Multiset ℕ} (shape : nt.types = before ++ .zero :: after)
    (accounts : rc.Accounts rest (nt, h)) :
    rc.Serves (.array types.size :: typeRequests rewriteType types.toList)
      (copyRowTypes rc rewriteType before.length types) (nt, h)
      (fun _ t => rc.Accounts rest t ∧ ∃ a : StringArray,
        a.texts = types.toList.map (fun type => some (rewriteType type)) ∧
        t.1 = { nt with types := before ++ a :: after })
      (fun e t => e.1 ≠ .ok ∧ rc.Accounts rest t) := by
  rw [copyRowTypes, ← List.singleton_append]
  refine (initTypes_serves law types.size shape accounts).bind ?_
  rintro _ ⟨nt', h'⟩ ⟨b, rfl, grown⟩
  rw [← ExtTreeSet.length_toList]
  have larger := NamesAndTypes.blocks_replace shape (StringArray.blocks_fresh b types.size)
  have accounted : rc.Accounts rest ({ nt with types := before ++
      ⟨some b, List.replicate types.toList.length none⟩ :: after }, h') := by
    rw [Rcutils.Accounts, grown, ExtTreeSet.length_toList, larger, add_assoc, ← accounts,
      Multiset.singleton_add]
  have loop := copyTypes_serves law rewriteType before after (some b) types.toList [] rfl accounted
  refine loop.mono ?_ fun _ _ => id
  rintro _ t ⟨accounted, copied, texts, final⟩
  refine ⟨accounted, ⟨some b, copied.map some⟩, ?_, final⟩
  have rewritten := congrArg (List.map some) texts
  simpa [StringArray.texts, Function.comp_def] using rewritten

def copiedRow (rewriteName rewriteType : StdString → StdString)
    (entry : StdString × ExtTreeSet StdString) : StdString × List StdString :=
  (rewriteName entry.1, entry.2.toList.map rewriteType)

def rowRequests (rewriteName rewriteType : StdString → StdString)
    (entry : StdString × ExtTreeSet StdString) : List Request :=
  .string (rewriteName entry.1) :: .array entry.2.size :: typeRequests rewriteType entry.2.toList

theorem copyEntries_serves (law : rc.Lawful) (rewriteName rewriteType : StdString → StdString)
    (noName : String) {b b' : Option ℕ} {rest : Multiset ℕ}
    (ntm : List (StdString × ExtTreeSet StdString)) (done : List (CString × StringArray)) {h : H}
    (accounts : rc.Accounts rest (NamesAndTypes.partway b b' done ntm.length, h)) :
    rc.Serves (ntm.flatMap (rowRequests rewriteName rewriteType))
      (copyEntries rc rewriteName rewriteType noName ntm done.length)
      (NamesAndTypes.partway b b' done ntm.length, h)
      (fun _ t => rc.Accounts rest t ∧
        ∃ rows : List (CString × StringArray),
          t.1 = NamesAndTypes.partway b b' (done ++ rows) 0 ∧
          rows.map (fun row => (row.1.text, row.2.texts)) = ntm.map fun entry =>
            (rewriteName entry.1, entry.2.toList.map fun type => some (rewriteType type)))
      (fun e t => e.1 ≠ .ok ∧ rc.Accounts rest t) := by
  induction ntm generalizing done h with
  | nil => exact .pure ⟨accounts, [], by simp, rfl⟩
  | cons entry ntm ih =>
    obtain ⟨name, types⟩ := entry
    rw [copyEntries, List.flatMap_cons, rowRequests, ← List.singleton_append, List.append_assoc]
    refine (duplicate_serves law noName (rewriteName name) accounts).bind ?_
    rintro c ⟨nt', h'⟩ ⟨text, rfl, grown⟩
    have stored := NamesAndTypes.storeName_eq
      (NamesAndTypes.partway b b' done (ntm.length + 1)) (done.map Prod.fst) c rfl
    rw [List.length_map] at stored
    have larger := NamesAndTypes.blocks_replaceNames
      (NamesAndTypes.partway b b' done (ntm.length + 1))
      (StringArray.blocks_snoc b (done.map Prod.fst) c ntm.length (ntm.length + 1))
    have accounted : rc.Accounts rest
        ((NamesAndTypes.partway b b' done (ntm.length + 1)).storeName done.length c, h') := by
      rw [Rcutils.Accounts, grown, stored, larger, add_assoc, ← Multiset.singleton_add]
      exact congrArg ({c.block} + ·) accounts
    have row := copyRowTypes_serves law rewriteType (done.map Prod.snd)
      (List.replicate ntm.length .zero) types (by rw [stored]; rfl) accounted
    rw [List.length_map] at row
    refine .modify rfl (row.bind ?_)
    rintro _ ⟨nt'', h''⟩ ⟨accounted', a, texts, rfl⟩
    have place : { (NamesAndTypes.partway b b' done (ntm.length + 1)).storeName done.length c
        with types := done.map Prod.snd ++ a :: List.replicate ntm.length .zero } =
        NamesAndTypes.partway b b' (done ++ [(c, a)]) ntm.length := by
      rw [stored]
      simp [NamesAndTypes.partway]
    rw [place] at accounted' ⊢
    have next := ih (done ++ [(c, a)]) accounted'
    rw [List.length_append, List.length_singleton] at next
    refine next.mono ?_ fun _ _ => id
    rintro _ t ⟨accounted'', rows, final, shown⟩
    refine ⟨accounted'', (c, a) :: rows, by simpa using final, ?_⟩
    simp [text, texts, shown]

theorem NamesAndTypes.shows_partway {b b' : Option ℕ} {nt : NamesAndTypes}
    {rows : List (CString × StringArray)} {rewriteName rewriteType : StdString → StdString}
    {ntm : List (StdString × ExtTreeSet StdString)} (final : nt = partway b b' rows 0)
    (shown : rows.map (fun row => (row.1.text, row.2.texts)) = ntm.map fun entry =>
      (rewriteName entry.1, entry.2.toList.map fun type => some (rewriteType type))) :
    nt.Shows (ntm.map (copiedRow rewriteName rewriteType)) where
  names := by
    have names := congrArg (List.map fun row => some row.1) shown
    simpa [final, partway, StringArray.texts, copiedRow, Function.comp_def] using names
  types := by
    have types := congrArg (List.map Prod.snd) shown
    simpa [final, partway, copiedRow, Function.comp_def] using types

def copyRequests (rewriteName rewriteType : StdString → StdString) (ntm : TopicsTypes) :
    List Request :=
  if ntm.isEmpty then []
  else .table ntm.size :: ntm.toList.flatMap (rowRequests rewriteName rewriteType)

/-- A copy whose requests are served shows every row of the map. If one is refused
it fails and holds nothing. -/
theorem copyNamesTypes_cases (law : rc.Lawful) (rewriteName rewriteType : StdString → StdString)
    (noName : String) (ntm : TopicsTypes) (h : H) :
    let out := copyNamesTypes rc rewriteName rewriteType noName .zero ntm h
    let requests := copyRequests rewriteName rewriteType ntm
    (rc.serve requests h = some out.heap ∧ out.ret = .ok ∧
      out.nt.Shows (ntm.toList.map (copiedRow rewriteName rewriteType)) ∧
      rc.live out.heap = out.nt.blocks + rc.live h) ∨
    (rc.serve requests h = none ∧ out.ret ≠ .ok ∧ out.nt = .zero ∧
      rc.live out.heap = rc.live h) := by
  unfold copyNamesTypes copyRequests
  by_cases none : ntm.isEmpty = true
  · have rows : ntm.toList = [] := ExtTreeMap.toList_eq_nil_iff.mpr (by simpa using none)
    rw [if_pos none, if_pos none]
    refine .inl ⟨rfl, rfl, ⟨?_, ?_⟩, (zero_add _).symm⟩ <;> rw [rows] <;> rfl
  · rw [if_neg none, if_neg none]
    simp only [Rcutils.serve_cons, Rcutils.grant]
    obtain ⟨ret, h', refused, failed, same⟩ | ⟨b, b', h', given, grown⟩ :=
      law.namesAndTypesInit ntm.size h
    · simp [refused, failed, same]
    · have start : rc.Accounts (rc.live h)
          (NamesAndTypes.partway (some b) (some b') [] ntm.toList.length, h') := by
        rw [ExtTreeMap.length_toList, Rcutils.Accounts, grown, NamesAndTypes.blocks_start,
          Multiset.cons_add, Multiset.singleton_add]
      have loop := copyEntries_serves law rewriteName rewriteType noName ntm.toList [] start
      rw [ExtTreeMap.length_toList] at loop
      have started : rc.namesAndTypesInit .zero ntm.size h =
          (.ok, NamesAndTypes.partway (some b) (some b') [] ntm.size, h') := given
      simp only [started, ne_eq, not_true_eq_false, if_false, if_true, Option.bind_some]
      cases run : (copyEntries rc rewriteName rewriteType noName ntm.toList 0).run
          (NamesAndTypes.partway (some b) (some b') [] ntm.size, h') with
      | ok _ t =>
        obtain ⟨served, accounts, rows, final, shown⟩ := Exits.of_ok loop run
        obtain ⟨nt, h''⟩ := t
        exact .inl ⟨served, rfl, NamesAndTypes.shows_partway final shown, accounts⟩
      | error e t =>
        obtain ⟨refused, failed, accounts⟩ := Exits.of_error loop run
        obtain ⟨nt, h''⟩ := t
        obtain ⟨ret, h3, released, rest⟩ := law.namesAndTypesFini nt h'' _ accounts
        simp only [released]
        exact .inr ⟨refused, failed, trivial, rest⟩

section Rows

variable {ntm : TopicsTypes} (f g : StdString → StdString)

theorem mem_names_copiedRow (h : ntm.NoEmpty) (name : StdString) :
    name ∈ (ntm.toList.map (copiedRow f g)).map Prod.fst ↔
      ∃ t, f t = name ∧ ∃ u, SetMap.Holds ntm t u := by
  simp only [List.map_map, List.mem_map, Prod.exists, ExtTreeMap.mem_toList_iff_getElem?_eq_some,
    Function.comp_apply, copiedRow]
  constructor
  · rintro ⟨t, types, slot, named⟩
    obtain ⟨u, member⟩ := h.exists_mem slot
    exact ⟨t, named, u, types, slot, member⟩
  · rintro ⟨t, named, u, types, slot, -⟩
    exact ⟨t, types, slot, named⟩

theorem mem_types_copiedRow {row : StdString × List StdString}
    (member : row ∈ ntm.toList.map (copiedRow f g)) :
    ∃ t, row.1 = f t ∧ t ∈ ntm ∧ ∀ u, u ∈ row.2 ↔ ∃ v, SetMap.Holds ntm t v ∧ g v = u := by
  obtain ⟨⟨t, types⟩, slot, rfl⟩ := List.mem_map.mp member
  rw [ExtTreeMap.mem_toList_iff_getElem?_eq_some] at slot
  refine ⟨t, rfl, by simp [ExtTreeMap.mem_iff_isSome_getElem?, slot], fun u => ?_⟩
  simp only [copiedRow, List.mem_map, ExtTreeSet.mem_toList, SetMap.Holds]
  constructor
  · rintro ⟨v, member, rfl⟩
    exact ⟨v, ⟨types, slot, member⟩, rfl⟩
  · rintro ⟨v, ⟨types', slot', member⟩, rfl⟩
    rw [slot, Option.some.injEq] at slot'
    exact ⟨v, slot' ▸ member, rfl⟩

theorem nodup_names_copiedRow (injective : ∀ t ∈ ntm, ∀ t' ∈ ntm, f t = f t' → t = t') :
    ((ntm.toList.map (copiedRow f g)).map Prod.fst).Nodup := by
  have keys : (ntm.toList.map (copiedRow f g)).map Prod.fst = ntm.keys.map f := by
    rw [← ExtTreeMap.map_fst_toList_eq_keys, List.map_map, List.map_map]
    rfl
  rw [keys]
  refine List.Nodup.map_on ?_ ExtTreeMap.nodup_keys
  simpa only [ExtTreeMap.mem_keys] using injective

end Rows
end RmwOpendds
