import RmwOpendds.Library.Exits
import RmwOpendds.Library.OrderedMap
import RmwOpendds.ReturnCodes
import RmwOpendds.TopicCache

/-! `copy_topic_names_types` and `copy_service_names_types`. The functions of
rcutils and rmw that they call are parameters, over the state of an allocator that
may refuse any request. A C string is a block of memory with its text; the strings
of the caches were C strings, so that `c_str()` loses nothing. What `fail_cleanup`
logs is left out. -/

namespace RmwOpendds

open Std Library

inductive RcutilsRet where
  | ok | error | badAlloc | invalidArgument
  deriving DecidableEq, Repr

structure CString where
  block : ℕ
  text : StdString
  deriving DecidableEq, Repr

/-- `rcutils_string_array_t`; `block` is the memory of `data`. -/
structure StringArray where
  block : Option ℕ
  data : List (Option CString)
  deriving DecidableEq, Repr

namespace StringArray

def zero : StringArray := ⟨none, []⟩

def blocks (a : StringArray) : Multiset ℕ :=
  (a.block.toList ++ a.data.reduceOption.map CString.block : List ℕ)

def texts (a : StringArray) : List (Option StdString) := a.data.map (Option.map CString.text)

end StringArray

/-- `rmw_names_and_types_t`; `typesBlock` is the memory of the array `types`. -/
@[ext] structure NamesAndTypes where
  names : StringArray
  typesBlock : Option ℕ
  types : List StringArray
  deriving DecidableEq, Repr

namespace NamesAndTypes

def zero : NamesAndTypes := ⟨.zero, none, []⟩

def blocks (nt : NamesAndTypes) : Multiset ℕ :=
  nt.names.blocks + (nt.typesBlock.toList : List ℕ) + (nt.types.map StringArray.blocks).sum

def storeName (nt : NamesAndTypes) (index : ℕ) (name : CString) : NamesAndTypes :=
  { nt with names := { nt.names with data := nt.names.data.set index (some name) } }

def storeType (nt : NamesAndTypes) (index typeIndex : ℕ) (type : CString) : NamesAndTypes :=
  { nt with types := nt.types.modify index fun a =>
      { a with data := a.data.set typeIndex (some type) } }

/-- The arrays hold the rows: the names in order, and with each name its types. -/
structure Shows (nt : NamesAndTypes) (rows : List (StdString × List StdString)) : Prop where
  names : nt.names.texts = rows.map fun row => some row.1
  types : nt.types.map StringArray.texts = rows.map fun row => row.2.map some

end NamesAndTypes

structure Rcutils (H : Type) where
  live : H → Multiset ℕ
  strdup : StdString → H → Option CString × H
  stringArrayInit : StringArray → ℕ → H → RcutilsRet × StringArray × H
  errorString : H → String
  convertRet : RcutilsRet → RmwRet
  namesAndTypesCheckZero : Option NamesAndTypes → RmwRet
  namesAndTypesInit : NamesAndTypes → ℕ → H → RmwRet × NamesAndTypes × H
  namesAndTypesFini : NamesAndTypes → H → RmwRet × NamesAndTypes × H

/-- Allocations that fail leave everything as it was, arrays start with null
entries, and `fini` releases what the arrays hold. -/
structure Rcutils.Lawful {H : Type} (rc : Rcutils H) : Prop where
  strdup : ∀ s h, (∃ h', rc.strdup s h = (none, h') ∧ rc.live h' = rc.live h) ∨
    ∃ b h', rc.strdup s h = (some ⟨b, s⟩, h') ∧ rc.live h' = b ::ₘ rc.live h
  stringArrayInit : ∀ n h,
    (∃ ret h', rc.stringArrayInit .zero n h = (ret, .zero, h') ∧ ret ≠ .ok ∧
      rc.live h' = rc.live h) ∨
    ∃ b h', rc.stringArrayInit .zero n h = (.ok, ⟨some b, List.replicate n none⟩, h') ∧
      rc.live h' = b ::ₘ rc.live h
  convertRet : ∀ ret, rc.convertRet ret = .ok ↔ ret = .ok
  namesAndTypesCheckZero : ∀ nt, rc.namesAndTypesCheckZero nt = .ok ↔ nt = some .zero
  namesAndTypesInit : ∀ n h,
    (∃ ret h', rc.namesAndTypesInit .zero n h = (ret, .zero, h') ∧ ret ≠ .ok ∧
      rc.live h' = rc.live h) ∨
    ∃ b b' h', rc.namesAndTypesInit .zero n h =
        (.ok, ⟨⟨some b, List.replicate n none⟩, some b', List.replicate n .zero⟩, h') ∧
      rc.live h' = b ::ₘ b' ::ₘ rc.live h
  namesAndTypesFini : ∀ nt h rest, rc.live h = nt.blocks + rest →
    ∃ ret h', rc.namesAndTypesFini nt h = (ret, .zero, h') ∧ rc.live h' = rest

/-- The loops of a copy: their state is the result handle and the allocator, an
error is the code that is returned after the cleanup, with its text. -/
abbrev Copying (H : Type) := EStateM (RmwRet × String) (NamesAndTypes × H)

section Copy

variable {H : Type} (rc : Rcutils H)

def duplicate (failure : String) (s : StdString) : Copying H CString := fun (nt, h) =>
  match rc.strdup s h with
  | (some c, h) => .ok c (nt, h)
  | (none, h) => .error (.badAlloc, failure) (nt, h)

def initTypes (index size : ℕ) : Copying H PUnit := fun (nt, h) =>
  match rc.stringArrayInit (nt.types.getD index .zero) size h with
  | (ret, types, h) =>
    let nt := { nt with types := nt.types.set index types }
    if ret = .ok then .ok ⟨⟩ (nt, h)
    else .error (rc.convertRet ret, rc.errorString h) (nt, h)

def copyTypes (rewriteType : StdString → StdString) (index : ℕ) :
    List StdString → ℕ → Copying H PUnit
  | [], _ => pure ⟨⟩
  | type :: types, typeIndex => do
    let typeName ← duplicate rc "failed to allocate memory for type name" (rewriteType type)
    modify fun (nt, h) => (nt.storeType index typeIndex typeName, h)
    copyTypes rewriteType index types (typeIndex + 1)

def copyRowTypes (rewriteType : StdString → StdString) (index : ℕ)
    (types : ExtTreeSet StdString) : Copying H PUnit := do
  initTypes rc index types.size
  copyTypes rc rewriteType index types.toList 0

def copyEntries (rewriteName rewriteType : StdString → StdString) (noName : String) :
    List (StdString × ExtTreeSet StdString) → ℕ → Copying H PUnit
  | [], _ => pure ⟨⟩
  | (name, types) :: ntm, index => do
    let copied ← duplicate rc noName (rewriteName name)
    modify fun (nt, h) => (nt.storeName index copied, h)
    copyRowTypes rc rewriteType index types
    copyEntries rewriteName rewriteType noName ntm (index + 1)

structure Copied (H : Type) where
  ret : RmwRet
  error : Option String
  nt : NamesAndTypes
  heap : H

/-- The common body of the two copies. -/
def copyNamesTypes (rewriteName rewriteType : StdString → StdString) (noName : String)
    (nt : NamesAndTypes) (ntm : TopicsTypes) (h : H) : Copied H :=
  if ntm.isEmpty then ⟨.ok, none, nt, h⟩
  else
    match rc.namesAndTypesInit nt ntm.size h with
    | (ret, nt, h) =>
      if ret ≠ .ok then ⟨ret, none, nt, h⟩
      else
        match (copyEntries rc rewriteName rewriteType noName ntm.toList 0).run (nt, h) with
        | .ok _ (nt, h) => ⟨.ok, none, nt, h⟩
        | .error (ret, text) (nt, h) =>
          match rc.namesAndTypesFini nt h with
          | (_, nt, h) => ⟨ret, some text, nt, h⟩

end Copy
end RmwOpendds
