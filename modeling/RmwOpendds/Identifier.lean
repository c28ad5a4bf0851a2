import Mathlib.Logic.Basic

/-! `identifier.cpp` and the shape of an rmw handle: an implementation
identifier, compared by address, and a data pointer. -/

namespace RmwOpendds

/-- The `implementation_identifier` of a handle: null, the address of
`opendds_identifier`, or that of another string. -/
inductive ImplementationIdentifier where
  | null | opendds | foreign (text : String)
  deriving DecidableEq, Repr

def openddsIdentifier : String := "rmw_opendds_cpp"

def checkImplId : ImplementationIdentifier → Except String Unit
  | .opendds => .ok ()
  | .null => .error "implementation_identifier is null"
  | .foreign text => .error ("implementation '" ++ text ++
      "' does not match rmw implementation '" ++ openddsIdentifier ++ "'")

theorem checkImplId_eq_ok {identifier : ImplementationIdentifier} {u : Unit} :
    checkImplId identifier = .ok u ↔ identifier = .opendds := by
  cases identifier <;> simp [checkImplId]

structure RmwHandle (α : Type*) where
  implementationIdentifier : ImplementationIdentifier
  data : Option α
  deriving DecidableEq, Repr

/-- The common body of the `from` functions; they differ in their two texts. -/
def RmwHandle.fromHandle {α : Type} (handleNull dataNull : String) :
    Option (RmwHandle α) → Except String α
  | none => .error handleNull
  | some handle => do
    checkImplId handle.implementationIdentifier
    match handle.data with
    | none => .error dataNull
    | some data => .ok data

@[simp] theorem RmwHandle.fromHandle_valid {α : Type} (handleNull dataNull : String) (data : α) :
    fromHandle handleNull dataNull (some ⟨.opendds, some data⟩) = .ok data := rfl

theorem RmwHandle.data_of_fromHandle {α : Type} {handleNull dataNull : String}
    {handle : RmwHandle α} {data : α} (valid : fromHandle handleNull dataNull (some handle) =
      .ok data) : handle.data = some data := by
  obtain ⟨identifier, held⟩ := handle
  cases identifier with
  | opendds =>
    cases held with
    | none => cases valid
    | some data' =>
      rw [fromHandle_valid] at valid
      cases valid
      rfl
  | null => cases valid
  | foreign text => cases valid

end RmwOpendds
