import Mathlib.Logic.Basic

/-! The return codes of the two interfaces: `rmw_ret_t` and `DDS::ReturnCode_t`. -/

namespace RmwOpendds

inductive RmwRet where
  | ok | error | timeout | unsupported | badAlloc | invalidArgument
  | incorrectRmwImplementation | nodeNameNonExistent
  deriving DecidableEq, Repr

inductive ReturnCode where
  | ok | error | unsupported | badParameter | preconditionNotMet | outOfResources | notEnabled
  | immutablePolicy | inconsistentPolicy | alreadyDeleted | timeout | noData | illegalOperation
  deriving DecidableEq, Repr

end RmwOpendds
