import RmwOpendds.NamesAndTypes

/-! The functions of rcutils and rmw over a pool that has a number of blocks left:
the laws of the allocator hold whatever that number is. -/

namespace RmwOpendds

structure BlockPool where
  next : ℕ
  live : Multiset ℕ
  left : ℕ

namespace BlockPool

def take (p : BlockPool) : Option (ℕ × BlockPool) :=
  match p.left with
  | 0 => none
  | left + 1 => some (p.next, ⟨p.next + 1, p.next ::ₘ p.live, left⟩)

theorem live_of_take {p p' : BlockPool} {b : ℕ} (given : p.take = some (b, p')) :
    p'.live = b ::ₘ p.live := by
  unfold take at given
  split at given
  · cases given
  · cases given
    rfl

def convertRet : RcutilsRet → RmwRet
  | .ok => .ok
  | .error => .error
  | .badAlloc => .badAlloc
  | .invalidArgument => .invalidArgument

/-- Nothing is left behind when only one of the two arrays could be had. -/
def namesAndTypesInit (nt : NamesAndTypes) (size : ℕ) (p : BlockPool) :
    RmwRet × NamesAndTypes × BlockPool :=
  match p.take with
  | none => (.badAlloc, nt, p)
  | some (b, p') =>
    match p'.take with
    | none => (.badAlloc, nt, p)
    | some (b', p'') =>
      (.ok, ⟨⟨some b', List.replicate size none⟩, some b, List.replicate size .zero⟩, p'')

def rcutils : Rcutils BlockPool where
  live := live
  strdup s p :=
    match p.take with
    | none => (none, p)
    | some (b, p') => (some ⟨b, s⟩, p')
  stringArrayInit a size p :=
    match p.take with
    | none => (.badAlloc, a, p)
    | some (b, p') => (.ok, ⟨some b, List.replicate size none⟩, p')
  errorString _ := "failed to allocate string array"
  convertRet := convertRet
  namesAndTypesCheckZero
    | none => .invalidArgument
    | some nt => if nt = .zero then .ok else .invalidArgument
  namesAndTypesInit := namesAndTypesInit
  namesAndTypesFini nt p := (.ok, .zero, { p with live := p.live - nt.blocks })

theorem lawful : rcutils.Lawful where
  strdup s p := by
    cases taken : p.take with
    | none => exact .inl ⟨p, by simp [rcutils, taken], rfl⟩
    | some block =>
      exact .inr ⟨block.1, block.2, by simp [rcutils, taken], live_of_take taken⟩
  stringArrayInit size p := by
    cases taken : p.take with
    | none => exact .inl ⟨.badAlloc, p, by simp [rcutils, taken], by decide, rfl⟩
    | some block =>
      exact .inr ⟨block.1, block.2, by simp [rcutils, taken], live_of_take taken⟩
  convertRet ret := by cases ret <;> simp [rcutils, convertRet]
  namesAndTypesCheckZero nt := by
    cases nt with
    | none => simp [rcutils]
    | some nt => by_cases zero : nt = .zero <;> simp [rcutils, zero]
  namesAndTypesInit size p := by
    cases taken : p.take with
    | none => exact .inl ⟨.badAlloc, p, by simp [rcutils, namesAndTypesInit, taken], by decide, rfl⟩
    | some block =>
      obtain ⟨b, p'⟩ := block
      cases taken' : p'.take with
      | none =>
        have refused : rcutils.namesAndTypesInit .zero size p = (.badAlloc, .zero, p) := by
          simp [rcutils, namesAndTypesInit, taken, taken']
        exact .inl ⟨.badAlloc, p, refused, by decide, rfl⟩
      | some block' =>
        obtain ⟨b', p''⟩ := block'
        refine .inr ⟨b', b, p'', by simp [rcutils, namesAndTypesInit, taken, taken'], ?_⟩
        change p''.live = _
        rw [live_of_take taken', live_of_take taken]
        rfl
  namesAndTypesFini nt p rest held := by
    refine ⟨.ok, { p with live := p.live - nt.blocks }, rfl, ?_⟩
    have total : p.live = nt.blocks + rest := held
    change p.live - nt.blocks = rest
    rw [total, add_tsub_cancel_left]

end BlockPool
end RmwOpendds
