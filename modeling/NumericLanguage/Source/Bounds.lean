/-!
# Indices out of range

Reading a character or a list entry past the end is a fault of its own. In a list a negative
index counts from the end.
-/

set_option autoImplicit false

namespace NumericLanguage

/-- What was read at an index that it does not have. -/
inductive OutOfRange
  | text
  | list
  deriving DecidableEq, Repr

/-- The fault in words. -/
def OutOfRange.message : OutOfRange → String
  | .text => "string index out of range"
  | .list => "list index out of range"

/-- The entry at an index, a negative index counting from the end. -/
def entryAt {α : Type} (entries : List α) (index : Int) : Except OutOfRange α :=
  let fromStart := if index < 0 then entries.length + index else index
  if fromStart < 0 then .error .list
  else match entries[fromStart.toNat]? with
    | some entry => .ok entry
    | none => .error .list

/-- An entry that exists is found at its index. -/
theorem entryAt_of_getElem? {α : Type} {entries : List α} {index : Nat} {entry : α}
    (found : entries[index]? = some entry) : entryAt entries index = .ok entry := by
  have fromStart : ¬ ((index : Int) < 0) := Int.not_lt.mpr (Int.natCast_nonneg index)
  simp only [entryAt, if_neg fromStart, Int.toNat_natCast, found]

end NumericLanguage
