import Mathlib.Data.List.Nodup
import NumericLanguage.Proofs.Scoping.Chronicle

/-!
# The shape of a table

The open scopes of a table are the global scope and the scopes of blocks around each other. Each
block has the number that it got when it was entered, and a greater one than the block around it;
the number makes the name of its scope. A scope lies as deep as there are scopes around it. Its
declarations carry its name, and no two of them are for the same name (`Scope.Consistent`).

`Nested` says this of a stack of scopes, from the outside to the inside, together with the number of
the innermost block. A table is well-formed if its stack is nested and no block has a greater number
than there were blocks. Every call keeps this, also one that fails (`WellFormed.after`).

The names of blocks are distinct since a decimal numeral determines its number. So no two scopes
that are ever made have the same name, also if the first one is left before the second one is made
(`nodup_names_entered`).
-/

set_option autoImplicit false

namespace NumericLanguage

/-! ## Names of blocks -/

namespace ScopeTable

/-- The name of a block determines its number. -/
theorem blockName_injective : Function.Injective blockName := by
  intro first second same
  have characters : "block".toList ++ (toString first).toList =
      "block".toList ++ (toString second).toList := by
    simpa only [blockName, String.toList_append] using congrArg String.toList same
  have digits : Nat.toDigits 10 first = Nat.toDigits 10 second := by
    simpa only [Nat.toString_eq_repr, Nat.toList_repr] using List.append_cancel_left characters
  simpa using congrArg (Nat.ofDigitChars 10 · 0) digits

/-- No block is called like the global scope. -/
theorem blockName_ne_global (number : Nat) : blockName number ≠ "global" := by
  intro same
  have heads : some 'b' = some 'g' := by
    simpa [blockName] using congrArg (fun name => name.toList.head?) same
  exact absurd heads (by decide)

end ScopeTable

/-! ## Scopes -/

/-- The declarations of a scope carry its name, and no two of them are for the same name. -/
structure Scope.Consistent (scope : Scope) : Prop where
  tagged : ∀ declaration ∈ scope.declarations, declaration.scope = scope.name
  distinct : scope.names.Nodup

namespace Scope.Consistent

variable {scope : Scope}

/-- A scope without declarations is consistent. -/
theorem of_empty (name : String) (depth : Nat) : Scope.Consistent ⟨name, depth, []⟩ where
  tagged _ inside := absurd inside List.not_mem_nil
  distinct := List.nodup_nil

/-- The declaration of a name is the one with that name. -/
theorem find?_eq_some_iff {name : String} {declaration : Declaration}
    (consistent : scope.Consistent) :
    scope.find? name = some declaration ↔
      declaration ∈ scope.declarations ∧ declaration.name = name := by
  constructor
  · intro found
    exact ⟨List.mem_of_find?_eq_some found, by simpa using List.find?_some found⟩
  · rintro ⟨inside, rfl⟩
    cases found : scope.find? declaration.name with
    | none => exact absurd rfl (Scope.find?_eq_none_iff.mp found declaration inside)
    | some first =>
        have same : first.name = declaration.name := by
          simpa using List.find?_some found
        exact congrArg some (List.inj_on_of_nodup_map consistent.distinct
          (List.mem_of_find?_eq_some found) inside same)

/-- A new name may be added with the name of the scope. -/
theorem add {declaration : Declaration} (consistent : scope.Consistent)
    (isNew : scope.find? declaration.name = none) (tagged : declaration.scope = scope.name) :
    (scope.add declaration).Consistent where
  tagged := by
    intro other inside
    rcases List.mem_append.mp inside with before | last
    · exact consistent.tagged other before
    · cases List.mem_singleton.mp last
      exact tagged
  distinct := by
    rw [Scope.names, Scope.add, List.map_append, List.nodup_append]
    refine ⟨consistent.distinct, List.nodup_singleton _, ?_⟩
    intro name declared other isLast same
    obtain ⟨first, inside, rfl⟩ := List.mem_map.mp declared
    exact Scope.find?_eq_none_iff.mp isNew first inside
      (same.trans (List.mem_singleton.mp isLast))

end Scope.Consistent

/-! ## Stacks -/

/-- Scopes around each other, the innermost first, and the number of the innermost block, zero
outside of all blocks. -/
inductive Nested : List Scope → Nat → Prop
  | global {scope : Scope} :
      scope.name = "global" → scope.depth = 0 → scope.Consistent → Nested [scope] 0
  | block {scope : Scope} {outer : List Scope} {last number : Nat} :
      Nested outer last → last < number → scope.name = ScopeTable.blockName number →
      scope.depth = outer.length → scope.Consistent → Nested (scope :: outer) number

namespace Nested

variable {stack outer : List Scope} {scope : Scope} {number : Nat}

theorem consistent (nested : Nested stack number) : ∀ scope ∈ stack, scope.Consistent := by
  induction nested with
  | global _ _ consistent =>
      intro other inside
      cases List.mem_singleton.mp inside
      exact consistent
  | block _ _ _ _ consistent ih =>
      intro other inside
      rcases List.mem_cons.mp inside with rfl | outside
      · exact consistent
      · exact ih other outside

/-- The innermost scope may change its declarations. -/
theorem replace {changed : Scope} (nested : Nested (scope :: outer) number)
    (named : changed.name = scope.name) (deep : changed.depth = scope.depth)
    (consistent : changed.Consistent) : Nested (changed :: outer) number := by
  cases nested with
  | global isGlobal isBottom _ =>
      exact .global (named.trans isGlobal) (deep.trans isBottom) consistent
  | block outside less isNamed isDeep _ =>
      exact .block outside less (named.trans isNamed) (deep.trans isDeep) consistent

/-- The scopes around the innermost block are nested. -/
theorem exists_outer {next : Scope} (nested : Nested (scope :: next :: outer) number) :
    ∃ last ≤ number, Nested (next :: outer) last := by
  cases nested with
  | block outside less _ _ _ => exact ⟨_, Nat.le_of_lt less, outside⟩

/-- A scope lies as deep as there are scopes around it. -/
theorem depth_eq (nested : Nested stack number) :
    ∀ (index : Nat) (scope : Scope), stack.reverse[index]? = some scope →
      scope.depth = index := by
  induction nested with
  | global _ isBottom _ =>
      intro index scope found
      obtain ⟨within, rfl⟩ := List.getElem?_eq_some_iff.mp found
      have first : index = 0 := by
        simpa using within
      subst first
      exact isBottom
  | @block innermost outer _ _ _ _ _ isDeep _ ih =>
      intro index scope found
      rw [List.reverse_cons] at found
      rcases Nat.lt_or_ge index outer.reverse.length with outside | inside
      · rw [List.getElem?_append_left outside] at found
        exact ih index scope found
      · rw [List.getElem?_append_right inside] at found
        obtain ⟨within, rfl⟩ := List.getElem?_eq_some_iff.mp found
        rw [List.length_reverse] at inside within
        have last : index = outer.length := by
          simp only [List.length_singleton] at within
          omega
        simpa [last] using isDeep

/-- The names of the scopes are that of the global scope and those of blocks, with numbers that
increase from the outside to the inside. -/
theorem exists_numbers (nested : Nested stack number) :
    ∃ numbers : List Nat, numbers.Pairwise (· < ·) ∧
      (∀ block ∈ numbers, 1 ≤ block ∧ block ≤ number) ∧
      stack.reverse.map Scope.name = "global" :: numbers.map ScopeTable.blockName := by
  induction nested with
  | global isGlobal _ _ => exact ⟨[], .nil, nofun, by simp [isGlobal]⟩
  | @block innermost outer last number _ less isNamed _ _ ih =>
      obtain ⟨numbers, increases, bounded, names⟩ := ih
      refine ⟨numbers ++ [number], ?_, ?_, ?_⟩
      · rw [List.pairwise_append]
        refine ⟨increases, List.pairwise_singleton _ _, ?_⟩
        intro block inside other isLast
        cases List.mem_singleton.mp isLast
        exact Nat.lt_of_le_of_lt (bounded block inside).2 less
      · intro block inside
        rcases List.mem_append.mp inside with outside | isLast
        · have bounds := bounded block outside
          exact ⟨bounds.1, Nat.le_trans bounds.2 (Nat.le_of_lt less)⟩
        · cases List.mem_singleton.mp isLast
          exact ⟨Nat.lt_of_le_of_lt (Nat.zero_le _) less, Nat.le_refl _⟩
      · rw [List.reverse_cons, List.map_append, names, List.map_append]
        simp [isNamed]

end Nested

/-! ## Tables -/

namespace ScopeTable

/-- The open scopes are nested, and the number of a block was reached when it was entered. -/
def WellFormed (table : ScopeTable) : Prop := ∃ number ≤ table.opened, Nested table.stack number

namespace WellFormed

variable {table : ScopeTable}

theorem empty : WellFormed .empty := ⟨0, Nat.le_refl _, .global rfl rfl (.of_empty _ _)⟩

theorem consistent (wellFormed : WellFormed table) : table.current.Consistent := by
  obtain ⟨number, -, nested⟩ := wellFormed
  exact nested.consistent _ List.mem_cons_self

/-- The outermost scope is the global one. -/
theorem name_global (wellFormed : WellFormed table) : table.global.name = "global" := by
  obtain ⟨number, -, nested⟩ := wellFormed
  obtain ⟨numbers, -, -, names⟩ := nested.exists_numbers
  have last : table.stack.getLast? = some table.global :=
    List.getLast?_eq_some_getLast (List.cons_ne_nil _ _)
  have named := congrArg List.head? names
  rw [List.head?_map, List.head?_reverse, last] at named
  exact Option.some.inj named

theorem consistent_global (wellFormed : WellFormed table) : table.global.Consistent := by
  obtain ⟨number, -, nested⟩ := wellFormed
  exact nested.consistent _ (List.getLast_mem _)

theorem enter (wellFormed : WellFormed table) : WellFormed table.enter := by
  obtain ⟨number, reached, nested⟩ := wellFormed
  exact ⟨table.opened + 1, Nat.le_refl _,
    .block nested (Nat.lt_succ_of_le reached) rfl rfl (.of_empty _ _)⟩

theorem leave {left : ScopeTable} {scope : Scope} (wellFormed : WellFormed table)
    (leaves : table.leave = .ok (scope, left)) : WellFormed left := by
  obtain ⟨current, enclosing, opened⟩ := table
  obtain ⟨number, reached, nested⟩ := wellFormed
  cases enclosing with
  | nil => cases leaves
  | cons outer others =>
      cases leaves
      obtain ⟨last, less, outside⟩ := nested.exists_outer
      exact ⟨last, Nat.le_trans less reached, outside⟩

/-- The innermost scope may change its declarations. -/
theorem replace {changed : Scope} (wellFormed : WellFormed table)
    (named : changed.name = table.current.name) (deep : changed.depth = table.current.depth)
    (consistent : changed.Consistent) : WellFormed { table with current := changed } := by
  obtain ⟨number, reached, nested⟩ := wellFormed
  exact ⟨number, reached, nested.replace named deep consistent⟩

theorem declare {declared : ScopeTable} {declaration : Declaration} {name : String}
    {type : ValueType} {line : Int} {location : Location} {value : Option Literal}
    (wellFormed : WellFormed table)
    (declares : table.declare name type line location value = .ok (declaration, declared)) :
    WellFormed declared := by
  rw [ScopeTable.declare] at declares
  cases found : table.current.find? name with
  | some existing =>
      rw [found] at declares
      cases declares
  | none =>
      rw [found] at declares
      cases declares
      exact wellFormed.replace rfl rfl (wellFormed.consistent.add found rfl)

/-- Every call keeps the shape of a table, also one that fails. -/
theorem after (wellFormed : WellFormed table) (call : ScopeCall) :
    WellFormed (table.after call) := by
  cases call with
  | enter => exact wellFormed.enter
  | leave =>
      rw [ScopeTable.after.eq_def]
      cases leaves : table.leave with
      | error _ => exact wellFormed
      | ok outcome => exact wellFormed.leave leaves
  | declare name type line location value =>
      rw [ScopeTable.after.eq_def]
      cases declares :
          table.declare name type line (location.getD (unknownLocation line)) value with
      | error _ =>
          simp only [declares]
          exact wellFormed
      | ok outcome =>
          simp only [declares]
          exact wellFormed.declare declares

/-- Every table that calls lead to has this shape. -/
theorem foldl (wellFormed : WellFormed table) (calls : List ScopeCall) :
    WellFormed (calls.foldl ScopeTable.after table) := by
  induction calls generalizing table with
  | nil => exact wellFormed
  | cons call calls ih => exact ih (wellFormed.after call)

end WellFormed

/-! ## All scopes that are ever made -/

/-- The scope that a call makes. -/
def entered? (table : ScopeTable) : ScopeCall → Option Scope
  | .enter => some table.enter.current
  | _ => none

/-- The scopes that calls make, in the order of the calls. -/
def entered (table : ScopeTable) : List ScopeCall → List Scope
  | [] => []
  | call :: calls => (table.entered? call).toList ++ (table.after call).entered calls

/-- A call counts the scope that it makes. -/
theorem opened_after (table : ScopeTable) (call : ScopeCall) :
    (table.after call).opened = table.opened + (table.entered? call).toList.length := by
  cases call with
  | enter => rfl
  | leave =>
      rw [after.eq_def]
      cases leaves : table.leave with
      | error _ => rfl
      | ok outcome =>
          obtain ⟨current, enclosing, opened⟩ := table
          cases enclosing <;> cases leaves
          rfl
  | declare name type line location value =>
      simp only [after, declare]
      cases table.current.find? name <;> rfl

/-- Calls count the scopes that they make. -/
theorem opened_foldl (table : ScopeTable) (calls : List ScopeCall) :
    (calls.foldl after table).opened = table.opened + (table.entered calls).length := by
  induction calls generalizing table with
  | nil => rfl
  | cons call calls ih =>
      rw [List.foldl_cons, ih, opened_after, entered, List.length_append, Nat.add_assoc]

/-- The scopes that calls make are named by the numbers that follow the last one. -/
theorem names_entered (table : ScopeTable) (calls : List ScopeCall) :
    (table.entered calls).map Scope.name =
      (List.range' (table.opened + 1) (table.entered calls).length).map blockName := by
  induction calls generalizing table with
  | nil => rfl
  | cons call calls ih =>
      rw [entered, List.map_append, ih, opened_after]
      cases call with
      | enter =>
          simp only [entered?, Option.toList_some, List.map_cons, List.map_nil,
            List.singleton_append, List.length_singleton]
          rw [List.length_cons, List.range'_succ]
          rfl
      | leave => simp [entered?]
      | declare => simp [entered?]

/-- No two scopes that calls make have the same name, and none is named like the global scope. -/
theorem nodup_names_entered (table : ScopeTable) (calls : List ScopeCall) :
    ("global" :: (table.entered calls).map Scope.name).Nodup := by
  rw [List.nodup_cons, names_entered]
  constructor
  · intro inside
    obtain ⟨number, -, same⟩ := List.mem_map.mp inside
    exact blockName_ne_global number same
  · exact List.Nodup.map blockName_injective List.nodup_range'

/-- A call leaves the declarations of the global scope, and adds at most some behind them. -/
theorem prefix_global_after (table : ScopeTable) (call : ScopeCall) :
    table.global.declarations <+: (table.after call).global.declarations := by
  obtain ⟨current, enclosing, opened⟩ := table
  cases call with
  | enter => exact List.prefix_refl _
  | leave => cases enclosing <;> exact List.prefix_refl _
  | declare name type line location value =>
      simp only [after, declare]
      cases current.find? name with
      | some existing => exact List.prefix_refl _
      | none =>
          cases enclosing with
          | nil => exact List.prefix_append _ _
          | cons outer others => exact List.prefix_refl _

theorem prefix_global_foldl (table : ScopeTable) (calls : List ScopeCall) :
    table.global.declarations <+: (calls.foldl after table).global.declarations := by
  induction calls generalizing table with
  | nil => exact List.prefix_refl _
  | cons call calls ih => exact (table.prefix_global_after call).trans (ih _)

end ScopeTable

end NumericLanguage
