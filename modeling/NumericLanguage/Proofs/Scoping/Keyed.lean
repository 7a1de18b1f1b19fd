import NumericLanguage.Proofs.Outcome
import NumericLanguage.Proofs.Scoping.Nesting

/-!
# Tables that are changed in place

The open scopes may also be held as a list of dictionaries, the outermost first, with a counter of
blocks, and each request may change this store step by step: a counter is increased before a scope
is made, a dictionary is asked for a key before it is read, and a fault may be thrown when something
has been changed already. A list may be read behind its end, and a dictionary at a key that it does
not have. So a request that fails might leave a store that is neither the old nor the new one.

It does not. A store does what the table does (`perform_of`), and so it keeps the shape that tables
have (`Store.Regular`), while a request fails only for the two reasons for which a table fails and
then leaves the store as it was (`Store.Atomic`). This holds of every store that requests lead to,
those that fail included (`regular_after_requests`).
-/

set_option autoImplicit false

namespace NumericLanguage.Keyed

/-! ## Stores -/

/-- A scope as a dictionary. The entries stand in the order in which their keys came. -/
structure Frame where
  name : String
  depth : Nat
  entries : List (String × Declaration)
  deriving DecidableEq, Repr

namespace Frame

/-- The value at a key. -/
def find? (frame : Frame) (key : String) : Option Declaration :=
  (frame.entries.find? fun entry => entry.1 = key).map Prod.snd

/-- Whether there is a value at a key. -/
def holds (frame : Frame) (key : String) : Bool := frame.entries.any fun entry => entry.1 = key

/-- The dictionary with a value at a key, instead of the value that was there. -/
def put (frame : Frame) (key : String) (declaration : Declaration) : Frame :=
  { frame with
    entries :=
      if frame.holds key then
        frame.entries.map fun entry => if entry.1 = key then (key, declaration) else entry
      else frame.entries ++ [(key, declaration)] }

end Frame

/-- The open scopes, the outermost first, and how many blocks have been entered so far. -/
structure Store where
  frames : List Frame
  opened : Nat
  deriving DecidableEq, Repr

/-- The store with nothing but an empty global scope. -/
def Store.new : Store := ⟨[⟨"global", 0, []⟩], 0⟩

/-- Why a request ends without an answer. -/
inductive Interruption
  | redeclared (redeclaration : Redeclaration)
  | noOpenBlock (fault : NoOpenBlock)
  /-- A list is read behind its end. -/
  | outOfRange
  /-- A dictionary is read at a key that it does not have. -/
  | missingKey
  deriving DecidableEq, Repr

/-- A step that changes a store. The changes stay when it fails. -/
abbrev Step := EStateM Interruption Store

/-! ## Requests -/

/-- The innermost scope, which must exist. -/
def innermost : Step Frame := do
  match (← get).frames.getLast? with
  | some frame => return frame
  | none => throw .outOfRange

/-- The value at a key, which must exist. -/
def valueAt (frame : Frame) (key : String) : Step Declaration :=
  match frame.find? key with
  | some declaration => pure declaration
  | none => throw .missingKey

/-- Enters a block: counts it, and puts an empty scope on the others. -/
def enter : Step Frame := do
  modify fun store => { store with opened := store.opened + 1 }
  let store ← get
  let frame : Frame := ⟨ScopeTable.blockName store.opened, store.frames.length, []⟩
  modify fun store => { store with frames := store.frames ++ [frame] }
  return frame

/-- Leaves a block: takes the innermost scope off, unless there is no other one. -/
def leave : Step Frame := do
  if (← get).frames.length = 1 then throw (.noOpenBlock .globalScope)
  else
    let frame ← innermost
    modify fun store => { store with frames := store.frames.dropLast }
    return frame

/-- Declares a name in the innermost scope, unless there is an entry for it. -/
def declare (name : String) (type : ValueType) (line : Int) (location : Option Location)
    (value : Option Literal) : Step Declaration := do
  let place := location.getD (ScopeTable.unknownLocation line)
  let frame ← innermost
  if frame.holds name then
    let existing ← valueAt frame name
    throw (.redeclared ⟨name, place, existing⟩)
  else
    let declaration : Declaration := ⟨name, type, line, frame.name, value, place⟩
    modify fun store =>
      { store with frames := store.frames.dropLast ++ [frame.put name declaration] }
    return declaration

/-- Looks a name up in some scopes, in their order. -/
def lookupIn (name : String) : List Frame → Step (Option Declaration)
  | [] => return none
  | frame :: frames => do
      if frame.holds name then return some (← valueAt frame name)
      else lookupIn name frames

/-- Looks a name up, from the innermost scope outwards. -/
def lookup (name : String) : Step (Option Declaration) := do
  lookupIn name (← get).frames.reverse

/-- What a store is asked to do. -/
inductive Request
  | change (call : ScopeCall)
  | lookup (name : String)

/-- The answer to a request. -/
inductive Answer
  | scope (frame : Frame)
  | declaration (declaration : Declaration)
  | found (declaration : Option Declaration)
  deriving DecidableEq, Repr

/-- Does what is asked for. -/
def perform : Request → Step Answer
  | .change .enter => return .scope (← enter)
  | .change .leave => return .scope (← leave)
  | .change (.declare name type line location value) =>
      return .declaration (← declare name type line location value)
  | .lookup name => return .found (← lookup name)

namespace Store

/-- The store behind a request, answered or not. -/
def behind (store : Store) (request : Request) : Store :=
  match perform request store with
  | .ok _ final => final
  | .error _ final => final

/-- The store behind some requests, from the new one. -/
def afterAll (requests : List Request) : Store := requests.foldl behind .new

/-- The scope that a request makes. -/
def entered? (store : Store) : Request → Option Frame
  | .change .enter =>
      match perform (.change .enter) store with
      | .ok (.scope frame) _ => some frame
      | _ => none
  | _ => none

/-- The scopes that requests make, in their order. -/
def entered (store : Store) : List Request → List Frame
  | [] => []
  | request :: requests =>
      (store.entered? request).toList ++ (store.behind request).entered requests

/-! ## The shape of a store -/

/-- The scopes of a store are the global one and, inside of it, those of blocks. -/
structure Regular (store : Store) : Prop where
  /-- There is a scope, and the outermost one is the global scope. -/
  bottom : ∃ entries, store.frames.head? = some ⟨"global", 0, entries⟩
  deep : ∀ (index : Nat) (frame : Frame), store.frames[index]? = some frame → frame.depth = index
  /-- The other scopes are named by the numbers of their blocks, which increase inwards. -/
  numbered : ∃ numbers : List Nat, numbers.Pairwise (· < ·) ∧
    (∀ number ∈ numbers, 1 ≤ number ∧ number ≤ store.opened) ∧
    store.frames.tail.map Frame.name = numbers.map ScopeTable.blockName
  keyed : ∀ frame ∈ store.frames, ∀ entry ∈ frame.entries, entry.1 = entry.2.name
  tagged : ∀ frame ∈ store.frames, ∀ entry ∈ frame.entries, entry.2.scope = frame.name
  distinct : ∀ frame ∈ store.frames, (frame.entries.map Prod.fst).Nodup

/-- A request fails for a reason that it tells, and leaves the store as it was. -/
structure Atomic (store : Store) : Prop where
  enter : ∃ frame final, perform (.change .enter) store = .ok (.scope frame) final
  /-- Only the global scope cannot be left. -/
  leave : ∀ interruption final, perform (.change .leave) store = .error interruption final ↔
    store.frames.length = 1 ∧ interruption = .noOpenBlock .globalScope ∧ final = store
  /-- Only a name with an entry in the innermost scope cannot be declared. -/
  declare : ∀ name type line location value interruption final,
    perform (.change (.declare name type line location value)) store =
        .error interruption final ↔
      ∃ frame existing, store.frames.getLast? = some frame ∧ (name, existing) ∈ frame.entries ∧
        interruption = .redeclared
          ⟨name, location.getD (ScopeTable.unknownLocation line), existing⟩ ∧
        final = store
  lookup : ∀ name, ∃ found, perform (.lookup name) store = .ok (.found found) store

end Store

/-! ## Stores and tables -/

/-- The dictionary of a scope. -/
def Frame.of (scope : Scope) : Frame :=
  ⟨scope.name, scope.depth, scope.declarations.map fun declaration =>
    (declaration.name, declaration)⟩

/-- The store of a table. -/
def Store.of (table : ScopeTable) : Store := ⟨table.scopes.map Frame.of, table.opened⟩

/-- What a table answers. -/
def answer (table : ScopeTable) : Request → Except Interruption Answer
  | .change .enter => .ok (.scope (.of table.enter.current))
  | .change .leave =>
      match table.leave with
      | .ok (scope, _) => .ok (.scope (.of scope))
      | .error fault => .error (.noOpenBlock fault)
  | .change (.declare name type line location value) =>
      match table.declare name type line (location.getD (ScopeTable.unknownLocation line)) value
        with
      | .ok (declaration, _) => .ok (.declaration declaration)
      | .error redeclaration => .error (.redeclared redeclaration)
  | .lookup name => .ok (.found (table.lookup name))

/-- The change that a request asks for. -/
def change? : Request → Option ScopeCall
  | .change call => some call
  | .lookup _ => none

section Stores

variable (scope : Scope) (table : ScopeTable)

theorem Frame.find?_of (name : String) : (Frame.of scope).find? name = scope.find? name := by
  simp only [Frame.find?, Frame.of, List.find?_map, Option.map_map, Scope.find?]
  exact Option.map_id'

theorem Frame.holds_of (name : String) :
    (Frame.of scope).holds name = (scope.find? name).isSome := by
  simp only [Frame.holds, Frame.of, List.any_map, Scope.find?, List.isSome_find?]
  rfl

/-- Putting a new name into a dictionary adds the declaration to the scope. -/
theorem Frame.put_of {declaration : Declaration} (isNew : scope.find? declaration.name = none) :
    (Frame.of scope).put declaration.name declaration = .of (scope.add declaration) := by
  have absent : (Frame.of scope).holds declaration.name = false := by
    rw [holds_of, isNew]
    rfl
  rw [put, absent, of, of, Scope.add, List.map_append]
  rfl

/-- The innermost scope stands at the end. -/
theorem Store.frames_of :
    (Store.of table).frames =
      (table.enclosing.map Frame.of).reverse ++ [Frame.of table.current] := by
  simp [Store.of, ScopeTable.scopes, ScopeTable.stack]

theorem Store.length_frames_of : (Store.of table).frames.length = table.enclosing.length + 1 := by
  simp [Store.frames_of]

theorem innermost_of :
    innermost (.of table) = .ok (.of table.current) (.of table) := by
  simp only [innermost, bind_apply, get_apply, Store.frames_of, List.getLast?_concat]
  rfl

theorem valueAt_of {declaration : Declaration} {name : String} (store : Store)
    (found : scope.find? name = some declaration) :
    valueAt (.of scope) name store = .ok declaration store := by
  rw [valueAt, Frame.find?_of, found]
  rfl

theorem lookupIn_of (name : String) (store : Store) (scopes : List Scope) :
    lookupIn name (scopes.map Frame.of) store =
      .ok (scopes.findSome? fun scope => scope.find? name) store := by
  induction scopes with
  | nil => rfl
  | cons scope scopes ih =>
      rw [List.map_cons, lookupIn, Frame.holds_of, List.findSome?_cons]
      cases found : scope.find? name with
      | none => exact ih
      | some declaration =>
          simp only [Option.isSome_some, if_true]
          rw [bind_of_ok (valueAt_of scope store found)]
          rfl

theorem enter_of : enter (.of table) = .ok (.of table.enter.current) (.of table.enter) := by
  have deep : (Store.of table).frames.length = table.stack.length := by
    simp [Store.of, ScopeTable.scopes]
  have entered : enter (.of table) =
      .ok ⟨ScopeTable.blockName (table.opened + 1), (Store.of table).frames.length, []⟩
        ⟨(Store.of table).frames ++
          [⟨ScopeTable.blockName (table.opened + 1), (Store.of table).frames.length, []⟩],
          table.opened + 1⟩ := rfl
  rw [entered, deep]
  simp [Frame.of, Store.of, ScopeTable.enter, ScopeTable.scopes, ScopeTable.stack]

theorem leave_of :
    leave (.of table) =
      match table.leave with
      | .ok (scope, left) => .ok (.of scope) (.of left)
      | .error fault => .error (.noOpenBlock fault) (.of table) := by
  obtain ⟨current, enclosing, opened⟩ := table
  cases enclosing with
  | nil => rfl
  | cons outer others =>
      have several : (Store.of ⟨current, outer :: others, opened⟩).frames.length ≠ 1 := by
        simp [Store.length_frames_of]
      rw [leave, bind_of_ok (get_apply _), if_neg several, bind_of_ok (innermost_of _)]
      refine congrArg (EStateM.Result.ok _) (congrArg (Store.mk · opened) ?_)
      rw [Store.frames_of, List.dropLast_concat]
      simp [ScopeTable.scopes, ScopeTable.stack]

theorem declare_of (name : String) (type : ValueType) (line : Int) (location : Option Location)
    (value : Option Literal) :
    declare name type line location value (.of table) =
      match table.declare name type line
          (location.getD (ScopeTable.unknownLocation line)) value with
      | .ok (declaration, declared) => .ok declaration (.of declared)
      | .error redeclaration => .error (.redeclared redeclaration) (.of table) := by
  rw [declare, bind_of_ok (innermost_of table), Frame.holds_of, ScopeTable.declare]
  cases found : table.current.find? name with
  | some existing =>
      rw [Option.isSome_some, if_pos rfl, bind_of_ok (valueAt_of table.current _ found)]
      rfl
  | none =>
      let declaration : Declaration :=
        ⟨name, type, line, table.current.name, value,
          location.getD (ScopeTable.unknownLocation line)⟩
      have isNew : table.current.find? declaration.name = none := found
      have put : (Frame.of table.current).put name declaration =
          .of (table.current.add declaration) :=
        Frame.put_of table.current isNew
      refine congrArg (EStateM.Result.ok declaration) (congrArg (Store.mk · table.opened) ?_)
      rw [Store.frames_of, List.dropLast_concat]
      exact (congrArg (_ ++ [·]) put).trans
        (Store.frames_of { table with current := table.current.add declaration }).symm

theorem lookup_of (name : String) :
    lookup name (.of table) = .ok (table.lookup name) (.of table) := by
  rw [lookup, bind_of_ok (get_apply _), Store.of, ← List.map_reverse, ScopeTable.scopes,
    List.reverse_reverse]
  exact lookupIn_of name _ table.stack

/-- The table behind a request. -/
def behind (table : ScopeTable) : Request → ScopeTable
  | .change call => table.after call
  | .lookup _ => table

/-- Without an answer the table stays as it was. -/
theorem behind_of_error {request : Request} {interruption : Interruption}
    (fails : answer table request = .error interruption) : behind table request = table := by
  cases request with
  | lookup name => rfl
  | change call =>
      cases call with
      | enter => cases fails
      | leave =>
          simp only [answer] at fails
          simp only [behind, ScopeTable.after]
          cases leaves : table.leave with
          | error _ => rfl
          | ok outcome =>
              rw [leaves] at fails
              cases fails
      | declare name type line location value =>
          simp only [answer] at fails
          simp only [behind, ScopeTable.after]
          cases declares : table.declare name type line
              (location.getD (ScopeTable.unknownLocation line)) value with
          | error _ => rfl
          | ok outcome =>
              rw [declares] at fails
              cases fails

/-- A store answers what the table answers, and stays the store of the table. A request that fails
leaves it as it was. -/
theorem perform_of (request : Request) :
    perform request (.of table) =
      match answer table request with
      | .ok answer => .ok answer (.of (behind table request))
      | .error interruption => .error interruption (.of table) := by
  cases request with
  | lookup name => rw [perform, bind_of_ok (lookup_of table name)]; rfl
  | change call =>
      cases call with
      | enter => rw [perform, bind_of_ok (enter_of table)]; rfl
      | leave =>
          rw [perform, bind_apply, leave_of]
          simp only [answer, behind, ScopeTable.after]
          cases table.leave <;> rfl
      | declare name type line location value =>
          rw [perform, bind_apply, declare_of]
          simp only [answer, behind, ScopeTable.after]
          cases table.declare name type line
            (location.getD (ScopeTable.unknownLocation line)) value <;> rfl

end Stores

/-! ## What stores are like -/

namespace Store

variable {table : ScopeTable}

theorem behind_of (table : ScopeTable) (request : Request) :
    (Store.of table).behind request = .of (Keyed.behind table request) := by
  rw [Store.behind, perform_of]
  cases answered : answer table request with
  | ok answer => rfl
  | error interruption => rw [behind_of_error table answered]

/-- Requests that only look names up do not count. -/
theorem foldl_of (table : ScopeTable) (requests : List Request) :
    requests.foldl Store.behind (.of table) =
      .of ((requests.filterMap change?).foldl ScopeTable.after table) := by
  induction requests generalizing table with
  | nil => rfl
  | cons request requests ih =>
      rw [List.foldl_cons, behind_of, ih]
      cases request <;> rfl

theorem entered_of (table : ScopeTable) (requests : List Request) :
    (Store.of table).entered requests =
      (table.entered (requests.filterMap change?)).map Frame.of := by
  induction requests generalizing table with
  | nil => rfl
  | cons request requests ih =>
      rw [entered, behind_of, ih]
      cases request with
      | lookup name => rfl
      | change call =>
          have here : ((Store.of table).entered? (.change call)).toList =
              (table.entered? call).toList.map Frame.of := by
            cases call with
            | enter =>
                rw [entered?, perform_of]
                rfl
            | leave => rfl
            | declare => rfl
          rw [here, ← List.map_append]
          rfl

theorem mem_frames_of {frame : Frame} (inside : frame ∈ (Store.of table).frames) :
    ∃ scope ∈ table.stack, frame = .of scope := by
  obtain ⟨scope, member, rfl⟩ := List.mem_map.mp inside
  exact ⟨scope, List.mem_reverse.mp member, rfl⟩

/-- The store of a well-formed table has the shape of stores. -/
theorem Regular.of (wellFormed : table.WellFormed) : Regular (.of table) := by
  obtain ⟨number, reached, nested⟩ := wellFormed
  obtain ⟨numbers, increases, bounded, names⟩ := nested.exists_numbers
  have names_of : (Store.of table).frames.map Frame.name =
      "global" :: numbers.map ScopeTable.blockName := by
    rw [← names, Store.of, List.map_map]
    rfl
  have deep : ∀ (index : Nat) (frame : Frame), (Store.of table).frames[index]? = some frame →
      frame.depth = index := by
    intro index frame found
    rw [Store.of, List.getElem?_map, Option.map_eq_some_iff] at found
    obtain ⟨scope, isScope, rfl⟩ := found
    exact nested.depth_eq index scope isScope
  constructor
  case deep => exact deep
  case bottom =>
    revert names_of deep
    cases (Store.of table).frames with
    | nil => exact nofun
    | cons first others =>
        intro names_of deep
        obtain ⟨isGlobal, -⟩ := List.cons_eq_cons.mp names_of
        have isBottom := deep 0 first rfl
        refine ⟨first.entries, congrArg some ?_⟩
        obtain ⟨name, depth, entries⟩ := first
        cases isGlobal
        cases isBottom
        rfl
  case numbered =>
    refine ⟨numbers, increases, fun block inside => ?_, ?_⟩
    · have bounds := bounded block inside
      exact ⟨bounds.1, Nat.le_trans bounds.2 reached⟩
    · rw [List.map_tail, names_of, List.tail_cons]
  case keyed =>
    intro frame inside entry member
    obtain ⟨scope, -, rfl⟩ := mem_frames_of inside
    obtain ⟨declaration, -, rfl⟩ := List.mem_map.mp member
    rfl
  case tagged =>
    intro frame inside entry member
    obtain ⟨scope, isOpen, rfl⟩ := mem_frames_of inside
    obtain ⟨declaration, declared, rfl⟩ := List.mem_map.mp member
    exact (nested.consistent scope isOpen).tagged declaration declared
  case distinct =>
    intro frame inside
    obtain ⟨scope, isOpen, rfl⟩ := mem_frames_of inside
    rw [Frame.of, List.map_map]
    exact (nested.consistent scope isOpen).distinct

theorem fails_iff {request : Request} {interruption : Interruption} {final : Store} :
    perform request (.of table) = .error interruption final ↔
      answer table request = .error interruption ∧ final = .of table := by
  rw [perform_of]
  cases answer table request with
  | ok answer => simp
  | error fault => simp [eq_comm]

/-- The store of a well-formed table fails as a whole. -/
theorem Atomic.of (wellFormed : table.WellFormed) : Atomic (.of table) where
  enter := ⟨_, _, perform_of table (.change .enter)⟩
  leave := by
    intro interruption final
    rw [fails_iff, length_frames_of]
    obtain ⟨current, enclosing, opened⟩ := table
    cases enclosing <;> simp [answer, ScopeTable.leave, eq_comm]
  declare := by
    intro name type line location value interruption final
    have found_iff : ∀ existing, table.current.find? name = some existing ↔
        (name, existing) ∈ (Frame.of table.current).entries := by
      intro existing
      rw [wellFormed.consistent.find?_eq_some_iff, Frame.of, List.mem_map]
      constructor
      · rintro ⟨inside, rfl⟩
        exact ⟨existing, inside, rfl⟩
      · rintro ⟨declaration, inside, same⟩
        cases same
        exact ⟨inside, rfl⟩
    rw [fails_iff, frames_of, List.getLast?_concat]
    simp only [answer, ScopeTable.declare]
    constructor
    · rintro ⟨fails, rfl⟩
      cases found : table.current.find? name with
      | none =>
          rw [found] at fails
          cases fails
      | some existing =>
          rw [found] at fails
          cases fails
          exact ⟨_, existing, rfl, (found_iff existing).mp found, rfl, rfl⟩
    · rintro ⟨frame, existing, isLast, inside, rfl, rfl⟩
      cases isLast
      rw [(found_iff existing).mpr inside]
      exact ⟨rfl, rfl⟩
  lookup := fun name => ⟨_, perform_of table (.lookup name)⟩

theorem head?_frames_of (table : ScopeTable) :
    (Store.of table).frames.head? = some (.of table.global) := by
  have last : table.stack.getLast? = some table.global :=
    List.getLast?_eq_some_getLast (List.cons_ne_nil _ _)
  rw [Store.of, List.head?_map, ScopeTable.scopes, List.head?_reverse, last]
  rfl

theorem afterAll_eq (requests : List Request) :
    Store.afterAll requests = .of (ScopeTable.afterAll (requests.filterMap change?)) :=
  foldl_of .empty requests

theorem wellFormed_afterAll (calls : List ScopeCall) : (ScopeTable.afterAll calls).WellFormed :=
  ScopeTable.WellFormed.empty.foldl calls

theorem regular_afterAll (requests : List Request) : (Store.afterAll requests).Regular := by
  rw [afterAll_eq]
  exact .of (wellFormed_afterAll _)

/-- More requests leave the entries of the global scope, and add at most some behind them. -/
theorem exists_added (requests further : List Request) :
    ∃ entries added, (Store.afterAll requests).frames.head? = some ⟨"global", 0, entries⟩ ∧
      (Store.afterAll (requests ++ further)).frames.head? =
        some ⟨"global", 0, entries ++ added⟩ := by
  obtain ⟨entries, before⟩ := (regular_afterAll requests).bottom
  obtain ⟨entriesBehind, behind⟩ := (regular_afterAll (requests ++ further)).bottom
  have entries_eq : (ScopeTable.afterAll (requests.filterMap change?)).global.declarations.map
      (fun declaration => (declaration.name, declaration)) = entries := by
    rw [afterAll_eq, head?_frames_of] at before
    exact congrArg Frame.entries (Option.some.inj before)
  have entriesBehind_eq :
      (ScopeTable.afterAll ((requests ++ further).filterMap change?)).global.declarations.map
        (fun declaration => (declaration.name, declaration)) = entriesBehind := by
    rw [afterAll_eq, head?_frames_of] at behind
    exact congrArg Frame.entries (Option.some.inj behind)
  obtain ⟨added, rfl⟩ : entries <+: entriesBehind := by
    have grows := (ScopeTable.afterAll (requests.filterMap change?)).prefix_global_foldl
      (further.filterMap change?)
    rw [ScopeTable.afterAll, ← List.foldl_append, ← List.filterMap_append] at grows
    rw [← entries_eq, ← entriesBehind_eq]
    exact grows.map _
  exact ⟨entries, added, before, behind⟩

end Store

/-- **Stores keep their shape, and requests fail as a whole.** After any requests, answered or not,
the store is that of the table after the changes among them. It has the shape of stores, and a
further request fails for one of two reasons and then leaves it as it was. The outermost scope is
the one that was there at first: further requests keep its entries. No two scopes that were ever
made have the same name. -/
theorem regular_after_requests (requests : List Request) :
    Store.afterAll requests = .of (ScopeTable.afterAll (requests.filterMap change?)) ∧
      (Store.afterAll requests).Regular ∧
      (Store.afterAll requests).Atomic ∧
      (∀ further, ∃ entries added,
        (Store.afterAll requests).frames.head? = some ⟨"global", 0, entries⟩ ∧
        (Store.afterAll (requests ++ further)).frames.head? =
          some ⟨"global", 0, entries ++ added⟩) ∧
      (Store.afterAll requests).opened = (Store.new.entered requests).length ∧
      ("global" :: (Store.new.entered requests).map Frame.name).Nodup := by
  have isStore := Store.afterAll_eq requests
  have entered : Store.new.entered requests =
      (ScopeTable.empty.entered (requests.filterMap change?)).map Frame.of :=
    Store.entered_of .empty requests
  refine ⟨isStore, Store.regular_afterAll requests, ?_, Store.exists_added requests, ?_, ?_⟩
  · rw [isStore]
    exact .of (Store.wellFormed_afterAll _)
  · have counted := ScopeTable.empty.opened_foldl (requests.filterMap change?)
    rw [isStore, entered, List.length_map]
    exact counted.trans (Nat.zero_add _)
  · have distinct := ScopeTable.empty.nodup_names_entered (requests.filterMap change?)
    rw [entered, List.map_map]
    exact distinct

end NumericLanguage.Keyed
