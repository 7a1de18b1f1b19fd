import NumericLanguage.Scope.Table

/-!
# The chronicle of declarations

A table of scopes is a stack, and a block that is left takes its declarations with it. The same can
be told without a stack. Blocks are numbered as they are entered, and a chronicle notes every
declaration with the number of the innermost block, in the order in which the declarations are made.
It is never shortened: it only remembers which blocks have been left. The live entries are those
whose block has not been left since, and what a name means is the last live entry with that name.

After any calls, also failing ones, the table says what the chronicle says
(`table_tells_chronicle`). The invariant is that the live entries are those of the open scopes, the
outermost first (`Chronicle.Sections`). This is the order in which they were made, since only the
innermost scope is ever added to.
-/

set_option autoImplicit false

namespace NumericLanguage

/-! ## Calls -/

/-- A call that changes a table of scopes. -/
inductive ScopeCall
  | enter
  | leave
  /-- A declaration; the place is unknown where none is given. -/
  | declare (name : String) (type : ValueType) (line : Int) (location : Option Location)
      (value : Option Literal)

namespace ScopeTable

/-- The table after a call. A call that fails changes nothing. -/
def after (table : ScopeTable) : ScopeCall → ScopeTable
  | .enter => table.enter
  | .leave =>
      match table.leave with
      | .ok (_, left) => left
      | .error _ => table
  | .declare name type line location value =>
      match table.declare name type line (location.getD (unknownLocation line)) value with
      | .ok (_, declared) => declared
      | .error _ => table

/-- The table after some calls, from the table in which nothing is declared. -/
def afterAll (calls : List ScopeCall) : ScopeTable := calls.foldl after .empty

/-- The declaration that a call makes. -/
def made? (table : ScopeTable) : ScopeCall → Option Declaration
  | .declare name type line location value =>
      match table.declare name type line (location.getD (unknownLocation line)) value with
      | .ok (declaration, _) => some declaration
      | .error _ => none
  | _ => none

/-- The declarations that calls make, in the order of the calls. -/
def made (table : ScopeTable) : List ScopeCall → List Declaration
  | [] => []
  | call :: calls => (table.made? call).toList ++ (table.after call).made calls

end ScopeTable

/-! ## Chronicles -/

/-- A declaration and the number of the block in which it was made, zero outside of all blocks. -/
structure ChronicleEntry where
  block : Nat
  declaration : Declaration
  deriving DecidableEq, Repr

/-- An entry for a name. -/
def ChronicleEntry.isFor (name : String) (entry : ChronicleEntry) : Bool :=
  entry.declaration.name = name

/-- What has been declared so far, and which blocks have been entered and left. -/
structure Chronicle where
  /-- Every declaration that was made, the oldest first. -/
  entries : List ChronicleEntry := []
  /-- The numbers of the open blocks, the innermost first. -/
  inside : List Nat := []
  /-- The numbers of the blocks that were left, the last one first. -/
  ended : List Nat := []
  deriving DecidableEq, Repr

namespace Chronicle

/-- How many blocks have been entered. -/
def begun (chronicle : Chronicle) : Nat := chronicle.inside.length + chronicle.ended.length

/-- The number of the innermost block. -/
def innermost (chronicle : Chronicle) : Nat := chronicle.inside.head?.getD 0

/-- The entries whose block has not been left since. -/
def live (chronicle : Chronicle) : List ChronicleEntry :=
  chronicle.entries.filter fun entry => entry.block ∉ chronicle.ended

/-- The last live entry for a name. -/
def last? (chronicle : Chronicle) (name : String) : Option ChronicleEntry :=
  chronicle.live.reverse.find? (ChronicleEntry.isFor name)

/-- Whether the last live entry for a name was made in the innermost block. -/
def isTaken (chronicle : Chronicle) (name : String) : Bool :=
  (chronicle.last? name).any fun entry => entry.block = chronicle.innermost

/-- The name of the scope of a block. -/
def scopeName : Nat → String
  | 0 => "global"
  | number + 1 => ScopeTable.blockName (number + 1)

/-- The entry of a declaration that is made now. -/
def entry (chronicle : Chronicle) (name : String) (type : ValueType) (line : Int)
    (location : Location) (value : Option Literal) : ChronicleEntry where
  block := chronicle.innermost
  declaration := ⟨name, type, line, scopeName chronicle.innermost, value, location⟩

/-- The chronicle inside a new block. -/
def enter (chronicle : Chronicle) : Chronicle :=
  { chronicle with inside := (chronicle.begun + 1) :: chronicle.inside }

/-- The chronicle behind the end of a block, inside the blocks around it. -/
def leave (chronicle : Chronicle) (block : Nat) (outer : List Nat) : Chronicle :=
  { chronicle with inside := outer, ended := block :: chronicle.ended }

/-- The chronicle with one more entry. -/
def note (chronicle : Chronicle) (entry : ChronicleEntry) : Chronicle :=
  { chronicle with entries := chronicle.entries ++ [entry] }

/-- The chronicle after a call. A name that is taken is not declared again, and where no block is
open none is left. -/
def after (chronicle : Chronicle) : ScopeCall → Chronicle
  | .enter => chronicle.enter
  | .leave =>
      match chronicle.inside with
      | [] => chronicle
      | block :: outer => chronicle.leave block outer
  | .declare name type line location value =>
      if chronicle.isTaken name then chronicle
      else chronicle.note <|
        chronicle.entry name type line (location.getD (ScopeTable.unknownLocation line)) value

/-- The chronicle after some calls. -/
def afterAll (calls : List ScopeCall) : Chronicle := calls.foldl after {}

/-! ## Sections -/

/-- Entries that fall into sections, one for each open scope and its block, the outermost first. A
block inside another one has a greater number. -/
inductive Sections : List Scope → List Nat → List ChronicleEntry → Prop
  | nil : Sections [] [] []
  | cons {scope : Scope} {scopes : List Scope} {block : Nat} {blocks : List Nat}
      {outer : List ChronicleEntry} :
      Sections scopes blocks outer → scope.name = scopeName block →
      (∀ other ∈ blocks, other < block) → scope.names.Nodup →
      Sections (scope :: scopes) (block :: blocks)
        (outer ++ scope.declarations.map (ChronicleEntry.mk block))

/-- Where no name is declared twice, the first declaration of a name is also the last one. -/
theorem find?_reverse {declarations : List Declaration}
    (distinct : (declarations.map Declaration.name).Nodup) (name : String) :
    declarations.reverse.find? (fun declaration => declaration.name = name) =
      declarations.find? fun declaration => declaration.name = name := by
  induction declarations with
  | nil => rfl
  | cons first others ih =>
      obtain ⟨isNew, distinct⟩ := List.nodup_cons.mp distinct
      rw [List.reverse_cons, List.find?_append, ih distinct, List.find?_singleton,
        List.find?_cons]
      by_cases same : first.name = name
      · have none : others.find? (fun declaration => declaration.name = name) = none := by
          rw [List.find?_eq_none]
          intro declaration inside sameToo
          rw [decide_eq_true_iff, ← same] at sameToo
          exact isNew (sameToo ▸ List.mem_map_of_mem inside)
        simp [none, same]
      · simp [same]

namespace Sections

variable {stack : List Scope} {scope : Scope} {blocks : List Nat} {block : Nat}
  {entries : List ChronicleEntry}

/-- The entries behind those of the outer sections are those of the innermost scope. -/
theorem exists_outer (sections : Sections (scope :: stack) (block :: blocks) entries) :
    ∃ outer, entries = outer ++ scope.declarations.map (ChronicleEntry.mk block) ∧
      Sections stack blocks outer ∧ scope.name = scopeName block ∧
      (∀ other ∈ blocks, other < block) ∧ scope.names.Nodup := by
  cases sections with
  | cons outside isNamed increases distinct =>
      exact ⟨_, rfl, outside, isNamed, increases, distinct⟩

/-- The innermost section grows by a declaration of a new name. -/
theorem add {outer : List ChronicleEntry} {declaration : Declaration}
    (sections : Sections stack blocks outer) (isNamed : scope.name = scopeName block)
    (increases : ∀ other ∈ blocks, other < block) (distinct : scope.names.Nodup)
    (isNew : scope.find? declaration.name = none) :
    Sections (scope.add declaration :: stack) (block :: blocks)
      (outer ++ scope.declarations.map (ChronicleEntry.mk block) ++ [⟨block, declaration⟩]) := by
  have stillDistinct : (scope.add declaration).names.Nodup := by
    rw [Scope.names, Scope.add, List.map_append, List.nodup_append]
    refine ⟨distinct, List.nodup_cons.mpr ⟨List.not_mem_nil, List.nodup_nil⟩, ?_⟩
    intro name declared other isLast same
    obtain ⟨first, inside, rfl⟩ := List.mem_map.mp declared
    exact Scope.find?_eq_none_iff.mp isNew first inside
      (same.trans (List.mem_singleton.mp isLast))
  have grown : Sections (scope.add declaration :: stack) (block :: blocks)
      (outer ++ (scope.add declaration).declarations.map (ChronicleEntry.mk block)) :=
    sections.cons isNamed increases stillDistinct
  rw [Scope.add, List.map_append] at grown
  rw [List.append_assoc]
  exact grown

theorem length_eq (sections : Sections stack blocks entries) : stack.length = blocks.length := by
  induction sections with
  | nil => rfl
  | cons _ _ _ _ ih => rw [List.length_cons, List.length_cons, ih]

/-- Every entry stands in the section of an open block. -/
theorem block_mem (sections : Sections stack blocks entries) :
    ∀ entry ∈ entries, entry.block ∈ blocks := by
  induction sections with
  | nil => exact nofun
  | cons _ _ _ _ ih =>
      intro entry inside
      rcases List.mem_append.mp inside with outside | here
      · exact List.mem_cons_of_mem _ (ih entry outside)
      · obtain ⟨declaration, -, rfl⟩ := List.mem_map.mp here
        exact List.mem_cons_self

/-- The declarations of the open scopes are those of the entries, in the same order. -/
theorem flatMap_declarations (sections : Sections stack blocks entries) :
    stack.reverse.flatMap Scope.declarations = entries.map ChronicleEntry.declaration := by
  induction sections with
  | nil => rfl
  | cons _ _ _ _ ih =>
      rw [List.reverse_cons, List.flatMap_append, ih, List.flatMap_singleton, List.map_append,
        List.map_map]
      simp only [Function.comp_def, List.map_id']

/-- The last entry of the innermost section for a name is the declaration of that name in the
innermost scope. -/
theorem find?_innermost (distinct : scope.names.Nodup) (name : String) :
    (scope.declarations.map (ChronicleEntry.mk block)).reverse.find? (ChronicleEntry.isFor name) =
      (scope.find? name).map (ChronicleEntry.mk block) := by
  rw [← List.map_reverse, List.find?_map]
  exact congrArg (Option.map _) (find?_reverse distinct name)

/-- The innermost scope that declares a name is where the last entry for it stands. -/
theorem findSome?_eq (sections : Sections stack blocks entries) (name : String) :
    stack.findSome? (fun scope => scope.find? name) =
      (entries.reverse.find? (ChronicleEntry.isFor name)).map ChronicleEntry.declaration := by
  induction sections with
  | nil => rfl
  | @cons scope scopes block blocks outer _ _ _ distinct ih =>
      rw [List.findSome?_cons, ih, List.reverse_append, List.find?_append,
        find?_innermost distinct name]
      cases scope.find? name <;> rfl

/-- The innermost scope declares a name if the last entry for it stands in the innermost block. -/
theorem declares_eq (sections : Sections (scope :: stack) (block :: blocks) entries)
    (name : String) :
    scope.declares name =
      (entries.reverse.find? (ChronicleEntry.isFor name)).any fun entry =>
        entry.block = block := by
  obtain ⟨outer, rfl, outside, -, increases, distinct⟩ := sections.exists_outer
  rw [List.reverse_append, List.find?_append, find?_innermost distinct name, Scope.declares]
  cases scope.find? name with
  | some declaration => simp
  | none =>
      cases found : outer.reverse.find? (ChronicleEntry.isFor name) with
      | none => rfl
      | some entry =>
          have inside := List.mem_reverse.mp (List.mem_of_find?_eq_some found)
          have smaller := increases entry.block (outside.block_mem entry inside)
          simp [Nat.ne_of_lt smaller]

end Sections

/-! ## The invariant -/

/-- The numbers of the open blocks, with zero for the outside of all blocks behind them. -/
def blocks (chronicle : Chronicle) : List Nat := chronicle.inside ++ [0]

/-- The live entries are those of the open scopes; each number belongs to one block. -/
structure Represents (chronicle : Chronicle) (table : ScopeTable) : Prop where
  sections : Sections table.stack chronicle.blocks chronicle.live
  opened : table.opened = chronicle.begun
  /-- The next block has a new number. -/
  numbered : ∀ block ∈ chronicle.blocks ++ chronicle.ended, block ≤ chronicle.begun
  /-- No open block was left. -/
  isOpen : ∀ block ∈ chronicle.blocks, block ∉ chronicle.ended

theorem begun_enter (chronicle : Chronicle) : chronicle.enter.begun = chronicle.begun + 1 := by
  simp only [begun, enter, List.length_cons]
  omega

/-- What is live behind the end of a block was live before and is of another block. -/
theorem live_leave (chronicle : Chronicle) (block : Nat) (outer : List Nat) :
    (chronicle.leave block outer).live =
      chronicle.live.filter fun entry => entry.block ≠ block := by
  simp only [live, leave, List.filter_filter, List.mem_cons, not_or, Bool.decide_and, decide_not]

namespace Represents

variable {chronicle : Chronicle} {table : ScopeTable}

theorem exists_blocks (chronicle : Chronicle) :
    ∃ outer, chronicle.blocks = chronicle.innermost :: outer := by
  unfold blocks innermost
  cases chronicle.inside with
  | nil => exact ⟨[], rfl⟩
  | cons block outer => exact ⟨outer ++ [0], rfl⟩

/-- A name is taken if the innermost scope declares it. -/
theorem declares_eq (represents : Represents chronicle table) (name : String) :
    table.current.declares name = chronicle.isTaken name := by
  have sections := represents.sections
  obtain ⟨outer, split⟩ := exists_blocks chronicle
  rw [split] at sections
  exact sections.declares_eq name

theorem lookup_eq (represents : Represents chronicle table) (name : String) :
    table.lookup name = (chronicle.last? name).map ChronicleEntry.declaration :=
  represents.sections.findSome?_eq name

theorem empty : Represents {} .empty where
  sections := .cons .nil rfl nofun List.nodup_nil
  opened := rfl
  numbered := by decide
  isOpen := by decide

theorem enter (represents : Represents chronicle table) :
    Represents chronicle.enter table.enter where
  sections := by
    have isNamed : table.enter.current.name = scopeName (chronicle.begun + 1) := by
      rw [← represents.opened]
      rfl
    have increases : ∀ block ∈ chronicle.blocks, block < chronicle.begun + 1 := by
      intro block inside
      exact Nat.lt_succ_of_le (represents.numbered block (List.mem_append_left _ inside))
    have inner := represents.sections.cons isNamed increases List.nodup_nil
    rw [show table.enter.current.declarations = [] from rfl, List.map_nil, List.append_nil]
      at inner
    exact inner
  opened := by
    rw [begun_enter, ← represents.opened]
    rfl
  numbered := by
    intro block inside
    rw [begun_enter]
    rcases List.mem_cons.mp inside with rfl | before
    · exact Nat.le_refl _
    · exact Nat.le_succ_of_le (represents.numbered block before)
  isOpen := by
    intro block inside
    rcases List.mem_cons.mp inside with rfl | before
    · intro left
      exact absurd (represents.numbered _ (List.mem_append_right _ left)) (Nat.not_succ_le_self _)
    · exact represents.isOpen block before

/-- Outside of all blocks there is none to leave. -/
theorem leave_of_outside (represents : Represents chronicle table)
    (outside : chronicle.inside = []) : table.leave = .error .globalScope := by
  have sameLength := represents.sections.length_eq
  obtain ⟨current, enclosing, opened⟩ := table
  have outermost : enclosing = [] := by
    simpa [ScopeTable.stack, blocks, outside] using sameLength
  rw [outermost]
  rfl

/-- With the innermost block its section is gone, and no other entry is of that block. -/
theorem exists_leave {block : Nat} {outer : List Nat} (represents : Represents chronicle table)
    (inside : chronicle.inside = block :: outer) :
    ∃ scope left, table.leave = .ok (scope, left) ∧
      Represents (chronicle.leave block outer) left := by
  have split : chronicle.blocks = block :: (outer ++ [0]) := by
    rw [blocks, inside, List.cons_append]
  have counted : (chronicle.leave block outer).begun = chronicle.begun := by
    simp only [begun, leave, inside, List.length_cons]
    omega
  obtain ⟨sections, opened, numbered, isOpen⟩ := represents
  obtain ⟨current, enclosing, number⟩ := table
  rw [split] at sections numbered isOpen
  obtain ⟨remaining, live_eq, sections, -, increases, -⟩ := sections.exists_outer
  have remains : (chronicle.leave block outer).live = remaining := by
    rw [live_leave, live_eq, List.filter_append, List.filter_eq_self.mpr,
      List.filter_eq_nil_iff.mpr, List.append_nil]
    · intro entry member
      obtain ⟨declaration, -, rfl⟩ := List.mem_map.mp member
      simp
    · intro entry member
      have smaller := increases entry.block (sections.block_mem entry member)
      simpa using Nat.ne_of_lt smaller
  cases enclosing with
  | nil => cases sections.length_eq.trans (List.length_append)
  | cons scope others =>
      refine ⟨current, ⟨scope, others, number⟩, rfl, ?_, ?_, ?_, ?_⟩
      · rw [remains]
        exact sections
      · rw [counted]
        exact opened
      · intro other member
        rw [counted]
        refine numbered other ?_
        rcases List.mem_append.mp member with here | ended
        · exact List.mem_append_left _ (List.mem_cons_of_mem _ here)
        · rcases List.mem_cons.mp ended with rfl | before
          · exact List.mem_append_left _ List.mem_cons_self
          · exact List.mem_append_right _ before
      · intro other member left
        rcases List.mem_cons.mp left with rfl | before
        · exact Nat.lt_irrefl _ (increases other member)
        · exact isOpen other (List.mem_cons_of_mem _ member) before

/-- A name that is taken is declared in the innermost scope, as the last entry for it says. -/
theorem exists_redeclaration {name : String} (represents : Represents chronicle table)
    (taken : chronicle.isTaken name = true) (type : ValueType) (line : Int) (location : Location)
    (value : Option Literal) :
    ∃ entry, chronicle.last? name = some entry ∧
      table.declare name type line location value =
        .error ⟨name, location, entry.declaration⟩ := by
  have declares := (represents.declares_eq name).trans taken
  obtain ⟨existing, found⟩ := Option.isSome_iff_exists.mp declares
  have looked := represents.lookup_eq name
  rw [ScopeTable.lookup, ScopeTable.stack, List.findSome?_cons, found] at looked
  obtain ⟨entry, last, rfl⟩ := Option.map_eq_some_iff.mp looked.symm
  exact ⟨entry, last, by rw [ScopeTable.declare, found]⟩

/-- A name that is not taken is added to the innermost scope, and nothing else changes. -/
theorem exists_declare {name : String} (represents : Represents chronicle table)
    (free : chronicle.isTaken name = false) (type : ValueType) (line : Int) (location : Location)
    (value : Option Literal) :
    ∃ declared, table.declare name type line location value =
        .ok ((chronicle.entry name type line location value).declaration, declared) ∧
      Represents (chronicle.note (chronicle.entry name type line location value)) declared := by
  have declares := (represents.declares_eq name).trans free
  have absent : table.current.find? name = none := by
    simpa [Scope.declares] using declares
  obtain ⟨outer, split⟩ := exists_blocks chronicle
  obtain ⟨sections, opened, numbered, isOpen⟩ := represents
  have isOpenHere := isOpen chronicle.innermost (by rw [split]; exact List.mem_cons_self)
  rw [split] at sections
  obtain ⟨remaining, live_eq, sections, isNamed, increases, distinct⟩ := sections.exists_outer
  rw [ScopeTable.declare, absent, isNamed]
  refine ⟨_, rfl, ?_, opened, numbered, isOpen⟩
  have blocks_eq : (chronicle.note (chronicle.entry name type line location value)).blocks =
      chronicle.innermost :: outer := split
  have live_note : (chronicle.note (chronicle.entry name type line location value)).live =
      chronicle.live ++ [chronicle.entry name type line location value] := by
    simp only [live, note, List.filter_append]
    congr 1
    exact List.filter_eq_self.mpr (by simp [entry, isOpenHere])
  rw [blocks_eq, live_note, live_eq]
  exact sections.add isNamed increases distinct absent

theorem after (represents : Represents chronicle table) (call : ScopeCall) :
    Represents (chronicle.after call) (table.after call) := by
  cases call with
  | enter => exact represents.enter
  | leave =>
      rw [Chronicle.after.eq_def, ScopeTable.after.eq_def]
      cases inside : chronicle.inside with
      | nil =>
          rw [represents.leave_of_outside inside]
          exact represents
      | cons block outer =>
          obtain ⟨scope, left, leaves, represents⟩ := represents.exists_leave inside
          rw [leaves]
          exact represents
  | declare name type line location value =>
      rw [Chronicle.after.eq_def, ScopeTable.after.eq_def]
      cases taken : chronicle.isTaken name with
      | true =>
          obtain ⟨entry, -, fails⟩ := represents.exists_redeclaration taken type line
            (location.getD (ScopeTable.unknownLocation line)) value
          simp only [fails, taken, if_true]
          exact represents
      | false =>
          obtain ⟨declared, succeeds, represents⟩ := represents.exists_declare taken type line
            (location.getD (ScopeTable.unknownLocation line)) value
          simp only [succeeds, taken]
          exact represents

/-- The invariant holds after any calls. -/
theorem foldl (represents : Represents chronicle table) (calls : List ScopeCall) :
    Represents (calls.foldl Chronicle.after chronicle) (calls.foldl ScopeTable.after table) := by
  induction calls generalizing chronicle table with
  | nil => exact represents
  | cons call calls ih => exact ih (represents.after call)

/-- A call adds to the entries what it declares. -/
theorem entries_after (represents : Represents chronicle table) (call : ScopeCall) :
    (chronicle.after call).entries.map ChronicleEntry.declaration =
      chronicle.entries.map ChronicleEntry.declaration ++ (table.made? call).toList := by
  cases call with
  | enter => exact (List.append_nil _).symm
  | leave =>
      rw [Chronicle.after.eq_def]
      cases chronicle.inside <;> exact (List.append_nil _).symm
  | declare name type line location value =>
      rw [Chronicle.after.eq_def, ScopeTable.made?.eq_def]
      cases taken : chronicle.isTaken name with
      | true =>
          obtain ⟨entry, -, fails⟩ := represents.exists_redeclaration taken type line
            (location.getD (ScopeTable.unknownLocation line)) value
          simp only [fails, taken, if_true, Option.toList_none, List.append_nil]
      | false =>
          obtain ⟨declared, succeeds, -⟩ := represents.exists_declare taken type line
            (location.getD (ScopeTable.unknownLocation line)) value
          simp [succeeds, taken, note]

/-- The entries are the declarations that were made. -/
theorem entries_foldl (represents : Represents chronicle table) (calls : List ScopeCall) :
    (calls.foldl Chronicle.after chronicle).entries.map ChronicleEntry.declaration =
      chronicle.entries.map ChronicleEntry.declaration ++ table.made calls := by
  induction calls generalizing chronicle table with
  | nil => exact (List.append_nil _).symm
  | cons call calls ih =>
      rw [List.foldl_cons, ih (represents.after call), represents.entries_after call,
        List.append_assoc]
      rfl

end Represents

/-! ## What the table says -/

/-- A table that says of its declarations what a chronicle says. -/
structure Tells (chronicle : Chronicle) (table : ScopeTable) : Prop where
  declarations : table.declarations = chronicle.live.map ChronicleEntry.declaration
  lookup : ∀ name, table.lookup name = (chronicle.last? name).map ChronicleEntry.declaration
  isVisible : ∀ name, table.isVisible name = true ↔
    ∃ entry ∈ chronicle.live, entry.declaration.name = name
  /-- A name is declared in the innermost scope if its last entry was made in that block. -/
  declares : ∀ name, table.current.declares name = true ↔
    ∃ entry, chronicle.last? name = some entry ∧ entry.block = chronicle.innermost
  /-- Only a name that is declared in the innermost scope cannot be declared. -/
  fails : ∀ name type line location value,
    (∃ redeclaration, table.declare name type line location value = .error redeclaration) ↔
      table.current.declares name = true
  /-- The fault carries the last entry for the name. -/
  carries : ∀ name type line location value redeclaration,
    table.declare name type line location value = .error redeclaration →
      ∃ entry, chronicle.last? name = some entry ∧
        redeclaration = ⟨name, location, entry.declaration⟩
  leaves : (∃ fault, table.leave = .error fault) ↔ chronicle.inside = []

theorem isTaken_iff (chronicle : Chronicle) (name : String) :
    chronicle.isTaken name = true ↔
      ∃ entry, chronicle.last? name = some entry ∧ entry.block = chronicle.innermost := by
  rw [isTaken]
  cases chronicle.last? name <;> simp

/-- There is a last live entry for a name if there is any. -/
theorem isSome_last?_iff (chronicle : Chronicle) (name : String) :
    (chronicle.last? name).isSome = true ↔
      ∃ entry ∈ chronicle.live, entry.declaration.name = name := by
  simp [last?, ChronicleEntry.isFor]

/-- Under the invariant the table says what the chronicle says. -/
theorem Represents.tells {chronicle : Chronicle} {table : ScopeTable}
    (represents : Represents chronicle table) : Tells chronicle table where
  declarations := represents.sections.flatMap_declarations
  lookup := represents.lookup_eq
  isVisible := by
    intro name
    rw [ScopeTable.isVisible, represents.lookup_eq, Option.isSome_map]
    exact chronicle.isSome_last?_iff name
  declares := by
    intro name
    rw [represents.declares_eq]
    exact chronicle.isTaken_iff name
  fails := by
    intro name type line location value
    rw [represents.declares_eq]
    constructor
    · rintro ⟨redeclaration, fails⟩
      cases taken : chronicle.isTaken name with
      | true => rfl
      | false =>
          obtain ⟨declared, succeeds, -⟩ :=
            represents.exists_declare taken type line location value
          cases succeeds.symm.trans fails
    · intro taken
      obtain ⟨entry, -, fails⟩ := represents.exists_redeclaration taken type line location value
      exact ⟨_, fails⟩
  carries := by
    intro name type line location value redeclaration fails
    cases taken : chronicle.isTaken name with
    | true =>
        obtain ⟨entry, last, failsSo⟩ :=
          represents.exists_redeclaration taken type line location value
        cases failsSo.symm.trans fails
        exact ⟨entry, last, rfl⟩
    | false =>
        obtain ⟨declared, succeeds, -⟩ :=
          represents.exists_declare taken type line location value
        cases succeeds.symm.trans fails
  leaves := by
    constructor
    · rintro ⟨fault, fails⟩
      cases inside : chronicle.inside with
      | nil => rfl
      | cons block outer =>
          obtain ⟨scope, left, succeeds, -⟩ := represents.exists_leave inside
          cases succeeds.symm.trans fails
    · intro outside
      exact ⟨_, represents.leave_of_outside outside⟩

end Chronicle

/-- After any calls, the table says what the chronicle of these calls says, and the entries of the
chronicle are the declarations that the calls made, in their order. -/
theorem table_tells_chronicle (calls : List ScopeCall) :
    Chronicle.Tells (Chronicle.afterAll calls) (ScopeTable.afterAll calls) ∧
      (Chronicle.afterAll calls).entries.map ChronicleEntry.declaration =
        ScopeTable.empty.made calls := by
  constructor
  · exact (Chronicle.Represents.empty.foldl calls).tells
  · exact Chronicle.Represents.empty.entries_foldl calls

end NumericLanguage
