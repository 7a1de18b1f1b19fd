import NumericLanguage.Statement.Stream
import NumericLanguage.Statement.Fault
import NumericLanguage.Statement.Basic
import NumericLanguage.Scope.Inference
import NumericLanguage.Diagnostic.Log
import NumericLanguage.Journal

/-!
# Parsing steps

A parsing step reads tokens from a stream, works on the table of scopes, and records diagnostics.
It ends with a result or with a failure, and in both cases what it has done up to then remains
done. This module holds the state and the single steps out of which the rules of the grammar are
made.
-/

set_option autoImplicit false

namespace NumericLanguage

/-! ## States and failures -/

/-- What a step works on. -/
structure ParseState where
  stream : TokenStream
  /-- The number of statements that are open around the next one. -/
  nesting : Nat := 0
  table : ScopeTable := .empty
  diagnostics : DiagnosticLog := []
  journal : List Event := []
  deriving DecidableEq, Repr

/-- The state in front of a list of tokens, with nothing declared and nothing recorded. -/
def ParseState.ofTokens (tokens : List Token) : ParseState where
  stream := .ofTokens tokens

/-- Why a step ends without a result. -/
inductive Failure
  /-- The tokens form no statement; parsing goes on with the next one. -/
  | rejected (rejection : Rejection)
  /-- A token that should name a type carries a word that names none. -/
  | typeWord (fault : TypeWordFault)
  /-- A block was left that was never entered. -/
  | noOpenBlock (fault : NoOpenBlock)
  deriving DecidableEq, Repr

/-- A step that reads tokens and has a result of the given type. -/
abbrev Parse : Type → Type := EStateM Failure ParseState

namespace Parse

/-! ## Reading tokens -/

/-- The next token, which stays where it is. -/
def peek : Parse Token := do
  return (← get).stream.peek

/-- Whether the next token is of a kind. -/
def check (kind : TokenKind) : Parse Bool := do
  return (← get).stream.startsWith kind

/-- Moves over a number of tokens. -/
def moveOver (count : Nat) : Parse Unit :=
  modify fun state => { state with stream := state.stream.moveOver count }

/-- Moves over the next token and gives it; at the end of the input, the token in front. -/
def advance : Parse Token := do
  moveOver 1
  return (← get).stream.previous

/-- Moves over the next token if it is of a kind, and tells whether it is. -/
def accept (kind : TokenKind) : Parse Bool := do
  if ← check kind then
    let _ ← advance
    return true
  return false

/-- Fails at the next token. -/
def reject {α : Type} (fault : SyntaxFault) : Parse α := do
  throw (.rejected ⟨fault, ← peek⟩)

/-- Fails unless the next token is of a kind. -/
def expect (kind : TokenKind) (context : String) : Parse Unit := do
  if !(← check kind) then
    reject (.expected kind context)

/-- Moves over the next token, which has to be of a kind, and gives it. -/
def consume (kind : TokenKind) (context : String) : Parse Token := do
  expect kind context
  advance

/-- Moves over an expression and gives its tokens. -/
def capture : Parse (List Token) := do
  let expression := captured 0 (← get).stream.rest
  moveOver expression.length
  return expression

/-- Moves over one whole statement without looking into it. -/
def skipStatement : Parse Unit := do
  moveOver (skipped 0 (← get).stream.rest).length

/-- Moves to the next boundary. -/
def resume : Parse Unit :=
  modify fun state => { state with stream := state.stream.resumed }

/-- Moves to the next boundary if a fault asks for it, and over at least one token since the
given position. -/
def recover (start : Nat) (search : Bool) : Parse Unit := do
  if search then
    resume
  if (← get).stream.position = start then
    moveOver 1

/-! ## Recording -/

/-- Writes an event into the journal. -/
def note (event : Event) : Parse Unit :=
  modify fun state => { state with journal := state.journal ++ [event] }

/-- Records a diagnostic. -/
def record (diagnostic : Diagnostic) : Parse Unit := do
  note (.recorded diagnostic)
  modify fun state => { state with diagnostics := state.diagnostics.record diagnostic }

/-- Records a broken rule at a token. -/
def report (fault : SemanticFault) (token : Token) : Parse Unit :=
  record (fault.diagnostic token.location)

/-! ## Scopes and nesting -/

/-- Enters a block. -/
def enterScope : Parse Unit := do
  modify fun state => { state with table := state.table.enter }
  note (.scopeEntered (← get).table.current.name)

/-- Leaves a block. -/
def leaveScope : Parse Unit := do
  match (← get).table.leave with
  | .ok (scope, table) =>
      modify fun state => { state with table := table }
      note (.scopeLeft scope.name)
  | .error fault => throw (.noOpenBlock fault)

/-- Runs a step and then another one, also when the first one fails. -/
def andAlways {α : Type} (body : Parse α) (ending : Parse Unit) : Parse α := fun state =>
  match body state with
  | .ok result state =>
      match ending state with
      | .ok _ state => .ok result state
      | .error failure state => .error failure state
  | .error failure state =>
      match ending state with
      | .ok _ state => .error failure state
      | .error other state => .error other state

/-- Runs a step inside a new scope. -/
def inScope {α : Type} (body : Parse α) : Parse α := do
  enterScope
  andAlways body leaveScope

/-- Runs a step with one more statement open around it. -/
def nested {α : Type} (body : Parse α) : Parse α := do
  modify fun state => { state with nesting := state.nesting + 1 }
  andAlways body (modify fun state => { state with nesting := state.nesting - 1 })

/-! ## Repetition -/

/-- Runs a step again and again, at most `fuel` times, until the stream satisfies a test, and
collects the results. -/
def untilStream {α : Type} (stop : TokenStream → Bool) (step : Parse (Option α)) :
    Nat → Parse (List α)
  | 0 => return []
  | fuel + 1 => do
      if stop (← get).stream then
        return []
      let first ← step
      let others ← untilStream stop step fuel
      return first.toList ++ others

/-- Runs a step that always moves on until the stream satisfies a test, which it does at the end
of the input. -/
def repeatUntil {α : Type} (stop : TokenStream → Bool) (step : Parse (Option α)) :
    Parse (List α) := do
  untilStream stop step (← get).stream.rest.length

end Parse

end NumericLanguage
