import NumericLanguage.Statement.Run
import NumericLanguage.Source.Bounds

/-!
# Boundaries in a token list

Where parsing may resume, asked of a whole token list and an index into it. A negative index
counts from the end. A list that does not end with the token for the end of the input can be
left behind, and then the index is out of range.
-/

set_option autoImplicit false

namespace NumericLanguage.Recovery

/-- Whether parsing may resume at an index. -/
def boundaryAt (tokens : List Token) (index : Int) : Except OutOfRange Bool := do
  if index ≤ 0 then
    return (← entryAt tokens index).kind.startsStatement
  let previous ← entryAt tokens (index - 1)
  if previous.kind = .operator .semicolon then
    return true
  return (← entryAt tokens index).kind.startsStatement

/-- The first index from a given one on at which parsing may resume or the input ends. -/
def resumeAt (tokens : List Token) (index : Nat) : Except OutOfRange Int :=
  let previous := if index = 0 then none else tokens[index - 1]?
  let following := tokens.drop index
  let inside := following.takeWhile fun token => token.kind ≠ .endOfInput
  let passed := discarded previous inside
  if passed.length < following.length then .ok ↑(index + passed.length)
  else .error .list

/-- The same from an index that counts from the end. -/
def resumeFromEnd (tokens : List Token) : Nat → Except OutOfRange Int
  | 0 => resumeAt tokens 0
  | distance + 1 => do
      let token ← entryAt tokens (-(distance + 1))
      if token.kind = .endOfInput ∨ token.kind.startsStatement then
        return -(distance + 1)
      resumeFromEnd tokens distance

/-- The first index from a given one on at which parsing may resume or the input ends. -/
def resume (tokens : List Token) (index : Int) : Except OutOfRange Int :=
  if index < 0 then resumeFromEnd tokens (-index).toNat else resumeAt tokens index.toNat

end NumericLanguage.Recovery
