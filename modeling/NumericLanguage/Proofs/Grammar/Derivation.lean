import NumericLanguage.Proofs.Grammar.Expression
import NumericLanguage.Proofs.Grammar.Heading

/-!
# The grammar and its derivation trees

A derivation tree has a node for each declaration and each statement, with the tokens of the node
that are not fixed by the grammar. What a tree derives is said by relations between a tree, the
tokens from its first one on, and the tokens behind its last one. The leading token chooses among
the productions, and the tokens behind decide one thing: a conditional without an alternative is
not followed by `else`, so that an `else` belongs to the nearest conditional in front of it.

A tree has levels, the greatest number of statements that are open at once inside it, and an
outline, the records of its statements without the types of their expressions.
-/

set_option autoImplicit false

namespace NumericLanguage

/-! ## Trees -/

/-- A derivation tree of a declaration, a statement or a block. -/
inductive SyntaxTree
  | declaration (typeToken name : Token) (type : ValueType) (initial : Option (List Token))
  | read (keyword name : Token)
  | write (keyword : Token) (expression : List Token)
  | ifThen (keyword : Token) (condition : List Token) (consequence : SyntaxTree)
  | ifThenElse (keyword : Token) (condition : List Token) (consequence alternative : SyntaxTree)
  | loop (keyword : Token) (condition : List Token) (body : SyntaxTree)
  | block (opening : Token) (items : List SyntaxTree)
  /-- The tokens of an expression and the semicolon behind them. -/
  | expression (tokens : List Token) (semicolon : Token)

namespace SyntaxTree

/-! ### Levels -/

mutual
/-- The greatest number of statements that are open at once in a tree. A loop and its block are
open as one, and a declaration is no statement. -/
def levels : SyntaxTree → Nat
  | declaration _ _ _ _ => 0
  | read _ _ => 1
  | write _ _ => 1
  | ifThen _ _ consequence => consequence.levels + 1
  | ifThenElse _ _ consequence alternative => max consequence.levels alternative.levels + 1
  | loop _ _ body => body.levels
  | block _ items => levelsAll items + 1
  | expression _ _ => 1

/-- The greatest number of levels among some trees. -/
def levelsAll : List SyntaxTree → Nat
  | [] => 0
  | tree :: others => max tree.levels (levelsAll others)
end

/-! ### Records -/

mutual
/-- The records of a tree without types: one for each node, in the same order and nesting. -/
def outline : SyntaxTree → Statement
  | declaration typeToken name _ initial =>
      (Heading.declaration typeToken name initial).toStatement none []
  | read keyword name => (Heading.read keyword name).toStatement none []
  | write keyword tokens => (Heading.write keyword tokens).toStatement none []
  | ifThen keyword condition consequence =>
      (Heading.ifThen keyword condition).toStatement none [consequence.outline]
  | ifThenElse keyword condition consequence alternative =>
      (Heading.ifThenElse keyword condition).toStatement none
        [consequence.outline, alternative.outline]
  | loop keyword condition body =>
      (Heading.loop keyword condition).toStatement none [body.outline]
  | block opening items => (Heading.block opening).toStatement none (outlineAll items)
  | expression tokens semicolon =>
      (Heading.expression tokens semicolon).toStatement none []

/-- The records of some trees without types. -/
def outlineAll : List SyntaxTree → List Statement
  | [] => []
  | tree :: others => tree.outline :: outlineAll others
end

end SyntaxTree

/-! ## Levels of records -/

namespace Statement

mutual
/-- The levels of the tree whose record this is. -/
def levels : Statement → Nat
  | ⟨.declaration, _, _, _, _, _⟩ => 0
  | ⟨.loop, _, _, _, _, children⟩ => levelsAll children
  | ⟨_, _, _, _, _, children⟩ => levelsAll children + 1

/-- The levels of the trees whose records these are. -/
def levelsAll : List Statement → Nat
  | [] => 0
  | first :: others => max first.levels (levelsAll others)
end

end Statement

namespace SyntaxTree

mutual
/-- The levels of a tree can be told from its record. -/
theorem levels_outline : ∀ tree : SyntaxTree, tree.outline.levels = tree.levels
  | declaration .. | read .. | write .. | expression .. => rfl
  | ifThen _ _ consequence => by
      have first := levels_outline consequence
      simp [outline, levels, Heading.toStatement, Heading.kind, Statement.levels,
        Statement.levelsAll, first]
  | ifThenElse _ _ consequence alternative => by
      have first := levels_outline consequence
      have second := levels_outline alternative
      simp [outline, levels, Heading.toStatement, Heading.kind, Statement.levels,
        Statement.levelsAll, first, second]
  | loop _ _ body => by
      have inside := levels_outline body
      simp [outline, levels, Heading.toStatement, Heading.kind, Statement.levels,
        Statement.levelsAll, inside]
  | block _ items => by
      have inside := levelsAll_outlineAll items
      simp [outline, levels, Heading.toStatement, Heading.kind, Statement.levels, inside]

theorem levelsAll_outlineAll : ∀ trees : List SyntaxTree,
    Statement.levelsAll (outlineAll trees) = levelsAll trees
  | [] => rfl
  | tree :: others => by
      rw [outlineAll, Statement.levelsAll, levels_outline tree, levelsAll_outlineAll others,
        levelsAll]
end

end SyntaxTree

/-! ## The grammar -/

/-- A token that selects the production of a statement by itself. -/
def TokenKind.selectsStatement : TokenKind → Bool
  | keyword .readWord | keyword .writeWord | keyword .ifWord | keyword .whileWord
  | operator .leftBrace => true
  | _ => false

mutual
/-- A tree derives a statement: `read ( name ) ;`, `write ( expression ) ;`,
`if ( expression ) then statement`, the same with `else statement`, `while ( expression ) block`,
a block, or `expression ;`. -/
inductive DerivesStatement : SyntaxTree → List Token → List Token → Prop
  | read {keyword opening name closing semicolon : Token} {rest : List Token} :
      keyword.kind = .keyword .readWord → opening.kind = .operator .leftParen →
      name.kind = .identifier → closing.kind = .operator .rightParen →
      semicolon.kind = .operator .semicolon →
      DerivesStatement (.read keyword name)
        (keyword :: opening :: name :: closing :: semicolon :: rest) rest
  | write {keyword opening closing semicolon : Token} {expression rest : List Token} :
      keyword.kind = .keyword .writeWord → opening.kind = .operator .leftParen →
      IsExpression expression → closing.kind = .operator .rightParen →
      semicolon.kind = .operator .semicolon →
      DerivesStatement (.write keyword expression)
        (keyword :: opening :: (expression ++ closing :: semicolon :: rest)) rest
  | ifThen {keyword opening closing thenToken : Token} {condition body rest : List Token}
      {consequence : SyntaxTree} :
      keyword.kind = .keyword .ifWord → opening.kind = .operator .leftParen →
      IsExpression condition → closing.kind = .operator .rightParen →
      thenToken.kind = .keyword .thenWord → DerivesStatement consequence body rest →
      (∀ next ∈ rest.head?, next.kind ≠ .keyword .elseWord) →
      DerivesStatement (.ifThen keyword condition consequence)
        (keyword :: opening :: (condition ++ closing :: thenToken :: body)) rest
  | ifThenElse {keyword opening closing thenToken elseToken : Token}
      {condition body behind rest : List Token} {consequence alternative : SyntaxTree} :
      keyword.kind = .keyword .ifWord → opening.kind = .operator .leftParen →
      IsExpression condition → closing.kind = .operator .rightParen →
      thenToken.kind = .keyword .thenWord →
      DerivesStatement consequence body (elseToken :: behind) →
      elseToken.kind = .keyword .elseWord → DerivesStatement alternative behind rest →
      DerivesStatement (.ifThenElse keyword condition consequence alternative)
        (keyword :: opening :: (condition ++ closing :: thenToken :: body)) rest
  | loop {keyword opening closing : Token} {condition body rest : List Token}
      {block : SyntaxTree} :
      keyword.kind = .keyword .whileWord → opening.kind = .operator .leftParen →
      IsExpression condition → closing.kind = .operator .rightParen →
      DerivesBlock block body rest →
      DerivesStatement (.loop keyword condition block)
        (keyword :: opening :: (condition ++ closing :: body)) rest
  | block {block : SyntaxTree} {input rest : List Token} :
      DerivesBlock block input rest → DerivesStatement block input rest
  | expression {semicolon : Token} {tokens rest : List Token} :
      IsExpression tokens → semicolon.kind = .operator .semicolon →
      (tokens.head?.getD semicolon).kind.selectsStatement = false →
      DerivesStatement (.expression tokens semicolon) (tokens ++ semicolon :: rest) rest

/-- A tree derives a block: declarations and statements between braces. -/
inductive DerivesBlock : SyntaxTree → List Token → List Token → Prop
  | braces {opening closing : Token} {items : List SyntaxTree} {body rest : List Token} :
      opening.kind = .operator .leftBrace → DerivesItems items body (closing :: rest) →
      closing.kind = .operator .rightBrace →
      DerivesBlock (.block opening items) (opening :: body) rest

/-- A tree derives a declaration, which begins with the name of a type, or a statement. -/
inductive DerivesItem : SyntaxTree → List Token → List Token → Prop
  | declaration {typeToken name semicolon : Token} {type : ValueType} {rest : List Token} :
      typeToken.kind.isTypeName = true → ValueType.ofWord typeToken.lexeme = .ok type →
      name.kind = .identifier → semicolon.kind = .operator .semicolon →
      DerivesItem (.declaration typeToken name type none)
        (typeToken :: name :: semicolon :: rest) rest
  | initialized {typeToken name sign semicolon : Token} {type : ValueType}
      {initial rest : List Token} :
      typeToken.kind.isTypeName = true → ValueType.ofWord typeToken.lexeme = .ok type →
      name.kind = .identifier → sign.kind = .operator .assign → IsExpression initial →
      semicolon.kind = .operator .semicolon →
      DerivesItem (.declaration typeToken name type (some initial))
        (typeToken :: name :: sign :: (initial ++ semicolon :: rest)) rest
  | statement {tree : SyntaxTree} {input rest : List Token} :
      (∀ first ∈ input.head?, first.kind.isTypeName = false) →
      DerivesStatement tree input rest → DerivesItem tree input rest

/-- Trees derive declarations and statements, one after the other. -/
inductive DerivesItems : List SyntaxTree → List Token → List Token → Prop
  | nil {rest : List Token} : DerivesItems [] rest rest
  | cons {tree : SyntaxTree} {others : List SyntaxTree} {input middle rest : List Token} :
      DerivesItem tree input middle → DerivesItems others middle rest →
      DerivesItems (tree :: others) input rest
end

/-- Trees derive a program, which takes up all tokens, within a number of levels. -/
def DerivesProgram (levels : Nat) (trees : List SyntaxTree) (tokens : List Token) : Prop :=
  DerivesItems trees tokens [] ∧ SyntaxTree.levelsAll trees ≤ levels

end NumericLanguage
