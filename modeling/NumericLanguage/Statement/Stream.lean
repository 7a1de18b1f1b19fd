import NumericLanguage.Statement.Run
import NumericLanguage.Token.Sequence

/-!
# Token streams

A stream of tokens is a place in a token list: the tokens in front of it and the tokens behind
it, up to the token that ends the input. Nothing behind that token is ever read, and the stream
never moves past it.
-/

set_option autoImplicit false

namespace NumericLanguage

/-- A place in a list of tokens that ends with the end of the input. -/
structure TokenStream where
  /-- The tokens in front, the nearest first. -/
  consumed : List Token
  /-- The tokens behind, without the one that ends the input. -/
  rest : List Token
  /-- The token that ends the input. -/
  stop : Token
  deriving DecidableEq, Repr

/-- A token at which the input ends. -/
def Token.isEnd (token : Token) : Bool := token.kind = .endOfInput

/-- The token that ends a list of tokens without one: it stands where the last of them does. -/
def missingEnd (tokens : List Token) : Token :=
  endToken (match tokens.getLast? with
    | some last => last.location
    | none => ⟨"<eof>", 1, 1, 0⟩)

/-- A list of tokens that ends with the end of the input. -/
def closedTokens (tokens : List Token) : List Token :=
  if tokens.getLast?.any Token.isEnd then tokens else tokens ++ [missingEnd tokens]

namespace TokenStream

/-- The stream at the beginning of a list of tokens; the input ends at the first token that says
so. -/
def ofTokens (tokens : List Token) : TokenStream where
  consumed := []
  rest := tokens.takeWhile fun token => !token.isEnd
  stop := (tokens.find? Token.isEnd).getD (missingEnd tokens)

/-- The number of tokens in front. -/
def position (stream : TokenStream) : Nat := stream.consumed.length

/-- Whether the input ends here. -/
def atEnd (stream : TokenStream) : Bool := stream.rest.isEmpty

/-- The next token. -/
def peek (stream : TokenStream) : Token := stream.rest.head?.getD stream.stop

/-- The nearest token in front, or the first token of all. -/
def previous (stream : TokenStream) : Token := stream.consumed.head?.getD stream.peek

/-- Whether the next token is of a kind; the end of the input never is. -/
def startsWith (stream : TokenStream) (kind : TokenKind) : Bool :=
  stream.rest.head?.any fun token => token.kind = kind

/-- Whether the next token names a type, with which a declaration begins. -/
def atTypeName (stream : TokenStream) : Bool :=
  stream.rest.head?.any fun token => token.kind.isTypeName

/-- The stream moved over a number of tokens, or to the end of the input. -/
def moveOver (stream : TokenStream) (count : Nat) : TokenStream :=
  { stream with
    consumed := (stream.rest.take count).reverse ++ stream.consumed
    rest := stream.rest.drop count }

/-- The stream back at the beginning. -/
def rewound (stream : TokenStream) : TokenStream :=
  { stream with consumed := [], rest := stream.consumed.reverse ++ stream.rest }

/-- The stream moved to the next boundary. -/
def resumed (stream : TokenStream) : TokenStream :=
  stream.moveOver (discarded stream.consumed.head? stream.rest).length

/-- Moving loses no token and adds none. -/
theorem moveOver_tokens (stream : TokenStream) (count : Nat) :
    (stream.moveOver count).consumed.reverse ++ (stream.moveOver count).rest =
      stream.consumed.reverse ++ stream.rest := by
  simp only [moveOver, List.reverse_append, List.reverse_reverse, List.append_assoc,
    List.take_append_drop]

/-- Moving twice is moving over the sum. -/
theorem moveOver_moveOver (stream : TokenStream) (count more : Nat) :
    (stream.moveOver count).moveOver more = stream.moveOver (count + more) := by
  simp only [moveOver, List.take_add, List.reverse_append, List.append_assoc, List.drop_drop]

@[simp] theorem rewound_rest (stream : TokenStream) :
    stream.rewound.rest = stream.consumed.reverse ++ stream.rest := rfl

end TokenStream

end NumericLanguage
