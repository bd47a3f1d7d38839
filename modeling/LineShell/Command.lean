import LineShell.Expansion

/-!
# Commands

`Clause.ofTokens` gives every token of a line its role: an operator with a token after it
redirects a stream to that token, and everything else is a word, a trailing operator included.
`Command.ofTokens?` then expands the words and the targets.
-/

namespace LineShell

/-- The streams of a child that can be redirected. -/
inductive Stream where
  | input
  | output
  | error
  deriving DecidableEq, Repr

namespace Stream

/-- The token that redirects the stream. -/
def operator : Stream → Bytes
  | input => bytes "<"
  | output => bytes ">"
  | error => bytes "2>"

def ofOperator? (token : Bytes) : Option Stream :=
  [input, output, error].find? (·.operator = token)

/-- The number of the descriptor that a child has for the stream. -/
def descriptor : Stream → Nat
  | input => 0
  | output => 1
  | error => 2

theorem ofOperator?_eq_some_iff {token : Bytes} {stream : Stream} :
    ofOperator? token = some stream ↔ token = stream.operator := by
  constructor
  · intro h
    have := List.find?_some h
    simpa [eq_comm] using this
  · rintro rfl
    cases stream <;> decide

end Stream

/-- A stream and the file it is redirected to. -/
structure Redirection where
  stream : Stream
  target : Bytes
  deriving DecidableEq, Repr

/-- The role of one or two tokens. -/
inductive Clause where
  | word (token : Bytes)
  | redirect (stream : Stream) (target : Bytes)
  deriving DecidableEq, Repr

/-- The roles of the tokens. -/
def Clause.ofTokens : List Bytes → List Clause
  | [] => []
  | [token] => [.word token]
  | token :: next :: rest =>
    match Stream.ofOperator? token with
    | some stream => .redirect stream next :: ofTokens rest
    | none => .word token :: ofTokens (next :: rest)

/-- A word of a command; it is verbatim if expansion has left its token as it was. -/
structure Word where
  text : Bytes
  verbatim : Bool
  deriving DecidableEq, Repr

/-- A command: its words, of which the first names it, and its redirections. -/
structure Command where
  words : List Word := []
  redirections : List Redirection := []
  deriving DecidableEq, Repr

namespace Command

def texts (command : Command) : List Bytes := command.words.map (·.text)

def name? (command : Command) : Option Bytes := command.texts.head?

def isEmpty (command : Command) : Bool := command.words.isEmpty

/-- A command with these words and redirections, the words taken as they are. -/
def ofTexts (texts : List Bytes) (redirections : List Redirection) : Command :=
  ⟨texts.map (⟨·, true⟩), redirections⟩

/-- The word that a token becomes. -/
def word? (limits : ExpansionLimits) (lookup : Bytes → Option Bytes) (token : Bytes) :
    Except ParseError Word :=
  match limits.expand lookup token with
  | .ok text => .ok ⟨text, text = token⟩
  | .error cause => .error (.expansion cause)

/-- The redirection to the file that a token names. -/
def redirection? (limits : ExpansionLimits) (lookup : Bytes → Option Bytes) (stream : Stream)
    (token : Bytes) : Except ParseError Redirection :=
  match limits.expand lookup token with
  | .ok target => .ok ⟨stream, target⟩
  | .error cause => .error (.expansion cause)

/-- The command of some clauses, with their tokens expanded. -/
def ofClauses? (limits : ExpansionLimits) (lookup : Bytes → Option Bytes) :
    List Clause → Except ParseError Command
  | [] => .ok {}
  | .word token :: rest => do
    let word ← word? limits lookup token
    let command ← ofClauses? limits lookup rest
    return { command with words := word :: command.words }
  | .redirect stream target :: rest => do
    let redirection ← redirection? limits lookup stream target
    let command ← ofClauses? limits lookup rest
    return { command with redirections := redirection :: command.redirections }

/-- The command of some tokens. -/
def ofTokens? (limits : ExpansionLimits) (lookup : Bytes → Option Bytes) (tokens : List Bytes) :
    Except ParseError Command :=
  ofClauses? limits lookup (Clause.ofTokens tokens)

end Command

end LineShell
