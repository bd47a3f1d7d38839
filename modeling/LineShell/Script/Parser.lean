import LineShell.Script.Reader

/-!
# Commands of a script

`Parser.commandLine` reads the commands up to the end of a line, so that a script can be run while
it is being read. Commands nest no deeper than `maxDepth`.
-/

namespace LineShell.Script

/-- The words that have a meaning of their own where a command can begin. -/
def keywords : List String :=
  ["!", "case", "do", "done", "elif", "else", "esac", "fi", "for", "if", "in", "then", "until",
    "while", "\x7b", "\x7d"]

namespace Nested

open LineShell.Script.Parser

/-! ## Tokens -/

def pushBack : Parser Unit := modify fun reader => { reader with pushed := true }

/-- Remembers a token as the last one. -/
def take (token : Token) : Parser Token := do
  modify fun reader => { reader with last := token, pushed := false }
  return token

/-- Reads what follows the byte that a redirection sign starts with. -/
def signAfter (isInput : Bool) : Parser Sign := do
  if isInput then
    if ← accept 0x3c then return .document (← accept 0x2d)
    if ← accept 0x26 then return .copy
    if ← accept 0x3e then return .readWrite
    return .read
  else
    if ← accept 0x3e then return .append
    if ← accept 0x7c then return .overwrite
    if ← accept 0x26 then return .copy
    return .write

/-- Reads the rest of a redirection sign; its first byte and the number before it are known. -/
def readSign (isInput : Bool) (number : Option Nat) : Parser Token := do
  let sign ← signAfter isInput
  take ⟨.redirect, [], false, sign, some (number.getD (if isInput then 0 else 1))⟩

/-- The digit that a word consists of. -/
def digit? (word : Word) : Option Nat :=
  match word with
  | [.byte b false] => if isDigit b then some (b.toNat - 0x30) else none
  | _ => none

variable (nested : Nested)

/-- Reads a word, or the redirection sign that a digit or nothing stands before. -/
def readWordToken (verbatim : Bool) : Parser Token := do
  let pieces ← readWord nested { verbatim }
  let sawQuote := (← get).sawQuote
  match ← peek with
  | some b =>
    if (b = 0x3c || b = 0x3e) && !sawQuote && (pieces.isEmpty || (digit? pieces).isSome) then
      advance
      readSign (b = 0x3c) (digit? pieces)
    else take { kind := .word, pieces, quoted := sawQuote }
  | none => take { kind := .word, pieces, quoted := sawQuote }

/-- Reads a token as it comes. -/
def readRaw (verbatim : Bool) : Parser Token := do
  if (← get).pushed then take (← get).last
  else
    iterate (fun () => do
      match ← peek with
      | none => return .inr (← take { kind := .finish })
      | some b =>
        let single (kind : Kind) : Parser (Unit ⊕ Token) := do
          advance
          return .inr (← take { kind })
        let double (kind twice : Kind) : Parser (Unit ⊕ Token) := do
          advance
          return .inr (← take { kind := if ← accept b then twice else kind })
        if b = Bytes.space || b = 0x09 then
          advance
          return .inl ()
        else if b = 0x23 then
          iterate (fun () => do
            match ← peek false with
            | some b =>
              if b = Bytes.newline then return .inr ()
              advance
              return .inl ()
            | none => return .inr ()) patience ()
          return .inl ()
        else if b = Bytes.newline then single .newline
        else if b = 0x26 then double .ampersand .both
        else if b = 0x7c then double .pipe .either
        else if b = 0x3b then double .semicolon .clauseEnd
        else if b = 0x28 then single .opening
        else if b = 0x29 then single .closing
        else return .inr (← readWordToken nested verbatim)) patience ()

/-- Replaces a word that is an alias by its value, if it is not inside of it. -/
def expandAlias (token : Token) (open' : List Bytes) : Parser Bool := do
  let reader ← get
  match token.pieces.plain?.bind fun name => (reader.aliases.lookup name).map (name, ·) with
  | none => return false
  | some (name, value) =>
    if open'.contains name then return false
    if !value.isEmpty then
      let goesOn := value.getLast?.any fun b => b = Bytes.space || b = 0x09
      set { reader with
        text := value
        layers := ⟨name, goesOn, reader.text⟩ :: reader.layers }
    return true

/-- Reads a token. -/
def readToken (check : Check := {}) : Parser Token :=
  iterate (fun () => do
    let open' := (← get).layers.map (·.name)
    let token ← iterate (fun () => do
      let token ← readRaw nested false
      if token.kind = .newline && check.newlines then
        readDocuments nested
        return .inl ()
      else return .inr token) patience ()
    let aliases := check.aliases || (← get).aliasNext
    modify fun reader => { reader with aliasNext := false }
    if token.kind ≠ .word || token.quoted then return .inr token
    match token.pieces.plain? with
    | none => return .inr token
    | some name =>
      match if check.keywords then keywords.find? (bytes · = name) else none with
      | some keyword => return .inr (← take { token with kind := .keyword keyword })
      | none =>
        if aliases then
          if ← expandAlias token open' then return .inl ()
        return .inr token) patience ()

/-- Fails because of the last token. -/
def unexpected {α : Type} (expected : Option Kind := none) : Parser α := do
  let message := (← get).last.kind.text ++ " unexpected"
  match expected with
  | none => fail message
  | some kind => fail (message ++ " (expecting " ++ kind.text ++ ")")

/-- Reads a token of a kind. -/
def expect (kind : Kind) (check : Check := {}) : Parser Unit := do
  let token ← readToken nested check
  if token.kind ≠ kind then unexpected (some kind)

/-- Reads what a redirection leads to. -/
def readTarget (token : Token) : Parser Redirect := do
  let number := token.number.getD 0
  match token.sign with
  | .document stripsTabs =>
    let target ← readRaw nested true
    if target.kind ≠ .word then unexpected
    let index := (← get).documents.size
    let announcement : Announcement :=
      ⟨index, target.pieces.literal, stripsTabs, target.quoted⟩
    modify fun reader => { reader with
      documents := reader.documents.push []
      announced := reader.announced ++ [announcement] }
    return .document number index
  | sign =>
    let target ← readToken nested
    if target.kind ≠ .word then unexpected
    return .file number sign target.pieces

/-! ## Commands -/

/-- The builtin commands that no function can replace. -/
def reservedNames : List Bytes :=
  [".", ":", "break", "continue", "eval", "exec", "exit", "export", "local", "readonly", "return",
    "set", "shift", "times", "trap", "unset"].map bytes

/-- The parts of a simple command that have been read. -/
structure Draft where
  assignments : List Word := []
  words : List Word := []
  redirects : List Redirect := []

/-- Reads a simple command or the definition of a function. -/
def readSimple : Parser Command := do
  let line := (← get).line
  iterate (fun (draft : Draft) => do
    let check : Check := { aliases := draft.words.isEmpty }
    let token ← readToken nested check
    match token.kind with
    | .word =>
      if draft.words.isEmpty && token.pieces.isAssignment then
        return .inl { draft with assignments := draft.assignments ++ [token.pieces] }
      else return .inl { draft with words := draft.words ++ [token.pieces] }
    | .redirect =>
      let redirect ← readTarget nested token
      return .inl { draft with redirects := draft.redirects ++ [redirect] }
    | _ =>
      match token.kind, draft.assignments, draft.words, draft.redirects with
      | .opening, [], [word], [] =>
        expect nested .closing
        match word.plain? with
        | none => fail "Bad function name"
        | some name =>
          if !isName name || reservedNames.contains name then fail "Bad function name"
          else
            let line := (← get).line
            return .inr (.definition line name (← nested.command .all))
      | _, _, _, _ =>
        pushBack
        return .inr (.simple line draft.assignments draft.words draft.redirects)) patience {}

/-- Reads commands up to a token that closes them. -/
def readBody : Parser Command := do
  return (← nested.commands .closer).getD (.sequence [])

/-- Reads the rest of a choice, up to the word that ends it. -/
def readChoice : Nat → Parser Command
  | 0 => fail "too long"
  | fuel + 1 => do
    let condition ← readBody nested
    expect nested (.keyword "then")
    let yes ← readBody nested
    let token ← readToken nested
    if token.kind = .keyword "elif" then
      return .choice condition yes (some (← readChoice fuel))
    else if token.kind = .keyword "else" then
      return .choice condition yes (← nested.commands .closer)
    else
      pushBack
      return .choice condition yes none

/-- Reads the words of a loop and what is before its commands. -/
def readValues : Parser (List Word) := do
  let token ← readToken nested .all
  if token.kind = .keyword "in" then
    let values ← iterate (fun (values : List Word) => do
      let token ← readToken nested
      if token.kind = .word then return .inl (token.pieces :: values)
      else return .inr values.reverse) patience []
    let last := (← get).last.kind
    if last ≠ .newline && last ≠ .semicolon then unexpected
    return values
  else
    if token.kind ≠ .semicolon then pushBack
    return [Word.allArguments]

/-- Whether a token can be a pattern. -/
def isPattern (token : Token) : Bool :=
  match token.kind with
  | .word => true
  | .keyword _ => true
  | _ => false

/-- The word of a token that can be a pattern. -/
def patternOf (token : Token) : Word :=
  match token.kind with
  | .keyword name => Word.ofText (bytes name) false
  | _ => token.pieces

/-- Reads the patterns of a clause, up to the parenthesis behind them. -/
def readPatterns (first : Token) : Parser (List Word) :=
  iterate (fun ((patterns, token) : List Word × Token) => do
    if !isPattern token then unexpected (some .word)
    let patterns := patterns ++ [patternOf token]
    let separator ← readToken nested
    if separator.kind = .pipe then return .inl (patterns, ← readToken nested)
    if separator.kind ≠ .closing then unexpected (some .closing)
    return .inr patterns) patience ([], first)

/-- Reads the clauses of a selection and the word that ends it. -/
def readClauses : Parser (List (List Word × Option Command)) :=
  let check : Check := { newlines := true, keywords := true }
  let isEnd (token : Token) : Bool := token.kind = .keyword "esac"
  iterate (fun (clauses : List (List Word × Option Command)) => do
    let token ← readToken nested check
    if isEnd token then return .inr clauses
    let first ← if token.kind = .opening then readToken nested else pure token
    let patterns ← readPatterns nested first
    let clauses := clauses ++ [(patterns, ← nested.commands .closerOrEmpty)]
    let token ← readToken nested check
    if isEnd token then return .inr clauses
    if token.kind ≠ .clauseEnd then unexpected (some .clauseEnd)
    return .inl clauses) patience []

/-- Reads the redirections behind a command. -/
def readRedirects : Parser (List Redirect) :=
  iterate (fun (redirects : List Redirect) => do
    let token ← readToken nested { keywords := true, aliases := true }
    if token.kind = .redirect then
      return .inl (redirects ++ [← readTarget nested token])
    else
      pushBack
      return .inr redirects) patience []

/-- Reads one command. -/
def readCommand (check : Check) : Parser Command := do
  let line := (← get).line
  let token ← readToken nested check
  let closed (body : Parser Command) (closer : Kind) : Parser Command := do
    let body ← body
    expect nested closer
    return body
  let within (closer : Kind) : Parser Command := do
    let body ← readBody nested
    expect nested closer
    return body
  let compound (body : Parser Command) : Parser Command := do
    let body ← body
    let redirects ← readRedirects nested
    return if redirects.isEmpty then body
      else
        match body with
        | .subshell line body _ => .subshell line body redirects
        | body => .redirected line body redirects
  let repetition (onSuccess : Bool) : Parser Command := do
    let condition ← readBody nested
    expect nested (.keyword "do")
    return .repeated onSuccess condition (← within (.keyword "done"))
  match token.kind with
  | .word =>
    pushBack
    readSimple nested
  | .redirect =>
    pushBack
    readSimple nested
  | .opening => compound do return .subshell line (← within .closing) []
  | .keyword "\x7b" => compound (within (.keyword "\x7d"))
  | .keyword "if" =>
    compound (closed (readChoice nested (← get).size.succ) (.keyword "fi"))
  | .keyword "while" => compound (repetition true)
  | .keyword "until" => compound (repetition false)
  | .keyword "for" =>
    compound do
      let token ← readToken nested
      match token.kind, token.quoted, token.pieces.plain? with
      | .word, false, some name =>
        if !isName name then fail "Bad for loop variable"
        else
          let values ← readValues nested
          expect nested (.keyword "do") .all
          return .loop line name values (← within (.keyword "done"))
      | _, _, _ => fail "Bad for loop variable"
  | .keyword "case" =>
    compound do
      let token ← readToken nested
      if token.kind ≠ .word then unexpected (some .word)
      expect nested (.keyword "in") .all
      return .selection line token.pieces (← readClauses nested)
  | _ => unexpected

/-- Reads commands joined by pipes. -/
def readPipeline (check : Check) : Parser Command := do
  let token ← readToken nested check
  let isNegated : Bool := token.kind = .keyword "!"
  if !isNegated then pushBack
  let first ← nested.command (if isNegated then { keywords := true, aliases := true } else {})
  let parts ← iterate (fun (parts : List Command) => do
    let token ← readToken nested
    if token.kind = .pipe then return .inl (parts ++ [← nested.command .all])
    else
      pushBack
      return .inr parts) patience [first]
  let joined := if parts.length = 1 then first else .pipeline parts false
  return if isNegated then .negated joined else joined

/-- Reads pipelines joined by `and` and `or`. -/
def readJoined : Parser Command := do
  let first ← readPipeline nested {}
  iterate (fun (joined : Command) => do
    let token ← readToken nested
    match token.kind with
    | .both => return .inl (.both joined (← readPipeline nested .all))
    | .either => return .inl (.either joined (← readPipeline nested .all))
    | _ =>
      pushBack
      return .inr joined) patience first

end Nested

/-- A command that runs while the script goes on. -/
def Command.inBackground : Command → Command
  | .pipeline parts _ => .pipeline parts true
  | .redirected line command redirects => .background line command redirects
  | command => .background 0 command []

def Command.ofList : List Command → Option Command
  | [] => none
  | [command] => some command
  | commands => some (.sequence commands)

/-- Whether a token closes a sequence of commands. -/
def Kind.closes : Kind → Bool
  | finish => true
  | newline => false
  | closing => true
  | clauseEnd => true
  | keyword name => ["do", "done", "elif", "else", "esac", "fi", "then", "\x7d"].contains name
  | _ => false

open LineShell.Script.Parser LineShell.Script.Nested

/-- Reads a sequence of commands. -/
def readSequence (nested : Nested) (ends : Ends) : Parser (Option Command) :=
  let skips : Bool := ends ≠ .line
  iterate (fun (commands : List Command) => do
    let token ← readToken nested ⟨skips, true, true⟩
    let finish : Parser (List Command ⊕ Option Command) := do
      readDocuments nested
      modify fun reader => { reader with pushed := true, last := { kind := .finish } }
      return .inr (Command.ofList commands)
    match token.kind with
    | .newline =>
      readDocuments nested
      return .inr (Command.ofList commands)
    | .finish => finish
    | kind =>
      pushBack
      if skips && kind.closes && (ends = .closerOrEmpty || !commands.isEmpty) then
        return .inr (Command.ofList commands)
      let next ← readJoined nested
      let token ← readToken nested
      let next := if token.kind = .ampersand then next.inBackground else next
      let commands := commands ++ [next]
      match token.kind with
      | .finish =>
        readDocuments nested
        modify fun reader => { reader with pushed := true, last := { kind := .finish } }
        return .inr (Command.ofList commands)
      | .newline =>
        pushBack
        return .inl commands
      | .ampersand => return .inl commands
      | .semicolon => return .inl commands
      | _ =>
        if !skips then unexpected
        pushBack
        return .inr (Command.ofList commands)) patience []

/-- How deep commands can be nested. -/
def maxDepth : Nat := 1000

/-- Reads the commands of a substitution and the parenthesis behind them. -/
def readSubstituted (nested : Nested) : Parser (Option Command) := do
  let announced := (← get).announced
  modify fun reader => { reader with announced := [] }
  let body ← nested.commands .closerOrEmpty
  expect nested .closing
  modify fun reader => { reader with announced }
  return body

/-- What reads commands that are nested no deeper than the fuel. -/
def Nested.ofDepth : Nat → Nested
  | 0 => ⟨fun _ => fail "too deep", fun _ => fail "too deep", fail "too deep"⟩
  | fuel + 1 =>
    let inner := Nested.ofDepth fuel
    { commands := fun ends => readSequence inner ends
      command := fun check => readCommand inner check
      substituted := readSubstituted inner }

/-- The commands up to the end of a line. -/
inductive CommandLine where
  | finished
  | commands (command : Option Command)

/-- Reads the commands up to the end of a line. -/
def Parser.commandLine : Parser CommandLine := do
  modify fun reader => { reader with pushed := false, announced := [] }
  let command ← (Nested.ofDepth maxDepth).commands .line
  let reader ← get
  match command with
  | some command => return .commands (some command)
  | none =>
    return if reader.pushed && reader.last.kind = .finish then .finished else .commands none

/-- Whether the end of the script has been read. -/
def Reader.isFinished (reader : Reader) : Bool := reader.pushed && reader.last.kind = .finish

end LineShell.Script
