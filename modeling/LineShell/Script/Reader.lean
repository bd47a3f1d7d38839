import LineShell.Pieces
import LineShell.Script.Grammar

/-!
# Reading a script

A `Reader` is at some point of a script, of which perhaps only the beginning is there yet. Reading
on ends in a `Fault` if more of the script is needed, or if it is wrong. `readWord` reads a word,
given what reads the commands inside of it, and `readDocuments` the documents that commands on the
last line have announced.
-/

namespace LineShell.Script

/-- What a token is. -/
inductive Kind where
  | finish
  | newline
  | semicolon
  | ampersand
  | both
  | either
  | pipe
  | opening
  | closing
  | clauseEnd
  | redirect
  | word
  | keyword (name : String)
  deriving DecidableEq, Repr

/-- How a kind of token is called in messages. -/
def Kind.text : Kind → String
  | finish => "end of file"
  | newline => "newline"
  | semicolon => "\";\""
  | ampersand => "\"&\""
  | both => "\"&&\""
  | either => "\"||\""
  | pipe => "\"|\""
  | opening => "\"(\""
  | closing => "\")\""
  | clauseEnd => "\";;\""
  | redirect => "redirection"
  | word => "word"
  | keyword name => "\"" ++ name ++ "\""

structure Token where
  kind : Kind
  /-- The word, if it is one, and whether something in it is quoted. -/
  pieces : Word := []
  quoted : Bool := false
  /-- The sign of a redirection and the descriptor named before it. -/
  sign : Sign := .read
  number : Option Nat := none

/-- Why reading has stopped. -/
inductive Fault where
  /-- There is more of the script to come. -/
  | incomplete
  | wrong (line : Nat) (message : Bytes)

/-- A document that begins on the next line, and the line that ends it. -/
structure Announcement where
  index : Nat
  delimiter : Bytes
  stripsTabs : Bool
  /-- Whether the document is taken as it is. -/
  quoted : Bool

/-- The value of an alias that is being read. -/
structure Layer where
  name : Bytes
  /-- Whether the word after the value may be an alias, too. -/
  goesOn : Bool
  /-- What follows the value. -/
  after : Bytes

structure Reader where
  text : Bytes
  layers : List Layer := []
  /-- Whether the text goes to the end of the script. -/
  closed : Bool
  line : Nat := 1
  aliases : List (Bytes × Bytes) := []
  documents : Array Word := #[]
  announced : List Announcement := []
  /-- The last token, and whether it is to be read again. -/
  last : Token := ⟨.newline, [], false, .read, none⟩
  pushed : Bool := false
  /-- Whether something in the word that is being read is quoted. -/
  sawQuote : Bool := false
  /-- Whether the value of an alias has ended that lets the next word be an alias. -/
  aliasNext : Bool := false

abbrev Parser := EStateM Fault Reader

namespace Parser

def fail {α : Type} (message : String) : Parser α := do
  throw (.wrong (← get).line (bytes ("Syntax error: " ++ message)))

/-- Repeats a step until it has a result. -/
def iterate {α β : Type} (step : α → Parser (α ⊕ β)) : Nat → α → Parser β
  | 0, _ => fail "too long"
  | count + 1, a => do
    match ← step a with
    | .inl next => iterate step count next
    | .inr result => return result

/-- How often a step can be repeated. -/
def patience : Nat := 1000000

/-! ## Bytes -/

/-- Leaves the values of aliases that have been read to their end. -/
def leave (reader : Reader) : List Layer → Reader
  | [] => { reader with layers := [] }
  | layer :: layers =>
    if reader.text.isEmpty then
      leave { reader with
        text := layer.after
        aliasNext := reader.aliasNext || layer.goesOn } layers
    else { reader with layers := layer :: layers }

/-- Drops line ends with a backslash before them. -/
def dropJoined : Nat → Bytes → Nat × Bytes
  | line, 0x5c :: 0x0a :: rest => dropJoined (line + 1) rest
  | line, text => (line, text)

/-- The next byte, if there is one; a backslash before a line end joins the lines. -/
def peek (joins : Bool := true) : Parser (Option UInt8) := do
  let reader := ← get
  let reader := leave reader reader.layers
  let (line, text) := if joins then dropJoined reader.line reader.text
    else (reader.line, reader.text)
  let reader := { reader with line, text }
  let reader := leave reader reader.layers
  set reader
  match reader.text with
  | [] => if reader.closed then return none else throw .incomplete
  | [b] =>
    if joins && b = 0x5c && !reader.closed && reader.layers.isEmpty then throw .incomplete
    else return some b
  | b :: _ => return some b

/-- Goes on to the byte after the next. -/
def advance : Parser Unit :=
  modify fun reader =>
    match reader.text with
    | [] => reader
    | b :: text =>
      { reader with text, line := if b = Bytes.newline then reader.line + 1 else reader.line }

/-- Takes the next byte if it is the given one. -/
def accept (b : UInt8) : Parser Bool := do
  if (← peek) = some b then
    advance
    return true
  else return false

/-- Takes bytes as long as they belong to a class. -/
def takeWhile (p : UInt8 → Bool) : Parser Bytes :=
  iterate (fun taken => do
    match ← peek with
    | some b =>
      if p b then
        advance
        return .inl (b :: taken)
      else return .inr taken.reverse
    | none => return .inr taken.reverse) patience []

/-- Reads a text as a script of its own. -/
def inside {α : Type} (text : Bytes) (parser : Parser α) : Parser α := fun reader =>
  let inner := { reader with
    text, layers := [], closed := true, line := 1, announced := [], pushed := false }
  match parser inner with
  | .ok a inner => .ok a { reader with documents := inner.documents }
  | .error fault _ => .error fault reader

end Parser

open LineShell.Script.Parser

/-! ## What is read inside of words -/

/-- What is done with a token: newlines before it are skipped, a word that is a keyword is one, and
a word that is an alias is replaced by its value. -/
structure Check where
  newlines : Bool := false
  keywords : Bool := false
  aliases : Bool := false

def Check.all : Check := ⟨true, true, true⟩

/-- How a sequence of commands ends. -/
inductive Ends where
  /-- At the end of a line. -/
  | line
  /-- At a token that closes it; it has at least one command. -/
  | closer
  /-- At a token that closes it. -/
  | closerOrEmpty
  deriving DecidableEq, Repr

/-- What reads the commands inside of others. -/
structure Nested where
  /-- A sequence of commands. -/
  commands : Ends → Parser (Option Command)
  /-- A command. -/
  command : Check → Parser Command
  /-- A sequence of commands and the parenthesis behind it. -/
  substituted : Parser (Option Command)

/-- Reads a whole text as commands. -/
def Nested.backquoted (nested : Nested) : Parser (Option Command) :=
  nested.commands .closerOrEmpty

/-! ## Words -/

/-- How what is between quotes is read. -/
inductive Quoting where
  | unquoted
  | double
  | arithmetic
  deriving DecidableEq, Repr

/-- Where a piece of a word stands. -/
structure Context where
  quoting : Quoting := .unquoted
  /-- Whether it is between the braces of a parameter. -/
  braces : Bool := false
  /-- Whether it is in a document, where double quotes stand for themselves. -/
  document : Bool := false
  /-- Whether nothing is expanded. -/
  verbatim : Bool := false

def Context.isQuoted (context : Context) : Bool := context.quoting ≠ .unquoted

/-- Whether the byte ends a word that is not quoted. -/
def endsWord (b : UInt8) : Bool := (bytes " \t\n;&|<>()").contains b

/-- Whether the byte names a parameter by itself. -/
def isSpecial (b : UInt8) : Bool := isDigit b || (bytes "@*#?$!-").contains b

def noteQuote : Parser Unit := modify fun reader => { reader with sawQuote := true }

/-- Reads what is between single quotes. -/
def readSingle : Parser Word :=
  iterate (fun word => do
    match ← peek false with
    | none => fail "Unterminated quoted string"
    | some b =>
      advance
      if b = 0x27 then
        noteQuote
        return .inr (Piece.mark :: word.reverse ++ [.mark])
      else return .inl (.byte b true :: word)) patience []

/-- Reads what a backslash has been put before. -/
def readEscaped (context : Context) : Parser Word := do
  noteQuote
  match ← peek false with
  | none => return [.byte 0x5c true]
  | some b =>
    advance
    let isEscape : Bool := !context.isQuoted || b = 0x5c || b = 0x60 || b = Bytes.dollar ||
      (b = 0x22 && !(context.document && !context.braces)) || (b = 0x7d && context.braces)
    return if isEscape then [.byte b true] else [.byte 0x5c true, .byte b true]

/-- Reads what is between backquotes, without the backslashes that they take away. -/
def readBackquoted (inQuotes : Bool) : Parser Bytes :=
  iterate (fun text => do
    match ← peek with
    | none => fail "EOF in backquote substitution"
    | some b =>
      advance
      if b = 0x60 then return .inr text.reverse
      else if b = 0x5c then
        match ← peek false with
        | none => return .inl (b :: text)
        | some c =>
          advance
          if c = 0x5c || c = 0x60 || c = Bytes.dollar || (inQuotes && c = 0x22) then
            return .inl (c :: text)
          else return .inl (c :: b :: text)
      else return .inl (b :: text)) patience []

/-- The start of a parameter between braces: its name, and whether its length is asked for. There
is none if no parameter can be meant. -/
def readParameter : Parser (Option (Bytes × Bool)) := do
  let named : Parser Bytes := do
    match ← peek with
    | some b =>
      if isDigit b then takeWhile isDigit
      else if startsName b then takeWhile Bytes.isNameByte
      else return []
    | none => return []
  let name ← named
  if !name.isEmpty then return some (name, false)
  match ← peek with
  | none => return none
  | some 0x7d => return none
  | some b =>
    advance
    if b ≠ 0x23 then return if isSpecial b then some ([b], false) else none
    let name ← named
    if !name.isEmpty then return some (name, true)
    let reader ← get
    match ← peek with
    | none => return some ([b], false)
    | some c =>
      if c ≠ 0x7d then
        advance
        if (← peek) = some 0x7d then return if isSpecial c then some ([c], true) else none
      set reader
      return some ([b], false)

/-- What is cut off at a side; one sign asks for the shortest part, two for the longest. -/
def Cut.ofSigns (atStart twice : Bool) : Cut :=
  match atStart, twice with
  | true, false => .shortestStart
  | true, true => .longestStart
  | false, false => .shortestEnd
  | false, true => .longestEnd

/-- The use with a sign and a word. -/
def Use.ofSign (sign : UInt8) (emptyToo : Bool) (word : Word) : Use :=
  if sign = 0x2d then .orElse emptyToo word
  else if sign = 0x2b then .whenSet emptyToo word
  else if sign = 0x3d then .assign emptyToo word
  else if sign = 0x3f then .demand emptyToo word
  else .unknown

/-- Reads a parameter between braces; the opening one has been read. -/
def readBraces (context : Context) (pieces : Context → Parser Word) : Parser Piece := do
  let sameQuotes := { context with
    quoting := if context.quoting = .arithmetic then .double else context.quoting
    braces := true }
  let piece (name : Bytes) (use : Use) : Piece := .parameter name use context.isQuoted
  let rest (name : Bytes) (use : Use) : Parser Piece := do
    let _ ← pieces sameQuotes
    return piece name use
  match ← readParameter with
  | none => rest [] .unknown
  | some (name, true) => rest name (if (← peek) = some 0x7d then .length else .unknown)
  | some (name, false) =>
    match ← peek with
    | none => rest name .unknown
    | some b =>
      advance
      if b = 0x7d then return piece name .value
      else if b = 0x23 || b = 0x25 then
        let longest ← accept b
        let pattern ← pieces { sameQuotes with quoting := .unquoted }
        return piece name (.cut (Cut.ofSigns (b = 0x23) longest) pattern)
      else
        let emptyToo : Bool := b = Bytes.colon
        let sign? ← if emptyToo then peek else pure (some b)
        if emptyToo then advance
        let word ← pieces sameQuotes
        return piece name (Use.ofSign (sign?.getD 0) emptyToo word)

/-- Reads what follows a dollar sign. -/
def readDollar (nested : Nested) (context : Context)
    (pieces : Context → Parser Word) : Parser Piece := do
  let quoted := context.isQuoted
  match ← peek with
  | none => return .byte Bytes.dollar quoted
  | some b =>
    if context.verbatim then return .byte Bytes.dollar quoted
    else if b = 0x28 then
      advance
      if ← accept 0x28 then
        let inside : Context := { quoting := .arithmetic, document := context.document }
        return .arithmetic (← pieces inside) quoted
      else
        let sawQuote := (← get).sawQuote
        let body ← nested.substituted
        modify fun reader => { reader with sawQuote }
        return .output body quoted
    else if b = 0x7b then
      advance
      readBraces context pieces
    else if startsName b then
      return .parameter (← takeWhile Bytes.isNameByte) .value quoted
    else if isSpecial b then
      advance
      return .parameter [b] .value quoted
    else return .byte Bytes.dollar quoted

/-- What is wrong with a script that ends in a context, if it cannot end there. -/
def Context.complaint? (context : Context) : Option String :=
  match context.quoting with
  | .arithmetic => some "Missing '))'"
  | .double =>
    if !context.document then some "Unterminated quoted string"
    else if context.braces then some "Missing '\x7d'"
    else none
  | .unquoted => if context.braces then some "Missing '\x7d'" else none

/-- Reads pieces up to where their context ends; there is no more to them than the fuel. `inner`
says whether double quotes are open between braces that are themselves quoted, and `depth` how many
parentheses are. -/
def readPieces (nested : Nested) :
    Nat → Context → Bool → Nat → Word → Parser Word
  | 0, _, _, _, _ => fail "too long"
  | fuel + 1, context, inner, depth, word => do
    let pieces (context : Context) : Parser Word :=
      readPieces nested fuel context false 0 []
    let goOn (more : Word) : Parser Word :=
      readPieces nested fuel context inner depth (more.reverse ++ word)
    match ← peek with
    | none =>
      match context.complaint? with
      | some message => fail message
      | none => return word.reverse
    | some b =>
      let quoted := context.isQuoted
      if context.quoting = .unquoted && !context.braces && endsWord b then return word.reverse
      advance
      if b = 0x5c then goOn (← readEscaped context)
      else if b = Bytes.dollar then goOn [← readDollar nested context pieces]
      else if b = 0x60 && !context.verbatim then
        let text ← readBackquoted quoted
        goOn [.output (← inside text nested.backquoted) quoted]
      else if b = 0x7d && context.braces && !inner then return word.reverse
      else
        match context.quoting with
        | .unquoted =>
          if b = 0x27 then goOn (← readSingle)
          else if b = 0x22 then
            let between ← pieces { quoting := .double, verbatim := context.verbatim }
            goOn (.mark :: between ++ [.mark])
          else goOn [.byte b false]
        | .double =>
          if b ≠ 0x22 || (context.document && !context.braces) then goOn [.byte b true]
          else
            noteQuote
            if !context.braces then return word.reverse
            else readPieces nested fuel context (!inner) depth (.mark :: word)
        | .arithmetic =>
          if b = 0x22 then goOn []
          else if b = 0x28 then
            readPieces nested fuel context inner (depth + 1) (.byte b true :: word)
          else if b ≠ 0x29 then goOn [.byte b true]
          else if 0 < depth then
            readPieces nested fuel context inner (depth - 1) (.byte b true :: word)
          else if ← accept 0x29 then return word.reverse
          else goOn [.byte b true]

/-- How many bytes are left to read. -/
def Reader.size (reader : Reader) : Nat :=
  reader.layers.foldl (fun size layer => size + layer.after.length) reader.text.length

/-- Reads pieces in a context. -/
def readWord (nested : Nested) (context : Context) : Parser Word := do
  modify fun reader => { reader with sawQuote := false }
  readPieces nested (2 * (← get).size + 2) context false 0 []

/-! ## Documents -/

/-- Whether a line goes on after its end: it ends in an odd number of backslashes. -/
def isContinued (line : Bytes) : Bool := (line.reverse.takeWhile (· = 0x5c)).length % 2 = 1

/-- Takes the lines of a document; the result is the document, how many lines it has, with the one
that ends it, and the lines after it. The last of the lines given has no end yet. -/
def takeDocument (announcement : Announcement) (closed : Bool) :
    Bool → List Bytes → Option (Bytes × Nat × List Bytes)
  | _, [] => some ([], 0, [])
  | continued, line :: lines =>
    let line := if announcement.stripsTabs && !continued then line.dropWhile (· = 0x09) else line
    if lines.isEmpty && !closed then none
    else if !continued && line = announcement.delimiter then
      some ([], if lines.isEmpty then 0 else 1, lines)
    else if lines.isEmpty then some (line, 0, [])
    else
      (takeDocument announcement closed (!announcement.quoted && isContinued line) lines).map
        fun (text, count, rest) => (line ++ Bytes.newline :: text, count + 1, rest)

/-- Reads the documents that have been announced. -/
def readDocuments (nested : Nested) : Parser Unit := do
  let announced := (← get).announced
  modify fun reader => { reader with announced := [] }
  announced.forM fun announcement => do
    let reader ← get
    let whole := reader.layers.foldl (fun text layer => text ++ layer.after) reader.text
    match takeDocument announcement reader.closed false (split Bytes.newline whole) with
    | none => throw .incomplete
    | some (text, count, rest) =>
      let first := reader.line
      let document ←
        if announcement.quoted then pure (Word.ofText text true)
        else
          inside text do
            modify fun reader => { reader with line := first }
            readWord nested { quoting := .double, document := true }
      modify fun reader => { reader with
        text := join Bytes.newline rest
        layers := []
        line := first + count
        documents := reader.documents.setIfInBounds announcement.index document }

end LineShell.Script
