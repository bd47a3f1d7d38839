import LineShell.Bytes
import LineShell.Script.Grammar

/-!
# Arithmetic

Expressions over numbers of 64 bits, which wrap around. `Arithmetic.evaluate` computes one from
its text; variables are looked up in, and assigned to, a state that the caller gives.
-/

namespace LineShell.Script.Arithmetic

/-! ## Numbers -/

/-- The largest number. -/
def largest : Int := 9223372036854775807

/-- The number of 64 bits that an integer wraps around to. -/
def wrap (n : Int) : Int := Int.bmod n 18446744073709551616

def hexValue (b : UInt8) : Nat :=
  if isDigit b then b.toNat - 0x30
  else if 0x61 ≤ b && b ≤ 0x66 then b.toNat - 0x57
  else if 0x41 ≤ b && b ≤ 0x46 then b.toNat - 0x37
  else 16

/-- The digits at the beginning of a text and the base they are written in. -/
def digitsOf (text : Bytes) : Nat × Bytes × Bytes :=
  let take (base : Nat) (text : Bytes) : Nat × Bytes × Bytes :=
    let digits := text.takeWhile (hexValue · < base)
    (base, digits, text.drop digits.length)
  match text with
  | 0x30 :: x :: b :: rest =>
    if (x = 0x78 || x = 0x58) && hexValue b < 16 then take 16 (b :: rest) else take 8 text
  | 0x30 :: _ => take 8 text
  | _ => take 10 text

/-- The number that digits of a base stand for. -/
def valueIn (base : Nat) (digits : Bytes) : Nat :=
  digits.foldl (fun n b => n * base + hexValue b) 0

/-- The number at the beginning of a text, and the rest. A number that is too large becomes the
largest. -/
def numberAt (text : Bytes) : Int × Bytes :=
  let (base, digits, rest) := digitsOf text
  (min (valueIn base digits) largest, rest)

def isSpace (b : UInt8) : Bool := b = Bytes.space || (0x09 ≤ b && b ≤ 0x0d)

/-- The number that a whole text is; the base is ten unless it may be written otherwise. -/
def number? (anyBase : Bool) (text : Bytes) : Option Int :=
  let text := text.dropWhile isSpace
  let (negative, text) := match text with
    | 0x2d :: rest => (true, rest)
    | 0x2b :: rest => (false, rest)
    | _ => (false, text)
  let (base, digits, rest) :=
    if anyBase then digitsOf text
    else (10, text.takeWhile isDigit, text.dropWhile isDigit)
  let magnitude : Int := valueIn base digits
  let value := if negative then -magnitude else magnitude
  if digits.isEmpty || !rest.all isSpace || largest < value || value < -largest - 1 then none
  else some value

/-- The number that the value of a variable is. -/
def ofVariable? (value : Bytes) : Option Int :=
  if value.all isSpace then some 0 else number? true value

/-! ## Tokens -/

inductive Operator where
  | multiply
  | divide
  | remainder
  | add
  | subtract
  | shiftLeft
  | shiftRight
  | less
  | atMost
  | greater
  | atLeast
  | equal
  | unequal
  | bitAnd
  | bitXor
  | bitOr
  deriving DecidableEq, Repr

/-- Operators with a lower rank bind tighter. -/
def Operator.rank : Operator → Nat
  | multiply => 0
  | divide => 0
  | remainder => 0
  | add => 1
  | subtract => 1
  | shiftLeft => 2
  | shiftRight => 2
  | less => 3
  | atMost => 3
  | greater => 3
  | atLeast => 3
  | equal => 4
  | unequal => 4
  | bitAnd => 5
  | bitXor => 6
  | bitOr => 7

/-- The rank that no operator has. -/
def maxRank : Nat := 8

inductive Token where
  | finish
  | unknown
  | number (n : Int)
  | variable (name : Bytes)
  | operator (operator : Operator)
  /-- An assignment, of what the operator gives if there is one. -/
  | assign (operator : Option Operator)
  | opening
  | closing
  | both
  | either
  | «not»
  | complement
  | question
  | colon
  deriving DecidableEq, Repr

/-- The signs, of which a longer one comes before its beginning. -/
def signs : List (Bytes × Token) := [
  ("<<=", Token.assign (some .shiftLeft)), (">>=", .assign (some .shiftRight)),
  ("&&", .both), ("||", .either), ("<<", .operator .shiftLeft), (">>", .operator .shiftRight),
  ("<=", .operator .atMost), (">=", .operator .atLeast), ("==", .operator .equal),
  ("!=", .operator .unequal), ("*=", .assign (some .multiply)), ("/=", .assign (some .divide)),
  ("%=", .assign (some .remainder)), ("+=", .assign (some .add)),
  ("-=", .assign (some .subtract)), ("&=", .assign (some .bitAnd)),
  ("^=", .assign (some .bitXor)), ("|=", .assign (some .bitOr)), ("*", .operator .multiply),
  ("/", .operator .divide), ("%", .operator .remainder), ("+", .operator .add),
  ("-", .operator .subtract), ("<", .operator .less), (">", .operator .greater),
  ("&", .operator .bitAnd), ("^", .operator .bitXor), ("|", .operator .bitOr),
  ("=", .assign none), ("(", .opening), (")", .closing), ("!", .not), ("~", .complement),
  ("?", .question), (":", .colon)].map fun (sign, token) => (bytes sign, token)

/-- The token at the beginning of a text, and the rest. -/
def tokenAt (text : Bytes) : Token × Bytes :=
  match text.dropWhile fun b => b = Bytes.space || b = 0x09 || b = Bytes.newline with
  | [] => (.finish, [])
  | b :: rest =>
    let text := b :: rest
    if isDigit b then
      let (n, rest) := numberAt text
      (.number n, rest)
    else if startsName b then (.variable (nameAt text), text.dropWhile Bytes.isNameByte)
    else
      match signs.find? fun (sign, _) => sign.isPrefixOf text with
      | some (sign, token) => (token, text.drop sign.length)
      | none => (.unknown, rest)

/-! ## Evaluation -/

/-- Why an expression has no value. -/
inductive Failure where
  | expression (message : String)
  /-- The value of a variable is no number. -/
  | badNumber (value : Bytes)
  /-- A variable that cannot be assigned. -/
  | refused (message : Bytes)
  /-- The quotient of the least number and minus one. -/
  | overflow

/-- How variables are looked up and assigned. -/
structure Variables (σ : Type) where
  get : σ → Bytes → Option Bytes
  set : σ → Bytes → Bytes → Except Bytes σ

/-- The state of the variables and the tokens that are left: the next one, and the text after
it. -/
structure State (σ : Type) where
  bindings : σ
  token : Token
  text : Bytes

abbrev Evaluation (σ : Type) := StateT (State σ) (Except Failure)

variable {σ : Type}

def fail {α : Type} (message : String) : Evaluation σ α := throw (.expression message)

/-- The next token. -/
def current : Evaluation σ Token := return (← get).token

/-- Goes on to the token after the next. -/
def advance : Evaluation σ Unit :=
  modify fun state =>
    let (token, text) := tokenAt state.text
    { state with token, text }

/-- A shift to the right keeps the sign. -/
def apply (operator : Operator) (a b : Int) : Evaluation σ Int :=
  let truth (p : Bool) : Evaluation σ Int := return if p then 1 else 0
  let bits (n : Int) : Nat := (n % 18446744073709551616).toNat
  let count := bits b % 64
  match operator with
  | .multiply => return wrap (a * b)
  | .divide =>
    if b = 0 then fail "division by zero"
    else if b = -1 && a = -largest - 1 then throw .overflow
    else return Int.tdiv a b
  | .remainder =>
    if b = 0 then fail "division by zero"
    else if b = -1 && a = -largest - 1 then throw .overflow
    else return Int.tmod a b
  | .add => return wrap (a + b)
  | .subtract => return wrap (a - b)
  | .shiftLeft => return wrap ((bits a <<< count : Nat) : Int)
  | .shiftRight => return a >>> count
  | .less => truth (a < b)
  | .atMost => truth (a ≤ b)
  | .greater => truth (b < a)
  | .atLeast => truth (b ≤ a)
  | .equal => truth (a = b)
  | .unequal => truth (a ≠ b)
  | .bitAnd => return wrap ((bits a &&& bits b : Nat) : Int)
  | .bitXor => return wrap ((bits a ^^^ bits b : Nat) : Int)
  | .bitOr => return wrap ((bits a ||| bits b : Nat) : Int)

/-- The number in a variable; one that is not set has zero. -/
def valueOf (vars : Variables σ) (name : Bytes) : Evaluation σ Int := do
  let value := (vars.get (← get).bindings name).getD []
  match ofVariable? value with
  | some n => return n
  | none => throw (.badNumber value)

def assign (vars : Variables σ) (name : Bytes) (n : Int) : Evaluation σ Int := do
  match vars.set (← get).bindings name (bytes (toString n)) with
  | .ok bindings =>
    modify fun state => { state with bindings }
    return n
  | .error message => throw (.refused message)

/-- What can be evaluated. -/
inductive Goal where
  /-- A number, a variable, or an expression in parentheses, with the signs before it. -/
  | primary
  /-- An operand and what operators of a rank below the given one join to it. -/
  | joined (rank : Nat)
  | conjunction
  | disjunction
  | condition
  /-- A whole expression. -/
  | assignment

/-- Evaluates the next part of the tokens; nothing is looked up or assigned if it is skipped. At
most `fuel` parts are inside one another. -/
def eval (vars : Variables σ) : Nat → Bool → Goal → Evaluation σ Int
  | 0, _, _ => fail "too deep"
  | fuel + 1, skipped, goal => do
    let eval (skipped : Bool) (goal : Goal) : Evaluation σ Int := eval vars fuel skipped goal
    let truth (p : Bool) : Int := if p then 1 else 0
    match goal with
    | .primary =>
      let token ← current
      match token with
      | .number n =>
        advance
        return n
      | .variable name =>
        advance
        if skipped then return 0 else valueOf vars name
      | .opening =>
        advance
        let n ← eval skipped .assignment
        if (← current) ≠ .closing then fail "expecting ')'"
        advance
        return n
      | .operator .add =>
        advance
        eval skipped .primary
      | .operator .subtract =>
        advance
        return wrap (-(← eval skipped .primary))
      | .not =>
        advance
        return truth ((← eval skipped .primary) = 0)
      | .complement =>
        advance
        return -(← eval skipped .primary) - 1
      | _ => fail "expecting primary"
    | .joined rank =>
      let rec join (rank : Nat) (operand : Nat → Evaluation σ Int) : Nat → Int →
          Evaluation σ Int
        | 0, _ => fail "too deep"
        | count + 1, a => do
          match ← current with
          | .operator operator =>
            if rank ≤ operator.rank then return a
            else
              advance
              let b ← operand operator.rank
              let c ← if skipped then pure b else apply operator a b
              join rank operand count c
          | _ => return a
      let first ← eval skipped .primary
      join rank (fun rank => eval skipped (.joined rank)) fuel first
    | .conjunction =>
      let a ← eval skipped (.joined maxRank)
      if (← current) ≠ .both then return a
      advance
      let b ← eval (skipped || a = 0) .conjunction
      return truth (a ≠ 0 && b ≠ 0)
    | .disjunction =>
      let a ← eval skipped .conjunction
      if (← current) ≠ .either then return a
      advance
      let b ← eval (skipped || a ≠ 0) .disjunction
      return truth (a ≠ 0 || b ≠ 0)
    | .condition =>
      let a ← eval skipped .disjunction
      if (← current) ≠ .question then return a
      advance
      let b ← eval (skipped || a = 0) .assignment
      if (← current) ≠ .colon then fail "expecting ':'"
      advance
      let c ← eval (skipped || a ≠ 0) .condition
      return if a ≠ 0 then b else c
    | .assignment =>
      match ← current, tokenAt (← get).text with
      | .variable name, (.assign operator, text) =>
        modify fun state => { state with text }
        advance
        let n ← eval skipped .assignment
        if skipped then return n
        match operator with
        | none => assign vars name n
        | some operator => do
          let result ← apply operator (← valueOf vars name) n
          assign vars name result
      | _, _ => eval skipped .condition

/-- The value of an expression, and the variables afterwards. -/
def evaluate (vars : Variables σ) (bindings : σ) (text : Bytes) : Except Failure (Int × σ) :=
  let expression : Evaluation σ Int := do
    advance
    let n ← eval vars (8 * text.length + 8) false .assignment
    if (← current) ≠ .finish then fail "expecting EOF"
    return n
  match expression.run ⟨bindings, .finish, text⟩ with
  | .ok (n, state) => .ok (n, state.bindings)
  | .error failure => .error failure

end LineShell.Script.Arithmetic
