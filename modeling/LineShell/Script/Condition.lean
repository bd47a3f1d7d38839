import LineShell.Machine.Utility.Date
import LineShell.Script.Frame

/-!
# Conditions

The conditions of the command `test`: comparisons of texts and of numbers, properties of files, and
what is joined to them by `and`, `or` and `not`. What a word means depends on the words behind it,
so that the names of operators can also be compared.
-/

namespace LineShell.Script.Condition

/-- Properties of files. -/
inductive FileTest where
  | isReadable
  | isWritable
  | isExecutable
  | is
  | isFile
  | isDirectory
  | isDevice
  | isBlockDevice
  | isPipe
  | isSocket
  | isLink
  | isNotEmpty
  | isOwned
  | hasBit (bit : Nat)
  deriving DecidableEq, Repr

inductive Comparison where
  | same
  | different
  | before
  | after
  | equal
  | unequal
  | atLeast
  | greater
  | atMost
  | less
  | newer
  | older
  | sameFile
  deriving DecidableEq, Repr

inductive Operator where
  | file (test : FileTest)
  | isTerminal
  | isEmpty
  | isNotEmpty
  | compare (comparison : Comparison)
  | «not»
  | and
  | or
  | opening
  | closing
  deriving DecidableEq, Repr

def operators : List (Bytes × Operator) := [
  ("-r", Operator.file .isReadable), ("-w", .file .isWritable), ("-x", .file .isExecutable),
  ("-e", .file .is), ("-f", .file .isFile), ("-d", .file .isDirectory), ("-c", .file .isDevice),
  ("-b", .file .isBlockDevice), ("-p", .file .isPipe), ("-u", .file (.hasBit 0o4000)),
  ("-g", .file (.hasBit 0o2000)), ("-k", .file (.hasBit 0o1000)), ("-s", .file .isNotEmpty),
  ("-h", .file .isLink), ("-L", .file .isLink), ("-S", .file .isSocket), ("-O", .file .isOwned),
  ("-G", .file .isOwned), ("-t", .isTerminal), ("-z", .isEmpty), ("-n", .isNotEmpty),
  ("=", .compare .same), ("!=", .compare .different), ("<", .compare .before),
  (">", .compare .after), ("-eq", .compare .equal), ("-ne", .compare .unequal),
  ("-ge", .compare .atLeast), ("-gt", .compare .greater), ("-le", .compare .atMost),
  ("-lt", .compare .less), ("-nt", .compare .newer), ("-ot", .compare .older),
  ("-ef", .compare .sameFile), ("!", .not), ("-a", .and), ("-o", .or), ("(", .opening),
  (")", .closing)].map fun (name, operator) => (bytes name, operator)

/-- Whether an operator stands before one operand. -/
def Operator.isUnary : Operator → Bool
  | file _ => true
  | isTerminal => true
  | isEmpty => true
  | isNotEmpty => true
  | _ => false

def Operator.isComparison : Operator → Bool
  | compare _ => true
  | _ => false

/-- What the first of some words is, in view of the others. -/
inductive Token where
  | finish
  | operand
  | operator (operator : Operator)
  deriving DecidableEq, Repr

/-- Whether the name of an operator before one operand is itself an operand. -/
def isOperand : List Bytes → Bool
  | [] => true
  | [_] => false
  | word :: _ => (operators.lookup word).any Operator.isComparison

def tokenOf : List Bytes → Token
  | [] => .finish
  | word :: rest =>
    match operators.lookup word with
    | none => .operand
    | some operator =>
      if operator.isUnary && isOperand rest then .operand
      else if operator = .opening && rest.isEmpty then .operand
      else .operator operator

/-! ## Evaluation -/

def modeOf : Node → Nat
  | .file _ mode => mode
  | .directory _ _ mode => mode
  | .program _ => 0o755
  | _ => 0o666

/-- Whether a file has a property. -/
def checkFile (frame : Frame) (test : FileTest) (path : Bytes) : Bool :=
  let node? := frame.nodeAt? path
  match test, node? with
  | .isLink, _ =>
    match (frame.machine.tree.walkToLink frame.standpoint path).toOption.bind
        frame.machine.tree.node? with
    | some (.link _) => true
    | some (.descriptor _) => true
    | _ => false
  | _, none => false
  | .isExecutable, some (.directory ..) => true
  | .isExecutable, some node => modeOf node &&& 0o111 ≠ 0
  | .isFile, some node => Frame.isRegular node
  | .isDirectory, some (.directory ..) => true
  | .isDirectory, _ => false
  | .isDevice, some (.device _) => true
  | .isDevice, _ => false
  | .isBlockDevice, _ => false
  | .isPipe, some (.pipe _) => true
  | .isPipe, _ => false
  | .isSocket, _ => false
  | .isNotEmpty, some (.file content _) => !content.isEmpty
  | .isNotEmpty, some (.device _) => false
  | .isNotEmpty, some (.pipe _) => false
  | .hasBit bit, some node => modeOf node &&& bit ≠ 0
  | _, some _ => true

/-- The time of the last change of what is at a path, if anything is. -/
def timeOf? (frame : Frame) (path : Bytes) : Option Int :=
  match (frame.walk path).toOption with
  | none => none
  | some node =>
    let unset := match frame.machine.tree.node? node with
      | some (.program _) => Utility.Date.ofPrograms
      | _ => Utility.Date.now
    some ((frame.machine.times.lookup node).getD unset)

/-- Whether one file has changed after another one. -/
def isNewer (frame : Frame) (a b : Bytes) : Bool :=
  match timeOf? frame a, timeOf? frame b with
  | some m, some n => n < m
  | _, _ => false

def compare (comparison : Comparison) (a b : Bytes) : Action Bool := do
  let frame ← get
  let numbers (p : Int → Int → Bool) : Action Bool := do
    return p (← Action.integer a) (← Action.integer b)
  match comparison with
  | .same => return a = b
  | .different => return a ≠ b
  | .before => return Bytes.le a b && a ≠ b
  | .after => return Bytes.le b a && a ≠ b
  | .equal => numbers (· = ·)
  | .unequal => numbers (· ≠ ·)
  | .atLeast => numbers (· ≥ ·)
  | .greater => numbers (· > ·)
  | .atMost => numbers (· ≤ ·)
  | .less => numbers (· < ·)
  | .newer => return isNewer frame a b
  | .older => return isNewer frame b a
  | .sameFile =>
    match frame.walk a, frame.walk b with
    | .ok m, .ok n => return m = n
    | _, _ => return false

/-- The words from the one on that is being looked at. -/
abbrev Evaluation := StateT (List Bytes) Action

/-- Fails because of a word, or because of all of them. -/
def fail {α : Type} (word : Bytes) (message : String) : Evaluation α :=
  Action.fail (if word.isEmpty then bytes message else word ++ bytes (": " ++ message))

/-- Goes on by some words and says what is there. -/
def skip (count : Nat) : Evaluation Token := do
  modify (·.drop count)
  return tokenOf (← get)

/-- What comes after the current word. -/
def next : Evaluation Token := return tokenOf (← get).tail

/-- An operand, or what an operator makes of the words behind it. -/
def primary (disjunction : Token → Evaluation Bool) (token : Token) : Evaluation Bool := do
  let word := (← get).head?.getD []
  match token with
  | .finish => return false
  | .operator .opening =>
    let token ← skip 1
    if token = .operator .closing then return false
    let result ← disjunction token
    if (← skip 1) ≠ .operator .closing then fail [] "closing paren expected"
    return result
  | _ =>
    let unary? := match token with
      | .operator operator => if operator.isUnary then some operator else none
      | _ => none
    match unary? with
    | some operator =>
      let _ ← skip 1
      match (← get).head? with
      | none => fail word "argument expected"
      | some operand =>
        match operator with
        | .isEmpty => return operand.isEmpty
        | .isNotEmpty => return !operand.isEmpty
        | .file test => return checkFile (← getThe Frame) test operand
        | _ =>
          let _ ← Action.integer operand
          return false
    | none =>
      match ← next with
      | .operator (.compare comparison) =>
        let sign := (← get).tail.head?.getD []
        let _ ← skip 2
        match (← get).head? with
        | none => fail sign "argument expected"
        | some operand => compare comparison word operand
      | _ => return !word.isEmpty

/-- A condition with its negations. -/
def negation (disjunction : Token → Evaluation Bool) : Nat → Token → Evaluation Bool
  | 0, _ => return false
  | fuel + 1, token => do
    if token ≠ .operator .not then primary disjunction token
    else
      let token ← next
      if token ≠ .finish then modify List.tail
      return !(← negation disjunction fuel token)

/-- Conditions that are joined by an operator. -/
def joined (operator : Operator) (operand : Token → Evaluation Bool) :
    Nat → Token → Evaluation (List Bool)
  | 0, _ => return []
  | fuel + 1, token => do
    let result ← operand token
    if (← next) ≠ .operator operator then return [result]
    let token ← skip 2
    return result :: (← joined operator operand fuel token)

/-- Conditions joined by `or`; conditions in parentheses are nested no deeper than the fuel. -/
def disjunction : Nat → Token → Evaluation Bool
  | 0, _ => return false
  | fuel + 1, token => do
    let inner (token : Token) : Evaluation Bool := disjunction fuel token
    let conjunction (token : Token) : Evaluation Bool := do
      return (← joined .and (negation inner (fuel + 1)) (fuel + 1) token).all id
    return (← joined .or conjunction (fuel + 1) token).any id

/-- Evaluates all words as a condition. -/
def evaluateAs (token : Token) (words : List Bytes) : Action Bool := do
  let (result, rest) ← (disjunction (words.length + 1) token).run words
  match rest with
  | word :: _ :: _ => Action.fail (word ++ bytes ": unexpected operator")
  | _ => return result

/-- Evaluates the words of a condition. What few words mean is fixed by their number. -/
def evaluate : Nat → List Bytes → Action Bool
  | 0, _ => return false
  | _, [] => return false
  | fuel + 1, words => do
    let isNegated : Bool := words.head? = some (bytes "!")
    let isEnclosed : Bool :=
      words.head? = some (bytes "(") && words.getLast? = some (bytes ")")
    let isComparison : Bool := match words with
      | [_, operator, _] => (operators.lookup operator).any Operator.isComparison
      | _ => false
    if isComparison then evaluateAs .operand words
    else if words.length = 3 || words.length = 4 then
      if isEnclosed then
        let inner := words.tail.dropLast
        evaluateAs (tokenOf inner) inner
      else if isNegated then return !(← evaluate fuel words.tail)
      else evaluateAs (tokenOf words) words
    else evaluateAs (tokenOf words) words

end LineShell.Script.Condition
