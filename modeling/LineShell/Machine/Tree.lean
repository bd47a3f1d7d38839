import LineShell.Errno
import LineShell.Launch.Descriptors
import LineShell.Pieces

/-!
# File trees

A `Tree` is a list of nodes that are known by their numbers; node 0 is the root. A directory keeps
the numbers of its entries and of the directory above it, so that it is still known after it has
been removed, but then has no path (`Tree.pathOf`). `Tree.walk` follows a path from a standpoint,
through links, of which it takes no more than `maxLinks`.
-/

namespace LineShell

/-- The programs that a machine comes with. -/
inductive Utility where
  | shell
  | success
  | failure
  | cat
  | echo
  | printenv
  | mkdir
  | rmdir
  | pwd
  | wc
  | touch
  | more
  deriving DecidableEq, Repr

/-- Files that hold nothing of their own. -/
inductive Device where
  /-- Holds nothing and takes everything. -/
  | null
  /-- Holds NULs without end and takes everything. -/
  | zero
  /-- Holds NULs without end and takes nothing. -/
  | full
  /-- A terminal; no process has one. -/
  | terminal
  deriving DecidableEq, Repr

/-- What can be in a tree. Modes are permission bits. -/
inductive Node where
  | file (content : Bytes) (mode : Nat)
  | directory (entries : List (Bytes × Nat)) (parent : Nat) (mode : Nat)
  | link (target : Bytes)
  | program (utility : Utility)
  | device (device : Device)
  /-- What has been written to it is read once, in the same order. -/
  | pipe (content : Bytes)
  /-- Stands for whatever the process that comes here has open under the number. -/
  | descriptor (number : Nat)
  deriving DecidableEq, Repr

/-- From where a path is followed: a directory, and the nodes open under each number. -/
structure Standpoint where
  dir : Nat
  held : Descriptors Nat := []
  deriving DecidableEq, Repr

structure Tree where
  nodes : Array Node
  deriving DecidableEq, Repr

namespace Tree

def root : Nat := 0

/-- The most links that one path may lead through. -/
def maxLinks : Nat := 40

/-- Paths have fewer bytes than this. -/
def pathMax : Nat := 4096

/-- Names have at most this many bytes. -/
def nameMax : Nat := 255

def empty : Tree := ⟨#[.directory [] root 0o755]⟩

def node? (tree : Tree) (number : Nat) : Option Node := tree.nodes[number]?

def entries (tree : Tree) (dir : Nat) : List (Bytes × Nat) :=
  match tree.node? dir with
  | some (.directory entries _ _) => entries
  | _ => []

def parent (tree : Tree) (dir : Nat) : Nat :=
  match tree.node? dir with
  | some (.directory _ parent _) => parent
  | _ => root

def isDirectory (tree : Tree) (number : Nat) : Bool :=
  match tree.node? number with
  | some (.directory ..) => true
  | _ => false

/-- Where a link leads on to. -/
inductive Leap where
  /-- Along another path. -/
  | path (target : Bytes)
  /-- Straight to a node. -/
  | node (number : Nat)
  deriving DecidableEq, Repr

/-- Where a node leads on to, if it is a link. -/
def leap? (tree : Tree) (held : Descriptors Nat) (number : Nat) : Except Errno (Option Leap) :=
  match tree.node? number with
  | some (.link target) => .ok (some (.path target))
  | some (.descriptor n) =>
    match held.at? n with
    | some node => .ok (some (.node node))
    | none => .error .noEntry
  | _ => .ok none

/-- The name of a directory in the directory above it, unless it has been removed. -/
def nameOf? (tree : Tree) (dir : Nat) : Option Bytes :=
  ((tree.entries (tree.parent dir)).find? (·.2 = dir)).map (·.1)

/-- Whether files can be put into the directory. -/
def isAlive (tree : Tree) (dir : Nat) : Bool := dir = root || (tree.nameOf? dir).isSome

/-- The names on the way from the root to a directory no more than `depth` levels below it. -/
def namesTo? (tree : Tree) : Nat → Nat → Option (List Bytes)
  | 0, dir => if dir = root then some [] else none
  | depth + 1, dir =>
    if dir = root then some []
    else do
      let name ← tree.nameOf? dir
      let above ← tree.namesTo? depth (tree.parent dir)
      return above ++ [name]

/-- The absolute path of a directory, however long it is; a removed one has none. -/
def fullPathOf (tree : Tree) (dir : Nat) : Except Errno Bytes :=
  match tree.namesTo? tree.nodes.size dir with
  | some [] => .ok [Bytes.slash]
  | some names => .ok (names.flatMap (Bytes.slash :: ·))
  | none => .error .noEntry

/-- The absolute path of a directory, if it is no longer than paths can be. -/
def pathOf (tree : Tree) (dir : Nat) : Except Errno Bytes := do
  let path ← tree.fullPathOf dir
  if path.length < pathMax then .ok path else .error .outOfRange

/-! ## Changing a tree -/

def setNode (tree : Tree) (number : Nat) (node : Node) : Tree :=
  ⟨tree.nodes.setIfInBounds number node⟩

def setEntries (tree : Tree) (dir : Nat) (entries : List (Bytes × Nat)) : Tree :=
  match tree.node? dir with
  | some (.directory _ parent mode) => tree.setNode dir (.directory entries parent mode)
  | _ => tree

/-- Puts a new node into a directory, in place of an entry of that name. -/
def add (tree : Tree) (dir : Nat) (name : Bytes) (node : Node) : Nat × Tree :=
  let number := tree.nodes.size
  let kept := (tree.entries dir).filter (·.1 ≠ name)
  (number, Tree.setEntries ⟨tree.nodes.push node⟩ dir (kept ++ [(name, number)]))

def remove (tree : Tree) (dir : Nat) (name : Bytes) : Tree :=
  tree.setEntries dir ((tree.entries dir).filter (·.1 ≠ name))

/-! ## Following paths -/

/-- Where a path starts that is followed from a directory. -/
def start (path : Bytes) (dir : Nat) : Nat :=
  if path.head? = some Bytes.slash then root else dir

/-- One step from a directory: to itself, to the one above, or to an entry. -/
def step (tree : Tree) (dir : Nat) (name : Bytes) : Except Errno Nat :=
  if !tree.isDirectory dir then .error .notDirectory
  else if name.isEmpty || name = bytes "." then .ok dir
  else if name = bytes ".." then .ok (tree.parent dir)
  else if nameMax < name.length then .error .nameTooLong
  else
    match (tree.entries dir).lookup name with
    | some number => .ok number
    | none => .error .noEntry

/-- Follows names from a directory, and links with them. -/
def follow (tree : Tree) (held : Descriptors Nat) (links : Nat) (dir : Nat) :
    List Bytes → Except Errno Nat
  | [] => .ok dir
  | name :: rest =>
    match tree.step dir name with
    | .error cause => .error cause
    | .ok number =>
      match tree.leap? held number with
      | .error cause => .error cause
      | .ok none => follow tree held links number rest
      | .ok (some leap) =>
        match links, leap with
        | 0, _ => .error .tooManyLinks
        | links + 1, .node number => follow tree held links number rest
        | links + 1, .path target =>
          follow tree held links (start target dir) (split Bytes.slash target ++ rest)
termination_by names => (links, names.length)

/-- Does something with a path that can be followed. -/
def withPath {α : Type} (path : Bytes) (action : Except Errno α) : Except Errno α :=
  if path.isEmpty then .error .noEntry
  else if pathMax ≤ path.length then .error .nameTooLong
  else action

/-- The node to which a path leads. -/
def walk (tree : Tree) (here : Standpoint) (path : Bytes) : Except Errno Nat :=
  withPath path
    (tree.follow here.held maxLinks (start path here.dir) (split Bytes.slash path))

/-- The names of a path, less the empty ones at its end. -/
def namesOf (path : Bytes) : List Bytes :=
  ((split Bytes.slash path).reverse.dropWhile List.isEmpty).reverse

/-- The directory and the name in it to which a path leads; a link of that name is not followed. -/
def slot (tree : Tree) (here : Standpoint) (path : Bytes) : Except Errno (Nat × Bytes) :=
  withPath path do
    let names := namesOf path
    let above ← tree.follow here.held maxLinks (start path here.dir) names.dropLast
    return (above, names.getLast?.getD [])

/-- The node to which a path leads; a link at its end is not followed, unless a slash is behind
it. -/
def walkToLink (tree : Tree) (here : Standpoint) (path : Bytes) : Except Errno Nat :=
  if path.getLast? = some Bytes.slash then tree.walk here path
  else do
    let (above, name) ← tree.slot here path
    tree.step above name

/-- Where a file is or can be created: a node that is there, or a directory and a name that is free
in it. -/
inductive Place where
  | taken (number : Nat)
  | free (dir : Nat) (name : Bytes)
  deriving DecidableEq, Repr

/-- Follows names to the place of a file. The last name must be one that a file can have; a link
at the end leads on to the place of its target. -/
def locate (tree : Tree) (held : Descriptors Nat) (links : Nat) (dir : Nat) :
    List Bytes → Except Errno Place
  | [] => .error .isDirectory
  | name :: rest =>
    let last := rest.all List.isEmpty
    if last && !tree.isDirectory dir then .error .notDirectory
    else if last && !rest.isEmpty then .error .isDirectory
    else
      match tree.step dir name with
      | .error cause =>
        if last && cause = .noEntry then .ok (.free dir name) else .error cause
      | .ok number =>
        match tree.leap? held number with
        | .error cause => .error cause
        | .ok none => if last then .ok (.taken number) else locate tree held links number rest
        | .ok (some leap) =>
          match links, leap with
          | 0, _ => .error .tooManyLinks
          | links + 1, .node number =>
            if last then .ok (.taken number) else locate tree held links number rest
          | links + 1, .path target =>
            locate tree held links (start target dir) (split Bytes.slash target ++ rest)
termination_by names => (links, names.length)

/-- The place to which a path leads. -/
def place (tree : Tree) (here : Standpoint) (path : Bytes) : Except Errno Place :=
  withPath path
    (tree.locate here.held maxLinks (start path here.dir) (split Bytes.slash path))

/-- The directory to which a path leads. -/
def enter (tree : Tree) (here : Standpoint) (path : Bytes) : Except Errno Nat := do
  if path.hasNul then .error .invalid
  else
    let number ← tree.walk here path
    if tree.isDirectory number then .ok number else .error .notDirectory

end Tree

end LineShell
