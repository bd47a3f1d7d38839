import LineShell.Machine.Utility.Directories

/-!
# Laying out a tree

An `Item` is something at a path. `Tree.install` puts items into a directory, `Tree.listing` gives
what is in one, and `Machine.standardTree` has the programs and the directories of every machine.
`Machine.ofTree` is a machine with a tree and a console.
-/

namespace LineShell

/-- Something to be put into a tree. -/
inductive Item where
  | file (content : Bytes) (mode : Nat)
  | directory (mode : Nat)
  | link (target : Bytes)
  deriving DecidableEq, Repr

namespace Tree

/-- The directory at a path below another one, made with all above it if it is missing. -/
def makeDirectories (tree : Tree) (dir : Nat) : List Bytes → Nat × Tree
  | [] => (dir, tree)
  | name :: rest =>
    match tree.follow [] maxLinks dir [name] with
    | .ok node => makeDirectories tree node rest
    | .error _ =>
      let (node, tree) := tree.add dir name (tree.newDirectory dir 0o755)
      makeDirectories tree node rest

/-- Puts a node where a path leads to, in place of a file that is there. -/
def putFile (tree : Tree) (dir : Nat) (name : Bytes) (node : Node) : Tree :=
  match tree.locate [] maxLinks dir [name] with
  | .ok (.taken number) => tree.setNode number node
  | .ok (.free dir name) => (tree.add dir name node).2
  | .error _ => tree

/-- Puts an item at a path that begins in a directory. -/
def install (tree : Tree) (dir : Nat) (path : Bytes) (item : Item) : Tree :=
  let dir := start path dir
  let names := (split Bytes.slash path).filter (!·.isEmpty)
  match item, names.getLast? with
  | .directory mode, _ =>
    let (node, tree) := tree.makeDirectories dir names
    Utility.setMode tree node fun _ => mode
  | _, none => tree
  | .file content mode, some name =>
    let (dir, tree) := tree.makeDirectories dir names.dropLast
    tree.putFile dir name (.file content mode)
  | .link target, some name =>
    let (dir, tree) := tree.makeDirectories dir names.dropLast
    (tree.add dir name (.link target)).2

def installAll (tree : Tree) (dir : Nat) (items : List (Bytes × Item)) : Tree :=
  items.foldl (fun tree (path, item) => tree.install dir path item) tree

/-- What is in a directory, no more than `depth` levels deep; the paths begin with `base`. -/
def collect (tree : Tree) : Nat → Bytes → Nat → List (Bytes × Item)
  | 0, _, _ => []
  | depth + 1, base, dir =>
    (tree.entries dir).flatMap fun (name, number) =>
      let path := base ++ name
      match tree.node? number with
      | some (.file content mode) => [(path, .file content mode)]
      | some (.directory _ _ mode) =>
        (path, .directory mode) :: tree.collect depth (path ++ [Bytes.slash]) number
      | some (.link target) => [(path, .link target)]
      | _ => []

/-- What is in a directory, in the order of the paths. -/
def listing (tree : Tree) (dir : Nat) : List (Bytes × Item) :=
  (tree.collect tree.nodes.size [] dir).mergeSort fun a b => Bytes.le a.1 b.1

end Tree

namespace Machine

/-- The directories that every machine has. -/
def standardDirectories : List Bytes :=
  ["boot", "dev/mqueue", "dev/pts", "dev/shm", "etc", "home", "media", "mnt", "opt", "proc/self/fd",
    "root", "run", "srv", "sys", "tmp", "usr/bin", "usr/games", "usr/include", "usr/lib",
    "usr/lib64", "usr/libexec", "usr/local", "usr/sbin", "usr/share", "usr/src", "var/lib",
    "var/log", "var/tmp"].map bytes

/-- The modes of directories that do not have the usual one. -/
def standardModes : List (Bytes × Nat) :=
  [("dev/mqueue", 0o1777), ("dev/shm", 0o1777), ("proc", 0o555), ("root", 0o700), ("sys", 0o555),
    ("tmp", 0o1777), ("var/tmp", 0o1777)].map fun (path, mode) => (bytes path, mode)

def standardLinks : List (Bytes × Bytes) :=
  [("bin", "usr/bin"), ("lib", "usr/lib"), ("lib64", "usr/lib64"), ("sbin", "usr/sbin"),
    ("var/run", "/run"), ("dev/fd", "/proc/self/fd"),
    ("dev/stdin", "/proc/self/fd/0"), ("dev/stdout", "/proc/self/fd/1"),
    ("dev/stderr", "/proc/self/fd/2")].map fun (path, target) => (bytes path, bytes target)

def standardPrograms : List (Bytes × Utility) := [
  (bytes "cat", .cat),
  (bytes "echo", .echo),
  (bytes "false", .failure),
  (bytes "mkdir", .mkdir),
  (bytes "more", .more),
  (bytes "printenv", .printenv),
  (bytes "pwd", .pwd),
  (bytes "rmdir", .rmdir),
  (bytes "sh", .shell),
  (bytes "touch", .touch),
  (bytes "true", .success),
  (bytes "wc", .wc)]

def standardDevices : List (Bytes × Device) :=
  [("null", .null), ("zero", .zero), ("full", .full), ("random", .zero), ("urandom", .zero),
    ("tty", .terminal)].map fun (name, device) => (bytes name, device)

/-- The numbers that a process can have something open under. -/
def descriptorNumbers : List Nat := List.range 64

/-- Puts nodes that are no items into a directory that is named by its path from the root. -/
def addNodes (tree : Tree) (path : List Bytes) (nodes : List (Bytes × Node)) : Tree :=
  let (dir, tree) := tree.makeDirectories Tree.root path
  nodes.foldl (fun tree (name, node) => (tree.add dir name node).2) tree

def standardTree : Tree :=
  let tree := Tree.empty.installAll Tree.root
    (standardDirectories.map (·, .directory 0o755) ++
      standardModes.map (fun (path, mode) => (path, .directory mode)) ++
      standardLinks.map fun (path, target) => (path, .link target))
  let tree := addNodes tree [bytes "usr", bytes "bin"]
    (standardPrograms.map fun (name, utility) => (name, .program utility))
  let tree := addNodes tree [bytes "dev"]
    (standardDevices.map fun (name, device) => (name, .device device))
  addNodes tree [bytes "proc", bytes "self", bytes "fd"]
    (descriptorNumbers.map fun number => (bytes (toString number), .descriptor number))

/-- A machine with a tree, what its console reads, and what each stream of its console is. -/
def ofTree (tree : Tree) (input output : Node) : Machine :=
  let machine : Machine := { tree }
  let (_, machine) := machine.openNew input true false
  let (_, machine) := machine.openNew output false true
  (machine.openNew output false true).2

/-- A machine that reads nothing and collects its output in files. -/
def standard (tree : Tree) : Machine := ofTree tree (.device .null) (.file [] 0o600)

end Machine

end LineShell
