import LineShell.Errno

/-!
# Variables

A store gives a value to some names. `get` looks a name up, `set` gives it a value or refuses,
and `snapshot` is what a child is given: one entry NAME=VALUE for each variable. A store is used
through the class `Store`, so that the shell runs over any of them; a `View` is what is left of
a store when it can only be read.
-/

namespace LineShell

class Store (σ : Type) where
  get : σ → Bytes → Option Bytes
  set : σ → Bytes → Bytes → Except Errno σ
  snapshot : σ → List Bytes

namespace Store

/-- Whether a variable may have this name: it is not empty and has neither an equals sign, which
ends the name in an entry, nor a NUL. -/
def validName (name : Bytes) : Bool :=
  !name.isEmpty && !name.contains Bytes.equals && !Bytes.hasNul name

/-- Whether a variable may have this name and this value. -/
def accepts (name value : Bytes) : Bool := validName name && !Bytes.hasNul value

/-- The entry for a variable. -/
def entry (name value : Bytes) : Bytes := name ++ Bytes.equals :: value

/-- The entry for a variable, if it can be handed to a child. -/
def entry? (name value : Bytes) : Option Bytes :=
  if (entry name value).hasNul then none else some (entry name value)

end Store

/-- A store that can only be read. -/
structure View where
  get : Bytes → Option Bytes
  snapshot : List Bytes

def Store.view {σ : Type} [Store σ] (store : σ) : View := ⟨Store.get store, Store.snapshot store⟩

end LineShell
