import LineShell.Bytes
import LineShell.Pieces

/-!
# Tokens of a line

Tokens are the pieces of a line between spaces. Tabs and all other bytes are ordinary, a run of
spaces leaves no empty token behind, and what follows the last token kept is ignored.
-/

namespace LineShell

/-- The first `maxTokens` tokens of a line. -/
def tokenize (maxTokens : Nat) (line : Bytes) : List Bytes :=
  ((split Bytes.space line).filter (!·.isEmpty)).take maxTokens

end LineShell
