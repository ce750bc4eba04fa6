/-!
# A published value and those who follow it

A channel holds the last value that was published and counts the publications. A follower
remembers which publication it has seen, so that it can tell whether there is a newer one; of
several publications since then it sees only the last.
-/

namespace ScriptedFeed

/-- The last published value. -/
structure Channel (α : Type) where
  value : α
  /-- The number of values published after the first one. -/
  version : Nat
deriving DecidableEq, Repr

namespace Channel

variable {α : Type}

def ofValue (value : α) : Channel α :=
  ⟨value, 0⟩

/-- The channel after a further value is published. -/
def publish (channel : Channel α) (value : α) : Channel α :=
  ⟨value, channel.version + 1⟩

/-- Whether a follower that has seen a publication has not seen the last one. -/
def hasUnseen (channel : Channel α) (seen : Nat) : Bool :=
  seen ≠ channel.version

end Channel

end ScriptedFeed
