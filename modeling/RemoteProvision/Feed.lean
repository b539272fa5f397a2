/-
Feeds: answers that come one at a time.

Two things outside the program answer when they are asked and may answer
differently each time: the source of unique names and the source of the
address of the file server.  A feed fixes all its answers in advance and
remembers how many have been taken, so what a run asked for can be read
off the count.
-/

namespace RemoteProvision

/-- A sequence of answers and the number already taken. -/
structure Feed (α : Type) where
  answer : Nat → α
  taken : Nat

/-- A feed from which nothing has been taken. -/
def Feed.fresh {α : Type} (answer : Nat → α) : Feed α := ⟨answer, 0⟩

/-- The next answer, and the feed without it. -/
def Feed.next {α : Type} (feed : Feed α) : α × Feed α :=
  (feed.answer feed.taken, ⟨feed.answer, feed.taken + 1⟩)

end RemoteProvision
