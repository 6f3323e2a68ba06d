/-! A last-in, first-out stack, read through its items with the top first. -/

namespace Reckon

structure Stack (α : Type) where
  items : List α
  deriving DecidableEq, Repr

namespace Stack

variable {α : Type}

def empty : Stack α := ⟨[]⟩

def push (item : α) (stack : Stack α) : Stack α := ⟨item :: stack.items⟩

def pop? (stack : Stack α) : Option (α × Stack α) :=
  match stack.items with
  | [] => none
  | top :: below => some (top, ⟨below⟩)

def peek? (stack : Stack α) : Option α := stack.items.head?

def size (stack : Stack α) : Nat := stack.items.length

def isEmpty (stack : Stack α) : Bool := stack.items.isEmpty

/-- Removes the top if it passes the test, which an empty stack never calls. -/
def popIfM {m : Type → Type} [Monad m] (test : α → m Bool) (stack : Stack α) :
    m (Option α × Stack α) :=
  match stack.pop? with
  | none => pure (none, stack)
  | some (top, below) => do
    if ← test top then pure (some top, below) else pure (none, stack)

def popIf (test : α → Bool) (stack : Stack α) : Option α × Stack α :=
  Id.run (stack.popIfM fun top => pure (test top))

def popWhile (test : α → Bool) (stack : Stack α) : List α × Stack α :=
  (stack.items.takeWhile test, ⟨stack.items.dropWhile test⟩)

theorem pop?_push (item : α) (stack : Stack α) : (stack.push item).pop? = some (item, stack) := rfl

theorem popIf_push (test : α → Bool) (item : α) (stack : Stack α) :
    (stack.push item).popIf test =
      if test item then (some item, stack) else (none, stack.push item) := by
  simp only [popIf, popIfM, pop?_push]
  cases test item <;> rfl

theorem popWhile_push (test : α → Bool) (item : α) (stack : Stack α) :
    (stack.push item).popWhile test =
      if test item then (item :: (stack.popWhile test).1, (stack.popWhile test).2)
      else ([], stack.push item) := by
  cases passes : test item <;> simp [popWhile, push, passes]

end Stack

end Reckon
