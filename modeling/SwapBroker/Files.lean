/-!
# Files

What the program asks of the files around it.
-/

namespace SwapBroker

structure Files (m : Type → Type) where
  /-- The contents of a text file, none when it cannot be read. -/
  read? : (path : String) → m (Option String)
  isThere : (path : String) → m Bool

end SwapBroker
