/-
**Machine integers.**

Integers have any size, but a number of characters has to fit into a signed machine word.
-/

set_option autoImplicit false

namespace ForumMarkup

/-- The numbers that fit into a machine word. -/
def inMachineRange (n : Int) : Bool :=
  -Int.pow 2 63 ≤ n && n < Int.pow 2 63

end ForumMarkup
