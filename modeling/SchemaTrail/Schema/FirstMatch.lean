/-!
# Changing the first match

Names are looked up from the front of a list, so that of two items with one name the first counts.
`updateFirst` changes the item that is found, and fails if there is none.
-/

namespace SchemaTrail

/-- Puts what `change` gives in the place of the first item that satisfies `p`.  Fails with
`missing` if there is none. -/
def updateFirst {α ε : Type} (p : α → Bool) (missing : ε) (change : α → Except ε (List α)) :
    List α → Except ε (List α)
  | [] => .error missing
  | a :: as =>
    if p a then (change a).map (· ++ as)
    else (updateFirst p missing change as).map (a :: ·)

end SchemaTrail
