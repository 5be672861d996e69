/-!
# Splitting lists

A list is cut at every entry that satisfies a condition; those entries are dropped.
There is one piece more than there are such entries.
-/

namespace LiveMarkdown

/-- The pieces of a list between the entries that satisfy `p`. -/
def pieces {α : Type} (p : α → Bool) : List α → List (List α)
  | [] => [[]]
  | a :: as =>
    if p a then [] :: pieces p as
    else
      match pieces p as with
      | [] => [[a]]
      | piece :: rest => (a :: piece) :: rest

end LiveMarkdown
