import LiveMarkdown.Buffer.Basic

/-!
# Runs

The runs of a buffer are the longest spans whose code units have equal attributes.
-/

namespace LiveMarkdown

/-- A span and the attributes of its code units. -/
structure Run where
  /-- The span. -/
  span : Span
  /-- The attributes. -/
  attributes : Attributes
deriving BEq, Inhabited

namespace Run

/-- Adds the attributes of one more code unit to the runs of those before it, the last
run first. -/
def extend (runs : List Run) (a : Attributes) : List Run :=
  match runs with
  | [] => [⟨⟨0, 1⟩, a⟩]
  | run :: rest =>
    if run.attributes == a then ⟨⟨run.span.start, run.span.stop + 1⟩, run.attributes⟩ :: rest
    else ⟨⟨run.span.stop, run.span.stop + 1⟩, a⟩ :: run :: rest

end Run

/-- The runs of a buffer, in the order of the text. -/
def Buffer.runs (b : Buffer) : List Run :=
  (b.attributes.foldl Run.extend []).reverse

end LiveMarkdown
