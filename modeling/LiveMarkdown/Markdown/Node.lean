import LiveMarkdown.Text.Span

/-!
# Document trees

A document is a tree of nodes.  A node has one of the kinds that styling tells apart,
and usually the bytes of the text that it covers; a node without a span is not styled,
but its children are.  A tree is built from a sequence of events, which begin and end
nodes in the order of the text; nodes that are left open at the end are closed there,
and an end without a beginning is passed over.
-/

namespace LiveMarkdown

/-- The kinds of nodes that styling tells apart. -/
inductive NodeKind where
  /-- The whole document. -/
  | document
  /-- A heading of the given level. -/
  | heading (level : Nat)
  /-- A paragraph. -/
  | paragraph
  /-- A block quote. -/
  | blockQuote
  /-- A list whose items have bullets. -/
  | unorderedList
  /-- A list whose items have numbers. -/
  | orderedList
  /-- An item of a list. -/
  | listItem
  /-- Strong emphasis. -/
  | strong
  /-- Emphasis. -/
  | emphasis
  /-- A code span. -/
  | inlineCode
  /-- A link with its destination. -/
  | link (destination : String)
  /-- Anything else. -/
  | other
deriving DecidableEq, Repr, Inhabited

/-- A node of a document tree. -/
structure Node where
  /-- The kind of the node. -/
  kind : NodeKind
  /-- The bytes that the node covers. -/
  span : Option Span
  /-- The nodes inside it, in the order of the text. -/
  children : List Node
deriving Inhabited

namespace Node

mutual

/-- A node and all nodes inside it, each before the nodes inside it and in the order of
the text. -/
def descendants (n : Node) : List Node :=
  match n with
  | ⟨kind, span, children⟩ => ⟨kind, span, children⟩ :: descendantsOfList children

/-- The nodes of a forest and all nodes inside them. -/
def descendantsOfList : List Node → List Node
  | [] => []
  | n :: ns => n.descendants ++ descendantsOfList ns

end

end Node

/-- A step in the description of a document. -/
inductive Event where
  /-- A node begins. -/
  | start (kind : NodeKind) (span : Span)
  /-- The node begun last ends. -/
  | stop
  /-- A node without children. -/
  | leaf (kind : NodeKind) (span : Span)
  /-- Something that makes no node. -/
  | other
deriving DecidableEq, Repr

/-- A node that is being built: its children so far, the last one first. -/
structure OpenNode where
  /-- The kind of the node. -/
  kind : NodeKind
  /-- The bytes that the node covers. -/
  span : Span
  /-- The children so far, the last one first. -/
  children : List Node

namespace OpenNode

/-- The node without further children. -/
def close (n : OpenNode) : Node :=
  ⟨n.kind, some n.span, n.children.reverse⟩

/-- Adds a child. -/
def add (n : OpenNode) (child : Node) : OpenNode :=
  { n with children := child :: n.children }

end OpenNode

/-- The nodes that are being built: a root, and the open nodes inside it, innermost
first. -/
structure TreeBuilder where
  /-- The open nodes inside the root, innermost first. -/
  inner : List OpenNode
  /-- The root. -/
  root : OpenNode

namespace TreeBuilder

/-- Adds a node to the innermost open node. -/
def add (b : TreeBuilder) (n : Node) : TreeBuilder :=
  match b.inner with
  | [] => { b with root := b.root.add n }
  | top :: rest => { b with inner := top.add n :: rest }

/-- Closes the innermost open node, unless that is the root. -/
def close (b : TreeBuilder) : TreeBuilder :=
  match b.inner with
  | [] => b
  | top :: rest => { b with inner := rest }.add top.close

/-- Takes an event into account. -/
def step (b : TreeBuilder) : Event → TreeBuilder
  | .start kind span => { b with inner := ⟨kind, span, []⟩ :: b.inner }
  | .stop => b.close
  | .leaf kind span => b.add ⟨kind, some span, []⟩
  | .other => b

/-- Closes all open nodes, each inside the next one. -/
def finish (b : TreeBuilder) : Node :=
  let put (child : Option Node) (n : OpenNode) : Node :=
    match child with
    | some child => (n.add child).close
    | none => n.close
  put (b.inner.foldl (fun child n => some (put child n)) none) b.root

end TreeBuilder

/-- The document that a sequence of events describes, in a text of `size` bytes. -/
def Node.ofEvents (size : Nat) (events : List Event) : Node :=
  (events.foldl TreeBuilder.step ⟨[], ⟨.document, ⟨0, size⟩, []⟩⟩).finish

end LiveMarkdown
