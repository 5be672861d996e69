import LiveMarkdown.Buffer.Basic
import LiveMarkdown.Style.Basic

/-!
# Strokes

Styling is a sequence of strokes, each of which changes attributes in one span of a
buffer.  A stroke may be confined to a window, outside of which it changes nothing.
The layout of a paragraph is written only where it differs, and a trait is added to
each font that is already there.
-/

namespace LiveMarkdown

/-- A change of attributes. -/
inductive Stroke where
  /-- Gives an attribute a value. -/
  | set (span : Span) (value : Attribute)
  /-- Gives the paragraph a layout, where it has another one. -/
  | layOut (span : Span) (layout : Layout)
  /-- Adds a trait to the font, which is the given one where there is none. -/
  | addTrait (span : Span) (body : Font) (font : FontTrait)

/-- The part of a span that a window shows, unless there is none.  Without a window all
of it is shown. -/
def Span.visible? (window : Option Span) (span : Span) : Option Span :=
  match window with
  | some w => span.inter? w
  | none => span.nonempty?

namespace Buffer

/-- Gives the code units from `i` up to `stop` a layout, run by run and only where they
have another one. -/
def layOut (b : Buffer) (layout : Layout) (stop i : Nat) : Buffer :=
  if i < stop then
    match b.attribute? .layout i ⟨i, stop⟩ with
    | none => b
    | some (current, run) =>
      let next := max run.stop (i + 1)
      let b := if current == some (.layout layout) then b
        else b.addAttribute ⟨i, next⟩ (.layout layout)
      b.layOut layout stop next
  else b
termination_by stop - i
decreasing_by omega

/-- Adds a trait to the fonts of the code units from `i` up to `stop`, run by run, where
`body` stands for a font that is missing. -/
def addTrait (b : Buffer) (body : Font) (font : FontTrait) (stop i : Nat) : Buffer :=
  if i < stop then
    match b.attribute? .font i ⟨i, stop⟩ with
    | none => b
    | some (current, run) =>
      let next := max run.stop (i + 1)
      let old := match current with
        | some (.font old) => old
        | _ => body
      (b.addAttribute ⟨i, next⟩ (.font (old.adding font))).addTrait body font stop next
  else b
termination_by stop - i
decreasing_by omega

/-- Makes a stroke inside a window. -/
def stroke (window : Option Span) (b : Buffer) : Stroke → Buffer
  | .set span value =>
    match span.visible? window with
    | none => b
    | some s => b.addAttribute s value
  | .layOut span layout =>
    match span.visible? window with
    | none => b
    | some s => b.layOut layout s.stop s.start
  | .addTrait span body font =>
    match span.visible? window with
    | none => b
    | some s => b.addTrait body font s.stop s.start

/-- Makes strokes inside a window, one after the other. -/
def strokes (window : Option Span) (b : Buffer) (strokes : List Stroke) : Buffer :=
  strokes.foldl (stroke window) b

end Buffer

end LiveMarkdown
