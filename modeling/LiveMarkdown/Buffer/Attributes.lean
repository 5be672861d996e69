import LiveMarkdown.Style.Color
import LiveMarkdown.Style.Font
import LiveMarkdown.Style.Layout

/-!
# Attributes

Every code unit of a styled text carries a set of attributes, with at most one value
for each key.
-/

namespace LiveMarkdown

/-- How a text is underlined. -/
inductive Underline where
  /-- By one line. -/
  | single
deriving DecidableEq, Repr, Inhabited

/-- The destination of a link, written as an absolute URL in its normal form. -/
structure LinkTarget where
  /-- The URL. -/
  url : String
deriving DecidableEq, Repr, Inhabited

/-- What an attribute is about. -/
inductive AttributeKey where
  /-- The font. -/
  | font
  /-- The color of the characters. -/
  | foreground
  /-- The color behind the characters. -/
  | background
  /-- The layout of the paragraph. -/
  | layout
  /-- The line below the characters. -/
  | underline
  /-- The destination of the link. -/
  | link
deriving DecidableEq, Repr, Inhabited

/-- A key together with a value for it. -/
inductive Attribute where
  /-- The font. -/
  | font (value : Font)
  /-- The color of the characters. -/
  | foreground (value : Color)
  /-- The color behind the characters. -/
  | background (value : Color)
  /-- The layout of the paragraph. -/
  | layout (value : Layout)
  /-- The line below the characters. -/
  | underline (value : Underline)
  /-- The destination of the link. -/
  | link (value : LinkTarget)
deriving BEq, Inhabited

/-- The key of an attribute. -/
def Attribute.key : Attribute → AttributeKey
  | .font _ => .font
  | .foreground _ => .foreground
  | .background _ => .background
  | .layout _ => .layout
  | .underline _ => .underline
  | .link _ => .link

/-- A set of attributes. -/
structure Attributes where
  /-- The font. -/
  font : Option Font := none
  /-- The color of the characters. -/
  foreground : Option Color := none
  /-- The color behind the characters. -/
  background : Option Color := none
  /-- The layout of the paragraph. -/
  layout : Option Layout := none
  /-- The line below the characters. -/
  underline : Option Underline := none
  /-- The destination of the link. -/
  link : Option LinkTarget := none
deriving BEq, Inhabited

namespace Attributes

/-- The attribute with the given key. -/
def get? (a : Attributes) : AttributeKey → Option Attribute
  | .font => a.font.map .font
  | .foreground => a.foreground.map .foreground
  | .background => a.background.map .background
  | .layout => a.layout.map .layout
  | .underline => a.underline.map .underline
  | .link => a.link.map .link

/-- Whether two sets agree on a key. -/
def agree (a b : Attributes) : AttributeKey → Bool
  | .font => a.font == b.font
  | .foreground => a.foreground == b.foreground
  | .background => a.background == b.background
  | .layout => a.layout == b.layout
  | .underline => a.underline == b.underline
  | .link => a.link == b.link

/-- The set with an attribute in place of the one with the same key. -/
def set (a : Attributes) : Attribute → Attributes
  | .font v => { a with font := some v }
  | .foreground v => { a with foreground := some v }
  | .background v => { a with background := some v }
  | .layout v => { a with layout := some v }
  | .underline v => { a with underline := some v }
  | .link v => { a with link := some v }

end Attributes

end LiveMarkdown
