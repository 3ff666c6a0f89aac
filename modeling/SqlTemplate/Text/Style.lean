import SqlTemplate.Text.Emoji

namespace SqlTemplate.Text

inductive Style
  | picture
  | plain
  | wide
  deriving DecidableEq, Repr

def quotationRanges : Ranges := [(0x2018, 0x2019), (0x201c, 0x201d)]

def Style.ofSelector? (c : Char) : Option Style :=
  match c.toNat with
  | 0xfe0f => some .picture
  | 0xfe0e => some .plain
  | 0xfe01 => some .wide
  | _ => none

def Style.hasForm (c : Char) : Style → Bool
  | .picture => isSelectable c
  | .plain => isPlainable c
  | .wide => quotationRanges.contains c

def Style.columns : Style → Nat
  | .picture => 2
  | .plain => 1
  | .wide => 2

end SqlTemplate.Text
