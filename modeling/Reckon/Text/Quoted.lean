import Reckon.Text.Unprintable
import Reckon.Text.DefaultIgnorable
import Reckon.Text.GraphemeExtend

/-! Quoted characters and texts, in which nothing that could disturb a line is left as it is. -/

namespace Reckon.Text

def inRanges (n : Nat) : List (Nat × Nat) → Bool
  | [] => false
  | (least, greatest) :: rest => if n < least then false else n ≤ greatest || inRanges n rest

def isUnprintable (c : Char) : Bool := inRanges c.toNat unprintableRanges

def isDefaultIgnorable (c : Char) : Bool := inRanges c.toNat defaultIgnorableRanges

/-- The halfwidth katakana sound marks are letters by their general category, the only ones with
Grapheme_Extend. -/
def isHalfwidthSoundMark (c : Char) : Bool := c = '\uFF9E' || c = '\uFF9F'

/-- Whether a character joins the one before it and has no shape apart from it. -/
def isCombining (c : Char) : Bool :=
  inRanges c.toNat graphemeExtendRanges && !isHalfwidthSoundMark c

def hexEscape (c : Char) : List Char :=
  ['\\', 'u', '\x7B'] ++ Nat.toDigits 16 c.toNat ++ ['\x7D']

/-- Writes a character between two of the given quotes. -/
def escape (quote c : Char) : List Char :=
  match c with
  | '\x00' => ['\\', '0']
  | '\t' => ['\\', 't']
  | '\n' => ['\\', 'n']
  | '\r' => ['\\', 'r']
  | '\\' => ['\\', '\\']
  | c =>
    if c = quote then ['\\', c]
    else if isUnprintable c || isDefaultIgnorable c || isCombining c then hexEscape c
    else [c]

def quoted (quote : Char) (text : List Char) : String :=
  String.ofList (quote :: (text.flatMap (escape quote) ++ [quote]))

def quoteChar (c : Char) : String := quoted '\x27' [c]

def quoteString (s : String) : String := quoted '\x22' s.toList

end Reckon.Text
