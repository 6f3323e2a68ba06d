/-! Byte offsets in a text of characters. -/

namespace Reckon.Text

def byteLength : List Char → Nat
  | [] => 0
  | c :: rest => c.utf8Size + byteLength rest

def findFrom? (test : Char → Bool) : Nat → List Char → Option (Nat × Char)
  | _, [] => none
  | offset, c :: rest =>
    if test c then some (offset, c) else findFrom? test (offset + c.utf8Size) rest

end Reckon.Text
