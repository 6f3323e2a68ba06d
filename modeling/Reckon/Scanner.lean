import Reckon.Alphabet
import Reckon.Literal
import Reckon.Text.Offset

/-! From text to tokens. Blanks vanish wherever they stand, within literals too. -/

namespace Reckon

structure Scan where
  tokens : Array (Located Token)
  pending : Option Literal
  deriving DecidableEq

namespace Scan

def empty : Scan := ⟨#[], none⟩

def flush (scan : Scan) : Except ParseError Scan :=
  match scan.pending with
  | none => .ok scan
  | some literal => literal.close.map fun number => ⟨scan.tokens.push number, none⟩

/-- A minus is a sign at the start, behind an operator and behind an opening parenthesis. -/
def expectsOperand (scan : Scan) : Bool :=
  match scan.tokens.back? with
  | none => true
  | some last => last.elem.isOp || last.elem.isOpening

def extend (scan : Scan) (offset : Nat) (c : Char) : Scan :=
  { scan with pending := some ((scan.pending.getD (.startingAt offset)).push offset c) }

/-- Takes a character that belongs to no digits: a sign, or a token of its own. -/
def symbol (scan : Scan) (offset : Nat) (c : Char) : Except ParseError Scan :=
  let span : Span := ⟨offset, offset + c.utf8Size⟩
  if c = '-' ∧ scan.expectsOperand then
    .ok (scan.extend offset c)
  else
    match Token.ofChar? c with
    | some token => .ok { scan with tokens := scan.tokens.push ⟨token, span⟩ }
    | none => .error (.invalidCharacter c span)

def step (scan : Scan) (offset : Nat) (c : Char) : Except ParseError Scan :=
  if isBlank c then
    .ok scan
  else if c.isDigit then
    .ok (scan.extend offset c)
  else if c = '.' then
    if scan.pending.any (·.hasDot) then .error (.invalidCharacter '.' ⟨offset, offset + 1⟩)
    else .ok (scan.extend offset c)
  else
    scan.flush.bind fun flushed => flushed.symbol offset c

def run : Scan → Nat → List Char → Except ParseError Scan
  | scan, _, [] => .ok scan
  | scan, offset, c :: rest =>
    match scan.step offset c with
    | .error error => .error error
    | .ok next => run next (offset + c.utf8Size) rest

end Scan

def validate (source : List Char) : Except ParseError Unit :=
  match Text.findFrom? isForeign 0 source with
  | none => .ok ()
  | some (offset, c) => .error (.invalidCharacter c ⟨offset, offset + c.utf8Size⟩)

/-- A text of which a part may have been consumed already. -/
structure Scanner where
  source : List Char
  offset : Nat
  rest : List Char

namespace Scanner

def ofString (source : String) : Scanner := ⟨source.toList, 0, source.toList⟩

def next? (scanner : Scanner) : Option ((Nat × Char) × Scanner) :=
  match scanner.rest with
  | [] => none
  | c :: rest =>
    some ((scanner.offset, c), { scanner with offset := scanner.offset + c.utf8Size, rest })

def advance (scanner : Scanner) : Nat → List (Option (Nat × Char)) × Scanner
  | 0 => ([], scanner)
  | count + 1 =>
    match scanner.next? with
    | none => (List.replicate (count + 1) none, scanner)
    | some (consumed, next) =>
      let (others, last) := next.advance count
      (some consumed :: others, last)

/-- The tokens of the rest. The whole source is validated, the consumed part included. -/
def tokenize (scanner : Scanner) : Except ParseError Tokens := do
  validate scanner.source
  let scan ← Scan.empty.run scanner.offset scanner.rest
  let finished ← scan.flush
  return finished.tokens.toList

end Scanner

def tokenize (source : String) : Except ParseError Tokens := (Scanner.ofString source).tokenize

end Reckon
