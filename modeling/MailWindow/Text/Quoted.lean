import MailWindow.Character.Extending
import MailWindow.Character.Printable

namespace MailWindow.Quoted

open Character

/-- Letters that fill an empty place of a Hangul syllable and show nothing: the only letters among
the default-ignorable characters. -/
def isFiller (c : Char) : Bool :=
  c.toNat = 0x115F || c.toNat = 0x1160 || c.toNat = 0x3164 || c.toNat = 0xFFA0

/-- Sound marks that belong to the character before them but have a place of their own. -/
def isSpacingMark (c : Char) : Bool := c.toNat = 0xFF9E || c.toNat = 0xFF9F

def isHidden (c : Char) : Bool :=
  !isPrintable c || isFiller c || (isExtending c && !isSpacingMark c)

def codePoint (c : Char) : List Char :=
  '\\' :: 'u' :: '{' :: Nat.toDigits 16 c.toNat ++ ['}']

def escape (c : Char) : List Char :=
  match c with
  | '\x00' => ['\\', '0']
  | '\t' => ['\\', 't']
  | '\r' => ['\\', 'r']
  | '\n' => ['\\', 'n']
  | '\\' => ['\\', '\\']
  | '"' => ['\\', '"']
  | c => if isHidden c then codePoint c else [c]

def encode (cs : List Char) : List Char := '"' :: cs.flatMap escape ++ ['"']

end MailWindow.Quoted
