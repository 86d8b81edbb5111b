import MailWindow.Text.Lines
import MailWindow.Character.Blank
import MailWindow.Character.Cased
import MailWindow.Character.CaseIgnorable
import MailWindow.Character.Lowercase

namespace MailWindow.Text

open Character

def trimStart (cs : List Char) : List Char := cs.dropWhile isBlank

def trimEnd (cs : List Char) : List Char := (cs.reverse.dropWhile isBlank).reverse

def trim (cs : List Char) : List Char := trimEnd (trimStart cs)

/-- Whether the first character that counts towards a word is a letter with case. -/
def startsCased (cs : List Char) : Bool := ((cs.dropWhile isCaseIgnorable).head?).any isCased

/-- Lowercase, character by character, but for the capital sigma: at the end of a word it becomes
the final form. `before` holds the characters already read, last first. -/
def lowercaseAfter (before : List Char) : List Char → List Char
  | [] => []
  | c :: cs =>
    let lower :=
      if c = 'Σ' then [if startsCased before && !startsCased cs then 'ς' else 'σ']
      else lowercase c
    lower ++ lowercaseAfter (c :: before) cs

def toLowercase (cs : List Char) : List Char := lowercaseAfter [] cs

def containsIgnoringCase (text part : List Char) : Bool :=
  occursIn (toLowercase part) (toLowercase text)

def eqIgnoringAsciiCase (a b : List Char) : Bool := a.map Char.toLower = b.map Char.toLower

end MailWindow.Text
