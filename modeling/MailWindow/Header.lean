import MailWindow.Text.Letters
import MailWindow.Text.Utf8

namespace MailWindow.Header

open Text

def isContinuation : List Char → Bool
  | c :: _ => c = ' ' || c = '\t'
  | [] => false

def splitField? (line : List Char) : Option (List Char × List Char) :=
  match line.dropWhile (· ≠ ':') with
  | [] => none
  | _ :: value => some (line.takeWhile (· ≠ ':'), value)

def unfolded (first : List Char) (rest : List (List Char)) : List Char :=
  (rest.takeWhile isContinuation).foldl (fun value line ↦ value ++ ' ' :: trim line) (trim first)

/-- The value of the first field of a name, in any case, before the first empty line. -/
def find? (name : List Char) : List (List Char) → Option (List Char)
  | [] => none
  | line :: rest =>
    if line.isEmpty then none
    else if isContinuation line then find? name rest
    else match splitField? line with
      | none => find? name rest
      | some (key, value) =>
        if eqIgnoringAsciiCase (trim key) name then some (unfolded value rest) else find? name rest

def value? (raw : List UInt8) (name : String) : Option String :=
  (find? name.toList (lines (Utf8.decode raw))).map .ofList

/-- What follows the first empty line between two-byte endings, or else between line feeds. -/
def body (text : List Char) : List Char :=
  ((after? ['\r', '\n', '\r', '\n'] text).or (after? ['\n', '\n'] text)).getD []

end MailWindow.Header
