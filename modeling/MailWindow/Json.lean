import MailWindow.Text.Scanner

namespace MailWindow

inductive Json where
  | null
  | bool (b : Bool)
  /-- A number, with its value if it is written without sign, fraction and exponent. -/
  | number (natural? : Option Nat)
  /-- A string, unless an escape in it names half a character. -/
  | string (text? : Option String)
  | array (values : List Json)
  | object (members : List (Option String × Json))

namespace Json

open Scanner

def isSpace (c : Char) : Bool := c = ' ' || c = '\n' || c = '\t' || c = '\r'

def isHighHalf (n : Nat) : Bool := 0xD800 ≤ n && n < 0xDC00

def isLowHalf (n : Nat) : Bool := 0xDC00 ≤ n && n < 0xE000

def joinHalves : List Nat → Option (List Char)
  | [] => some []
  | [n] => if isHighHalf n || isLowHalf n then none else some [Char.ofNat n]
  | n :: m :: ns =>
    if isHighHalf n && isLowHalf m then
      (joinHalves ns).map (Char.ofNat (0x10000 + (n - 0xD800) * 0x400 + (m - 0xDC00)) :: ·)
    else if isHighHalf n || isLowHalf n then none
    else (joinHalves (m :: ns)).map (Char.ofNat n :: ·)

def hexValue? (c : Char) : Option Nat :=
  if c.isDigit then some (c.toNat - 48)
  else if 'a' ≤ c && c ≤ 'f' then some (c.toNat - 87)
  else if 'A' ≤ c && c ≤ 'F' then some (c.toNat - 55)
  else none

def hexValueOf? (ds : List Char) : Option Nat :=
  ds.foldlM (fun n d ↦ (hexValue? d).map (n * 16 + ·)) 0

/-- The characters that a backslash may stand before, with what the two mean. -/
def escapes : List (Char × Nat) :=
  [('"', 0x22), ('\\', 0x5C), ('/', 0x2F), ('b', 8), ('f', 12), ('n', 10), ('r', 13), ('t', 9)]

def contents : Scanner (List Nat)
  | [] => none
  | '"' :: cs => some ([], cs)
  | '\\' :: 'u' :: a :: b :: c :: d :: cs => do
    let n ← hexValueOf? [a, b, c, d]
    let (ns, rest) ← contents cs
    some (n :: ns, rest)
  | '\\' :: e :: cs => do
    let n ← escapes.lookup e
    let (ns, rest) ← contents cs
    some (n :: ns, rest)
  | c :: cs => do
    guard (c ≠ '\\' && 0x20 ≤ c.toNat)
    let (ns, rest) ← contents cs
    some (c.toNat :: ns, rest)

def string? : Scanner (Option String) := do
  mark '"'
  return (joinHalves (← contents)).map .ofList

def someDigits : Scanner (List Char) := do
  let ds ← piece Char.isDigit
  if ds.isEmpty then failure else pure ds

/-- Digits of which only a lone one may be zero at the front. -/
def integer : Scanner Nat := (mark '0' *> pure 0) <|> (valueOf <$> someDigits)

/-- Whether a part that may be missing is there; one that goes wrong is refused. -/
def optional (opening : Char → Bool) (part : Scanner Unit) : Scanner Bool := fun cs ↦
  if (cs.head?).any opening then (part cs).map fun p ↦ (true, p.2) else some (false, cs)

def number? : Scanner (Option Nat) := do
  let negative ← optional (· = '-') (mark '-')
  let n ← integer
  let fraction ← optional (· = '.') (mark '.' *> someDigits *> pure ())
  let exponent ← optional (fun c ↦ c = 'e' || c = 'E') do
    let _ ← fun cs ↦ some ((), cs.drop 1)
    let _ ← optional (fun c ↦ c = '+' || c = '-') fun cs ↦ some ((), cs.drop 1)
    let _ ← someDigits
  pure (if negative || fraction || exponent then none else some n)

def word (w : String) (v : Json) : Scanner Json := fun cs ↦
  if w.toList.isPrefixOf cs then some (v, cs.drop w.length) else none

def spaces : Scanner Unit := fun cs ↦ some ((), cs.dropWhile isSpace)

mutual

/-- A value, after spaces; `depth` bounds nestings and members together. -/
def value : Nat → Scanner Json
  | 0 => failure
  | depth + 1 => do
    spaces
    match (← get).head? with
    | some '{' =>
      mark '{'
      spaces
      if (← get).head? = some '}' then
        mark '}'
        pure (object [])
      else object <$> members depth
    | some '[' =>
      mark '['
      spaces
      if (← get).head? = some ']' then
        mark ']'
        pure (array [])
      else array <$> elements depth
    | some '"' => string <$> string?
    | some 't' => word "true" (bool true)
    | some 'f' => word "false" (bool false)
    | some 'n' => word "null" null
    | _ => number <$> number?

def elements : Nat → Scanner (List Json)
  | 0 => failure
  | depth + 1 => do
    let v ← value depth
    spaces
    if (← get).head? = some ',' then
      mark ','
      return v :: (← elements depth)
    else
      mark ']'
      return [v]

def members : Nat → Scanner (List (Option String × Json))
  | 0 => failure
  | depth + 1 => do
    spaces
    let key ← string?
    spaces
    mark ':'
    let v ← value depth
    spaces
    if (← get).head? = some ',' then
      mark ','
      return (key, v) :: (← members depth)
    else
      mark '}'
      return [(key, v)]

end

/-- The one value of a document. Every nesting and every member takes a character of it. -/
def ofText? (s : String) : Option Json :=
  match value (2 * s.length + 2) s.toList with
  | some (v, rest) => if rest.all isSpace then some v else none
  | none => none

end Json

end MailWindow
