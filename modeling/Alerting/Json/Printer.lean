import Alerting.Json.Value

/-!
# JSON text

A document as text, compact or indented by two spaces.  Members come in the order of the document,
so the text of a value has them in increasing order of names.  Strings escape the quote, the
backslash and the control characters below the space, and nothing else.
-/

namespace Alerting

namespace Json

/-- A control character below the space: short escapes where there are any, else four hexadecimal
digits. -/
def escapeControl (c : Char) : List Char :=
  if c = '\x08' then ['\\', 'b']
  else if c = '\x0c' then ['\\', 'f']
  else if c = '\n' then ['\\', 'n']
  else if c = '\r' then ['\\', 'r']
  else if c = '\t' then ['\\', 't']
  else ['\\', 'u', '0', '0', Nat.digitChar (c.toNat / 16), Nat.digitChar (c.toNat % 16)]

/-- A character inside a string. -/
def escape (c : Char) : List Char :=
  if c = '"' ∨ c = '\\' then ['\\', c]
  else if c.toNat < 0x20 then escapeControl c
  else [c]

/-- A string between quotes. -/
def stringText (s : String) : List Char := '"' :: s.toList.flatMap escape ++ ['"']

/-- A number. -/
def Number.text : Number → List Char
  | .int n _ => signed (n < 0) (Nat.toDigits 10 n.natAbs)
  | .float x => x.jsonText

/-- A truth value. -/
def boolText : Bool → List Char
  | true => ['t', 'r', 'u', 'e']
  | false => ['f', 'a', 'l', 's', 'e']

mutual
/-- The document without blanks. -/
def compactText : Json → List Char
  | .null => ['n', 'u', 'l', 'l']
  | .bool b => boolText b
  | .num n => n.text
  | .str s => stringText s
  | .arr [] => ['[', ']']
  | .arr (x :: xs) => '[' :: x.compactText ++ compactItems xs
  | .obj [] => ['{', '}']
  | .obj ((k, v) :: ms) => '{' :: stringText k ++ ':' :: v.compactText ++ compactMembers ms

/-- The further items of an array and its end. -/
def compactItems : List Json → List Char
  | [] => [']']
  | x :: xs => ',' :: x.compactText ++ compactItems xs

/-- The further members of an object and its end. -/
def compactMembers : List (String × Json) → List Char
  | [] => ['}']
  | (k, v) :: ms => ',' :: stringText k ++ ':' :: v.compactText ++ compactMembers ms
end

/-- A new line at a depth: two spaces for each level. -/
def newLine (depth : Nat) : List Char := '\n' :: List.replicate (2 * depth) ' '

mutual
/-- The document with every item and member on a line of its own. -/
def prettyText (depth : Nat) : Json → List Char
  | .null => ['n', 'u', 'l', 'l']
  | .bool b => boolText b
  | .num n => n.text
  | .str s => stringText s
  | .arr [] => ['[', ']']
  | .arr (x :: xs) =>
    '[' :: newLine (depth + 1) ++ prettyText (depth + 1) x ++ prettyItems depth xs
  | .obj [] => ['{', '}']
  | .obj ((k, v) :: ms) =>
    '{' :: newLine (depth + 1) ++ stringText k ++ ':' :: ' ' :: prettyText (depth + 1) v
      ++ prettyMembers depth ms

/-- The further items of an array that starts at a depth, and its end. -/
def prettyItems (depth : Nat) : List Json → List Char
  | [] => newLine depth ++ [']']
  | x :: xs => ',' :: newLine (depth + 1) ++ prettyText (depth + 1) x ++ prettyItems depth xs

/-- The further members of an object that starts at a depth, and its end. -/
def prettyMembers (depth : Nat) : List (String × Json) → List Char
  | [] => newLine depth ++ ['}']
  | (k, v) :: ms =>
    ',' :: newLine (depth + 1) ++ stringText k ++ ':' :: ' ' :: prettyText (depth + 1) v
      ++ prettyMembers depth ms
end

/-- The compact text of a document. -/
def compact (j : Json) : String := String.ofList j.compactText

/-- The indented text of a document. -/
def pretty (j : Json) : String := String.ofList (j.prettyText 0)

end Json

end Alerting
