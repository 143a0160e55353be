import DocDispatch.Json.Value

/-!
# Json/Printer — the compact text of a value

No blanks, members in key order.  A string escapes the quote, the backslash and the control
characters below U+0020, five of them by a letter, and nothing else.
-/

namespace DocDispatch.Json

/-- A hexadecimal digit, in lower case. -/
def hexDigit (n : Nat) : Char := Nat.digitChar (n % 16)

/-- `\u` and the four hexadecimal digits of a code unit. -/
def unitEscape (n : Nat) : List Char :=
  ['\\', 'u', hexDigit (n / 4096), hexDigit (n / 256), hexDigit (n / 16), hexDigit n]

/-- A character as it stands inside a string literal. -/
def escapeChar (c : Char) : List Char :=
  if c = '"' then ['\\', '"']
  else if c = '\\' then ['\\', '\\']
  else if c = '\n' then ['\\', 'n']
  else if c = '\r' then ['\\', 'r']
  else if c = '\t' then ['\\', 't']
  else if c.toNat = 8 then ['\\', 'b']
  else if c.toNat = 12 then ['\\', 'f']
  else if c.toNat < 32 then unitEscape c.toNat
  else [c]

/-- A string literal. -/
def stringChars (s : String) : List Char := '"' :: s.toList.flatMap escapeChar ++ ['"']

namespace Value

mutual

/-- The characters of a value's compact text. -/
def chars : Value → List Char
  | .null => ['n', 'u', 'l', 'l']
  | .bool true => ['t', 'r', 'u', 'e']
  | .bool false => ['f', 'a', 'l', 's', 'e']
  | .number n => n.chars
  | .string s => stringChars s
  | .array [] => ['[', ']']
  | .array (v :: vs) => '[' :: chars v ++ itemsChars vs
  | .object [] => ['{', '}']
  | .object ((k, v) :: ms) => '{' :: stringChars k ++ ':' :: chars v ++ membersChars ms

/-- The items after the first, and the bracket that closes them. -/
def itemsChars : List Value → List Char
  | [] => [']']
  | v :: vs => ',' :: chars v ++ itemsChars vs

/-- The members after the first, and the brace that closes them. -/
def membersChars : List (String × Value) → List Char
  | [] => ['}']
  | (k, v) :: ms => ',' :: stringChars k ++ ':' :: chars v ++ membersChars ms

end

/-- **The compact text of a value.** -/
def text (v : Value) : String := String.ofList v.chars

end Value

end DocDispatch.Json
