import DocDispatch.Json.Tree

/-!
# Json/Reader — from a JSON text to its tree

The reader is recursive descent over the characters.  Every call consumes a character before it
calls again, so the length of the text bounds the recursion and serves as fuel (`Tree.ofText?`).  A
container nested in more than `room` others is read and then given up as `unreadable`.
-/

namespace DocDispatch.Json.Reader

/-- The blanks of a JSON text. -/
def isBlank (c : Char) : Bool := c == ' ' || c == '\t' || c == '\n' || c == '\r'

def skipBlanks (cs : List Char) : List Char := cs.dropWhile isBlank

/-! ## Strings -/

/-- A piece of a string literal: a character, or a code unit given by number. -/
inductive Piece where
  | char (c : Char)
  | unit (n : Nat)

def hexValue? (c : Char) : Option Nat :=
  if '0' ≤ c ∧ c ≤ '9' then some (c.toNat - '0'.toNat)
  else if 'a' ≤ c ∧ c ≤ 'f' then some (c.toNat - 'a'.toNat + 10)
  else if 'A' ≤ c ∧ c ≤ 'F' then some (c.toNat - 'A'.toNat + 10)
  else none

/-- The character after a backslash, other than `u`. -/
def escaped? (c : Char) : Option Char :=
  if c = '"' ∨ c = '\\' ∨ c = '/' then some c
  else if c = 'b' then some (Char.ofNat 8)
  else if c = 'f' then some (Char.ofNat 12)
  else if c = 'n' then some '\n'
  else if c = 'r' then some '\r'
  else if c = 't' then some '\t'
  else none

/-- The pieces of a string literal up to its closing quote, and what follows it. -/
def pieces? : List Char → Option (List Piece × List Char)
  | [] => none
  | '"' :: cs => some ([], cs)
  | '\\' :: 'u' :: a :: b :: c :: d :: cs => do
    let n := 4096 * (← hexValue? a) + 256 * (← hexValue? b) + 16 * (← hexValue? c) + (← hexValue? d)
    let (ps, rest) ← pieces? cs
    some (.unit n :: ps, rest)
  | '\\' :: c :: cs => do
    let c ← escaped? c
    let (ps, rest) ← pieces? cs
    some (.char c :: ps, rest)
  | c :: cs =>
    if c.toNat < 32 then none
    else do
      let (ps, rest) ← pieces? cs
      some (.char c :: ps, rest)

/-- The characters the pieces stand for; a surrogate has to be one of a pair. -/
def assemble? : List Piece → Option (List Char)
  | [] => some []
  | .char c :: ps => (assemble? ps).map (c :: ·)
  | .unit h :: .unit l :: ps =>
    if 0xD800 ≤ h ∧ h < 0xDC00 ∧ 0xDC00 ≤ l ∧ l < 0xE000 then
      (assemble? ps).map (Char.ofNat (0x10000 + (h - 0xD800) * 0x400 + (l - 0xDC00)) :: ·)
    else if 0xD800 ≤ h ∧ h < 0xE000 then none
    else (assemble? (.unit l :: ps)).map (Char.ofNat h :: ·)
  | .unit h :: ps =>
    if 0xD800 ≤ h ∧ h < 0xE000 then none else (assemble? ps).map (Char.ofNat h :: ·)

/-- A string literal after its opening quote; `none` inside where it spells no text. -/
def string? (cs : List Char) : Option (Option String × List Char) := do
  let (ps, rest) ← pieces? cs
  some ((assemble? ps).map String.ofList, rest)

/-! ## Numbers -/

/-- The fraction after the whole digits: a point and at least one digit, or nothing. -/
def fraction? : List Char → Option (List Char × List Char)
  | '.' :: cs => match Literal.digits cs with
    | ([], _) => none
    | r => some r
  | cs => some ([], cs)

/-- A number literal; `none` inside where it exceeds every finite number. -/
def number? (cs : List Char) : Option (Option Number × List Char) := do
  let (negative, cs) := match cs with
    | '-' :: cs => (true, cs)
    | cs => (false, cs)
  let (whole, cs) := Literal.digits cs
  if whole = [] ∨ (whole.head? = some '0' ∧ 1 < whole.length) then none
  else
    let (fraction, rest) ← fraction? cs
    let (exponent, rest) ← Literal.exponent? rest
    let literal : DecimalLiteral := ⟨negative, whole, fraction, exponent.getD 0⟩
    some (Number.ofLiteral? literal (fraction = [] ∧ exponent = none), rest)

/-! ## Values -/

/-- Keeps a container only where there is room for it. -/
def within (room : Nat) (t : Tree) : Tree := if room = 0 then .unreadable else t

mutual

/-- One value, and what follows it. -/
def value? : Nat → Nat → List Char → Option (Tree × List Char)
  | 0, _, _ => none
  | fuel + 1, room, cs =>
    match skipBlanks cs with
    | 'n' :: 'u' :: 'l' :: 'l' :: cs => some (.null, cs)
    | 't' :: 'r' :: 'u' :: 'e' :: cs => some (.bool true, cs)
    | 'f' :: 'a' :: 'l' :: 's' :: 'e' :: cs => some (.bool false, cs)
    | '"' :: cs => do
      let (s, rest) ← string? cs
      some (s.elim .unreadable .string, rest)
    | '[' :: cs => do
      let (items, rest) ← items? fuel (room - 1) true cs
      some (within room (.array items), rest)
    | '{' :: cs => do
      let (members, rest) ← members? fuel (room - 1) true cs
      some (within room (.object members), rest)
    | cs => do
      let (n, rest) ← number? cs
      some (n.elim .unreadable .number, rest)

/-- The items up to the closing bracket, of which the next is the first or follows a comma. -/
def items? : Nat → Nat → Bool → List Char → Option (List Tree × List Char)
  | 0, _, _, _ => none
  | fuel + 1, room, first, cs =>
    match first, skipBlanks cs with
    | _, ']' :: cs => some ([], cs)
    | true, cs => item? fuel room cs
    | false, ',' :: cs => item? fuel room cs
    | false, _ => none

/-- An item and those after it. -/
def item? : Nat → Nat → List Char → Option (List Tree × List Char)
  | 0, _, _ => none
  | fuel + 1, room, cs => do
    let (t, cs) ← value? fuel room cs
    let (ts, rest) ← items? fuel room false cs
    some (t :: ts, rest)

/-- The members up to the closing brace, of which the next is the first or follows a comma. -/
def members? : Nat → Nat → Bool → List Char → Option (List (Option String × Tree) × List Char)
  | 0, _, _, _ => none
  | fuel + 1, room, first, cs =>
    match first, skipBlanks cs with
    | _, '}' :: cs => some ([], cs)
    | true, cs => member? fuel room cs
    | false, ',' :: cs => member? fuel room cs
    | false, _ => none

/-- A member and those after it. -/
def member? : Nat → Nat → List Char → Option (List (Option String × Tree) × List Char)
  | 0, _, _ => none
  | fuel + 1, room, cs =>
    match skipBlanks cs with
    | '"' :: cs => do
      let (k, cs) ← string? cs
      match skipBlanks cs with
      | ':' :: cs => do
        let (t, cs) ← value? fuel room cs
        let (ms, rest) ← members? fuel room false cs
        some ((k, t) :: ms, rest)
      | _ => none
    | _ => none

end

end Reader

namespace Tree

/-- The containers a text may nest in one another. -/
def standardRoom : Nat := 127

/-- **The tree a text spells**: one value, with blanks around it. -/
def ofText? (room : Nat) (text : String) : Option Tree := do
  let cs := text.toList
  let (t, rest) ← Reader.value? (3 * cs.length + 3) room cs
  if Reader.skipBlanks rest = [] then some t else none

end Tree

/-- The value a text spells, containers nested as deep as is standard. -/
def Value.ofText? (text : String) : Option Value :=
  Tree.ofText? Tree.standardRoom text >>= Tree.toValue?

end DocDispatch.Json
