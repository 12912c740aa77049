import Tollgate.Json.Token

/-!
JSON values and their written forms: the compact one, which is the written forms of their lexical
units in a row, and the one that is laid out in lines.
-/

namespace Tollgate.Json

/-- A JSON value. Of a number that is not a bare natural one only the kind is kept, and a string
that names half a character has no text. -/
inductive Value
  | null
  | bool (b : Bool)
  | natural (n : Nat)
  | otherNumber
  | string (text : Option String)
  | array (items : List Value)
  | object (members : List (Option String × Value))
deriving Repr, Inhabited

/-- A string as a value. -/
def Value.text (s : String) : Value :=
  .string (some s)

/-- An object of these members. -/
def Value.ofFields (fields : List (String × Value)) : Value :=
  .object (fields.map fun p => (some p.1, p.2))

mutual

/-- The lexical units of a value. -/
def Value.tokens : Value → List Token
  | .null => [.null]
  | .bool b => [.bool b]
  | .natural n => [.natural n]
  | .otherNumber => [.otherNumber]
  | .string s => [.string s]
  | .array [] => [.openBracket, .closeBracket]
  | .array (v :: vs) => .openBracket :: v.tokens ++ itemTokens vs ++ [.closeBracket]
  | .object [] => [.openBrace, .closeBrace]
  | .object ((k, v) :: ms) =>
    .openBrace :: .string k :: .colon :: v.tokens ++ memberTokens ms ++ [.closeBrace]

/-- The units of further items. -/
def itemTokens : List Value → List Token
  | [] => []
  | v :: vs => .comma :: v.tokens ++ itemTokens vs

/-- The units of further members. -/
def memberTokens : List (Option String × Value) → List Token
  | [] => []
  | (k, v) :: ms => .comma :: .string k :: .colon :: v.tokens ++ memberTokens ms

end

/-- The compact text of a value. -/
def Value.compact (v : Value) : String :=
  String.ofList (v.tokens.flatMap Token.chars)

/-- The start of a line, `depth` levels of two spaces in. -/
def newLine (depth : Nat) : List Char :=
  '\n' :: List.replicate (2 * depth) ' '

mutual

/-- A value laid out in lines, from `depth` levels in. -/
def Value.layOut (depth : Nat) : Value → List Char
  | .null => Token.null.chars
  | .bool b => (Token.bool b).chars
  | .natural n => (Token.natural n).chars
  | .otherNumber => Token.otherNumber.chars
  | .string s => (Token.string s).chars
  | .array [] => ['[', ']']
  | .array (v :: vs) =>
    '[' :: newLine (depth + 1) ++ v.layOut (depth + 1) ++ layOutItems depth vs ++
      newLine depth ++ [']']
  | .object [] => ['{', '}']
  | .object ((k, v) :: ms) =>
    '{' :: newLine (depth + 1) ++ (Token.string k).chars ++ [':', ' '] ++ v.layOut (depth + 1) ++
      layOutMembers depth ms ++ newLine depth ++ ['}']

/-- Further items, each on a line of its own. -/
def layOutItems (depth : Nat) : List Value → List Char
  | [] => []
  | v :: vs => ',' :: newLine (depth + 1) ++ v.layOut (depth + 1) ++ layOutItems depth vs

/-- Further members, each on a line of its own. -/
def layOutMembers (depth : Nat) : List (Option String × Value) → List Char
  | [] => []
  | (k, v) :: ms =>
    ',' :: newLine (depth + 1) ++ (Token.string k).chars ++ [':', ' '] ++ v.layOut (depth + 1) ++
      layOutMembers depth ms

end

/-- The text of a value laid out in lines, two spaces a level. -/
def Value.indented (v : Value) : String :=
  String.ofList (v.layOut 0)

end Tollgate.Json
