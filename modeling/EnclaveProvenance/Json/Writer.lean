import EnclaveProvenance.Json.Value

/-!
Written forms of JSON values.
-/

namespace EnclaveProvenance.Json

def hexDigits4 (code : Nat) : List Char :=
  [Hex.digit (code / 4096 % 16), Hex.digit (code / 256 % 16), Hex.digit (code / 16 % 16),
    Hex.digit (code % 16)]

def escapeChar (character : Char) : List Char :=
  if character = '"' then ['\\', '"']
  else if character = '\\' then ['\\', '\\']
  else if character = '\x08' then ['\\', 'b']
  else if character = '\x0c' then ['\\', 'f']
  else if character = '\n' then ['\\', 'n']
  else if character = '\r' then ['\\', 'r']
  else if character = '\t' then ['\\', 't']
  else if character.toNat < 32 then '\\' :: 'u' :: hexDigits4 character.toNat
  else [character]

def quoteText (text : String) : String :=
  String.ofList ('"' :: text.toList.flatMap escapeChar ++ ['"'])

namespace Value

def natural (value : Nat) : Value := .number (Bytes.ofText (toString value))

def ofText : Option String → Value
  | some text => .string text
  | none => .null

def indentation (depth : Nat) : String := "\n" ++ String.ofList (List.replicate (2 * depth) ' ')

mutual

def pretty (depth : Nat) : Value → String
  | .null => "null"
  | .bool truth => if truth then "true" else "false"
  | .number text => (Bytes.text? text).getD ""
  | .string text => quoteText text
  | .list [] => "[]"
  | .list (first :: rest) =>
    "[" ++ indentation (depth + 1) ++ pretty (depth + 1) first ++ prettyElements (depth + 1) rest ++
      indentation depth ++ "]"
  | .object [] => "\x7b\x7d"
  | .object ((key, first) :: rest) =>
    "\x7b" ++ indentation (depth + 1) ++ quoteText key ++ ": " ++ pretty (depth + 1) first ++
      prettyMembers (depth + 1) rest ++ indentation depth ++ "\x7d"

def prettyElements (depth : Nat) : List Value → String
  | [] => ""
  | first :: rest =>
    "," ++ indentation depth ++ pretty depth first ++ prettyElements depth rest

def prettyMembers (depth : Nat) : List (String × Value) → String
  | [] => ""
  | (key, first) :: rest =>
    "," ++ indentation depth ++ quoteText key ++ ": " ++ pretty depth first ++
      prettyMembers depth rest

end

end Value

end EnclaveProvenance.Json
