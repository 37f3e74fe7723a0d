import ServiceCall.Text.Glyph
import ServiceCall.Text.Percent

/-!
Diagnostic text: quoted strings, options, lists, tables and records. Nothing reads this text
back.
-/

namespace ServiceCall

namespace Inspect

def quotedChar (c : Char) : List Char :=
  if c = '"' then ['\\', '"']
  else if c = '\\' then ['\\', '\\']
  else if c = '\n' then ['\\', 'n']
  else if c = '\r' then ['\\', 'r']
  else if c = '\t' then ['\\', 't']
  else if c.toNat = 0 then ['\\', '0']
  else if Glyph.isMissing c then ['\\', 'u', '{'] ++ Hex.ofNat c.toNat ++ ['}']
  else [c]

def string (s : String) : String :=
  String.ofList ('"' :: s.toList.flatMap quotedChar ++ ['"'])

def bool (b : Bool) : String := if b then "true" else "false"

def option {α : Type} (inner : α → String) : Option α → String
  | none => "None"
  | some a => "Some(" ++ inner a ++ ")"

def list {α : Type} (inner : α → String) (items : List α) : String :=
  "[" ++ ", ".intercalate (items.map inner) ++ "]"

def table {α : Type} (inner : α → String) (entries : List (String × α)) : String :=
  "\x7b" ++ ", ".intercalate (entries.map fun e => string e.1 ++ ": " ++ inner e.2) ++ "\x7d"

def record (name : String) (fields : List (String × String)) : String :=
  name ++ " \x7b " ++ ", ".intercalate (fields.map fun f => f.1 ++ ": " ++ f.2) ++ " \x7d"

end Inspect

end ServiceCall
