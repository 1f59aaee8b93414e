import ContextualLifecycle.Json.Basic

namespace ContextualLifecycle.Json

/-- The escape of a control character that has no short one. -/
def unitEscape (c : Char) : List Char :=
  let digits := Nat.toDigits 16 c.toNat
  ['\\', 'u'] ++ List.replicate (4 - digits.length) '0' ++ digits

def escapeChar (c : Char) : List Char :=
  match c with
  | '"' => ['\\', '"']
  | '\\' => ['\\', '\\']
  | '\x08' => ['\\', 'b']
  | '\x0c' => ['\\', 'f']
  | '\n' => ['\\', 'n']
  | '\r' => ['\\', 'r']
  | '\t' => ['\\', 't']
  | c => if c.toNat < 0x20 then unitEscape c else [c]

def stringText (s : String) : List Char :=
  '"' :: s.toList.flatMap escapeChar ++ ['"']

def Number.text : Number → List Char
  | .integer (.ofNat n) => Nat.toDigits 10 n
  | .integer (.negSucc n) => '-' :: Nat.toDigits 10 (n + 1)
  | .real x => x.text.toList

mutual

def text : Json → List Char
  | null => "null".toList
  | bool true => "true".toList
  | bool false => "false".toList
  | number n => n.text
  | string s => stringText s
  | array [] => ['[', ']']
  | array (item :: items) => '[' :: item.text ++ itemsText items
  | object [] => ['\x7b', '\x7d']
  | object ((key, value) :: members) =>
    '\x7b' :: stringText key ++ ':' :: value.text ++ membersText members

def itemsText : List Json → List Char
  | [] => [']']
  | item :: items => ',' :: item.text ++ itemsText items

def membersText : List (String × Json) → List Char
  | [] => ['\x7d']
  | (key, value) :: members => ',' :: stringText key ++ ':' :: value.text ++ membersText members

end

def print (value : Json) : String := String.ofList value.text

end ContextualLifecycle.Json
