import PublicPath.Json.Numeral
import PublicPath.Json.StringLiteral

/-!
# Writing

A value is written without any space; members keep their order.
-/

namespace PublicPath.Json

mutual

def write : Json → String
  | null => "null"
  | bool b => if b then "true" else "false"
  | number n => n.write
  | string s => stringLiteral s
  | array [] => "[]"
  | array (x :: xs) => "[" ++ write x ++ writeItems xs ++ "]"
  | object [] => "\x7b\x7d"
  | object ((name, x) :: more) =>
    "\x7b" ++ stringLiteral name ++ ":" ++ write x ++ writeMembers more ++ "\x7d"

def writeItems : List Json → String
  | [] => ""
  | x :: xs => "," ++ write x ++ writeItems xs

def writeMembers : List (String × Json) → String
  | [] => ""
  | (name, x) :: more => "," ++ stringLiteral name ++ ":" ++ write x ++ writeMembers more

end

end PublicPath.Json
