import VirtualCamera.Json.Token

/-!
# Writing JSON values

A value is written compactly, without any space, or spread over lines with two
spaces of indentation per level.  The compact form is the tokens of the value,
one after the other.  Numbers and strings that are known only by their kind
are written as one of that kind.
-/

namespace VirtualCamera.Json

/-- The last four hexadecimal digits of a number, in lower case. -/
def hex4 (n : Nat) : List Char :=
  [n / 4096 % 16, n / 256 % 16, n / 16 % 16, n % 16].map Nat.digitChar

def escape (c : Char) : List Char :=
  match c with
  | '"' => ['\\', '"']
  | '\\' => ['\\', '\\']
  | '\x08' => ['\\', 'b']
  | '\x0c' => ['\\', 'f']
  | '\n' => ['\\', 'n']
  | '\r' => ['\\', 'r']
  | '\t' => ['\\', 't']
  | c => if c.toNat < 0x20 then '\\' :: 'u' :: hex4 c.toNat else [c]

def quote : Option String → List Char
  | some text => '"' :: text.toList.flatMap escape ++ ['"']
  | none => '"' :: '\\' :: 'u' :: hex4 0xd800 ++ ['"']

def decimal (n : Int) : List Char :=
  if n < 0 then '-' :: Nat.toDigits 10 n.natAbs else Nat.toDigits 10 n.natAbs

namespace Token

def chars : Token → List Char
  | openObject => ['\x7b']
  | closeObject => ['\x7d']
  | openArray => ['[']
  | closeArray => [']']
  | colon => [':']
  | comma => [',']
  | scalar .null => "null".toList
  | scalar (.bool true) => "true".toList
  | scalar (.bool false) => "false".toList
  | scalar (.integer n) => decimal n
  | scalar .real => "-0".toList
  | scalar (.string text) => quote text
  | scalar (.array _) => []
  | scalar (.object _) => []

end Token

namespace Value

mutual

def tokens : Value → List Token
  | array items => .openArray :: itemTokens items ++ [.closeArray]
  | object members => .openObject :: memberTokens members ++ [.closeObject]
  | v => [.scalar v]

def itemTokens : List Value → List Token
  | [] => []
  | [v] => v.tokens
  | v :: w :: rest => v.tokens ++ .comma :: itemTokens (w :: rest)

def memberTokens : List Member → List Token
  | [] => []
  | [(k, v)] => .scalar (.string k) :: .colon :: v.tokens
  | (k, v) :: m :: rest => .scalar (.string k) :: .colon :: v.tokens ++ .comma :: memberTokens (m :: rest)

end

def compact (v : Value) : String :=
  String.ofList (v.tokens.flatMap Token.chars)

def newline (level : Nat) : List Char :=
  '\n' :: List.replicate (2 * level) ' '

mutual

/-- The characters of a value spread over lines; `level` counts what
surrounds it. -/
def spreadChars (level : Nat) : Value → List Char
  | array [] => ['[', ']']
  | array (v :: rest) => '[' :: spreadItems (level + 1) (v :: rest) ++ newline level ++ [']']
  | object [] => ['\x7b', '\x7d']
  | object (m :: rest) =>
    '\x7b' :: spreadMembers (level + 1) (m :: rest) ++ newline level ++ ['\x7d']
  | v => (Token.scalar v).chars

def spreadItems (level : Nat) : List Value → List Char
  | [] => []
  | [v] => newline level ++ spreadChars level v
  | v :: w :: rest => newline level ++ spreadChars level v ++ ',' :: spreadItems level (w :: rest)

def spreadMembers (level : Nat) : List Member → List Char
  | [] => []
  | [(k, v)] => newline level ++ quote k ++ [':', ' '] ++ spreadChars level v
  | (k, v) :: m :: rest =>
    newline level ++ quote k ++ [':', ' '] ++ spreadChars level v ++ ',' ::
      spreadMembers level (m :: rest)

end

def spread (v : Value) : String :=
  String.ofList (spreadChars 0 v)

end Value

end VirtualCamera.Json
