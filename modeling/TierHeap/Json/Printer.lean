import TierHeap.Json.Token

/-!
# Writing JSON

`compact` writes a value on one line without blanks; `pretty` puts every item and member on
a line of its own, two more blanks for each level.  Members keep their order.
-/

namespace TierHeap.Json

mutual

def tokens : Json → List Token
  | .null => [.null]
  | .bool value => [.bool value]
  | .number value => [.number value]
  | .string text => [.string text]
  | .array items => .beginArray :: itemTokens items ++ [.endArray]
  | .object members => .beginObject :: memberTokens members ++ [.endObject]

def itemTokens : List Json → List Token
  | [] => []
  | [item] => tokens item
  | item :: rest => tokens item ++ .comma :: itemTokens rest

def memberTokens : List (String × Json) → List Token
  | [] => []
  | [(key, value)] => .string key :: .colon :: tokens value
  | (key, value) :: rest => .string key :: .colon :: tokens value ++ .comma :: memberTokens rest

end

def compact (value : Json) : String :=
  String.ofList (value.tokens.flatMap Token.chars)

def lineBreak (level : Nat) : List Char :=
  '\n' :: List.replicate (2 * level) ' '

mutual

def prettyChars
    (level : Nat) : Json → List Char
  | .array [] => ['[', ']']
  | .object [] => ['{', '}']
  | .array (item :: rest) =>
      '[' :: prettyItems (level + 1) (item :: rest) ++ lineBreak level ++ [']']
  | .object (member :: rest) =>
      '{' :: prettyMembers (level + 1) (member :: rest) ++ lineBreak level ++ ['}']
  | .null => Token.chars .null
  | .bool value => Token.chars (.bool value)
  | .number value => Token.chars (.number value)
  | .string text => Token.chars (.string text)

def prettyItems
    (level : Nat) : List Json → List Char
  | [] => []
  | [item] => lineBreak level ++ prettyChars level item
  | item :: rest => lineBreak level ++ prettyChars level item ++ ',' :: prettyItems level rest

def prettyMembers
    (level : Nat) : List (String × Json) → List Char
  | [] => []
  | [(key, value)] =>
      lineBreak level ++ Token.stringChars key ++ [':', ' '] ++ prettyChars level value
  | (key, value) :: rest =>
      lineBreak level ++ Token.stringChars key ++ [':', ' '] ++ prettyChars level value ++
        ',' :: prettyMembers level rest

end

def pretty (value : Json) : String :=
  String.ofList (prettyChars 0 value)

end TierHeap.Json
