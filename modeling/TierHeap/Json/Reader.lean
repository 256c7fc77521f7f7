import TierHeap.Json.Token

/-!
# Reading JSON

The reader takes one token after the other and keeps the arrays and objects that are still
open on a stack.  More than `maxDepth` of them at a time are refused.
-/

namespace TierHeap.Json

/-- An array or object that is still open, with what it holds so far, latest first. -/
inductive Frame where
  | array (items : List Json)
  | object (members : List (String × Json))
  | member (members : List (String × Json)) (key : String)

inductive Awaiting where
  /-- A value. -/
  | value
  /-- The first item of an array, or its end. -/
  | firstItem
  /-- The first key of an object, or its end. -/
  | firstKey
  /-- A key. -/
  | key
  /-- The colon after a key. -/
  | colon
  /-- A comma, or the end of the innermost array or object. -/
  | next
  /-- Nothing more: the text is complete. -/
  | done (value : Json)

/-- The reader between two tokens. -/
structure Reader where
  stack : List Frame
  awaiting : Awaiting

namespace Reader

/-- How many arrays and objects may be open at a time. -/
def maxDepth : Nat :=
  127

def start : Reader :=
  ⟨[], .value⟩

def deliver
    (stack : List Frame)
    (value : Json) : Option Reader :=
  match stack with
  | [] => some ⟨[], .done value⟩
  | .array items :: rest => some ⟨.array (value :: items) :: rest, .next⟩
  | .member members key :: rest => some ⟨.object ((key, value) :: members) :: rest, .next⟩
  | .object _ :: _ => none

def openFrame
    (stack : List Frame)
    (frame : Frame)
    (awaiting : Awaiting) : Option Reader :=
  if stack.length < maxDepth then some ⟨frame :: stack, awaiting⟩ else none

def close
    (stack : List Frame)
    (token : Token) : Option Reader :=
  match token, stack with
  | .endArray, .array items :: rest => deliver rest (.array items.reverse)
  | .endObject, .object members :: rest => deliver rest (.object members.reverse)
  | _, _ => none

def takeValue
    (stack : List Frame) : Token → Option Reader
  | .null => deliver stack .null
  | .bool value => deliver stack (.bool value)
  | .number value => deliver stack (.number value)
  | .string text => deliver stack (.string text)
  | .beginArray => openFrame stack (.array []) .firstItem
  | .beginObject => openFrame stack (.object []) .firstKey
  | _ => none

def takeKey
    (stack : List Frame)
    (token : Token) : Option Reader :=
  match token, stack with
  | .string key, .object members :: rest => some ⟨.member members key :: rest, .colon⟩
  | _, _ => none

def takeNext
    (stack : List Frame)
    (token : Token) : Option Reader :=
  match token, stack with
  | .comma, .array items :: rest => some ⟨.array items :: rest, .value⟩
  | .comma, .object members :: rest => some ⟨.object members :: rest, .key⟩
  | _, _ => close stack token

def step
    (reader : Reader)
    (token : Token) : Option Reader :=
  match reader.awaiting with
  | .value => takeValue reader.stack token
  | .firstItem =>
      if token = .endArray then close reader.stack token else takeValue reader.stack token
  | .firstKey =>
      if token = .endObject then close reader.stack token else takeKey reader.stack token
  | .key => takeKey reader.stack token
  | .colon => if token = .colon then some ⟨reader.stack, .value⟩ else none
  | .next => takeNext reader.stack token
  | .done _ => none

def run : Reader → List Token → Option Reader
  | reader, [] => some reader
  | reader, token :: rest => (reader.step token).bind fun reader => run reader rest

def result? (reader : Reader) : Option Json :=
  match reader.awaiting with
  | .done value => some value
  | _ => none

end Reader

def ofTokens? (tokens : List Token) : Option Json :=
  (Reader.start.run tokens).bind Reader.result?

def read? (text : String) : Option Json :=
  (Token.scan text.toList).bind ofTokens?

def readCanonical? (text : String) : Option Json :=
  (read? text).map canonical

end TierHeap.Json
