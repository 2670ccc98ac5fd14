import TableSync.Json.Number

/-!
JSON values whose objects keep their keys in the order they first appeared, and their compact text,
with no blank and the short string escapes.
-/

namespace TableSync

/-- A JSON value whose objects keep their key order. -/
inductive Json where
  | null
  | bool (value : Bool)
  | number (value : JsonNumber)
  | string (value : String)
  | array (items : List Json)
  | object (fields : List (String × Json))
  deriving Inhabited

namespace Json

def setField : List (String × Json) → String → Json → List (String × Json)
  | [], key, value => [(key, value)]
  | (k, v) :: rest, key, value =>
    if k = key then (k, value) :: rest else (k, v) :: setField rest key value

def lookup : List (String × Json) → String → Option Json
  | [], _ => none
  | (k, v) :: rest, key => if k = key then some v else lookup rest key

def field? (j : Json) (key : String) : Option Json :=
  match j with
  | .object fields => lookup fields key
  | _ => none

def str? : Json → Option String
  | .string s => some s
  | _ => none

def nat (n : Nat) : Json := .number (.nat n)

def int (i : Int) : Json := .number (JsonNumber.ofInt i)

def optString : Option String → Json
  | some s => .string s
  | none => .null

def hexByte (n : Nat) : String :=
  let digit (d : Nat) : Char := if d < 10 then Char.ofNat (48 + d) else Char.ofNat (87 + d)
  String.ofList [digit (n / 16 % 16), digit (n % 16)]

def escapeChar (c : Char) : String :=
  if c = '"' then "\\\""
  else if c = '\\' then "\\\\"
  else if c = '\n' then "\\n"
  else if c = '\r' then "\\r"
  else if c = '\t' then "\\t"
  else if c.toNat = 8 then "\\b"
  else if c.toNat = 12 then "\\f"
  else if c.toNat < 32 then "\\u00" ++ hexByte c.toNat
  else String.singleton c

def quoteTo (acc s : String) : String :=
  (s.foldl (fun out c => out ++ escapeChar c) (acc.push '"')).push '"'

def quote (s : String) : String := quoteTo "" s

mutual
def renderTo (acc : String) : Json → String
  | .null => acc ++ "null"
  | .bool true => acc ++ "true"
  | .bool false => acc ++ "false"
  | .number n => acc ++ n.text
  | .string s => quoteTo acc s
  | .array items => (renderItemsTo (acc.push '[') items).push ']'
  | .object fields => (renderFieldsTo (acc.push (Char.ofNat 123)) fields).push (Char.ofNat 125)

def renderItemsTo (acc : String) : List Json → String
  | [] => acc
  | [x] => renderTo acc x
  | x :: rest => renderItemsTo ((renderTo acc x).push ',') rest

def renderFieldsTo (acc : String) : List (String × Json) → String
  | [] => acc
  | [(k, v)] => renderTo ((quoteTo acc k).push ':') v
  | (k, v) :: rest => renderFieldsTo ((renderTo ((quoteTo acc k).push ':') v).push ',') rest
end

/-- The compact JSON text of a value. -/
def render (v : Json) : String := renderTo "" v

end Json

end TableSync
