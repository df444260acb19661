import Silbo.Decimal.Notation
import Silbo.Number
import Silbo.Text.Quoted

/-! Values of a configuration, and how a message shows them. -/
namespace Silbo

inductive Datum where
  | null
  | bool (value : Bool)
  | number (value : Number)
  | text (value : String)
  | list (items : List Datum)
  /-- Named values in the order of their declaration; a name occurs once. -/
  | table (fields : List (String × Datum))
  deriving Inhabited

def Number.message : Number → String
  | .int n => toString n
  | .real x => Decimal.messageLayout.format x

namespace Datum

def kindName : Datum → String
  | null => "NoneType"
  | bool _ => "bool"
  | number (.int _) => "int"
  | number (.real _) => "float"
  | text _ => "str"
  | list _ => "list"
  | table _ => "dict"

mutual

def quoted : Datum → String
  | null => "None"
  | bool true => "True"
  | bool false => "False"
  | number n => n.message
  | text s => Text.quoted s
  | list items => "[" ++ ", ".intercalate (quotedItems items) ++ "]"
  | table fields => "\x7b" ++ ", ".intercalate (quotedFields fields) ++ "\x7d"

def quotedItems : List Datum → List String
  | [] => []
  | d :: rest => d.quoted :: quotedItems rest

def quotedFields : List (String × Datum) → List String
  | [] => []
  | (name, d) :: rest => (Text.quoted name ++ ": " ++ d.quoted) :: quotedFields rest

end

/-- A truth value counts as one or zero. -/
def number? : Datum → Option Number
  | bool b => some (.int (if b then 1 else 0))
  | number n => some n
  | _ => none

mutual

/-- Equality of values: numbers are equal by value, and the order of names does not count. -/
def same : Datum → Datum → Bool
  | null, null => true
  | text s, text t => s == t
  | list items, list others => sameItems items others
  | table fields, table others => fields.length == others.length && sameFields fields others
  | a, b =>
    match a.number?, b.number? with
    | some m, some n => m.same n
    | _, _ => false

def sameItems : List Datum → List Datum → Bool
  | [], [] => true
  | a :: rest, b :: others => a.same b && sameItems rest others
  | _, _ => false

def sameFields : List (String × Datum) → List (String × Datum) → Bool
  | [], _ => true
  | (name, d) :: rest, others => (others.lookup name).any d.same && sameFields rest others

end

instance : BEq Datum := ⟨same⟩

theorem beq_text {d : Datum} {s : String} : (d == text s) = true ↔ d = text s := by
  show same d (text s) = true ↔ _
  cases d <;> simp [same, number?]

/-- Whether a value may serve as a name: lists and tables may not. -/
def isPlain : Datum → Bool
  | list _ | table _ => false
  | _ => true

/-- What a value holds when it is gone through: a text its characters, a table its names. -/
def members? : Datum → Option (List Datum)
  | text s => some (s.toList.map fun c => text (String.singleton c))
  | list items => some items
  | table fields => some (fields.map fun (name, _) => text name)
  | _ => none

/-- A value in the middle of a sentence: text stands for itself. -/
def plain : Datum → String
  | text s => s
  | d => d.quoted

/-- Null, false, zero and whatever is empty: a setting with such a value counts as left out. -/
def isVoid : Datum → Bool
  | null => true
  | bool b => !b
  | number (.int n) => n == 0
  | number (.real x) => x == 0.0
  | text s => s.isEmpty
  | list items => items.isEmpty
  | table fields => fields.isEmpty

end Datum

end Silbo
