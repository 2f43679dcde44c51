import CardGame.Amount

/-!
Documents: the external form of cards and settings as trees of records, lists, texts and numbers. A
form says how values of a type are written as documents and which documents stand for one.
-/

namespace CardGame

inductive Document where
  | null
  | bool (b : Bool)
  | integer (n : Int)
  | fraction
  | text (s : String)
  | list (items : List Document)
  | record (fields : List (String × Document))
deriving Inhabited

/-- How values are written as documents and read back. -/
structure Form (α : Type) where
  write : α → Document
  read : Document → Option α

namespace Document

/-- The named fields of a record. A list stands for a record whose fields are its items in order. -/
def fields? (names : List String) : Document → Option (List (String × Document))
  | record fs => some fs
  | list items => if items.length = names.length then some (names.zip items) else none
  | _ => none

/-- The variant that a document names, and what it carries: a text is a variant alone, a record of
one field a variant with a value. -/
def variant? : Document → Option (String × Document)
  | text s => some (s, null)
  | record [(name, d)] => some (name, d)
  | _ => none

def tagged (name : String) (d : Document) : Document :=
  record [(name, d)]

def isNull : Document → Bool
  | null => true
  | _ => false

end Document

namespace Form

variable {α β : Type}

def text : Form String where
  write := .text
  read
    | .text s => some s
    | _ => none

def bool : Form Bool where
  write := .bool
  read
    | .bool b => some b
    | _ => none

def integer (low high : Int) : Form Int where
  write := .integer
  read
    | .integer n => if low ≤ n ∧ n ≤ high then some n else none
    | _ => none

def imap (f : Form α) (ofItem : α → β) (toItem : β → α) : Form β where
  write b := f.write (toItem b)
  read d := (f.read d).map ofItem

def amount : Form Amount :=
  (integer (-9223372036854775808) 9223372036854775807).imap Int64.ofInt Int64.toInt

def word64 : Form UInt64 :=
  (integer 0 18446744073709551615).imap (UInt64.ofNat ·.toNat) (Int.ofNat ·.toNat)

def word32 : Form UInt32 :=
  (integer 0 4294967295).imap (UInt32.ofNat ·.toNat) (Int.ofNat ·.toNat)

def list (f : Form α) : Form (List α) where
  write as := .list (as.map f.write)
  read
    | .list items => items.mapM f.read
    | _ => none

def option (f : Form α) : Form (Option α) where
  write
    | none => .null
    | some a => f.write a
  read
    | .null => some none
    | d => (f.read d).map some

def named [BEq α] (values : List (String × α)) : Form α where
  write a := ((values.find? (·.2 == a)).map (.text ·.1)).getD .null
  read d := do
    let (name, carried) ← d.variant?
    if carried.isNull then values.lookup name else none

def enumeration [BEq α] (name : α → String) (values : List α) : Form α :=
  named (values.map fun a => (name a, a))

def field (f : Form α) (name : String) (fs : List (String × Document)) : Option α := do
  f.read (← fs.lookup name)

def optionalField (f : Form α) (name : String) (fs : List (String × Document)) :
    Option (Option α) :=
  match fs.lookup name with
  | none => some none
  | some d => f.option.read d

end Form

end CardGame
