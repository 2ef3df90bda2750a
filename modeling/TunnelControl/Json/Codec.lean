import TunnelControl.Json

/-!
# Reading and writing JSON

A `Codec` writes a type as JSON and reads it back. Records are given by one
list of fields, `Fields`, that drives both directions and both written forms:
an object with the fields as keys, or an array of the fields in the order of
their declaration.

A key that no field has is ignored. A field whose key is absent takes the value
`absent` if it has one, and a field beyond the end of an array takes the value
`cut`; a field without such a value makes the reading fail. Every field that
may be cut may be absent as well.
-/

namespace TunnelControl

structure Codec (α : Type) where
  write : α → Json
  read : Json → Option α

namespace Codec

def text : Codec String where
  write := .str
  read
    | .str s => some s
    | _ => none

def flag : Codec Bool where
  write := .bool
  read
    | .bool b => some b
    | _ => none

/-- The integers from `lo` to `hi` of a fixed-width type. -/
def integer {α : Type} (lo hi : Int) (toInt : α → Int) (ofInt : Int → α) : Codec α where
  write n := .int (toInt n)
  read
    | .int n => if lo ≤ n ∧ n ≤ hi then some (ofInt n) else none
    | _ => none

def int32 : Codec Int32 := integer (-0x80000000) 0x7FFFFFFF Int32.toInt Int32.ofInt

def uint32 : Codec UInt32 := integer 0 0xFFFFFFFF (fun n => n.toNat) (fun n => UInt32.ofNat n.toNat)

def uint64 : Codec UInt64 :=
  integer 0 0xFFFFFFFFFFFFFFFF (fun n => n.toNat) (fun n => UInt64.ofNat n.toNat)

def list {α : Type} (c : Codec α) : Codec (List α) where
  write xs := .arr (xs.map c.write)
  read
    | .arr js => js.mapM c.read
    | _ => none

/-- Two values as an array of exactly two elements. -/
def pair {α β : Type} (c : Codec α) (d : Codec β) : Codec (α × β) where
  write p := .arr [c.write p.1, d.write p.2]
  read
    | .arr [x, y] => do
      let a ← c.read x
      let b ← d.read y
      pure (a, b)
    | _ => none

/-- A value or null. -/
def nullable {α : Type} (c : Codec α) : Codec (Option α) where
  write
    | none => .null
    | some a => c.write a
  read
    | .null => some none
    | j => (c.read j).map some

/-- A choice between names, written as the name. An object whose only key is the
name, with the value null, is read as well. -/
def named {α : Type} (name : α → String) (all : List α) : Codec α where
  write a := .str (name a)
  read
    | .str s => all.find? fun a => name a == s
    | .obj [(s, .null)] => all.find? fun a => name a == s
    | _ => none

end Codec

/-- One field of a record. -/
structure Field (β : Type) where
  key : String
  codec : Codec β
  absent : Option β
  cut : Option β
  /-- Values that are left out of a written object. -/
  unwritten : β → Bool

namespace Field

/-- A field that has to be there. -/
def required {β : Type} (key : String) (c : Codec β) : Field β :=
  ⟨key, c, none, none, fun _ => false⟩

/-- A field that holds null for none and may be absent, but not cut. -/
def nullable {β : Type} (key : String) (c : Codec β) : Field (Option β) :=
  ⟨key, c.nullable, some none, none, fun _ => false⟩

/-- A field that is left out for none. -/
def optional {β : Type} (key : String) (c : Codec β) : Field (Option β) :=
  ⟨key, c.nullable, some none, some none, Option.isNone⟩

/-- A field with a value to take when it is missing. -/
def withDefault {β : Type} (key : String) (c : Codec β) (value : β) : Field β :=
  ⟨key, c, some value, some value, fun _ => false⟩

/-- A list that is left out when it is empty. -/
def unlessEmpty {β : Type} (key : String) (c : Codec β) : Field (List β) :=
  ⟨key, c.list, some [], some [], List.isEmpty⟩

/-- The field's value in an object. -/
def readFrom {β : Type} (f : Field β) (fields : List (String × Json)) : Option β :=
  match Json.field? f.key fields with
  | none => f.absent
  | some j => f.codec.read j

def writeTo {β : Type} (f : Field β) (b : β) : List (String × Json) :=
  if f.unwritten b then [] else [(f.key, f.codec.write b)]

end Field

/-- The fields of a record in the order of declaration, and the type of the
tuple of their values. -/
inductive Fields : Type → Type 1
  | nil : Fields Unit
  | cons {β γ : Type} (head : Field β) (tail : Fields γ) : Fields (β × γ)

namespace Fields

def keys {α : Type} : Fields α → List String
  | nil => []
  | cons f fs => f.key :: fs.keys

/-- Reads the fields from the entries of an object. -/
def ofEntries {α : Type} : Fields α → List (String × Json) → Option α
  | nil, _ => some ()
  | cons f fs, entries => do
    let b ← f.readFrom entries
    let c ← fs.ofEntries entries
    pure (b, c)

/-- Reads the fields from the elements of an array. No element may be left over. -/
def ofElements {α : Type} : Fields α → List Json → Option α
  | nil, [] => some ()
  | nil, _ :: _ => none
  | cons f fs, [] => do
    let b ← f.cut
    let c ← fs.ofElements []
    pure (b, c)
  | cons f fs, j :: js => do
    let b ← f.codec.read j
    let c ← fs.ofElements js
    pure (b, c)

/-- The entries of the written object. -/
def entries {α : Type} : Fields α → α → List (String × Json)
  | nil, _ => []
  | cons f fs, (b, c) => f.writeTo b ++ fs.entries c

/-- The elements of the array form, with every field in it. -/
def elements {α : Type} : Fields α → α → List Json
  | nil, _ => []
  | cons f fs, (b, c) => f.codec.write b :: fs.elements c

end Fields

/-- The codec of a record with the given fields: written as an object, read from
an object or an array. -/
def Codec.record {α σ : Type} (fields : Fields α) (toFields : σ → α) (ofFields : α → σ) :
    Codec σ where
  write s := .obj (fields.entries (toFields s))
  read
    | .obj entries => (fields.ofEntries entries).map ofFields
    | .arr elems => (fields.ofElements elems).map ofFields
    | _ => none

end TunnelControl
