import DetectorReadout.Json.Basic

/-!
# Reading typed values

A value of a type is read out of a JSON value as a whole or not at all. Numbers, texts and lists are read by functions of
their own. A value with named fields is read through a `Record`, which has two spellings: an object, in which unknown
fields are ignored, and a list of the fields in their fixed order.
-/

namespace DetectorReadout

namespace Json

/-- A whole number within bounds, both included. -/
def intBetween? (lo hi : Int) : Json → Option Int
  | .number (.integer n) => if lo ≤ n ∧ n ≤ hi then some n else none
  | _ => none

/-- A 64-bit word. -/
def word? (j : Json) : Option UInt64 := (j.intBetween? 0 0xffffffffffffffff).map fun n => .ofNat n.toNat

/-- A count. -/
def count? (j : Json) : Option Nat := (j.intBetween? 0 0xffffffffffffffff).map Int.toNat

/-- A 32-bit word. -/
def halfWord? (j : Json) : Option UInt32 := (j.intBetween? 0 0xffffffff).map fun n => .ofNat n.toNat

/-- A whole number of 32 bits with a sign. -/
def int? (j : Json) : Option Int := j.intBetween? (-0x80000000) 0x7fffffff

/-- A number, whole or not. -/
def float? : Json → Option Float
  | .number (.integer n) => some (.ofInt n)
  | .number (.float x) => some x
  | _ => none

/-- A truth value. -/
def bool? : Json → Option Bool
  | .bool b => some b
  | _ => none

/-- A text. -/
def string? : Json → Option String
  | .text s => s
  | _ => none

/-- A list of values of one type. -/
def list? {β : Type} (item? : Json → Option β) : Json → Option (List β)
  | .array items => items.mapM item?
  | _ => none

/-- A value of a type, or the empty value. -/
def nullable? {β : Type} (read? : Json → Option β) : Json → Option (Option β)
  | .null => some none
  | j => (read? j).map some

/-- One of several named values: the name, alone or as the only field of an object with an empty value. -/
def choice? {β : Type} (choices : List (String × β)) : Json → Option β
  | .text (some name) => choices.lookup name
  | .object [(some name, .null)] => choices.lookup name
  | _ => none

/-- A value with named fields that has not been read further. -/
structure Record where
  /-- The fields that are given. -/
  fields : List (String × Json)
  /-- Whether they were given by their order alone. -/
  byOrder : Bool

/-- A value with the named fields. Every key of an object must be a text and no known field may be given twice; a list
must not be longer than the names. -/
def record? (names : List String) : Json → Option Record
  | .object fields => do
    let named ← fields.mapM fun (k, v) => k.map (·, v)
    let known := named.filter fun (k, _) => names.contains k
    if (known.map (·.1)).Nodup then some ⟨known, false⟩ else none
  | .array items => if items.length ≤ names.length then some ⟨names.zip items, true⟩ else none
  | _ => none

namespace Record

variable {β : Type}

/-- A field that must be given. -/
def required? (r : Record) (name : String) (read? : Json → Option β) : Option β :=
  (r.fields.lookup name).bind read?

/-- A field with a default. -/
def withDefault? (r : Record) (name : String) (read? : Json → Option β) (default : β) : Option β :=
  match r.fields.lookup name with
  | some j => read? j
  | none => some default

/-- A field that may be empty. An object may leave it out, a list may not. -/
def optional? (r : Record) (name : String) (read? : Json → Option β) : Option (Option β) :=
  match r.fields.lookup name with
  | some j => j.nullable? read?
  | none => if r.byOrder then none else some none

end Record

end Json

end DetectorReadout
