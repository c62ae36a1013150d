import CellRep.Json
import CellRep.Strconv
import Mathlib.Data.List.Forall2

/-!
# Codecs for JSON structures

A `Codec` says how the values of a type are written and how a value is read on top of what
the target holds already, and carries the proof that the two fit. Writing leaves a choice open,
a list without elements being `[]` or `null`, so it is a relation `Writes` beside the
function `write`; what a reader gets from any of the choices is `back`.

Structures are read by their fields: a member goes to the field with exactly its key, or
else to the first one that has it up to case, and to none at all otherwise. The fields of an
embedded structure are fields of the outer one (`StructField.embed`). `Codec.record` makes a codec
of the fields, `Codec.slice` one of lists.
-/

universe u

namespace Json

/-- How the values of a type are written and read. The last field is the round trip, so that a
type for which a codec was built cannot fail to be read back; `back` is there because the
result may differ from the original where the source makes no difference, as between a nil and
an empty list. -/
structure Codec (α : Type u) where
  /-- read a value on top of an old one -/
  read : α → Value → Except UnmarshalTypeError α
  /-- one way to write it -/
  write : α → Value
  /-- the ways to write it -/
  Writes : α → Value → Prop
  /-- what comes back -/
  back : α → α
  /-- the way chosen is a way -/
  writes_write : ∀ a, Writes a (write a)
  /-- **what was written is read**, whatever was there before -/
  read_of_writes : ∀ {a value}, Writes a value → ∀ old, read old value = .ok (back a)

namespace Codec

/-! ## Scalars

Strings, booleans and integers come back as they are, and `null` leaves the target alone. An
integer type of the source is given by how its values fit into 64 bits. -/

/-- Strings, read as in `decodeString`. -/
def string : Codec String where
  read := decodeString
  write := .string
  Writes a value := value = .string a
  back := id
  writes_write _ := rfl
  read_of_writes := by
    rintro a _ rfl old
    rfl

/-- Read a boolean; `null` leaves the old value. -/
def decodeBool (old : Bool) : Value → Except UnmarshalTypeError Bool
  | .null => .ok old
  | .bool b => .ok b
  | value => .error ⟨value.kind, "bool"⟩

/-- Booleans; no other value is taken for one, not even a number. -/
def bool : Codec Bool where
  read := decodeBool
  write := .bool
  Writes a value := value = .bool a
  back := id
  writes_write _ := rfl
  read_of_writes := by
    rintro a _ rfl old
    rfl

/-- Read a number of an integer type: it is parsed with 64 bits, and then has to fit. A number
with a fraction or an exponent is an error, since it is no decimal numeral. -/
def decodeInteger {α : Type u} (target : String) (fit : Int64 → Option α) (old : α) :
    Value → Except UnmarshalTypeError α
  | .null => .ok old
  | .number text =>
    match (Strconv.atoi text).bind fit with
    | some a => .ok a
    | none => .error ⟨"number " ++ text, target⟩
  | value => .error ⟨value.kind, target⟩

/-- An integer type within the 64-bit one. The proof `hfit` says that widening a value and
fitting it again changes nothing, which is all the round trip needs. -/
def integer {α : Type u} (target : String) (fit : Int64 → Option α) (widen : α → Int64)
    (hfit : ∀ a, fit (widen a) = some a) : Codec α where
  read := decodeInteger target fit
  write a := .number (Strconv.itoa (widen a))
  Writes a value := value = .number (Strconv.itoa (widen a))
  back := id
  writes_write _ := rfl
  read_of_writes := by
    rintro a _ rfl old
    rw [decodeInteger, Strconv.atoi_itoa, Option.bind_some, hfit]
    rfl

/-- The 32-bit value of a 64-bit one, if it has one. Narrowing wraps around, so a value fits
exactly if widening brings it back. -/
def int32? (n : Int64) : Option Int32 := if n.toInt32.toInt64 = n then some n.toInt32 else none

/-- The type `int32` of the source. -/
def int32 : Codec Int32 :=
  integer "int32" int32? Int32.toInt64 fun a => by
    rw [int32?, Int32.toInt32_toInt64, if_pos rfl]

/-- The type `int` of the source, with 64 bits. -/
def int : Codec Int64 := integer "int" some id fun _ => rfl

/-! ## Lists

Elements are read on top of the old elements in their places, and only then of the zero value,
as the source reuses the array behind a slice. A list that was written is read the same
whatever was there, because each of its elements is. -/

section

variable {α : Type u}

/-- Read the elements of an array, each one on top of the old element in its place. -/
def readElements (c : Codec α) (zero : α) : List α → List Value → Except UnmarshalTypeError (List α)
  | _, [] => .ok []
  | old, value :: values =>
    match c.read (old.headD zero) value with
    | .error err => .error err
    | .ok a =>
      match readElements c zero old.tail values with
      | .error err => .error err
      | .ok as => .ok (a :: as)

/-- What was written element by element is read element by element, by induction on the two
lists side by side. -/
theorem readElements_of_writes {c : Codec α} {zero : α} {as : List α} {values : List Value}
    (h : List.Forall₂ c.Writes as values) :
    ∀ old, readElements c zero old values = .ok (as.map c.back) := by
  induction h with
  | nil => exact fun _ => rfl
  | cons hvalue _ ih =>
    intro old
    rw [readElements, c.read_of_writes hvalue, ih]
    rfl

/-- The ways to write a list: `null` will do for one without elements. The source writes
`null` for a nil slice and `[]` for an empty one, and the model does not keep the two apart. -/
inductive SliceWrites (c : Codec α) : List α → Value → Prop where
  | nil : SliceWrites c [] .null
  | array {as : List α} {values : List Value} :
      List.Forall₂ c.Writes as values → SliceWrites c as (.array values)

/-- Lists of what another codec writes, with the zero value of an element. Its own choice for
an empty list is `null`. -/
def slice (c : Codec α) (zero : α) (target : String) : Codec (List α) where
  read old
    | .null => .ok []
    | .array values => readElements c zero old values
    | value => .error ⟨value.kind, target⟩
  write as := if as.isEmpty then .null else .array (as.map c.write)
  Writes := SliceWrites c
  back as := as.map c.back
  writes_write as := by
    cases as with
    | nil => exact .nil
    | cons a as =>
      refine .array (List.forall₂_map_right_iff.mpr ?_)
      exact List.forall₂_same.mpr fun a _ => c.writes_write a
  read_of_writes := by
    rintro as value h old
    cases h with
    | nil => rfl
    | array hvalues => exact readElements_of_writes hvalues old

end

end Codec

/-! ## Structures

A structure is given by the list of its fields, in the order in which they are written. Each
field knows how to read itself into the structure and how to copy itself from one structure to
another, so that reading all members amounts to copying all fields. -/

/-- A field of a structure: the name it goes by, and how it is written and read. Like a codec
it carries the proof that both fit. -/
structure StructField (σ : Type u) where
  name : String
  /-- read a value into the field -/
  read : σ → Value → Except UnmarshalTypeError σ
  /-- one way to write the field -/
  write : σ → Value
  /-- the ways to write the field -/
  Writes : σ → Value → Prop
  /-- put what comes back of the field of one structure into another one -/
  copy : σ → σ → σ
  /-- the way chosen is a way -/
  writes_write : ∀ s, Writes s (write s)
  /-- what was written is read -/
  read_of_writes : ∀ {s value}, Writes s value → ∀ old, read old value = .ok (copy s old)

section

variable {α σ τ : Type u}

/-- A field with a value of its own, from a codec of that value and the two accessors. -/
def Codec.field (c : Codec α) (name : String) (get : σ → α) (set : α → σ → σ) : StructField σ where
  name := name
  read s value := (c.read (get s) value).map fun a => set a s
  write s := c.write (get s)
  Writes s value := c.Writes (get s) value
  copy s old := set (c.back (get s)) old
  writes_write s := c.writes_write (get s)
  read_of_writes h old := by
    rw [c.read_of_writes h]
    rfl

/-- A field of an embedded structure. It goes by its own name, without any mention of the structure
that holds it, as embedded structures are flattened. -/
def StructField.embed (get : τ → σ) (set : σ → τ → τ) (f : StructField σ) : StructField τ where
  name := f.name
  read t value := (f.read (get t) value).map fun s => set s t
  write t := f.write (get t)
  Writes t value := f.Writes (get t) value
  copy t old := set (f.copy (get t) (get old)) old
  writes_write t := f.writes_write (get t)
  read_of_writes h old := by
    rw [f.read_of_writes h]
    rfl

/-- The field a key goes to: an exact match is looked for among all fields before any match up
to case. -/
def findField (fields : List (StructField σ)) (key : String) : Option (StructField σ) :=
  (fields.find? fun f => f.name = key).or (fields.find? fun f => namesField f.name key)

/-- Read the members of an object one after the other. A key without a field is passed over. -/
def readMembers (fields : List (StructField σ)) :
    σ → List (String × Value) → Except UnmarshalTypeError σ
  | s, [] => .ok s
  | s, (key, value) :: members =>
    match findField fields key with
    | none => readMembers fields s members
    | some f =>
      match f.read s value with
      | .error err => .error err
      | .ok s' => readMembers fields s' members

/-- A key that is the name of a field goes to that field, even if another name agrees with it
up to case. -/
theorem findField_name {fields : List (StructField σ)}
    (hnames : (fields.map StructField.name).Nodup) {f : StructField σ} (hf : f ∈ fields) :
    findField fields f.name = some f := by
  have hfind : fields.find? (fun g => g.name = f.name) = some f := by
    induction fields with
    | nil => cases hf
    | cons g fields ih =>
      rw [List.map_cons, List.nodup_cons] at hnames
      rcases List.mem_cons.mp hf with rfl | hf
      · rw [List.find?_cons_of_pos (by simp)]
      · have hne : g.name ≠ f.name := fun heq =>
          hnames.1 (heq ▸ List.mem_map_of_mem hf)
        rw [List.find?_cons_of_neg (by simpa using hne)]
        exact ih hnames.2 hf
  rw [findField, hfind, Option.some_or]

/-- Members that write some of the fields are read into those, one copy after the other. The
induction is on the fields that are still to come. -/
theorem readMembers_of_writes {fields : List (StructField σ)}
    (hnames : (fields.map StructField.name).Nodup) {s : σ} {fs : List (StructField σ)}
    {members : List (String × Value)}
    (h : List.Forall₂ (fun f member => member.1 = f.name ∧ f.Writes s member.2) fs members) :
    (∀ f ∈ fs, f ∈ fields) → ∀ old,
      readMembers fields old members = .ok (fs.foldl (fun acc f => f.copy s acc) old) := by
  induction h with
  | nil => exact fun _ _ => rfl
  | @cons f member fs members hmember _ ih =>
    intro hfs old
    obtain ⟨key, value⟩ := member
    obtain ⟨rfl, hvalue⟩ := hmember
    rw [readMembers, findField_name hnames (hfs f (List.mem_cons_self ..))]
    simp only [f.read_of_writes hvalue]
    exact ih (fun f' hf' => hfs f' (List.mem_cons_of_mem _ hf')) _

/-- Structures with the given fields, all of different names. The hypothesis `hback` says that
copying them all leaves nothing of the old structure, so the codec of a structure can only be
built with all its fields in the list. -/
def Codec.record (target : String) (fields : List (StructField σ)) (back : σ → σ)
    (hnames : (fields.map StructField.name).Nodup)
    (hback : ∀ s old, fields.foldl (fun acc f => f.copy s acc) old = back s) : Codec σ where
  read old
    | .null => .ok old
    | .object members => readMembers fields old members
    | value => .error ⟨value.kind, target⟩
  write s := .object (fields.map fun f => (f.name, f.write s))
  Writes s value := ∃ members, value = .object members ∧
    List.Forall₂ (fun f member => member.1 = f.name ∧ f.Writes s member.2) fields members
  back := back
  writes_write s := by
    refine ⟨_, rfl, List.forall₂_map_right_iff.mpr ?_⟩
    exact List.forall₂_same.mpr fun f _ => ⟨rfl, f.writes_write s⟩
  read_of_writes := by
    rintro s _ ⟨members, rfl, h⟩ old
    rw [← hback s old]
    exact readMembers_of_writes hnames h (fun _ hf => hf) old

end

end Json
