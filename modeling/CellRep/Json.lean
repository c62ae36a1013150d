import CellRep.GoMap
import Mathlib.Data.List.Sort
import Mathlib.Data.String.Basic

/-!
# JSON values and how they are read into typed data

Values are trees; text never appears, a value and its rendering are taken for the same.
The decoders follow the rules of the source language's JSON package for the kinds of
target that are needed:

* a map takes every member of an object, the last one of a key counting;
* a structure with one field takes the members whose key names the field, **in any mix
  of upper and lower case**, and passes over all others;
* a set is a map whose values carry nothing;
* a list of strings takes every element of an array.

For each of them `null` is no error: a map or a list becomes nil, a field or an element
keeps what it had. An encoder writes the members of a map in the order of their keys.
`lookup_decodeMap` and `decodeField_encodeMap` say what comes back.
-/

universe u v

namespace Json

/-- A JSON value. Numbers are kept as they are written, since the same text is in range for
one target type and out of range for another. An object is the list of its members in the
order of the text, repeated keys included. -/
inductive Value : Type where
  | null : Value
  | bool : Bool → Value
  | number : String → Value
  | string : String → Value
  | array : List Value → Value
  | object : List (String × Value) → Value

/-- The name an error gives the kind of a value. -/
def Value.kind : Value → String
  | .null => "null"
  | .bool _ => "bool"
  | .number _ => "number"
  | .string _ => "string"
  | .array _ => "array"
  | .object _ => "object"

/-- A value of one kind cannot be read into a target of another. Both names are those of the
error text of the source. -/
structure UnmarshalTypeError where
  value : String
  target : String
  deriving DecidableEq

/-! ## Decoding

A decoder reads a value *on top of* what its target holds. For a fresh target that is its zero
value; for a field that is named twice in an object it is what the first member left. The
difference shows with `null`, which leaves most targets as they are. -/

/-- Keys are compared by simple case folding. Two letters besides their upper case stand for
the same key character: the long s and the Kelvin sign, which fold to `s` and `k`. -/
def foldChar (c : Char) : Char :=
  if c = Char.ofNat 0x17F then 's' else if c = Char.ofNat 0x212A then 'k' else c.toLower

/-- The key of a member names a field: exactly, or up to case. A structure thus takes `"TYPE"`
for its field `type`, which a map would keep apart. -/
def namesField (field key : String) : Bool :=
  key = field ∨ key.toList.map foldChar = field.toList.map foldChar

/-- Read a map of undecoded values. The values are only looked at later, each by a decoder of
its own, so an error in one of them is reported then. -/
def decodeMap : Value → Except UnmarshalTypeError (GoMap String Value)
  | .null => .ok ∅
  | .object members => .ok (GoMap.putAll Prod.fst Prod.snd ∅ members)
  | value => .error ⟨value.kind, "map[string]json.RawMessage"⟩

/-- Read one field from the members that name it, one on top of the other. An error in any of
them is an error of the whole, even if a later member would replace the value. -/
def decodeMembers {α : Type u} (decode : α → Value → Except UnmarshalTypeError α) (old : α) :
    List (String × Value) → Except UnmarshalTypeError α
  | [] => .ok old
  | member :: members =>
    match decode old member.2 with
    | .error err => .error err
    | .ok new => decodeMembers decode new members

/-- Read a structure with one field. Members with other keys are passed over without a look at
their values. -/
def decodeField {α : Type u} (field : String)
    (decode : α → Value → Except UnmarshalTypeError α) (zero : α) :
    Value → Except UnmarshalTypeError α
  | .null => .ok zero
  | .object members =>
    decodeMembers decode zero (members.filter fun member => namesField field member.1)
  | value => .error ⟨value.kind, "struct"⟩

/-- The last value an object has for a field, in any case of its letters. It is what a decoder
that starts afresh ends up with. -/
def Value.lastField (field : String) : Value → Option Value
  | .object members =>
    (members.filter fun member => namesField field member.1).getLast?.map Prod.snd
  | _ => none

/-- Read a string; `null` leaves the old one. -/
def decodeString (old : String) : Value → Except UnmarshalTypeError String
  | .null => .ok old
  | .string text => .ok text
  | value => .error ⟨value.kind, "string"⟩

/-- Read the elements of a list of strings. A `null` element is the empty string, because a
new element starts with the zero value. -/
def decodeElements : List Value → Except UnmarshalTypeError (List String)
  | [] => .ok []
  | value :: values =>
    match decodeString "" value with
    | .error err => .error err
    | .ok text =>
      match decodeElements values with
      | .error err => .error err
      | .ok texts => .ok (text :: texts)

/-- Read a list of strings. `null` is a nil slice, which has no elements either. -/
def decodeStrings : Value → Except UnmarshalTypeError (List String)
  | .null => .ok []
  | .array values => decodeElements values
  | value => .error ⟨value.kind, "[]string"⟩

/-- A value that can be read into a structure without fields: any object, whatever its members
are, and `null`. -/
def Value.isEmptyStruct : Value → Bool
  | .null => true
  | .object _ => true
  | _ => false

/-- Read a set, on top of the one that is there. A set is a map to empty structures, and an
object is added to the old keys; `null` makes the map nil and forgets them. -/
def decodeSet (old : Option (GoMap String Unit)) :
    Value → Except UnmarshalTypeError (Option (GoMap String Unit))
  | .null => .ok none
  | .object members =>
    match members.find? fun member => !member.2.isEmptyStruct with
    | some member => .error ⟨member.2.kind, "struct \x7b\x7d"⟩
    | none => .ok (some (GoMap.putAll Prod.fst (fun _ => ()) (old.getD ∅) members))
  | value => .error ⟨value.kind, "map[string]struct \x7b\x7d"⟩

/-! ## Encoding

An encoder leaves nothing open where a map is written: the members are sorted by their keys.
Two equal maps are therefore written as the same value. -/

/-- The members of a map, in the order of their keys, each with the encoding of its value. -/
def membersOf {α : Type u} (encode : α → Value) (m : GoMap String α) : List (String × Value) :=
  (m.entries.map fun e => (e.1, encode e.2)).insertionSort fun a b => a.1 ≤ b.1

/-- Write a map as an object with its members sorted by name. -/
def encodeMap {α : Type u} (encode : α → Value) (m : GoMap String α) : Value :=
  .object (membersOf encode m)

/-- Write a set; a nil one is `null`. -/
def encodeSet : Option (GoMap String Unit) → Value
  | none => .null
  | some m => encodeMap (fun _ => .object []) m

/-- Write a list of strings, as an array also when it is empty. -/
def encodeStrings (texts : List String) : Value := .array (texts.map .string)

/-! ## What comes back

For each encoder the decoder of the same kind gets back what was written, up to the choice of
a representation: maps and sets key by key, lists as they are. The last two facts about fields
are stated for arbitrary values, since a document need not come from an encoder. -/

section

variable {α : Type u} {encode : α → Value} {m : GoMap String α}

theorem membersOf_perm : (membersOf encode m).Perm (m.entries.map fun e => (e.1, encode e.2)) :=
  List.perm_insertionSort _ _

/-- A member is an entry, encoded. -/
theorem mem_membersOf {key : String} {value : Value} :
    (key, value) ∈ membersOf encode m ↔ ∃ a, m.lookup key = some a ∧ encode a = value := by
  rw [membersOf_perm.mem_iff, List.mem_map]
  refine ⟨?_, ?_⟩
  · rintro ⟨⟨key', a⟩, he, heq⟩
    obtain ⟨rfl, rfl⟩ := Prod.mk.inj heq
    exact ⟨a, AList.mem_lookup_iff.mpr he, rfl⟩
  · rintro ⟨a, ha, rfl⟩
    exact ⟨⟨key, a⟩, AList.mem_lookup_iff.mp ha, rfl⟩

/-- No key is written twice, so reading the members back never replaces one by another. -/
theorem nodup_membersOf : ((membersOf encode m).map Prod.fst).Nodup := by
  rw [(membersOf_perm.map Prod.fst).nodup_iff, List.map_map]
  exact m.nodupKeys

/-- Every key comes back, with what its value was encoded to. Both kinds of readers store the
members in a loop, so this one lemma serves the map and the set. -/
theorem lookup_putAll_membersOf {β : Type v} {val : String × Value → β} (key : String) :
    (GoMap.putAll Prod.fst val ∅ (membersOf encode m)).lookup key =
      (m.lookup key).map fun a => val (key, encode a) := by
  cases ha : m.lookup key with
  | none =>
    rw [GoMap.lookup_putAll_of_notMem]
    · rfl
    · rintro ⟨key', value⟩ hmem rfl
      obtain ⟨a, ha', -⟩ := mem_membersOf.mp hmem
      rw [ha] at ha'
      cases ha'
  | some a =>
    have hmem : (key, encode a) ∈ membersOf encode m := mem_membersOf.mpr ⟨a, ha, rfl⟩
    exact GoMap.lookup_putAll_of_nodup hmem nodup_membersOf

/-- **A map comes back** key by key, with the encodings of its values still to be decoded. -/
theorem lookup_decodeMap :
    ∃ m', decodeMap (encodeMap encode m) = .ok m' ∧
      ∀ key, m'.lookup key = (m.lookup key).map encode :=
  ⟨_, rfl, lookup_putAll_membersOf⟩

/-- **A field comes back** when one entry of the map names it. The hypothesis excludes a
second entry that differs from the field in case only, which would be read on top. -/
theorem decodeField_encodeMap {β : Type v} {field : String}
    {decode : β → Value → Except UnmarshalTypeError β} {zero : β} {e : (_ : String) × α}
    (he : m.entries.filter (fun e => namesField field e.1) = [e]) :
    decodeField field decode zero (encodeMap encode m) = decode zero (encode e.2) := by
  have hmembers : (membersOf encode m).filter (fun member => namesField field member.1) =
      [(e.1, encode e.2)] := by
    apply List.perm_singleton.mp
    refine (membersOf_perm.filter _).trans (List.Perm.of_eq ?_)
    rw [List.filter_map]
    have hcomp : (fun member : String × Value => namesField field member.1) ∘
        (fun e : (_ : String) × α => (e.1, encode e.2)) = fun e => namesField field e.1 := rfl
    rw [hcomp, he]
    rfl
  rw [encodeMap, decodeField, hmembers, decodeMembers]
  cases decode zero (encode e.2) with
  | error err => rfl
  | ok new => rfl

end

/-- **A list of strings comes back.** -/
theorem decodeStrings_encodeStrings (texts : List String) :
    decodeStrings (encodeStrings texts) = .ok texts := by
  rw [encodeStrings, decodeStrings]
  induction texts with
  | nil => rfl
  | cons text texts ih => rw [List.map_cons, decodeElements, decodeString, ih]

/-- A decoder that starts afresh keeps only what the last member says. The others have to
decode as well, since an error in any of them is the result. -/
theorem decodeMembers_last {β : Type v} {decode : Value → Except UnmarshalTypeError β} {b : β}
    {members : List (String × Value)} :
    ∀ {zero : β}, decodeMembers (fun _ => decode) zero members = .ok b →
      (members.getLast? = none ∧ b = zero) ∨
        ∃ member, members.getLast? = some member ∧ decode member.2 = .ok b := by
  induction members with
  | nil =>
    intro zero h
    cases h
    exact .inl ⟨rfl, rfl⟩
  | cons member members ih =>
    intro zero h
    rw [decodeMembers] at h
    cases hdecode : decode member.2 with
    | error err =>
      rw [hdecode] at h
      cases h
    | ok new =>
      rw [hdecode] at h
      -- a later member replaces what this one has given
      obtain ⟨hnone, rfl⟩ | ⟨last, hlast, hb⟩ := ih h
      · rw [List.getLast?_eq_none_iff.mp hnone]
        exact .inr ⟨member, rfl, hdecode⟩
      · refine .inr ⟨last, ?_, hb⟩
        rw [List.getLast?_cons, hlast, Option.getD_some]

/-- **A field has what its last member says**, or its zero value if no member names it. -/
theorem decodeField_last {β : Type v} {field : String}
    {decode : Value → Except UnmarshalTypeError β} {zero b : β} {value : Value}
    (h : decodeField field (fun _ => decode) zero value = .ok b) :
    (value.lastField field = none ∧ b = zero) ∨
      ∃ payload, value.lastField field = some payload ∧ decode payload = .ok b := by
  cases value with
  | null =>
    cases h
    exact .inl ⟨rfl, rfl⟩
  | object members =>
    obtain ⟨hnone, rfl⟩ | ⟨member, hlast, hb⟩ := decodeMembers_last h
    · exact .inl ⟨by rw [Value.lastField, hnone, Option.map_none], rfl⟩
    · exact .inr ⟨member.2, by rw [Value.lastField, hlast, Option.map_some], hb⟩
  | bool _ => cases h
  | number _ => cases h
  | string _ => cases h
  | array _ => cases h

/-- **A set comes back**, a nil one as nil. Membership is all there is to compare. -/
theorem decodeSet_encodeSet (set : Option (GoMap String Unit)) :
    ∃ set', decodeSet none (encodeSet set) = .ok set' ∧
      ∀ key, (set'.bind (AList.lookup key)).isSome = (set.bind (AList.lookup key)).isSome := by
  cases set with
  | none => exact ⟨none, rfl, fun _ => rfl⟩
  | some m =>
    have hstruct : (membersOf (fun _ : Unit => Value.object []) m).find?
        (fun member => !member.2.isEmptyStruct) = none := by
      rw [List.find?_eq_none]
      rintro ⟨key, value⟩ hmem
      obtain ⟨_, -, rfl⟩ := mem_membersOf.mp hmem
      simp [Value.isEmptyStruct]
    rw [encodeSet, encodeMap, decodeSet, hstruct]
    refine ⟨_, rfl, ?_⟩
    intro key
    rw [Option.bind_some, Option.bind_some, Option.getD_none, lookup_putAll_membersOf,
      Option.isSome_map]

end Json
