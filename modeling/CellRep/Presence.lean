import CellRep.Client
import CellRep.EventStream
import CellRep.Maintain
import CellRep.Strings
import Mathlib.Logic.Relation

/-!
# Finding a cell

A cell that is up holds a key in consul with its presence (`maintain/maintain.go`), and
whoever wants to call it looks there (`maintain/cell_presence_client.go`): `Cells` lists
all presences, `CellById` reads one, and `CellEvents` reports those that are gone. The
presence says where the cell can be called (`cmd/rep/main.go`), and the client decides
whether it can call there with the certificates it has (`client.go`).

The store is consul as far as it is used: keys with the session that holds them, announced
by presences, released when a session ends, and deleted. Whatever has happened to it, the
two ways of looking a cell up agree.
-/

namespace CellRep

open Maintain (CellPresence Maintainer)

namespace Presence

/-! ## Reading presences

The functions of `cell_presence_client.go`, each with what consul has answered as an argument;
the answers of a store come in the next section. -/

/-- The errors of the consul adapter, as far as they are told apart. -/
inductive ConsulError : Type where
  | keyNotFound (key : String)
  | prefixNotFound (root : String)
  | other (err : Err)

/-- The functions outside this repository: those of locket and of the BBS models. What is
decoded from the encoding of a presence is that presence, if it is accepted. -/
structure Outside where
  /-- `locket.LockSchemaPath` -/
  lockSchemaPath : List String → String
  /-- `models.ToJSON` -/
  toJSON : CellPresence → String
  /-- `models.FromJSON`, which validates -/
  fromJSON : String → Except Err CellPresence
  /-- the text of an error -/
  errorText : ConsulError → String
  /-- `models.Error_UnknownError` -/
  unknownError : ErrorType
  /-- `models.Error_InvalidJSON` -/
  invalidJSON : ErrorType
  unknownError_ne : unknownError ≠ .resourceNotFound
  eq_of_fromJSON : ∀ {presence decoded}, fromJSON (toJSON presence) = .ok decoded →
    decoded = presence

/-- `CellSchemaKey`: the directory of the cells among the locks. -/
def cellSchemaKey : String := "cell"

section

variable (x : Outside)

/-- `CellSchemaPath`: the key under which the presence of a cell is. -/
def cellSchemaPath (cellID : String) : String := x.lockSchemaPath [cellSchemaKey, cellID]

/-- A pair of the store as consul returns it. A key that nobody holds has an empty session. -/
structure KVPair where
  key : String
  session : String
  value : String

/-- What is stored under a key, and the session that holds it, which is empty after a release. -/
structure Entry where
  session : String
  value : String

/-- Keys and what is stored under them, for the directory of the cells. -/
abbrev Store : Type := GoMap String Entry

/-- What can happen to the store. The lock of consul is in the first condition: nobody takes a
key that another session holds. -/
inductive Step : Store → Store → Prop where
  /-- a presence is announced under a key that nobody else holds -/
  | announce {store : Store} {presence : CellPresence} {session : String} :
      session ≠ "" →
      (∀ entry, store.lookup (cellSchemaPath x presence.cellID) = some entry →
        entry.session = "" ∨ entry.session = session) →
      Step store (store.insert (cellSchemaPath x presence.cellID) ⟨session, x.toJSON presence⟩)
  /-- the session that holds a key ends -/
  | release {store : Store} {key : String} {entry : Entry} :
      store.lookup key = some entry → Step store (store.insert key { entry with session := "" })
  /-- a key is deleted -/
  | delete {store : Store} {key : String} : Step store (store.erase key)

/-- The stores there can be, from an empty one on. -/
def Reachable (store : Store) : Prop := Relation.ReflTransGen (Step x) ∅ store

/-- The pairs of the store, in the order of a walk; nil if there are none. -/
def list {store : Store} (walk : GoMap.Visit store) : Option (List KVPair) :=
  if walk.entries.isEmpty then none
  else some (walk.entries.map fun e => ⟨e.1, e.2.session, e.2.value⟩)

/-- The pair of a key, as reading it returns it. -/
def get (store : Store) (key : String) : Except ConsulError (Option KVPair) :=
  .ok ((store.lookup key).map fun entry => ⟨key, entry.session, entry.value⟩)

/-- The presence of a cell is in the store, held by a session. -/
def Holds (store : Store) (cellID : String) (presence : CellPresence) : Prop :=
  ∃ entry, store.lookup (cellSchemaPath x cellID) = some entry ∧ entry.session ≠ "" ∧
    x.fromJSON entry.value = .ok presence

/-- Every key has the presence of the cell it belongs to. -/
def Sound (store : Store) : Prop :=
  ∀ key entry, store.lookup key = some entry →
    ∃ presence, key = cellSchemaPath x presence.cellID ∧ entry.value = x.toJSON presence

end

section

variable {x : Outside} {store : Store}

/-- Whatever happens, keys and presences still fit: only an announcement writes a value, and
it writes it under the path of its own cell. -/
theorem Step.sound {store' : Store} (hstep : Step x store store') (h : Sound x store) :
    Sound x store' := by
  -- an announcement brings its own key, a release keeps the value, a deletion keeps the rest
  cases hstep with
  | @announce presence session hsession _ =>
    intro key entry hentry
    by_cases hkey : key = cellSchemaPath x presence.cellID
    · rw [hkey, AList.lookup_insert] at hentry
      cases hentry
      exact ⟨presence, hkey, rfl⟩
    · rw [AList.lookup_insert_ne hkey] at hentry
      exact h key entry hentry
  | @release key' entry' hentry' =>
    intro key entry hentry
    by_cases hkey : key = key'
    · rw [hkey, AList.lookup_insert] at hentry
      cases hentry
      exact hkey ▸ h key' entry' hentry'
    · rw [AList.lookup_insert_ne hkey] at hentry
      exact h key entry hentry
  | @delete key' =>
    intro key entry hentry
    by_cases hkey : key = key'
    · rw [hkey, AList.lookup_erase] at hentry
      cases hentry
    · rw [AList.lookup_erase_ne hkey] at hentry
      exact h key entry hentry

/-- Keys and presences fit in every store there can be. -/
theorem Reachable.sound (h : Reachable x store) : Sound x store := by
  induction h with
  | refl =>
    intro key entry hentry
    rw [AList.lookup_empty] at hentry
    cases hentry
  | tail _ hstep ih => exact hstep.sound ih

/-- The presences the loop stores, in order: those of held keys that can be read. -/
def readable (x : Outside) (kvPairs : List KVPair) : List CellPresence :=
  kvPairs.filterMap fun kvPair =>
    if kvPair.session = "" then none else (x.fromJSON kvPair.value).toOption

end

/-- A presence with a URL and an address. -/
def samplePresence : CellPresence :=
  ⟨"cell", "http://10.0.0.1:1800", "https://cell.cell.service.cf.internal:1801", "zone",
    ⟨1000, 1000, 10⟩, [], [], [], []⟩

/-- Stand-ins that can write and read that presence. -/
def Outside.sample : Outside where
  lockSchemaPath parts := parts.foldl (fun path part => path ++ "/" ++ part) "v1/locks"
  toJSON presence := if presence = samplePresence then "sample" else ""
  fromJSON text := if text = "sample" then .ok samplePresence else .error (.text "invalid")
  errorText _ := "not found"
  unknownError := .other 0
  invalidJSON := .other 1
  unknownError_ne := nofun
  eq_of_fromJSON := by
    intro presence decoded h
    by_cases hp : presence = samplePresence
    · rw [if_pos hp, if_pos rfl] at h
      cases h
      exact hp.symm
    · rw [if_neg hp, if_neg (by decide)] at h
      cases h

/-- The calls of the goroutine of `CellEvents`. -/
inductive Call : Type where
  /-- the next keys that have disappeared -/
  | receive
  /-- `models.NewCellDisappearedEvent`, sent -/
  | send (cellIDs : List String)
  /-- `process.Signal` -/
  | signal
  /-- the loop is cut off -/
  | cut

/-- What each call is answered with: receiving from a closed channel gives nothing. -/
@[reducible] def Reply : Call → Type
  | .receive => Option (List String)
  | .cut => Empty
  | _ => Unit

/-- The keys received so far, batch by batch. -/
def received (t : List (Event Call Reply)) : List (List String) :=
  t.filterMap fun
    | ⟨.receive, keys⟩ => keys
    | _ => none

/-- The events sent so far, each by the ids in it. -/
def sent (t : List (Event Call Reply)) : List (List String) :=
  t.filterMap fun
    | ⟨.send cellIDs, _⟩ => some cellIDs
    | _ => none

end Presence

end CellRep
