import CellRep.Json
import CellRep.Strings
import Mathlib.Data.List.Induction

/-!
# The preloaded root filesystems of the configuration

The rep is told of its preloaded root filesystems by a list of texts `stack:path`
(`cmd/rep/config/config.go`). Reading the list splits each entry at its first colon,
rejects blank parts, and lets a later entry of a stack replace an earlier one; writing
goes over the map in any order.
-/

namespace CellRep

open Json (Value UnmarshalTypeError)

/-- `StackMap`: the paths of the preloaded root filesystems, by stack. -/
abbrev StackMap : Type := GoMap String String

/-- What can be wrong with the list. -/
inductive StackMapError : Type where
  /-- it is no list of strings -/
  | unmarshal : UnmarshalTypeError → StackMapError
  /-- an entry is not as it should be -/
  | invalid : String → StackMapError
  deriving DecidableEq

namespace StackMap

/-- An entry without a colon: splitting gives one part only. -/
def errNotOfTheForm : StackMapError :=
  .invalid "Invalid preloaded RootFS value: not of the form 'stack-name:path'"

/-- An entry that begins with a colon. -/
def errBlankStack : StackMapError := .invalid "Invalid preloaded RootFS value: blank stack"

/-- An entry that ends with its first colon. -/
def errBlankPath : StackMapError := .invalid "Invalid preloaded RootFS value: blank path"

/-- One round of the loop of `UnmarshalJSON`. The split is into two parts at most, so a path
may contain colons. -/
def addEntry (m : StackMap) (s : String) : Except StackMapError StackMap :=
  match Strings.splitN ':' 2 s with
  | [stack, path] =>
    if stack = "" then .error errBlankStack
    else if path = "" then .error errBlankPath
    else .ok (m.insert stack path)
  | _ => .error errNotOfTheForm

/-- The loop of `UnmarshalJSON`: the first entry that is wrong ends it with its error,
whatever comes after. -/
def addEntries (m : StackMap) : List String → Except StackMapError StackMap
  | [] => .ok m
  | s :: entries =>
    match addEntry m s with
    | .error err => .error err
    | .ok m' => addEntries m' entries

/-- `StackMap.UnmarshalJSON`. The map is built from nothing, so what was there before is gone. -/
def unmarshalJSON (data : Value) : Except StackMapError StackMap :=
  match Json.decodeStrings data with
  | .error err => .error (.unmarshal err)
  | .ok entries => addEntries ∅ entries

/-- An entry as `MarshalJSON` writes it: the stack, a colon and the path. -/
def entryText (e : (_ : String) × String) : String := e.1 ++ ":" ++ e.2

/-- `StackMap.MarshalJSON`, with the order in which the map is walked over. -/
def marshalJSON {m : StackMap} (walk : GoMap.Visit m) : Value :=
  Json.encodeStrings (walk.entries.map entryText)

/-! ## Entries

The format of one entry is stated without reference to splitting. That the code accepts
exactly such texts is `addEntry_eq_ok`, and everything after it speaks of entries only. -/

/-- The text is an entry for this stack: it has a colon, the stack is what stands before
the first one and the path all that stands after it, and neither is blank. -/
structure IsEntry (s stack path : String) : Prop where
  joins : Strings.Joins ':' stack path s
  stack_ne : stack ≠ ""
  path_ne : path ≠ ""

variable {m m' : StackMap} {s stack path : String} {entries : List String}

/-- A text is an entry in one way only, as it is split at its first colon. -/
theorem IsEntry.unique {stack' path' : String} (h : IsEntry s stack path)
    (h' : IsEntry s stack' path') : stack = stack' ∧ path = path' :=
  h.joins.unique h'.joins

/-- Exactly the entries are accepted, each for its stack and path. -/
theorem addEntry_eq_ok :
    addEntry m s = .ok m' ↔ ∃ stack path, IsEntry s stack path ∧ m' = m.insert stack path := by
  rw [addEntry]
  split
  next stack path hsplit =>
    have hjoins := Strings.splitN_two_eq.mp hsplit
    refine ⟨?_, ?_⟩
    · intro h
      by_cases hstack : stack = ""
      · rw [if_pos hstack] at h
        cases h
      · by_cases hpath : path = ""
        · rw [if_neg hstack, if_pos hpath] at h
          cases h
        · rw [if_neg hstack, if_neg hpath] at h
          exact ⟨stack, path, ⟨hjoins, hstack, hpath⟩, (Except.ok.inj h).symm⟩
    · rintro ⟨stack', path', hentry, rfl⟩
      obtain ⟨rfl, rfl⟩ := hjoins.unique hentry.joins
      rw [if_neg hentry.stack_ne, if_neg hentry.path_ne]
  next hsplit =>
    refine ⟨nofun, ?_⟩
    rintro ⟨stack, path, hentry, -⟩
    exact absurd (Strings.splitN_two_eq.mpr hentry.joins) (hsplit stack path)

/-- The last entry is added last: the loop seen from the end, which is where later entries
win. -/
theorem addEntries_concat : addEntries m (entries ++ [s]) = .ok m' ↔
    ∃ m₁, addEntries m entries = .ok m₁ ∧ addEntry m₁ s = .ok m' := by
  induction entries generalizing m with
  | nil =>
    rw [List.nil_append, addEntries]
    cases hs : addEntry m s with
    | error err => simp [addEntries, hs]
    | ok m₁ => simp [addEntries, hs]
  | cons s' entries ih =>
    rw [List.cons_append, addEntries, addEntries]
    cases addEntry m s' with
    | error err => simp
    | ok m₁ => exact ih

/-- A list of entries is accepted, into whatever map. -/
theorem exists_addEntries (h : ∀ s ∈ entries, ∃ stack path, IsEntry s stack path) :
    ∀ m, ∃ m', addEntries m entries = .ok m' := by
  induction entries with
  | nil => exact fun m => ⟨m, rfl⟩
  | cons s entries ih =>
    intro m
    obtain ⟨stack, path, hentry⟩ := h s (List.mem_cons_self ..)
    rw [addEntries, addEntry_eq_ok.mpr ⟨stack, path, hentry, rfl⟩]
    exact ih (fun s' hs' => h s' (List.mem_cons_of_mem _ hs')) _

/-! ## The last entry of a stack

When a stack is named more than once, the last time counts. The inductions are therefore from
the end of the list. -/

/-- The list has an entry for this stack and path, and none for the stack after it. -/
def LastEntry (entries : List String) (stack path : String) : Prop :=
  ∃ before s after, entries = before ++ s :: after ∧ IsEntry s stack path ∧
    ∀ s' ∈ after, ∀ path', ¬ IsEntry s' stack path'

/-- A last entry is one of the entries. -/
theorem LastEntry.exists_mem (h : LastEntry entries stack path) :
    ∃ s ∈ entries, IsEntry s stack path := by
  obtain ⟨before, s, after, rfl, hentry, -⟩ := h
  exact ⟨s, by simp, hentry⟩

/-- The entry at the end is the last one of its stack; for the other stacks it does not
count. -/
theorem lastEntry_concat : LastEntry (entries ++ [s]) stack path ↔
    IsEntry s stack path ∨
      (∀ path', ¬ IsEntry s stack path') ∧ LastEntry entries stack path := by
  refine ⟨?_, ?_⟩
  · rintro ⟨before, t, after, hsplit, hentry, hafter⟩
    rcases List.eq_nil_or_concat after with rfl | ⟨after', s', rfl⟩
    · obtain ⟨-, hst⟩ := List.append_inj' hsplit rfl
      rw [List.singleton_inj.mp hst]
      exact Or.inl hentry
    · have hsplit' : entries ++ [s] = (before ++ t :: after') ++ [s'] := by simpa using hsplit
      obtain ⟨hentries, hss⟩ := List.append_inj' hsplit' rfl
      rw [List.singleton_inj.mp hss]
      refine Or.inr ⟨hafter s' (by simp), before, t, after', hentries, hentry, ?_⟩
      intro u hu
      exact hafter u (by simp [hu])
  · rintro (hentry | ⟨hnone, before, t, after, rfl, hentry, hafter⟩)
    · exact ⟨entries, s, [], rfl, hentry, nofun⟩
    · refine ⟨before, t, after ++ [s], by simp, hentry, ?_⟩
      intro u hu
      rcases List.mem_append.mp hu with hu | hu
      · exact hafter u hu
      · rw [List.mem_singleton.mp hu]
        exact hnone

/-- A stack with an entry has a last one, not necessarily with the same path. -/
theorem exists_lastEntry (hs : s ∈ entries) (hentry : IsEntry s stack path) :
    ∃ path', LastEntry entries stack path' := by
  induction entries using List.reverseRecOn with
  | nil => exact absurd hs List.not_mem_nil
  | append_singleton entries t ih =>
    by_cases ht : ∃ path', IsEntry t stack path'
    · obtain ⟨path', hlast⟩ := ht
      exact ⟨path', lastEntry_concat.mpr (Or.inl hlast)⟩
    · rcases List.mem_append.mp hs with hs | hs
      · obtain ⟨path', hlast⟩ := ih hs
        exact ⟨path', lastEntry_concat.mpr (Or.inr ⟨not_exists.mp ht, hlast⟩)⟩
      · rw [List.mem_singleton.mp hs] at hentry
        exact absurd ⟨path, hentry⟩ ht

/-- One more entry is found where it belongs, and hides the earlier ones of its stack. -/
theorem lookup_insert_iff (hentry : IsEntry s stack path)
    (hlookup : ∀ stack path, m.lookup stack = some path ↔ LastEntry entries stack path)
    (stack' path' : String) : (m.insert stack path).lookup stack' = some path' ↔
      LastEntry (entries ++ [s]) stack' path' := by
  rw [lastEntry_concat]
  by_cases hstack : stack' = stack
  · subst hstack
    rw [AList.lookup_insert]
    refine ⟨?_, ?_⟩
    · intro heq
      rw [← Option.some.inj heq]
      exact Or.inl hentry
    · rintro (hentry' | ⟨hnone, -⟩)
      · rw [(hentry.unique hentry').2]
      · exact absurd hentry (hnone path)
  · have hnone : ∀ path', ¬ IsEntry s stack' path' := fun path' hentry' =>
      hstack (hentry'.unique hentry).1
    rw [AList.lookup_insert_ne hstack, hlookup]
    refine ⟨fun hlast => Or.inr ⟨hnone, hlast⟩, ?_⟩
    rintro (hentry' | ⟨-, hlast⟩)
    · exact absurd hentry' (hnone path')
    · exact hlast

/-- **What an accepted list says**: there are entries only, and the map has for each
stack the path of its last entry. -/
theorem of_addEntries (h : addEntries ∅ entries = .ok m) :
    (∀ s ∈ entries, ∃ stack path, IsEntry s stack path) ∧
      ∀ stack path, m.lookup stack = some path ↔ LastEntry entries stack path := by
  induction entries using List.reverseRecOn generalizing m with
  | nil =>
    cases h
    refine ⟨nofun, ?_⟩
    intro stack path
    rw [AList.lookup_empty]
    refine ⟨nofun, ?_⟩
    intro hlast
    obtain ⟨s, hs, -⟩ := hlast.exists_mem
    exact absurd hs List.not_mem_nil
  | append_singleton entries s ih =>
    obtain ⟨m₁, hinit, hadd⟩ := addEntries_concat.mp h
    obtain ⟨hentries, hlookup⟩ := ih hinit
    obtain ⟨stack, path, hentry, rfl⟩ := addEntry_eq_ok.mp hadd
    refine ⟨?_, lookup_insert_iff hentry hlookup⟩
    intro s' hs'
    rcases List.mem_append.mp hs' with hs' | hs'
    · exact hentries s' hs'
    · rw [List.mem_singleton.mp hs']
      exact ⟨stack, path, hentry⟩

/-! ## Reading and writing

Writing goes over the map and makes a text of each pair. A map that was read has no blank
parts and no colon in its stacks, so these texts are entries again, one for each stack. -/

/-- On a list of strings reading is the loop. -/
@[simp] theorem unmarshalJSON_encodeStrings :
    unmarshalJSON (Json.encodeStrings entries) = addEntries ∅ entries := by
  rw [unmarshalJSON, Json.decodeStrings_encodeStrings]

/-- A map that was read came from a list of entries, whatever the document looked like. -/
theorem of_unmarshalJSON {data : Value} (h : unmarshalJSON data = .ok m) :
    ∃ entries, addEntries ∅ entries = .ok m := by
  rw [unmarshalJSON] at h
  cases hdata : Json.decodeStrings data with
  | error err =>
    rw [hdata] at h
    cases h
  | ok entries =>
    rw [hdata] at h
    exact ⟨entries, h⟩

/-- What is found in an accepted map is written as an entry again: its stack has no colon,
having been cut off at the first one. -/
theorem isEntry_entryText {e : (_ : String) × String} (h : addEntries ∅ entries = .ok m)
    (hfound : m.lookup e.1 = some e.2) : IsEntry (entryText e) e.1 e.2 := by
  obtain ⟨s, -, hentry⟩ := (((of_addEntries h).2 e.1 e.2).mp hfound).exists_mem
  refine ⟨⟨hentry.joins.first, ?_⟩, hentry.stack_ne, hentry.path_ne⟩
  simp [entryText]

/-- Reading what was written gives the map again. -/
theorem addEntries_entryText (h : addEntries ∅ entries = .ok m) (walk : GoMap.Visit m) :
    ∃ m', addEntries ∅ (walk.entries.map entryText) = .ok m' ∧
      ∀ stack, m'.lookup stack = m.lookup stack := by
  -- the walk meets exactly what is found, so all it writes are entries
  have hwalk : ∀ e, e ∈ walk.entries ↔ m.lookup e.1 = some e.2 := fun e =>
    walk.perm.mem_iff.trans AList.mem_lookup_iff.symm
  have hwritten : ∀ e ∈ walk.entries, IsEntry (entryText e) e.1 e.2 := fun e he =>
    isEntry_entryText h ((hwalk e).mp he)
  have haccepted : ∀ s ∈ walk.entries.map entryText, ∃ stack path, IsEntry s stack path := by
    intro s hs
    obtain ⟨e, he, rfl⟩ := List.mem_map.mp hs
    exact ⟨e.1, e.2, hwritten e he⟩
  obtain ⟨m', hm'⟩ := exists_addEntries haccepted ∅
  have hlast := (of_addEntries hm').2
  have hsub : ∀ stack path, m'.lookup stack = some path → m.lookup stack = some path := by
    intro stack path hfound
    obtain ⟨s, hs, hentry⟩ := ((hlast stack path).mp hfound).exists_mem
    obtain ⟨e, he, rfl⟩ := List.mem_map.mp hs
    obtain ⟨rfl, rfl⟩ := (hwritten e he).unique hentry
    exact (hwalk e).mp he
  refine ⟨m', hm', ?_⟩
  intro stack
  refine Option.ext fun path => ⟨hsub stack path, ?_⟩
  intro hfound
  -- the stack has a last entry in what is written, and its path is the one in the map
  have he := (hwalk ⟨stack, path⟩).mpr hfound
  obtain ⟨path', hlast'⟩ := exists_lastEntry (List.mem_map_of_mem he) (hwritten _ he)
  have hfound' : m'.lookup stack = some path' := (hlast stack path').mpr hlast'
  rw [hfound', ← hsub stack path' hfound', hfound]

/-- **The format is read exactly and written without loss.** A list of strings is
accepted iff each is an entry; the map then has, for each stack, the path of the last
entry and nothing else; and an accepted map is read back from what is written, in
whatever order that was done. -/
theorem decoded_exactly_and_losslessly :
    (∀ entries, (∃ m, unmarshalJSON (Json.encodeStrings entries) = .ok m) ↔
      ∀ s ∈ entries, ∃ stack path, IsEntry s stack path) ∧
    (∀ entries m, unmarshalJSON (Json.encodeStrings entries) = .ok m →
      ∀ stack path, m.lookup stack = some path ↔ LastEntry entries stack path) ∧
    ∀ data m, unmarshalJSON data = .ok m → ∀ walk : GoMap.Visit m,
      ∃ m', unmarshalJSON (marshalJSON walk) = .ok m' ∧
        ∀ stack, m'.lookup stack = m.lookup stack := by
  refine ⟨?_, ?_, ?_⟩
  · intro entries
    rw [unmarshalJSON_encodeStrings]
    refine ⟨?_, fun h => exists_addEntries h ∅⟩
    rintro ⟨m, h⟩
    exact (of_addEntries h).1
  · intro entries m h
    rw [unmarshalJSON_encodeStrings] at h
    exact (of_addEntries h).2
  · intro data m h walk
    obtain ⟨entries, hm⟩ := of_unmarshalJSON h
    rw [marshalJSON, unmarshalJSON_encodeStrings]
    exact addEntries_entryText hm walk

/-- A stack named twice, the second time with a colon in its path. -/
def repeatedStack : List String := ["linux:/data", "windows:/images", "linux:/data:ro"]

/-- The second path of the stack is read, with its colon, and is written and read again. -/
theorem repeatedStack_read_and_written :
    ∃ m, unmarshalJSON (Json.encodeStrings repeatedStack) = .ok m ∧
      m.lookup "linux" = some "/data:ro" ∧
      ∀ walk : GoMap.Visit m, ∃ m', unmarshalJSON (marshalJSON walk) = .ok m' ∧
        m'.lookup "linux" = some "/data:ro" := by
  obtain ⟨haccept, hlast, hback⟩ := decoded_exactly_and_losslessly
  have hentry : IsEntry "linux:/data:ro" "linux" "/data:ro" :=
    ⟨⟨by decide, by decide⟩, by decide, by decide⟩
  have hentries : ∀ s ∈ repeatedStack, ∃ stack path, IsEntry s stack path := by
    simp only [repeatedStack, List.forall_mem_cons, List.not_mem_nil, false_implies,
      implies_true, and_true]
    exact ⟨⟨"linux", "/data", ⟨by decide, by decide⟩, by decide, by decide⟩,
      ⟨"windows", "/images", ⟨by decide, by decide⟩, by decide, by decide⟩, _, _, hentry⟩
  obtain ⟨m, hm⟩ := (haccept repeatedStack).mpr hentries
  have hfound : m.lookup "linux" = some "/data:ro" := by
    rw [hlast _ _ hm]
    exact ⟨["linux:/data", "windows:/images"], _, [], rfl, hentry, nofun⟩
  refine ⟨m, hm, hfound, ?_⟩
  intro walk
  obtain ⟨m', hm', hsame⟩ := hback _ m hm walk
  exact ⟨m', hm', (hsame "linux").trans hfound⟩

end StackMap

end CellRep
