import CellRep.AuctionCell

/-!
# What a cell advertises about its images

A rootfs is a URL, and three functions read it on their own: the auctioneer asks the
providers the cell advertised (`matchRootFS`), the cell translates it into a path when
it allocates the container (`pathForRootFS`), and the executor is told how to count its
disk (`diskScopeForRootFS`). A cell whose first answer is yes and whose second is an
error would win auctions only to reject the work. Each reading gets one lemma here that
says when it succeeds; that they agree is then a comparison of conditions.
-/

namespace CellRep

/-! ## The three readings

All of them parse the URL first and then look at its scheme. Two schemes stand for preloaded
images; the path is found in a map from stacks to paths, and the providers are built from the
same map. -/

/-- The scheme stands for a preloaded image, in either of its forms. -/
def IsPreloaded (scheme : String) : Prop :=
  scheme = Models.preloadedRootFSScheme ∨ scheme = Models.preloadedOCIRootFSScheme
  deriving Decidable

/-- The set made from entries has those entries. -/
theorem contains_newStringSet {entries : List String} {candidate : String} :
    (newStringSet entries).contains candidate ↔ candidate ∈ entries := by
  have hmem := @GoMap.mem_putAll_empty _ _ _ _ id (fun _ : String => ()) candidate entries
  rw [StringSet.contains, newStringSet, Option.bind_some, AList.lookup_isSome, hmem]
  simp

/-- The preloaded schemes know the stacks, whatever the arbitrary ones are: they are inserted
last and win over an arbitrary scheme of the same name. -/
theorem lookup_rootFSProviders_preloaded {preloaded : GoMap String String}
    {arbitrary : List String} {scheme : String} (h : IsPreloaded scheme) :
    (rootFSProviders preloaded arbitrary).lookup scheme =
      some (some (newFixedSetRootFSProvider preloaded.keys)) := by
  unfold rootFSProviders
  rcases h with rfl | rfl
  · rw [AList.lookup_insert_ne (by decide), AList.lookup_insert]
  · rw [AList.lookup_insert]

/-- Any other scheme is known when it is listed, and takes every image. -/
theorem lookup_rootFSProviders_arbitrary {preloaded : GoMap String String}
    {arbitrary : List String} {scheme : String} (h : ¬ IsPreloaded scheme) :
    (rootFSProviders preloaded arbitrary).lookup scheme =
      if scheme ∈ arbitrary then some (some .arbitrary) else none := by
  unfold rootFSProviders
  rw [AList.lookup_insert_ne fun heq => h (Or.inr heq),
    AList.lookup_insert_ne fun heq => h (Or.inl heq)]
  by_cases hmem : scheme ∈ arbitrary
  · rw [if_pos hmem]
    exact GoMap.lookup_putAll ⟨scheme, hmem, rfl⟩ fun _ _ _ => rfl
  · rw [if_neg hmem, GoMap.lookup_putAll_of_notMem]
    · rfl
    · rintro other hother rfl
      exact hmem hother

/-- What the providers of a cell answer: preloaded images must be among the stacks,
other schemes among the arbitrary ones. None of them is nil. -/
theorem matches_rootFSProviders {preloaded : GoMap String String} {arbitrary : List String}
    {url : URL} :
    ∃ answer, (rootFSProviders preloaded arbitrary).matches_ url = some answer ∧
      (answer = true ↔
        (IsPreloaded url.scheme ∧ url.opaque_ ∈ preloaded) ∨
        (¬ IsPreloaded url.scheme ∧ url.scheme ∈ arbitrary)) := by
  by_cases hscheme : IsPreloaded url.scheme
  · refine ⟨_, RootFSProviders.matches_eq_some.mpr
      (Or.inr ⟨_, lookup_rootFSProviders_preloaded hscheme, rfl⟩), ?_⟩
    simp only [newFixedSetRootFSProvider, RootFSProvider.matches_, contains_newStringSet, hscheme,
      AList.mem_keys, true_and, not_true_eq_false, false_and, or_false]
  · have hlookup := @lookup_rootFSProviders_arbitrary preloaded arbitrary _ hscheme
    by_cases hmem : url.scheme ∈ arbitrary
    · rw [if_pos hmem] at hlookup
      refine ⟨true, RootFSProviders.matches_eq_some.mpr (Or.inr ⟨.arbitrary, hlookup, rfl⟩), ?_⟩
      simp [hscheme, hmem]
    · rw [if_neg hmem] at hlookup
      refine ⟨false, RootFSProviders.matches_eq_some.mpr (Or.inl ⟨hlookup, rfl⟩), ?_⟩
      simp [hscheme, hmem]

/-- Looking a stack up succeeds for the stacks there are. The two preloaded schemes make
different paths of what they find, so this is said of any. -/
theorem exists_ok_of_lookup {preloaded : GoMap String String} {stack : String}
    {f : String → String} :
    (∃ path, (match preloaded.lookup stack with
      | none => .error errPreloadedRootFSNotFound
      | some path => .ok (f path) : Except Err String) = .ok path) ↔ stack ∈ preloaded := by
  rw [← AList.lookup_isSome]
  cases preloaded.lookup stack with
  | none => simp
  | some path => simp

/-- When a path is found: for no image at all, and for one that parses and, where it is
preloaded, is among the stacks. Every other scheme is handed on as it is. -/
theorem pathForRootFS_ok {x : External} {rootFS : String} {preloaded : GoMap String String} :
    (∃ path, pathForRootFS x rootFS preloaded = .ok path) ↔ rootFS = "" ∨
      ∃ url, x.parseURL rootFS = .ok url ∧ (IsPreloaded url.scheme → url.opaque_ ∈ preloaded) := by
  unfold pathForRootFS
  by_cases hempty : rootFS = ""
  · rw [if_pos hempty]
    exact ⟨fun _ => Or.inl hempty, fun _ => ⟨rootFS, rfl⟩⟩
  rw [if_neg hempty]
  cases hparse : x.parseURL rootFS with
  | error err => simp [hempty]
  | ok url =>
    simp only [hempty, false_or, Except.ok.injEq, exists_eq_left']
    -- both preloaded schemes look the stack up, every other one takes the URL as it is
    by_cases hpre : url.scheme = Models.preloadedRootFSScheme
    · rw [if_pos hpre]
      exact exists_ok_of_lookup.trans ⟨fun hmem _ => hmem, fun h => h (Or.inl hpre)⟩
    · rw [if_neg hpre]
      by_cases hoci : url.scheme = Models.preloadedOCIRootFSScheme
      · rw [if_pos hoci]
        exact exists_ok_of_lookup.trans ⟨fun hmem _ => hmem, fun h => h (Or.inr hoci)⟩
      · rw [if_neg hoci]
        refine ⟨fun _ h => ?_, fun _ => ⟨rootFS, rfl⟩⟩
        rcases h with h | h
        · exact absurd h hpre
        · exact absurd h hoci

/-- What the auctioneer is told about an image of a cell that advertises the providers
made from its stacks and arbitrary schemes. -/
theorem matchRootFS_true {x : External} {preloaded : GoMap String String}
    {arbitrary : List String} {c : CellState} {rootFS : String}
    (hc : c.rootFSProviders = rootFSProviders preloaded arbitrary) :
    c.matchRootFS x rootFS = some true ↔ ∃ url, x.parseURL rootFS = .ok url ∧
      ((IsPreloaded url.scheme ∧ url.opaque_ ∈ preloaded) ∨
        (¬ IsPreloaded url.scheme ∧ url.scheme ∈ arbitrary)) := by
  unfold CellState.matchRootFS
  cases x.parseURL rootFS with
  | error err => simp
  | ok url =>
    obtain ⟨answer, hanswer, htrue⟩ := @matches_rootFSProviders preloaded arbitrary url
    simp only [hc, hanswer, Option.some.injEq, htrue, Except.ok.injEq, exists_eq_left']

/-! ## They agree

The three conditions are compared. The only image for which they are not plainly ordered is
the empty string, which has a path without being parsed. -/

/-- The rootfs part of a run request is its disk scope: with the volumes converted, the
request for a process is made exactly when the scope is found. -/
theorem newRunRequestFromDesiredLRP_ok {x : External} {guid : String}
    {desired : Models.DesiredLRP} {key : Models.ActualLRPKey}
    {instanceKey : Models.ActualLRPInstanceKey} {scope : Executor.DiskLimitScope}
    {mounts : List Executor.VolumeMount} (hscope : diskScopeForRootFS x desired.rootFs = .ok scope)
    (hmounts : convertVolumeMounts x desired.volumeMounts = .ok mounts) :
    ∃ req, newRunRequestFromDesiredLRP x guid desired key instanceKey = .ok req := by
  unfold newRunRequestFromDesiredLRP
  rw [hscope, hmounts]
  exact ⟨_, rfl⟩

/-- **What a cell advertises it can place and run.** For any parser that parses the
empty string: an image that matches has a path; an image with a path has a disk scope,
so that its run request, of a process or of a task, fails at most over its volumes; and
matching a preloaded image and finding its path are the same thing, the empty string
having no scheme. -/
theorem advertised_rootfs_runs (x : External) (preloaded : GoMap String String)
    (arbitrary : List String) (c : CellState)
    (hc : c.rootFSProviders = rootFSProviders preloaded arbitrary) (rootFS : String) (url₀ : URL)
    (hempty : x.parseURL "" = .ok url₀) :
    (c.matchRootFS x rootFS = some true → ∃ path, pathForRootFS x rootFS preloaded = .ok path) ∧
    ((rootFS = "" → url₀.scheme = "") → ∀ url, x.parseURL rootFS = .ok url →
      IsPreloaded url.scheme →
      (c.matchRootFS x rootFS = some true ↔
        ∃ path, pathForRootFS x rootFS preloaded = .ok path)) ∧
    (∀ path, pathForRootFS x rootFS preloaded = .ok path →
      (∃ scope, diskScopeForRootFS x rootFS = .ok scope) ∧
      (∀ guid desired key instanceKey mounts, desired.rootFs = rootFS →
        convertVolumeMounts x desired.volumeMounts = .ok mounts →
        ∃ req, newRunRequestFromDesiredLRP x guid desired key instanceKey = .ok req) ∧
      ∀ task mounts, task.rootFs = rootFS →
        convertVolumeMounts x task.volumeMounts = .ok mounts →
        ∃ req, newRunRequestFromTask x task = .ok req) := by
  rw [matchRootFS_true hc, pathForRootFS_ok]
  refine ⟨?_, ?_, ?_⟩
  · rintro ⟨url, hparse, ⟨hpre, hmem⟩ | ⟨hpre, -⟩⟩
    · exact Or.inr ⟨url, hparse, fun _ => hmem⟩
    · exact Or.inr ⟨url, hparse, fun h => absurd h hpre⟩
  · intro hscheme url hparse hpre
    refine ⟨?_, ?_⟩
    · rintro ⟨url', hparse', hmatch⟩
      obtain rfl : url = url' := Except.ok.inj (hparse.symm.trans hparse')
      rcases hmatch with ⟨-, hmem⟩ | ⟨hnot, -⟩
      · exact Or.inr ⟨url, hparse, fun _ => hmem⟩
      · exact absurd hpre hnot
    · rintro (rfl | ⟨url', hparse', hmem⟩)
      · -- the empty string has no scheme, and no preloaded one in particular
        obtain rfl : url = url₀ := Except.ok.inj (hparse.symm.trans hempty)
        rw [hscheme rfl] at hpre
        exact absurd hpre (by decide)
      · obtain rfl : url = url' := Except.ok.inj (hparse.symm.trans hparse')
        exact ⟨url, hparse, Or.inl ⟨hpre, hmem hpre⟩⟩
  · intro path hpath
    obtain ⟨scope, hscope⟩ : ∃ scope, diskScopeForRootFS x rootFS = .ok scope := by
      rw [diskScopeForRootFS_ok]
      rcases pathForRootFS_ok.mp ⟨path, hpath⟩ with rfl | ⟨url, hparse, -⟩
      · exact ⟨url₀, hempty⟩
      · exact ⟨url, hparse⟩
    refine ⟨⟨scope, hscope⟩, ?_, ?_⟩
    · rintro guid desired key instanceKey mounts rfl hmounts
      exact newRunRequestFromDesiredLRP_ok hscope hmounts
    · rintro task mounts rfl hmounts
      exact newRunRequestFromTask_ok.mpr ⟨⟨_, hscope⟩, _, hmounts⟩

/-! ### A concrete image

A preloaded image whose scheme the cell also lists as an arbitrary one. -/

/-- The stand-ins, with a parser that also knows the empty string: it has no scheme. -/
def External.sampleParsing : External :=
  { External.sample with
    parseURL := fun rootFS =>
      if rootFS = "" then .ok ⟨"", "", ""⟩ else External.sample.parseURL rootFS }

/-- The state of a cell with one stack, which also takes the preloaded scheme for an
arbitrary one. -/
def sampleAdvertised : CellState :=
  cellState { Cell.sample with
    rootFSProviders := rootFSProviders Cell.sample.stackPathMap ["docker", "preloaded"] }
    [] ⟨0, 0, 0⟩ ⟨0, 0, 0⟩ [] false

/-- The stack matches, so it has a path, though its scheme is listed as arbitrary too. -/
theorem sampleAdvertised_runs :
    sampleAdvertised.matchRootFS External.sampleParsing "preloaded:linux" = some true ∧
      ∃ path, pathForRootFS External.sampleParsing "preloaded:linux" Cell.sample.stackPathMap =
        .ok path := by
  have hmatch : sampleAdvertised.matchRootFS External.sampleParsing "preloaded:linux" = some true :=
    by decide
  exact ⟨hmatch, (advertised_rootfs_runs External.sampleParsing Cell.sample.stackPathMap
    ["docker", "preloaded"] sampleAdvertised rfl "preloaded:linux" ⟨"", "", ""⟩ rfl).1 hmatch⟩

end CellRep
