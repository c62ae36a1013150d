import CellRep.Json
import CellRep.Resources

/-!
# Providers on the wire

A cell sends its providers to the auctioneer as JSON (`rootfs_providers.go`). Encoding
and decoding go separate ways: a provider writes itself with its type beside its set,
and is read back by looking at the type first and at the set afterwards, the latter
through a field name that fits only because keys are matched in any case.

Two questions are asked of the pair: what was sent comes back, and what was accepted can
be used. The second one has a no in it, since a type the decoder does not know becomes a
nil provider without an error.
-/

namespace CellRep

open Json (Value UnmarshalTypeError)

/-! ## Encoding

A provider writes an object: the type, and for a fixed set also the set. The object comes from
a Go map, so its members are sorted by the JSON package. -/

/-- `RootFSProviderTypeArbitrary`, the type in the envelope of a provider for anything. -/
def rootFSProviderTypeArbitrary : String := "arbitrary"

/-- `RootFSProviderTypeFixedSet`, the type in the envelope of a provider for some hosts. -/
def rootFSProviderTypeFixedSet : String := "fixed_set"

/-- `Type` of either kind of provider: the text by which the receiver tells the kinds apart. -/
def RootFSProvider.type : RootFSProvider → String
  | .arbitrary => rootFSProviderTypeArbitrary
  | .fixedSet _ => rootFSProviderTypeFixedSet

/-- `MarshalJSON` of either kind of provider. An arbitrary provider is a map of strings to
strings, a fixed set one of strings to anything. -/
def RootFSProvider.marshalJSON (provider : RootFSProvider) : Value :=
  match provider with
  | .arbitrary => Json.encodeMap Value.string (AList.singleton "type" provider.type)
  | .fixedSet set =>
    Json.encodeMap id ((AList.singleton "type" (Value.string provider.type)).insert "set"
      (Json.encodeSet set))

/-- How the JSON package writes providers: a nil map and a nil provider are `null`. -/
def marshalProviders : Option RootFSProviders → Value
  | none => .null
  | some providers =>
    Json.encodeMap (fun provider => (provider.map RootFSProvider.marshalJSON).getD .null) providers

/-! ## Decoding

Reading goes in two passes over each value: once for the type, and once more, with another
target, for the set. -/

/-- The type a provider is announced with: `rootFSProviderEnvelope`. A value without a type
has the empty one, which is no known type and no error either. -/
def decodeEnvelope (payload : Value) : Except UnmarshalTypeError String :=
  Json.decodeField "type" Json.decodeString "" payload

/-- `FixedSetRootFSProvider.UnmarshalJSON`: the tag of the field is malformed, so the
field goes by its own name. -/
def unmarshalFixedSet (payload : Value) : Except UnmarshalTypeError RootFSProvider :=
  match Json.decodeField "Set" Json.decodeSet none payload with
  | .error err => .error err
  | .ok set => .ok (.fixedSet set)

/-- `unmarshalRootFSProvider`: a type that is not known gives a nil provider and no
error. -/
def unmarshalRootFSProvider (payload : Value) :
    Except UnmarshalTypeError (Option RootFSProvider) :=
  match decodeEnvelope payload with
  | .error err => .error err
  | .ok type =>
    if type = rootFSProviderTypeArbitrary then .ok (some .arbitrary)
    else if type = rootFSProviderTypeFixedSet then
      match unmarshalFixedSet payload with
      | .error err => .error err
      | .ok provider => .ok (some provider)
    else .ok none

/-- The order in which the decoder walks over the envelope. It is a parameter because Go does
not promise any. -/
abbrev EnvelopeWalk : Type := ∀ envelope : GoMap String Value, GoMap.Visit envelope

/-- `RootFSProviders.UnmarshalJSON`: the first value that cannot be read ends the walk with
its error. -/
def unmarshalProviders (walk : EnvelopeWalk) (payload : Value) :
    Except UnmarshalTypeError RootFSProviders :=
  match Json.decodeMap payload with
  | .error err => .error err
  | .ok envelope => GoMap.collect unmarshalRootFSProvider (walk envelope)

/-- The payload is an envelope, and each of its values is read. -/
theorem unmarshalProviders_eq_ok {walk : EnvelopeWalk} {payload : Value}
    {providers : RootFSProviders} : unmarshalProviders walk payload = .ok providers ↔
      ∃ envelope, Json.decodeMap payload = .ok envelope ∧
        GoMap.collect unmarshalRootFSProvider (walk envelope) = .ok providers := by
  rw [unmarshalProviders]
  cases Json.decodeMap payload with
  | error err => simp
  | ok envelope => simp

/-! ## What was sent comes back

Equality is too much to ask for, since a map comes back with its entries in another order.
What a provider answers is not affected by that. -/

/-- The same provider: sets are compared by what they contain, so a nil set and an empty one
are the same. -/
inductive RootFSProvider.Same : RootFSProvider → RootFSProvider → Prop where
  | arbitrary : Same .arbitrary .arbitrary
  | fixedSet {set set' : StringSet} :
      (∀ candidate, set.contains candidate = set'.contains candidate) →
      Same (.fixedSet set) (.fixedSet set')

/-- Same providers announce the same type. -/
theorem RootFSProvider.Same.type_eq {p q : RootFSProvider} (h : p.Same q) : p.type = q.type := by
  cases h with
  | arbitrary => rfl
  | fixedSet _ => rfl

/-- Same providers give the same answer to every URL. -/
theorem RootFSProvider.Same.matches_eq {p q : RootFSProvider} (h : p.Same q) (url : URL) :
    p.matches_ url = q.matches_ url := by
  cases h with
  | arbitrary => rfl
  | fixedSet hset => exact hset url.opaque_

/-- Which of the members a provider writes names which field: `set` is read as `Set`, and
neither is read for the other. The sender writes the lower case and the receiver looks for the
upper. -/
theorem namesField_members :
    Json.namesField "type" "type" = true ∧ Json.namesField "type" "set" = false ∧
      Json.namesField "Set" "set" = true ∧ Json.namesField "Set" "type" = false := by
  decide

/-- The members of a fixed set, before they are sorted. -/
theorem entries_fixedSet (type set : Value) :
    ((AList.singleton "type" type).insert "set" set : GoMap String Value).entries =
      [⟨"set", set⟩, ⟨"type", type⟩] :=
  AList.entries_insert_of_notMem (by simp [AList.mem_keys])

/-- The type comes back, with or without a set beside it. -/
theorem decodeEnvelope_marshalJSON (provider : RootFSProvider) :
    decodeEnvelope provider.marshalJSON = .ok provider.type := by
  obtain ⟨htype, hset, -, -⟩ := namesField_members
  unfold decodeEnvelope
  cases provider with
  | arbitrary =>
    apply Json.decodeField_encodeMap (e := ⟨"type", RootFSProvider.arbitrary.type⟩)
    rw [AList.singleton_entries, List.filter_singleton, htype]
    rfl
  | fixedSet set =>
    apply Json.decodeField_encodeMap
      (e := ⟨"type", Value.string (RootFSProvider.fixedSet set).type⟩)
    rw [entries_fixedSet, List.filter_cons_of_neg (by simp [hset]),
      List.filter_cons_of_pos (by simp [htype]), List.filter_nil]

/-- The set comes back, through the name of the field and in spite of its malformed tag. -/
theorem decodeSet_marshalJSON (set : StringSet) :
    ∃ set', Json.decodeField "Set" Json.decodeSet none (RootFSProvider.fixedSet set).marshalJSON =
        .ok set' ∧ ∀ candidate, StringSet.contains set' candidate = set.contains candidate := by
  obtain ⟨-, -, hset, htype⟩ := namesField_members
  obtain ⟨set', hset', hsame⟩ := Json.decodeSet_encodeSet set
  refine ⟨set', Eq.trans ?_ hset', hsame⟩
  apply Json.decodeField_encodeMap (e := ⟨"set", Json.encodeSet set⟩)
  rw [entries_fixedSet, List.filter_cons_of_pos (by simp [hset]),
    List.filter_cons_of_neg (by simp [htype]), List.filter_nil]

/-- The provider comes back, up to `Same`. -/
theorem unmarshal_marshalJSON (provider : RootFSProvider) :
    ∃ provider', unmarshalRootFSProvider provider.marshalJSON = .ok (some provider') ∧
      provider'.Same provider := by
  unfold unmarshalRootFSProvider
  rw [decodeEnvelope_marshalJSON]
  cases provider with
  | arbitrary => exact ⟨.arbitrary, rfl, .arbitrary⟩
  | fixedSet set =>
    obtain ⟨set', hset', hsame⟩ := decodeSet_marshalJSON set
    refine ⟨.fixedSet set', ?_, .fixedSet hsame⟩
    simp [RootFSProvider.type, rootFSProviderTypeArbitrary, rootFSProviderTypeFixedSet,
      unmarshalFixedSet, hset']

/-- A decoder that accepts an envelope has read every value of it, and has added no key of its
own. -/
theorem lookup_of_unmarshalProviders {walk : EnvelopeWalk} {payload : Value}
    {envelope : GoMap String Value} {providers : RootFSProviders}
    (henvelope : Json.decodeMap payload = .ok envelope)
    (h : unmarshalProviders walk payload = .ok providers) (key : String) :
    (∀ value, envelope.lookup key = some value → ∃ provider,
        unmarshalRootFSProvider value = .ok provider ∧ providers.lookup key = some provider) ∧
      (envelope.lookup key = none → providers.lookup key = none) := by
  obtain ⟨envelope', henvelope', hcollect⟩ := unmarshalProviders_eq_ok.mp h
  cases henvelope.symm.trans henvelope'
  exact GoMap.lookup_collect hcollect key

/-- Without nil providers the envelope is read to its end, and each key has its provider
again. A nil provider would be written as `null` and read as one of no type. -/
theorem lookup_unmarshal_marshal (walk : EnvelopeWalk) {providers : RootFSProviders}
    (hvalues : ∀ key, providers.lookup key ≠ some none) :
    ∃ decoded, unmarshalProviders walk (marshalProviders (some providers)) = .ok decoded ∧
      ∀ key, (providers.lookup key = none ∧ decoded.lookup key = none) ∨
        ∃ provider provider', providers.lookup key = some (some provider) ∧
          decoded.lookup key = some (some provider') ∧ provider'.Same provider := by
  obtain ⟨envelope, henvelope, hlookup⟩ : ∃ envelope,
      Json.decodeMap (marshalProviders (some providers)) = .ok envelope ∧
      ∀ key, envelope.lookup key = (providers.lookup key).map fun provider =>
        (provider.map RootFSProvider.marshalJSON).getD .null :=
    Json.lookup_decodeMap
  -- what stands in the envelope was written by a provider, so it is read back
  have hread : ∀ key value, envelope.lookup key = some value →
      ∃ provider provider', providers.lookup key = some (some provider) ∧
        unmarshalRootFSProvider value = .ok (some provider') ∧ provider'.Same provider := by
    intro key value hvalue
    rw [hlookup, Option.map_eq_some_iff] at hvalue
    obtain ⟨provider, hprovider, rfl⟩ := hvalue
    cases provider with
    | none => exact absurd hprovider (hvalues key)
    | some provider =>
      obtain ⟨provider', hunmarshal, hsame⟩ := unmarshal_marshalJSON provider
      exact ⟨provider, provider', hprovider, hunmarshal, hsame⟩
  obtain ⟨decoded, hdecoded⟩ := GoMap.exists_collect (g := unmarshalRootFSProvider)
    (walk envelope) fun key value hvalue =>
      let ⟨_, provider', _, hunmarshal, _⟩ := hread key value hvalue
      ⟨some provider', hunmarshal⟩
  have hok : unmarshalProviders walk (marshalProviders (some providers)) = .ok decoded :=
    unmarshalProviders_eq_ok.mpr ⟨envelope, henvelope, hdecoded⟩
  refine ⟨decoded, hok, ?_⟩
  intro key
  obtain ⟨hfound, hnone⟩ := lookup_of_unmarshalProviders henvelope hok key
  cases hvalue : envelope.lookup key with
  | none =>
    refine .inl ⟨?_, hnone hvalue⟩
    rw [hlookup] at hvalue
    exact Option.map_eq_none_iff.mp hvalue
  | some value =>
    obtain ⟨provider, provider', hprovider, hunmarshal, hsame⟩ := hread key value hvalue
    obtain ⟨provider'', hunmarshal', hdecodedKey⟩ := hfound value hvalue
    cases hunmarshal.symm.trans hunmarshal'
    exact .inr ⟨provider, provider', hprovider, hdecodedKey, hsame⟩

/-- **Providers survive the wire.** What was written is read without an error, with the
same keys and, at each of them, a provider of the same type and with the same set. A URL
therefore has the same answer on both sides. -/
theorem providers_survive_the_wire (walk : EnvelopeWalk) (providers : Option RootFSProviders)
    (hvalues : ∀ key, (providers.getD ∅).lookup key ≠ some none) :
    ∃ decoded, unmarshalProviders walk (marshalProviders providers) = .ok decoded ∧
      (∀ key, key ∈ decoded ↔ key ∈ providers.getD ∅) ∧
      (∀ key provider, (providers.getD ∅).lookup key = some (some provider) →
        ∃ provider', decoded.lookup key = some (some provider') ∧
          provider'.type = provider.type ∧ provider'.Same provider) ∧
      ∀ url, ∃ answer, decoded.matches_ url = some answer ∧
        (providers.getD ∅).matches_ url = some answer := by
  -- a nil map is written as `null` and read as an empty one
  have hlookup : ∃ decoded, unmarshalProviders walk (marshalProviders providers) = .ok decoded ∧
      ∀ key, ((providers.getD ∅).lookup key = none ∧ decoded.lookup key = none) ∨
        ∃ provider provider', (providers.getD ∅).lookup key = some (some provider) ∧
          decoded.lookup key = some (some provider') ∧ provider'.Same provider := by
    cases providers with
    | some providers => exact lookup_unmarshal_marshal walk hvalues
    | none =>
      obtain ⟨decoded, hdecoded⟩ := GoMap.exists_collect (g := unmarshalRootFSProvider) (walk ∅)
        fun key value hvalue => by simp at hvalue
      refine ⟨decoded, hdecoded, ?_⟩
      intro key
      exact .inl ⟨AList.lookup_empty key,
        (GoMap.lookup_collect hdecoded key).2 (AList.lookup_empty key)⟩
  obtain ⟨decoded, hok, hboth⟩ := hlookup
  refine ⟨decoded, hok, ?_, ?_, ?_⟩
  · intro key
    rw [← AList.lookup_isSome, ← AList.lookup_isSome]
    obtain ⟨hsent, hread⟩ | ⟨provider, provider', hsent, hread, -⟩ := hboth key
    · rw [hsent, hread]
    · rw [hsent, hread]
      exact ⟨fun _ => rfl, fun _ => rfl⟩
  · intro key provider hprovider
    obtain ⟨hsent, -⟩ | ⟨provider₁, provider', hsent, hread, hsame⟩ := hboth key
    · rw [hprovider] at hsent
      cases hsent
    · cases hprovider.symm.trans hsent
      exact ⟨provider', hread, hsame.type_eq, hsame⟩
  · intro url
    obtain ⟨hsent, hread⟩ | ⟨provider, provider', hsent, hread, hsame⟩ := hboth url.scheme
    · exact ⟨false, RootFSProviders.matches_eq_some.mpr (.inl ⟨hread, rfl⟩),
        RootFSProviders.matches_eq_some.mpr (.inl ⟨hsent, rfl⟩)⟩
    · exact ⟨_, RootFSProviders.matches_eq_some.mpr (.inr ⟨provider', hread, rfl⟩),
        RootFSProviders.matches_eq_some.mpr (.inr ⟨provider, hsent, hsame.matches_eq url⟩)⟩

/-- The entries of a map in the order they are stored in, as one of the orders. -/
def storedWalk : EnvelopeWalk := fun envelope => ⟨envelope.entries, .refl _⟩

/-- One provider of either kind, the fixed set with two stacks. -/
def sampleProviders : RootFSProviders :=
  (AList.singleton "docker" (some .arbitrary)).insert "preloaded"
    (some (newFixedSetRootFSProvider ["trusty", "xenial"]))

/-- The decoded map answers for both stacks, for a stack it does not have, for the other
provider and for a scheme without one. -/
theorem sampleProviders_survive :
    ∃ decoded, unmarshalProviders storedWalk (marshalProviders (some sampleProviders)) =
        .ok decoded ∧ decoded.matches_ ⟨"docker", "", ""⟩ = some true ∧
      decoded.matches_ ⟨"preloaded", "trusty", ""⟩ = some true ∧
      decoded.matches_ ⟨"preloaded", "xenial", ""⟩ = some true ∧
      decoded.matches_ ⟨"preloaded", "bionic", ""⟩ = some false ∧
      decoded.matches_ ⟨"oci", "trusty", ""⟩ = some false := by
  have hvalues : ∀ key, ((some sampleProviders).getD ∅).lookup key ≠ some none := by
    intro key hkey
    have hmem := AList.mem_lookup_iff.mp hkey
    simp [sampleProviders] at hmem
  obtain ⟨decoded, hok, -, -, hmatch⟩ :=
    providers_survive_the_wire storedWalk (some sampleProviders) hvalues
  have hanswer : ∀ url answer, sampleProviders.matches_ url = some answer →
      decoded.matches_ url = some answer := by
    intro url answer hsample
    obtain ⟨answer', hdecoded, hsent⟩ := hmatch url
    rw [hdecoded, ← hsent]
    exact hsample
  exact ⟨decoded, hok, hanswer _ _ (by decide), hanswer _ _ (by decide), hanswer _ _ (by decide),
    hanswer _ _ (by decide), hanswer _ _ (by decide)⟩

/-! ## What was accepted can be used

The decoder accepts documents the encoder would never write. Whether these can be used is a
question of its own, and the answer depends on the types announced in them. -/

/-- The value announces one of the two types the decoder knows. -/
def KnownType (value : Value) : Prop :=
  decodeEnvelope value = .ok rootFSProviderTypeArbitrary ∨
    decodeEnvelope value = .ok rootFSProviderTypeFixedSet

/-- The payload has the value under the key, the last one counting. -/
def HasEntry (payload : Value) (key : String) (value : Value) : Prop :=
  ∃ envelope, Json.decodeMap payload = .ok envelope ∧ envelope.lookup key = some value

/-- Every value of the payload announces a known type. -/
def AllKnown (payload : Value) : Prop :=
  ∀ key value, HasEntry payload key value → KnownType value

/-- No answer of the providers read from a payload panics, and a type that is not known
matches nothing. -/
structure Usable (payload : Value) (providers : RootFSProviders) : Prop where
  noNil : ∀ key, providers.lookup key ≠ some none
  defined : ∀ url, ∃ answer, providers.matches_ url = some answer
  unknown : ∀ key value, HasEntry payload key value → ¬ KnownType value →
    ∀ url : URL, url.scheme = key → providers.matches_ url = some false

/-- The providers of the state the client reads from a response. A response without the field
leaves the map as it was, empty. -/
def decodeStateProviders (walk : EnvelopeWalk) (body : Value) :
    Except UnmarshalTypeError RootFSProviders :=
  Json.decodeField "RootFSProviders" (fun _ => unmarshalProviders walk) ∅ body

/-- Of the types that pass, the known ones are those with a provider. A known type whose set
cannot be read does not pass. -/
theorem isSome_unmarshalRootFSProvider {value : Value} {provider : Option RootFSProvider}
    (h : unmarshalRootFSProvider value = .ok provider) : provider.isSome ↔ KnownType value := by
  unfold unmarshalRootFSProvider at h
  unfold KnownType
  cases htype : decodeEnvelope value with
  | error err =>
    rw [htype] at h
    cases h
  | ok type =>
    rw [htype] at h
    dsimp only at h
    -- the two known types are tried one after the other; any other gives a nil provider and no
    -- error
    split at h
    · rename_i harbitrary
      cases h
      exact ⟨fun _ => .inl (congrArg _ harbitrary), fun _ => rfl⟩
    · split at h
      · rename_i hfixed
        cases hset : unmarshalFixedSet value with
        | error err =>
          rw [hset] at h
          cases h
        | ok set =>
          rw [hset] at h
          cases h
          exact ⟨fun _ => .inr (congrArg _ hfixed), fun _ => rfl⟩
      · rename_i harbitrary hfixed
        cases h
        refine ⟨nofun, ?_⟩
        rintro (hknown | hknown)
        · exact absurd (Except.ok.inj hknown) harbitrary
        · exact absurd (Except.ok.inj hknown) hfixed

/-- A key of the decoded map is nil exactly where its type is not known. -/
theorem noNil_iff_allKnown {walk : EnvelopeWalk} {payload : Value} {providers : RootFSProviders}
    (h : unmarshalProviders walk payload = .ok providers) :
    (∀ key, providers.lookup key ≠ some none) ↔ AllKnown payload := by
  refine ⟨?_, ?_⟩
  · rintro hnoNil key value ⟨envelope, henvelope, hvalue⟩
    obtain ⟨provider, hunmarshal, hprovider⟩ :=
      (lookup_of_unmarshalProviders henvelope h key).1 value hvalue
    refine (isSome_unmarshalRootFSProvider hunmarshal).mp (Option.isSome_iff_ne_none.mpr ?_)
    rintro rfl
    exact hnoNil key hprovider
  · intro hknown key hnil
    obtain ⟨envelope, henvelope, -⟩ := unmarshalProviders_eq_ok.mp h
    obtain ⟨hfound, hnone⟩ := lookup_of_unmarshalProviders henvelope h key
    cases hvalue : envelope.lookup key with
    | none => exact absurd (hnil.symm.trans (hnone hvalue)) nofun
    | some value =>
      obtain ⟨provider, hunmarshal, hprovider⟩ := hfound value hvalue
      cases hnil.symm.trans hprovider
      exact absurd ((isSome_unmarshalRootFSProvider hunmarshal).mpr
        (hknown key value ⟨envelope, henvelope, hvalue⟩)) nofun

/-- Only a nil provider panics; a scheme without any provider matches nothing. -/
theorem noNil_iff_defined {providers : RootFSProviders} :
    (∀ key, providers.lookup key ≠ some none) ↔
      ∀ url, ∃ answer, providers.matches_ url = some answer := by
  refine ⟨?_, ?_⟩
  · intro hnoNil url
    cases hprovider : providers.lookup url.scheme with
    | none => exact ⟨false, RootFSProviders.matches_eq_some.mpr (.inl ⟨hprovider, rfl⟩)⟩
    | some provider =>
      cases provider with
      | none => exact absurd hprovider (hnoNil _)
      | some provider =>
        exact ⟨_, RootFSProviders.matches_eq_some.mpr (.inr ⟨provider, hprovider, rfl⟩)⟩
  · intro hdefined key hnil
    obtain ⟨answer, hanswer⟩ := hdefined ⟨key, "", ""⟩
    rcases RootFSProviders.matches_eq_some.mp hanswer with ⟨hnone, -⟩ | ⟨provider, hsome, -⟩
    · exact absurd (hnil.symm.trans hnone) nofun
    · exact absurd (hnil.symm.trans hsome) nofun

/-- A state can be asked for every image, whatever the URLs parse to, when its providers can.
For the converse the parser is chosen so as to produce the URL in question. -/
theorem defined_iff_matchRootFS {state : CellState} :
    (∀ url, ∃ answer, state.rootFSProviders.matches_ url = some answer) ↔
      ∀ x rootfs, ∃ answer, state.matchRootFS x rootfs = some answer := by
  unfold CellState.matchRootFS
  refine ⟨?_, ?_⟩
  · intro hdefined x rootfs
    cases x.parseURL rootfs with
    | error err => exact ⟨false, rfl⟩
    | ok url => exact hdefined url
  · intro hmatch url
    exact hmatch { External.sample with parseURL := fun _ => .ok url } ""

/-- **An accepted document is usable exactly when it names only known types**; in
particular a state the client has decoded can be asked for every image exactly when the
providers it came with are of known types. -/
theorem accepted_providers_usable_iff (walk : EnvelopeWalk) :
    (∀ payload providers, unmarshalProviders walk payload = .ok providers →
      (Usable payload providers ↔ AllKnown payload)) ∧
    ∀ body (state : CellState), decodeStateProviders walk body = .ok state.rootFSProviders →
      ((∀ x rootfs, ∃ answer, state.matchRootFS x rootfs = some answer) ↔
        ∀ payload, body.lastField "RootFSProviders" = some payload → AllKnown payload) := by
  refine ⟨?_, ?_⟩
  · intro payload providers h
    refine ⟨fun husable => (noNil_iff_allKnown h).mp husable.noNil, ?_⟩
    intro hknown
    have hnoNil := (noNil_iff_allKnown h).mpr hknown
    exact ⟨hnoNil, noNil_iff_defined.mp hnoNil,
      fun key value hentry hunknown => absurd (hknown key value hentry) hunknown⟩
  · intro body state h
    rw [← defined_iff_matchRootFS, ← noNil_iff_defined]
    -- the last member of that name counts; without one the map stays empty
    obtain ⟨hlast, hempty⟩ | ⟨payload, hlast, hpayload⟩ := Json.decodeField_last h
    · rw [hlast, hempty]
      refine ⟨fun _ => nofun, fun _ key hnil => ?_⟩
      rw [AList.lookup_empty] at hnil
      cases hnil
    · rw [hlast, noNil_iff_allKnown hpayload]
      refine ⟨?_, fun hknown => hknown payload rfl⟩
      rintro hknown payload' hpayload'
      cases hpayload'
      exact hknown

/-- A document with one provider, of the given type and without a set. -/
def documentOf (type : String) : Value :=
  .object [("docker", .object [("type", .string type)])]

/-- The one entry of the document announces its type. -/
theorem documentOf_hasEntry {type key : String} {value : Value}
    (h : HasEntry (documentOf type) key value) : decodeEnvelope value = .ok type := by
  obtain ⟨envelope, henvelope, hvalue⟩ := h
  cases henvelope
  have hmem := AList.mem_lookup_iff.mp hvalue
  obtain ⟨-, rfl⟩ : key = "docker" ∧ value = .object [("type", .string type)] := by
    simpa [GoMap.putAll] using hmem
  obtain ⟨htype, -, -, -⟩ := namesField_members
  rw [decodeEnvelope, Json.decodeField, List.filter_cons_of_pos (by simp [htype]),
    List.filter_nil]
  rfl

/-- With a known type the document can be used. -/
theorem knownDocument_usable :
    ∃ providers, unmarshalProviders storedWalk (documentOf "arbitrary") = .ok providers ∧
      Usable (documentOf "arbitrary") providers := by
  refine ⟨_, rfl, ((accepted_providers_usable_iff storedWalk).1 _ _ rfl).mpr ?_⟩
  intro key value hentry
  exact .inl (documentOf_hasEntry hentry)

/-- A newer cell sends a type the decoder does not know. The document is accepted, alone
and as a part of a state, and to ask for an image of its scheme panics. -/
theorem unknownDocument_panics :
    ∃ providers, unmarshalProviders storedWalk (documentOf "layered") = .ok providers ∧
      providers.matches_ ⟨"docker", "", ""⟩ = none ∧
      ¬ Usable (documentOf "layered") providers ∧
      decodeStateProviders storedWalk
        (.object [("RootFSProviders", documentOf "layered")]) = .ok providers := by
  refine ⟨_, rfl, ?_, ?_, rfl⟩
  · decide
  · intro husable
    obtain ⟨answer, hanswer⟩ := husable.defined ⟨"docker", "", ""⟩
    revert hanswer
    cases answer <;> decide

end CellRep
