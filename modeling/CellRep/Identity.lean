import CellRep.AuctionCell
import CellRep.Batch
import CellRep.Causes
import CellRep.Handlers

/-!
# An LRP's identity

An LRP's key goes into the tags of its container as text, is read back from there by
the processors, travels to the BBS inside a record, comes back in a batch, and is
turned into a container guid again in four places. This module follows it around:
what is read back is what was written, and every place computes the guid the
container really has.
-/

namespace CellRep

open Models (ActualLRP ActualLRPKey ActualLRPInstanceKey)
open Executor (Container Tags)

/-! ## Through the tags

A container carries its LRP's key in three tags, the index as a decimal numeral. Reading it
back is a round trip through `strconv`, and through the narrowing from `int` to `int32`, which
is harmless here because the number was an `int32` before. -/

section

variable (lrp : LRP) (instanceGuid : String)

/-- The five tags of an LRP's container. They are inserted one after the other, and as their
names differ no insertion hides an earlier one. -/
theorem lrpTags_get :
    Tags.get (some (lrpTags lrp instanceGuid)) domainTag = lrp.key.domain ∧
    Tags.get (some (lrpTags lrp instanceGuid)) processGuidTag = lrp.key.processGuid ∧
    Tags.get (some (lrpTags lrp instanceGuid)) processIndexTag =
      Strconv.itoa lrp.key.index.toInt64 ∧
    Tags.get (some (lrpTags lrp instanceGuid)) lifecycleTag = lrpLifecycle ∧
    Tags.get (some (lrpTags lrp instanceGuid)) instanceGuidTag = instanceGuid := by
  have hne : domainTag ≠ processGuidTag ∧ domainTag ≠ processIndexTag ∧
      domainTag ≠ lifecycleTag ∧ domainTag ≠ instanceGuidTag ∧
      processGuidTag ≠ processIndexTag ∧ processGuidTag ≠ lifecycleTag ∧
      processGuidTag ≠ instanceGuidTag ∧ processIndexTag ≠ lifecycleTag ∧
      processIndexTag ≠ instanceGuidTag ∧ lifecycleTag ≠ instanceGuidTag := by decide
  obtain ⟨h₁, h₂, h₃, h₄, h₅, h₆, h₇, h₈, h₉, h₁₀⟩ := hne
  simp only [Tags.get, Option.bind_some, lrpTags]
  refine ⟨?_, ?_, ?_, ?_, ?_⟩
  · rw [AList.lookup_insert_ne h₄, AList.lookup_insert_ne h₃, AList.lookup_insert_ne h₂,
      AList.lookup_insert_ne h₁, AList.lookup_insert, Option.getD_some]
  · rw [AList.lookup_insert_ne h₇, AList.lookup_insert_ne h₆, AList.lookup_insert_ne h₅,
      AList.lookup_insert, Option.getD_some]
  · rw [AList.lookup_insert_ne h₉, AList.lookup_insert_ne h₈, AList.lookup_insert,
      Option.getD_some]
  · rw [AList.lookup_insert_ne h₁₀, AList.lookup_insert, Option.getD_some]
  · rw [AList.lookup_insert, Option.getD_some]

/-- The key read back from the tags is the LRP's own. The validation runs on the key that was
read back, so it is assumed of the original. -/
theorem actualLRPKeyFromTags_lrpTags {x : External} (hkey : x.validateKey lrp.key = none) :
    actualLRPKeyFromTags x (some (lrpTags lrp instanceGuid)) = .ok lrp.key := by
  obtain ⟨hdomain, hprocess, hindex, -, -⟩ := lrpTags_get lrp instanceGuid
  have hback : (⟨lrp.key.processGuid, lrp.key.index.toInt64.toInt32, lrp.key.domain⟩ :
      ActualLRPKey) = lrp.key := by
    rw [Int32.toInt32_toInt64]
  rw [actualLRPKeyFromTags, hindex, Strconv.atoi_itoa]
  simp only [hdomain, hprocess, hback, hkey]

end

/-- The container `container` is the one allocated for `lrp` under `instanceGuid`, as far as
its guid and its tags go. Its state and the rest may have changed since. -/
structure AllocatedFor (lrp : LRP) (instanceGuid rootFSPath : String) (container : Container) :
    Prop where
  guid : container.guid = (lrpRequest lrp instanceGuid rootFSPath).guid
  tags : container.tags = (lrpRequest lrp instanceGuid rootFSPath).tags

section

variable {C : Cell} {lrp : LRP} {instanceGuid rootFSPath : String} {container : Container}

/-- Such a container gives the LRP's key back, from its tags alone. -/
theorem AllocatedFor.key (h : AllocatedFor lrp instanceGuid rootFSPath container)
    (hkey : C.ext.validateKey lrp.key = none) :
    actualLRPKeyFromTags C.ext container.tags = .ok lrp.key := by
  rw [h.tags]
  exact actualLRPKeyFromTags_lrpTags lrp instanceGuid hkey

/-- The tags give the instance key back, which is their instance guid together with the cell's
own id. -/
theorem AllocatedFor.instanceKey (h : AllocatedFor lrp instanceGuid rootFSPath container)
    (hik : C.ext.validateInstanceKey ⟨instanceGuid, C.cellID⟩ = none) :
    actualLRPInstanceKeyFromContainer C.ext container C.cellID =
      .ok ⟨instanceGuid, C.cellID⟩ := by
  have htags : container.tags = some (lrpTags lrp instanceGuid) := h.tags
  rw [actualLRPInstanceKeyFromContainer, htags]
  simp only [(lrpTags_get lrp instanceGuid).2.2.2.2, hik]

/-- The processors decode the container to the LRP it was allocated for. -/
theorem AllocatedFor.decode (h : AllocatedFor lrp instanceGuid rootFSPath container)
    (hkey : C.ext.validateKey lrp.key = none)
    (hik : C.ext.validateInstanceKey ⟨instanceGuid, C.cellID⟩ = none) :
    decodeLRPContainer C container =
      .ok ⟨lrp.key, ⟨instanceGuid, C.cellID⟩, container⟩ := by
  exact decodeLRPContainer_eq_ok.mpr ⟨h.key hkey, h.instanceKey hik, rfl⟩

end

/-! ## Into the record and back

What the BBS holds is written by the calls of the processors, and what the generator works on
is read from the BBS. The lemmas of this part are one for each of the places at which a key is
turned into a guid or a guid is looked up. -/

/-- A call that writes an LRP's record carries this key and this instance key. -/
def Carries (key : ActualLRPKey) (instanceKey : ActualLRPInstanceKey) : Call → Prop
  | .claimActualLRP processGuid index instanceKey'
  | .removeActualLRP processGuid index instanceKey' =>
    processGuid = key.processGuid ∧ index = key.index.toInt64 ∧ instanceKey' = instanceKey
  | .startActualLRP key' instanceKey' _ | .crashActualLRP key' instanceKey' _
  | .evacuateClaimedActualLRP key' instanceKey' | .evacuateRunningActualLRP key' instanceKey' _ _
  | .evacuateStoppedActualLRP key' instanceKey' | .evacuateCrashedActualLRP key' instanceKey' _ =>
    key' = key ∧ instanceKey' = instanceKey
  | _ => True

/-- The calls of the LRP processors carry the decoded keys. `LRPCall` says so of some decoding
of the container, and there is only one. -/
theorem carries_of_lrpCall {C : Cell} {container : Container} {lrp : LRPContainer} {c : Call}
    (hd : decodeLRPContainer C container = .ok lrp) (hc : LRPCall C container c) :
    Carries lrp.key lrp.instanceKey c := by
  have hsame : ∀ lrp', decodeLRPContainer C container = .ok lrp' → lrp' = lrp := fun lrp' hd' => by
    rw [hd] at hd'
    exact (Except.ok.inj hd').symm
  cases c with
  | claimActualLRP | removeActualLRP =>
    obtain ⟨lrp', hd', hrest⟩ := hc
    rw [hsame lrp' hd'] at hrest
    exact hrest
  | startActualLRP | crashActualLRP | evacuateClaimedActualLRP | evacuateRunningActualLRP
  | evacuateStoppedActualLRP | evacuateCrashedActualLRP =>
    obtain ⟨lrp', hd', hrest⟩ := hc
    rw [hsame lrp' hd'] at hrest
    exact hrest
  | _ => trivial

/-- The residual operations a record can give rise to, depending on what else the batch has
found under its guid. -/
def recordOperations (record : ActualLRP) : List Operation :=
  [.residualInstance record.key record.instanceKey,
    .residualEvacuating record.key record.instanceKey,
    .residualJoint record.key record.instanceKey]

/-- A residual operation of a record looks for the container under the guid the batch
files the record under, and is queued under the same guid. -/
theorem recordOperations_guid {C : Cell} {record : ActualLRP} {op : Operation}
    (hop : op ∈ recordOperations record) :
    op.key = recordGuid record ∧ ∀ t, (op.execute C).Trace t () →
      ∃ r t', t = ⟨.getContainer (recordGuid record), r⟩ :: t' := by
  -- all three begin with the same look, whatever they do afterwards
  have hfirst : ∀ {k : Option Container → RepM Unit} {t : List RepEvent},
      (Delegate.getContainer (recordGuid record) >>= k).Trace t () →
      ∃ r t', t = ⟨.getContainer (recordGuid record), r⟩ :: t' := by
    intro k t ht
    obtain ⟨t₁, t₂, found, rfl, hget, -⟩ := Prog.trace_bind.mp ht
    obtain ⟨r, rfl, -⟩ := Delegate.trace_getContainer.mp hget
    exact ⟨r, t₂, rfl⟩
  simp only [recordOperations, List.mem_cons, List.not_mem_nil, or_false] at hop
  rcases hop with rfl | rfl | rfl
  · exact ⟨rfl, fun t ht => hfirst ht⟩
  · exact ⟨rfl, fun t ht => hfirst ht⟩
  · exact ⟨rfl, fun t ht => hfirst ht⟩

/-- Given both guids, the stop handler stops the container of that name, and that is its only
call. -/
theorem trace_stopLRPInstance {processGuid instanceGuid : String} {t : List RepEvent} {status : ℕ}
    (hprocess : processGuid ≠ "") (hinstance : instanceGuid ≠ "")
    (ht : (Handlers.stopLRPInstance processGuid instanceGuid).Trace t status) :
    ∃ r, t = [⟨.stopContainer (lrpContainerGuid processGuid instanceGuid), r⟩] := by
  rw [Handlers.stopLRPInstance, if_neg hprocess, if_neg hinstance] at ht
  simp only [Client.stopContainer, Prog.call_bind, Prog.ret_bind, Prog.trace_call] at ht
  obtain ⟨r, t', rfl, ht⟩ := ht
  cases r with
  | none =>
    obtain ⟨rfl, -⟩ := Prog.trace_ret.mp ht
    exact ⟨none, rfl⟩
  | some err =>
    obtain ⟨rfl, -⟩ := Prog.trace_ret.mp ht
    exact ⟨some err, rfl⟩

/-- A batch that lists a container has a container operation for it and no other: the
containers come first in the priorities of a batch. -/
theorem batch_of_listed {C : Cell} {s : Schedule} {t : List RepEvent}
    {batch : GoMap String Operation} {cs : List Container} {container : Container}
    (ht : (batchOperations C s).Trace t (.ok batch))
    (hcs : (⟨.listContainers, .ok cs⟩ : RepEvent) ∈ t) (hmem : container ∈ cs) :
    batch.lookup container.guid = some (.container container.guid) ∧
      ∀ guid op, batch.lookup guid = some op → op.key = container.guid →
        op = .container container.guid := by
  obtain ⟨found, rfl, hres⟩ := trace_batchOperations ht
  obtain ⟨cs', gs, ts, rfl, rfl⟩ := ok_of_resolve hres.symm
  -- the containers are read once, so the listing of the trace is the one the batch was made from
  obtain rfl : cs' = cs := by
    obtain ⟨r, -, hr⟩ := List.mem_map.mp hcs
    cases r with
    | containers =>
      cases hr
      rfl
    | lrps => cases hr
    | tasks => cases hr
  have hlookup : (assemble s cs' gs ts).lookup container.guid =
      some (.container container.guid) := by
    rw [lookup_assemble, if_pos ⟨container, hmem, rfl⟩]
  refine ⟨hlookup, ?_⟩
  intro guid op hop hkey
  -- operations are filed under their keys, so a second one would be the same
  rw [← (origin_of_lookup hop).key, hkey, hlookup] at hop
  exact (Option.some.inj hop).symm

/-! ## The whole trip

Allocation, processing, listing and stopping, one after the other, for one and the same LRP. -/

/-- **An LRP's identity survives the trip.** For the container allocated for an LRP,
both keys are read back exactly; whatever either processor writes to the BBS carries
them; and from such a record, the batch's guid, the residual operations' key and the
guid they look for, and the guid the stop handler stops, are all the container's own,
so that a batch which lists the container holds no residual operation for it. -/
theorem lrp_identity_survives (C : Cell) (lrp : LRP) (instanceGuid rootFSPath : String)
    (container : Container) (halloc : AllocatedFor lrp instanceGuid rootFSPath container)
    (hkey : C.ext.validateKey lrp.key = none) (hguid : instanceGuid ≠ "") (hcell : C.cellID ≠ "")
    (hvalidKey : ∀ key, C.ext.validateKey key = none → key.processGuid ≠ "")
    (hvalidInstance : ∀ instanceKey : ActualLRPInstanceKey, instanceKey.instanceGuid ≠ "" →
      instanceKey.cellId ≠ "" → C.ext.validateInstanceKey instanceKey = none) :
    actualLRPKeyFromTags C.ext container.tags = .ok lrp.key ∧
    actualLRPInstanceKeyFromContainer C.ext container C.cellID = .ok ⟨instanceGuid, C.cellID⟩ ∧
    (∀ t, (Ordinary.process C container).Trace t () ∨ (Evacuation.process C container).Trace t () →
      ∀ e ∈ t, Carries lrp.key ⟨instanceGuid, C.cellID⟩ e.1) ∧
    recordGuid ⟨lrp.key, ⟨instanceGuid, C.cellID⟩⟩ = container.guid ∧
    (∀ op ∈ recordOperations ⟨lrp.key, ⟨instanceGuid, C.cellID⟩⟩, op.key = container.guid ∧
      ∀ t, (op.execute C).Trace t () → ∃ r t', t = ⟨.getContainer container.guid, r⟩ :: t') ∧
    (∀ t status, (Handlers.stopLRPInstance lrp.key.processGuid instanceGuid).Trace t status →
      ∃ r, t = [⟨.stopContainer container.guid, r⟩]) ∧
    ∀ s t batch cs, (batchOperations C s).Trace t (.ok batch) →
      (⟨.listContainers, .ok cs⟩ : RepEvent) ∈ t → container ∈ cs →
      batch.lookup container.guid = some (.container container.guid) ∧
        ∀ guid op, batch.lookup guid = some op → op.key = container.guid →
          op = .container container.guid := by
  have hik := hvalidInstance ⟨instanceGuid, C.cellID⟩ hguid hcell
  -- everything below goes by the two keys the container decodes to
  have hdecode := halloc.decode hkey hik
  have hrecord : recordGuid ⟨lrp.key, ⟨instanceGuid, C.cellID⟩⟩ = container.guid :=
    halloc.guid.symm
  refine ⟨halloc.key hkey, halloc.instanceKey hik, ?_, hrecord, ?_, ?_, ?_⟩
  · rintro t (ht | ht) e he
    · exact carries_of_lrpCall hdecode (ordinary_process_only.of_trace ht e he)
    · exact carries_of_lrpCall hdecode (evacuation_process_only.of_trace ht e he)
  · intro op hop
    have hop' := recordOperations_guid (C := C) hop
    rwa [hrecord] at hop'
  · intro t status ht
    have hstop := trace_stopLRPInstance (hvalidKey lrp.key hkey) hguid ht
    rwa [show lrpContainerGuid lrp.key.processGuid instanceGuid = container.guid from hrecord]
      at hstop
  · intro s t batch cs ht hcs hmem
    exact batch_of_listed ht hcs hmem

/-- The trip of one LRP through the sample cell: its key is read back, and the record's guid
is the container's. -/
theorem sampleReserved_identity_survives :
    actualLRPKeyFromTags Cell.sample.ext sampleReserved.tags = .ok ⟨"process", 3, "domain"⟩ ∧
    recordGuid ⟨⟨"process", 3, "domain"⟩, ⟨"guid", "cell"⟩⟩ = sampleReserved.guid := by
  have h := lrp_identity_survives Cell.sample sampleLRP "guid" "" sampleReserved ⟨rfl, rfl⟩
    (by decide) (by decide) (by decide) ?_ ?_
  · exact ⟨h.1, h.2.2.2.1⟩
  · intro key hkey hempty
    simp only [Cell.sample, External.sample, hempty, if_pos, reduceCtorEq] at hkey
  · intro key hguid hcell
    simp only [Cell.sample, External.sample, if_neg hguid, if_neg hcell]

/-! ## Its identifier

In the auction an LRP goes by one string, its process guid and its index with a dot between
them. Process guids may contain dots; a numeral does not. -/

/-- What is joined at its last dot is joined in one way. If the parts had different lengths,
one of the tails would contain the dot of the other text. -/
theorem dotted_inj {cs cs' ds ds' : List Char} (hd : '.' ∉ ds) (hd' : '.' ∉ ds')
    (h : cs ++ '.' :: ds = cs' ++ '.' :: ds') : cs = cs' ∧ ds = ds' := by
  rcases List.append_eq_append_iff.mp h with ⟨as, rfl, has⟩ | ⟨as, rfl, has⟩
  · rcases as with _ | ⟨a, as⟩
    · exact ⟨(List.append_nil _).symm, (List.cons.inj has).2⟩
    · exact absurd ((List.cons.inj has).2 ▸ List.mem_append_right as (List.mem_cons_self ..)) hd
  · rcases as with _ | ⟨a, as⟩
    · exact ⟨List.append_nil _, (List.cons.inj has).2.symm⟩
    · exact absurd ((List.cons.inj has).2 ▸ List.mem_append_right as (List.mem_cons_self ..)) hd'

/-- **The identifier of an LRP says which one it is**, also if dots occur in its process
guid. -/
theorem identifier_identifies (lrp lrp' : LRP) : lrp.identifier = lrp'.identifier ↔
    lrp.key.processGuid = lrp'.key.processGuid ∧ lrp.key.index = lrp'.key.index := by
  refine ⟨?_, ?_⟩
  · intro h
    -- the dot before the index is the last one
    have hdot : ∀ n : ℤ, '.' ∉ (toString n).toList := by
      intro n hmem
      have hchar := Strconv.numeral?_chars (Strconv.numeral?_toString n) '.' hmem
      revert hchar
      decide
    have htext : ∀ lrp : LRP, lrp.identifier.toList =
        lrp.key.processGuid.toList ++ '.' :: (toString lrp.key.index.toInt).toList := by
      intro lrp
      rw [LRP.identifier, String.toList_append, String.toList_append, List.append_assoc]
      rfl
    have hlists := congrArg String.toList h
    rw [htext, htext] at hlists
    obtain ⟨hguid, hindex⟩ := dotted_inj (hdot _) (hdot _) hlists
    exact ⟨String.toList_inj.mp hguid,
      Int32.toInt_inj.mp (Strconv.toString_inj (String.toList_inj.mp hindex))⟩
  · rintro ⟨hguid, hindex⟩
    rw [LRP.identifier, LRP.identifier, hguid, hindex]

end CellRep
