import CellRep.Conversion
import Mathlib.Algebra.GroupWithZero.Nat

/-!
# What narrowing loses

Two numbers pass through a narrower type on their way through the rep. The index of an instance
is parsed at 64 bits and narrowed to 32 before the key is validated, so the
check sees the narrowed number only. The ports of a process come at 32 bits, go to the
executor at 16, and are widened again when they are reported.

For both this is the exact condition under which nothing is lost. An index is read as it
is written unless it is out of range and its low 32 bits are not; a port is reported as
it was asked for exactly if it has 16 bits.
-/

namespace CellRep

open Models (ActualLRPKey ActualLRPInstanceKey ActualLRPNetInfo)
open Executor (Tags Container RunRequest)

/-! ## The index of an instance

The range of an index is that of a non-negative 32-bit number. An index of 64 bits can miss
this range and hit it again after narrowing; these are the ones the code takes for another. -/

/-- The integer the index tag stands for, if it is a numeral at all. It may be one of any
size. -/
def indexValue (tags : Tags) : Option ℤ :=
  Strconv.numeral? (tags.get processIndexTag).toList

/-- What `ActualLRPKey.Validate` checks: a process, a domain, and an index that is not
negative. The check is made on the narrowed index. -/
def ValidatesKeys (x : External) : Prop :=
  ∀ key : ActualLRPKey, x.validateKey key = none ↔
    key.processGuid ≠ "" ∧ 0 ≤ key.index ∧ key.domain ≠ ""

/-- The tags are decoded faithfully: a key that is returned says what they say, and an
index that no key can carry is rejected. -/
structure DecodedFaithfully (x : External) (tags : Tags) : Prop where
  index : ∀ key, actualLRPKeyFromTags x tags = .ok key → indexValue tags = some key.index.toInt
  processGuid : ∀ key, actualLRPKeyFromTags x tags = .ok key →
    key.processGuid = tags.get processGuidTag
  domain : ∀ key, actualLRPKeyFromTags x tags = .ok key → key.domain = tags.get domainTag
  valid : ∀ key, actualLRPKeyFromTags x tags = .ok key → x.validateKey key = none
  rejected : ∀ value, indexValue tags = some value → value < 0 ∨ 2 ^ 31 ≤ value →
    ∃ err, actualLRPKeyFromTags x tags = .error err

/-- With a process and a domain, a 64-bit index outside the range of an index that is
inside of it modulo `2 ^ 32`. -/
def WrapsIntoRange (tags : Tags) : Prop :=
  tags.get processGuidTag ≠ "" ∧ tags.get domainTag ≠ "" ∧
    ∃ processIndex : Int64, indexValue tags = some processIndex.toInt ∧
      processIndex.toInt % 2 ^ 32 < 2 ^ 31 ∧
      (processIndex.toInt < 0 ∨ 2 ^ 31 ≤ processIndex.toInt)

/-! ### Narrowing to 32 bits

Two facts of arithmetic about the conversion, and what they say of decoded keys. -/

/-- A narrowed index passes for one when its low 32 bits do. -/
theorem toInt32_nonneg_iff {n : Int64} : 0 ≤ n.toInt32 ↔ n.toInt % 2 ^ 32 < 2 ^ 31 := by
  rw [Int32.le_iff_toInt_le, Int64.toInt_toInt32, Int32.toInt_zero, Int.bmod_def]
  split
  · omega
  · omega

/-- A narrowed index that passes is what the low 32 bits say, read without a sign. -/
theorem toInt_toInt32_of_nonneg {n : Int64} (h : 0 ≤ n.toInt32) :
    n.toInt32.toInt = n.toInt % 2 ^ 32 := by
  have hlow := toInt32_nonneg_iff.mp h
  rw [Int64.toInt_toInt32, Int.bmod_def, if_pos (by omega)]
  rfl

/-- A key comes from an index whose low 32 bits it carries, and from tags with a process and a
domain. -/
theorem index_of_actualLRPKeyFromTags {x : External} (hx : ValidatesKeys x) {tags : Tags}
    {key : ActualLRPKey} (h : actualLRPKeyFromTags x tags = .ok key) :
    ∃ processIndex : Int64, indexValue tags = some processIndex.toInt ∧
      processIndex.toInt % 2 ^ 32 < 2 ^ 31 ∧ key.index.toInt = processIndex.toInt % 2 ^ 32 ∧
      tags.get processGuidTag ≠ "" ∧ tags.get domainTag ≠ "" := by
  obtain ⟨processIndex, hparse, rfl, hvalid⟩ := actualLRPKeyFromTags_eq_ok.mp h
  obtain ⟨hguid, hindex, hdomain⟩ := (hx _).mp hvalid
  exact ⟨processIndex, Strconv.atoi_eq_some.mp hparse, toInt32_nonneg_iff.mp hindex,
    toInt_toInt32_of_nonneg hindex, hguid, hdomain⟩

/-- Without wrapping, the key carries the index itself: inside the range the low 32 bits are
all of it. -/
theorem indexValue_of_not_wraps {x : External} (hx : ValidatesKeys x) {tags : Tags}
    (hwraps : ¬ WrapsIntoRange tags) {key : ActualLRPKey}
    (h : actualLRPKeyFromTags x tags = .ok key) : indexValue tags = some key.index.toInt := by
  obtain ⟨processIndex, hvalue, hlow, hkey, hguid, hdomain⟩ := index_of_actualLRPKeyFromTags hx h
  have hrange : ¬ (processIndex.toInt < 0 ∨ 2 ^ 31 ≤ processIndex.toInt) := fun hout =>
    hwraps ⟨hguid, hdomain, processIndex, hvalue, hlow, hout⟩
  rw [hvalue, hkey, Int.emod_eq_of_lt (by omega) (by omega)]

/-- An index that wraps into range is accepted for what it wraps to, since nothing else is
checked. -/
theorem exists_key_of_wraps {x : External} (hx : ValidatesKeys x) {tags : Tags}
    (hwraps : WrapsIntoRange tags) : ∃ key, actualLRPKeyFromTags x tags = .ok key := by
  obtain ⟨hguid, hdomain, processIndex, hvalue, hlow, -⟩ := hwraps
  refine ⟨⟨tags.get processGuidTag, processIndex.toInt32, tags.get domainTag⟩, ?_⟩
  refine actualLRPKeyFromTags_eq_ok.mpr ⟨processIndex, Strconv.atoi_eq_some.mpr hvalue, rfl, ?_⟩
  exact (hx _).mpr ⟨hguid, toInt32_nonneg_iff.mpr hlow, hdomain⟩

/-- **Tags are decoded faithfully exactly if their index does not wrap into range**, and
among tags that do not, a key stands for one index only. -/
theorem decoded_faithfully_iff (x : External) (hx : ValidatesKeys x) :
    (∀ tags, DecodedFaithfully x tags ↔ ¬ WrapsIntoRange tags) ∧
    ∀ tags tags' key, ¬ WrapsIntoRange tags → ¬ WrapsIntoRange tags' →
      actualLRPKeyFromTags x tags = .ok key → actualLRPKeyFromTags x tags' = .ok key →
        indexValue tags = indexValue tags' := by
  refine ⟨?_, ?_⟩
  · intro tags
    refine ⟨?_, ?_⟩
    · intro h hwraps
      obtain ⟨key, hkey⟩ := exists_key_of_wraps hx hwraps
      obtain ⟨-, -, processIndex, hvalue, -, hout⟩ := hwraps
      obtain ⟨err, herr⟩ := h.rejected _ hvalue hout
      rw [hkey] at herr
      cases herr
    · intro hwraps
      have hindex : ∀ key, actualLRPKeyFromTags x tags = .ok key →
          indexValue tags = some key.index.toInt := fun key hkey =>
        indexValue_of_not_wraps hx hwraps hkey
      refine ⟨hindex, ?_, ?_, ?_, ?_⟩
      · intro key hkey
        obtain ⟨_, -, rfl, -⟩ := actualLRPKeyFromTags_eq_ok.mp hkey
        rfl
      · intro key hkey
        obtain ⟨_, -, rfl, -⟩ := actualLRPKeyFromTags_eq_ok.mp hkey
        rfl
      · intro key hkey
        obtain ⟨_, -, -, hvalid⟩ := actualLRPKeyFromTags_eq_ok.mp hkey
        exact hvalid
      · intro value hvalue hout
        cases hres : actualLRPKeyFromTags x tags with
        | error err => exact ⟨err, rfl⟩
        | ok key =>
          -- an index that was accepted is one a key can carry
          obtain ⟨processIndex, hvalue', hlow, hkey, -⟩ := index_of_actualLRPKeyFromTags hx hres
          have hsame := hindex key hres
          rw [hvalue] at hsame hvalue'
          have hvalue₁ := Option.some.inj hsame
          have hvalue₂ := Option.some.inj hvalue'
          omega
  · intro tags tags' key hwraps hwraps' hkey hkey'
    rw [indexValue_of_not_wraps hx hwraps hkey, indexValue_of_not_wraps hx hwraps' hkey']

/-- Complete tags with this index. -/
def indexTags (index : String) : Tags :=
  some ((((∅ : GoMap String String).insert domainTag "domain").insert
    processGuidTag "process").insert processIndexTag index)

/-- The stand-in for the validation checks just these. -/
theorem validatesKeys_sample : ValidatesKeys External.sample := by
  intro key
  simp only [External.sample]
  rw [← Int32.not_lt]
  split
  · simp [*]
  · split
    · simp [*]
    · split
      · simp [*]
      · simp [*]

/-- The largest index there is comes back as it is. -/
theorem largestIndex_decoded_faithfully :
    actualLRPKeyFromTags External.sample (indexTags "2147483647") =
      .ok ⟨"process", 2147483647, "domain"⟩ ∧
    DecodedFaithfully External.sample (indexTags "2147483647") := by
  refine ⟨by decide, ?_⟩
  refine ((decoded_faithfully_iff External.sample validatesKeys_sample).1 _).mpr ?_
  rintro ⟨-, -, processIndex, hvalue, -, hout⟩
  have hsome : some (2147483647 : ℤ) = some processIndex.toInt := hvalue
  have hindex := Option.some.inj hsome
  omega

/-- `2 ^ 32` is taken for 0: it is accepted, for a key that says something else, and for
the key of another instance. -/
theorem wrappedIndex_taken_for_zero :
    actualLRPKeyFromTags External.sample (indexTags "4294967296") =
      .ok ⟨"process", 0, "domain"⟩ ∧
    actualLRPKeyFromTags External.sample (indexTags "0") = .ok ⟨"process", 0, "domain"⟩ ∧
    indexValue (indexTags "4294967296") = some 4294967296 ∧
    ¬ DecodedFaithfully External.sample (indexTags "4294967296") := by
  have hkey : actualLRPKeyFromTags External.sample (indexTags "4294967296") =
      .ok ⟨"process", 0, "domain"⟩ := by decide
  have hvalue : indexValue (indexTags "4294967296") = some 4294967296 := by decide
  refine ⟨hkey, by decide, hvalue, ?_⟩
  intro h
  have hindex := h.index _ hkey
  rw [hvalue] at hindex
  cases hindex

/-! ## Ports

The executor's ports have 16 bits, those of the BBS 32. A port is narrowed when it is asked
for and widened when it is reported; the host ports are the executor's own and only widened. -/

/-- The mappings with their host ports filled in, as the executor does it for a container that
runs. -/
def fillHostPorts (ports : List Executor.PortMapping) (hostPorts : List UInt16) :
    List Executor.PortMapping :=
  List.zipWith (fun portMapping hostPort => { portMapping with hostPort := hostPort })
    ports hostPorts

/-- The net info reports these ports, in this order, each with its host port. -/
structure ReportsPorts (netInfo : ActualLRPNetInfo) (ports : List UInt32)
    (hostPorts : List UInt16) : Prop where
  containerPorts : netInfo.ports.map Models.PortMapping.containerPort = ports
  hostPorts : netInfo.ports.map Models.PortMapping.hostPort = hostPorts.map UInt16.toUInt32

/-- A port comes back through 16 bits exactly if it has no more. -/
theorem toUInt32_toUInt16_eq_self {port : UInt32} :
    port.toUInt16.toUInt32 = port ↔ port.toNat < 2 ^ 16 := by
  rw [UInt32.toUInt32_toUInt16, ← UInt32.toNat_inj, UInt32.toNat_mod]
  refine ⟨?_, Nat.mod_eq_of_lt⟩
  intro h
  rw [← h]
  exact Nat.mod_lt _ (by decide)

/-- Filling in host ports changes nothing else, when there is one for each mapping. -/
theorem containerPort_fillHostPorts {ports : List Executor.PortMapping} :
    ∀ {hostPorts : List UInt16}, hostPorts.length = ports.length →
      (fillHostPorts ports hostPorts).map Executor.PortMapping.containerPort =
        ports.map Executor.PortMapping.containerPort ∧
      (fillHostPorts ports hostPorts).map Executor.PortMapping.hostPort = hostPorts := by
  induction ports with
  | nil =>
    intro hostPorts hlen
    rw [List.length_eq_zero_iff.mp hlen]
    exact ⟨rfl, rfl⟩
  | cons portMapping ports ih =>
    intro hostPorts hlen
    cases hostPorts with
    | nil => cases hlen
    | cons hostPort hostPorts =>
      obtain ⟨hcontainer, hhost⟩ := ih (Nat.succ.inj hlen)
      exact ⟨congrArg (portMapping.containerPort :: ·) hcontainer, congrArg (hostPort :: ·) hhost⟩

/-- **The ports asked for are the ports reported exactly if they all have 16 bits.** The
host ports are each reported with their port in any case. -/
theorem reports_ports_iff (x : External) (containerGuid : String) (desiredLRP : Models.DesiredLRP)
    (lrpKey : ActualLRPKey) (lrpInstanceKey : ActualLRPInstanceKey) (req : RunRequest)
    (hreq : newRunRequestFromDesiredLRP x containerGuid desiredLRP lrpKey lrpInstanceKey = .ok req)
    (hostPorts : List UInt16) (hlen : hostPorts.length = req.runInfo.ports.length)
    (container : Container) (hports : container.ports = fillHostPorts req.runInfo.ports hostPorts)
    (netInfo : ActualLRPNetInfo)
    (hnetInfo : actualLRPNetInfoFromContainer x container = .ok netInfo) :
    ReportsPorts netInfo desiredLRP.ports hostPorts ↔
      ∀ port ∈ desiredLRP.ports, port.toNat < 2 ^ 16 := by
  obtain ⟨-, hrequested⟩ := guid_ports_of_newRunRequestFromDesiredLRP hreq
  obtain ⟨hcontainer, hhost⟩ := containerPort_fillHostPorts hlen
  rw [← hports] at hcontainer hhost
  obtain rfl := eq_of_actualLRPNetInfoFromContainer hnetInfo
  -- what is reported: each port, narrowed and widened again
  have hreported : (container.ports.map fun portMapping =>
      (⟨portMapping.containerPort.toUInt32, portMapping.hostPort.toUInt32⟩ :
        Models.PortMapping)).map Models.PortMapping.containerPort =
        desiredLRP.ports.map fun port => port.toUInt16.toUInt32 := by
    have hwiden := congrArg (List.map UInt16.toUInt32) hcontainer
    rw [hrequested, convertPortMappings, List.map_map, List.map_map, List.map_map] at hwiden
    rw [List.map_map]
    exact hwiden
  have hself : (desiredLRP.ports.map fun port => port.toUInt16.toUInt32) = desiredLRP.ports ↔
      ∀ port ∈ desiredLRP.ports, port.toNat < 2 ^ 16 := by
    have hinj := List.map_inj_left (l := desiredLRP.ports)
      (f := fun port => port.toUInt16.toUInt32) (g := id)
    rw [List.map_id] at hinj
    rw [hinj]
    exact forall₂_congr fun port _ => toUInt32_toUInt16_eq_self
  rw [← hself, ← hreported]
  refine ⟨fun h => h.containerPorts, ?_⟩
  intro hsame
  refine ⟨hsame, ?_⟩
  rw [← hhost, List.map_map, List.map_map]
  rfl

/-! ### Two processes

One port at the end of the range, and one beyond it that is taken for a small one. -/

/-- A process with two ports, of which the second is given. -/
def sampleDesired (port : UInt32) : Models.DesiredLRP where
  processGuid := "process"
  rootFs := "preloaded:linux"
  volumeMounts := []
  cpuWeight := 1
  ports := [8080, port]
  logGuid := ""
  logSource := ""
  metricsGuid := ""
  startTimeoutMs := 0
  privileged := false
  cachedDependencies := []
  setup := none
  action := none
  monitor := none
  checkDefinition := none
  egressRules := []
  environmentVariables := []
  trustedSystemCertificatesPath := ""
  network := none
  certificateProperties := none
  imageUsername := ""
  imagePassword := ""

/-- The request the rep makes for it. -/
def sampleRequest (port : UInt32) : Except Err RunRequest :=
  newRunRequestFromDesiredLRP External.sample "guid" (sampleDesired port) ⟨"process", 0, "domain"⟩
    ⟨"guid", "cell"⟩

/-- A container with such ports behind two host ports. -/
def samplePorts (port : UInt16) : Container :=
  ⟨"guid", ⟨0, 0, 0, ""⟩, none, .running, fillHostPorts [⟨8080, 0⟩, ⟨port, 0⟩] [61001, 61002],
    "10.0.0.1", "172.16.0.2", ⟨false, "", false⟩⟩

/-- Ports up to the largest one are reported. -/
theorem largestPort_reported :
    ∃ netInfo, actualLRPNetInfoFromContainer External.sample (samplePorts 65535) = .ok netInfo ∧
      ReportsPorts netInfo [8080, 65535] [61001, 61002] := by
  obtain ⟨req, hreq, hrequested⟩ : ∃ req, sampleRequest 65535 = .ok req ∧
      req.runInfo.ports = [⟨8080, 0⟩, ⟨65535, 0⟩] := ⟨_, rfl, by decide⟩
  refine ⟨⟨"10.0.0.1", "172.16.0.2", [⟨8080, 61001⟩, ⟨65535, 61002⟩]⟩, by decide, ?_⟩
  refine (reports_ports_iff External.sample "guid" (sampleDesired 65535) _ _ req hreq
    [61001, 61002] (by rw [hrequested]; rfl) (samplePorts 65535) (by rw [hrequested]; rfl) _
    (by decide)).mpr ?_
  intro port hport
  rcases List.mem_pair.mp hport with rfl | rfl
  · simp
  · simp

/-- The port 65616 is asked for as the port 80, and port 80 is what is reported. -/
theorem largePort_reported_as_small :
    (∃ req, sampleRequest 65616 = .ok req ∧
      (samplePorts 80).ports = fillHostPorts req.runInfo.ports [61001, 61002]) ∧
    actualLRPNetInfoFromContainer External.sample (samplePorts 80) =
      .ok ⟨"10.0.0.1", "172.16.0.2", [⟨8080, 61001⟩, ⟨80, 61002⟩]⟩ ∧
    ¬ ReportsPorts ⟨"10.0.0.1", "172.16.0.2", [⟨8080, 61001⟩, ⟨80, 61002⟩]⟩
      (sampleDesired 65616).ports [61001, 61002] := by
  refine ⟨⟨_, rfl, by decide⟩, by decide, ?_⟩
  intro h
  exact absurd h.containerPorts (by decide)

end CellRep
