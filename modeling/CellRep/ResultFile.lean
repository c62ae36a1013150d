import CellRep.Delegate

/-!
# Reading a task's result

`FetchContainerResultFile` reads the first entry of a tar stream with one call of
`Read`, into a buffer one byte larger than a result may be. A reader promises less than
that use of it needs: it may hand over fewer bytes than asked for, and when it fails it
says so in an error, which the function only logs. The stream is a world of its own
here, an entry and how far it has been read, and `fetch_whole_or_nothing_iff` is the
exact condition under which one read is enough.
-/

namespace CellRep

/-! ## Streams

The interface of a Go reader is written down as it is documented: how many bytes come back is
up to the reader, within bounds, and an error comes with the last of them or after. -/

/-- The first entry of a stream: its bytes and, when reading it breaks off, the offset where.
An offset at the very end would be no failure, so it is one inside the entry. -/
structure Entry where
  content : List UInt8
  failsAt : Option (Fin content.length)

/-- The bytes that can be read, which is all of them unless the stream breaks off. -/
def Entry.readable (e : Entry) : List UInt8 :=
  match e.failsAt with
  | none => e.content
  | some offset => e.content.take offset

/-- What is readable of an entry is where the entry begins. -/
theorem Entry.readable_prefix (e : Entry) : e.readable <+: e.content := by
  unfold Entry.readable
  split
  · exact List.prefix_refl _
  · exact List.take_prefix _ _

/-- A stream that breaks off withholds something, if only the last byte. -/
theorem Entry.length_readable_lt {e : Entry} (h : e.failsAt ≠ none) :
    e.readable.length < e.content.length := by
  unfold Entry.readable
  split
  · exact absurd ‹_› h
  · rename_i offset _
    rw [List.length_take]
    exact lt_of_le_of_lt (Nat.min_le_left ..) offset.isLt

/-- What a read of `size` bytes may answer at an offset: some of the bytes that come
next, and no error before there are no more. -/
structure ReadReply (e : Entry) (offset size : ℕ) (buf : List UInt8) (err : Option Err) :
    Prop where
  next : buf <+: e.readable.drop offset
  fits : buf.length ≤ size
  err_at_end : err ≠ none → offset + buf.length = e.readable.length

/-- A stream answers: the file is there, its first entry is `e`, and reads move along
it. The world is the offset. -/
def streamAnswer (e : Entry) (offset : ℕ) (c : Call) (r : Reply c) (offset' : ℕ) : Prop :=
  match c, r with
  | .getFiles _ _, r => r = none ∧ offset' = offset
  | .tarNext, r => r = none ∧ offset' = 0
  | .tarRead size, r => ReadReply e offset size r.1 r.2 ∧ offset' = offset + r.1.length
  | _, _ => False

/-! ## Whole or nothing

The specification of a fetch comes first, in terms of the entry alone; the condition under
which the code meets it is in terms of the one read that was made. -/

/-- What is to come of fetching the entry: all of it, or the error for large files, or some
error if the stream breaks off, and in no case a part of it. -/
structure WholeOrNothing (e : Entry) (res : Except Err (List UInt8)) : Prop where
  whole : e.failsAt = none → e.content.length ≤ maxResultSize → res = .ok e.content
  tooLarge : e.failsAt = none → maxResultSize < e.content.length →
    res = .error errResultFileTooLarge
  broken : e.failsAt ≠ none → ∃ err, res = .error err
  no_proper_prefix : ∀ buf, res = .ok buf → buf = e.content

/-- What the function makes of the bytes it got. The error of the read is not an argument,
because the function only logs it. -/
def resultOf (buf : List UInt8) : Except Err (List UInt8) :=
  if buf.length > maxResultSize then .error errResultFileTooLarge else .ok buf

/-- Fetching is one read, whatever it returns; there is no loop around it. -/
theorem exec_fetchContainerResultFile {e : Entry} {guid filename : String} {offset offset' : ℕ}
    {t : List RepEvent} {res : Except Err (List UInt8)}
    (h : Prog.Exec (streamAnswer e) (Delegate.fetchContainerResultFile guid filename) offset t res
      offset') :
    ∃ buf err, ReadReply e 0 (maxResultSize + 1) buf err ∧ res = resultOf buf ∧
      t = [⟨.getFiles guid filename, none⟩, ⟨.tarNext, none⟩,
        ⟨.tarRead (maxResultSize + 1), (buf, err)⟩] := by
  simp only [Delegate.fetchContainerResultFile, Client.getFiles, Client.tarNext, Client.tarRead,
    Prog.call_bind, Prog.ret_bind] at h
  obtain ⟨r₁, w₁, t₁, rfl, ⟨rfl, rfl⟩, h₁⟩ := Prog.exec_call.mp h
  obtain ⟨r₂, w₂, t₂, rfl, ⟨rfl, rfl⟩, h₂⟩ := Prog.exec_call.mp h₁
  obtain ⟨⟨buf, err⟩, w₃, t₃, rfl, ⟨hread, rfl⟩, hrest⟩ := Prog.exec_call.mp h₂
  refine ⟨buf, err, hread, ?_⟩
  unfold resultOf
  by_cases hlen : buf.length > maxResultSize
  · rw [if_pos hlen] at hrest ⊢
    obtain ⟨rfl, rfl, -⟩ := Prog.exec_ret.mp hrest
    exact ⟨rfl, rfl⟩
  · rw [if_neg hlen] at hrest ⊢
    obtain ⟨rfl, rfl, -⟩ := Prog.exec_ret.mp hrest
    exact ⟨rfl, rfl⟩

/-- One read that comes back full, or with the whole entry, is enough. If the stream breaks
off, a full read means that the buffer was filled before, so the file is too large anyway. -/
theorem wholeOrNothing_of_full {e : Entry} {buf : List UInt8} {err : Option Err}
    (hread : ReadReply e 0 (maxResultSize + 1) buf err)
    (hfull : buf.length = min e.content.length (maxResultSize + 1)) :
    WholeOrNothing e (resultOf buf) := by
  have hstarts : buf <+: e.content := hread.next.trans e.readable_prefix
  have hle : buf.length ≤ e.readable.length := hread.next.length_le
  unfold resultOf
  refine ⟨?_, ?_, ?_, ?_⟩
  · intro _ hsmall
    rw [if_neg (by omega), hstarts.eq_of_length (by omega)]
  · intro _ hlarge
    rw [if_pos (by omega)]
  · intro hfails
    have hlt := Entry.length_readable_lt hfails
    rw [if_pos (by omega)]
    exact ⟨_, rfl⟩
  · intro buf' hok
    by_cases hlen : buf.length > maxResultSize
    · rw [if_pos hlen] at hok
      cases hok
    · rw [if_neg hlen] at hok
      obtain rfl := Except.ok.inj hok
      exact hstarts.eq_of_length (by omega)

/-- A read that comes back short is taken for the whole, which it is not. -/
theorem full_of_wholeOrNothing {e : Entry} {buf : List UInt8} {err : Option Err}
    (hread : ReadReply e 0 (maxResultSize + 1) buf err) (h : WholeOrNothing e (resultOf buf)) :
    buf.length = min e.content.length (maxResultSize + 1) := by
  have hle : buf.length ≤ e.content.length := (hread.next.trans e.readable_prefix).length_le
  have hfits := hread.fits
  by_cases hlen : buf.length > maxResultSize
  · omega
  · have hwhole := h.no_proper_prefix buf (by rw [resultOf, if_neg hlen])
    rw [hwhole] at hlen ⊢
    omega

/-- **A result is returned whole or not at all exactly when the one read comes back
full**: with as many bytes as the entry has, or as the buffer takes. -/
theorem fetch_whole_or_nothing_iff (e : Entry) (guid filename : String) (offset offset' : ℕ)
    (t : List RepEvent) (res : Except Err (List UInt8))
    (h : Prog.Exec (streamAnswer e) (Delegate.fetchContainerResultFile guid filename) offset t res
      offset') :
    WholeOrNothing e res ↔ ∀ buf err,
      (⟨.tarRead (maxResultSize + 1), (buf, err)⟩ : RepEvent) ∈ t →
        buf.length = min e.content.length (maxResultSize + 1) := by
  obtain ⟨buf, err, hread, rfl, rfl⟩ := exec_fetchContainerResultFile h
  refine ⟨?_, ?_⟩
  · intro hwhole buf' err' hmem
    obtain ⟨rfl, rfl⟩ : buf' = buf ∧ err' = err := by simpa using hmem
    exact full_of_wholeOrNothing hread hwhole
  · intro hfull
    exact wholeOrNothing_of_full hread (hfull buf err (by simp))

/-! ### Short reads

The same result read at once, and from a stream that breaks off. -/

/-- A result of two bytes that can be read to its end. -/
def sampleEntry : Entry := ⟨[111, 107], none⟩

/-- The same result from a stream that breaks off after the first byte. -/
def sampleBroken : Entry := ⟨[111, 107], some 1⟩

/-- A fetch whose read answers with these bytes. -/
def sampleFetch (buf : List UInt8) (err : Option Err) : List RepEvent :=
  [⟨.getFiles "task" "/result", none⟩, ⟨.tarNext, none⟩,
    ⟨.tarRead (maxResultSize + 1), (buf, err)⟩]

/-- An allowed reply makes an execution, as long as it is not too large. -/
theorem exec_sampleFetch {e : Entry} {buf : List UInt8} {err : Option Err}
    (hread : ReadReply e 0 (maxResultSize + 1) buf err) (hlen : ¬ buf.length > maxResultSize) :
    Prog.Exec (streamAnswer e) (Delegate.fetchContainerResultFile "task" "/result") 0
      (sampleFetch buf err) (.ok buf) (0 + buf.length) := by
  refine .call ⟨rfl, rfl⟩ (.call ⟨rfl, rfl⟩ (.call ⟨hread, rfl⟩ ?_))
  dsimp only [Prog.bind]
  rw [if_neg hlen]
  exact .ret _ _

/-- A reader that hands over one byte at a time, and one that fails after the first
byte: both times the first byte alone is returned as the result. -/
theorem sampleFetch_truncates :
    (∃ t offset', Prog.Exec (streamAnswer sampleEntry)
      (Delegate.fetchContainerResultFile "task" "/result") 0 t (.ok [111]) offset') ∧
    ¬ WholeOrNothing sampleEntry (.ok [111]) ∧
    (∃ t offset', Prog.Exec (streamAnswer sampleBroken)
      (Delegate.fetchContainerResultFile "task" "/result") 0 t (.ok [111]) offset') ∧
    ¬ WholeOrNothing sampleBroken (.ok [111]) := by
  have hshort : ReadReply sampleEntry 0 (maxResultSize + 1) [111] none :=
    ⟨⟨[107], rfl⟩, by decide, fun h => absurd rfl h⟩
  have hbroken : ReadReply sampleBroken 0 (maxResultSize + 1) [111] (some (.text "broken pipe")) :=
    ⟨⟨[], rfl⟩, by decide, fun _ => rfl⟩
  refine ⟨⟨_, _, exec_sampleFetch hshort (by decide)⟩, ?_, ⟨_, _, exec_sampleFetch hbroken
    (by decide)⟩, ?_⟩
  · intro h
    exact absurd (h.no_proper_prefix [111] rfl) (by decide)
  · intro h
    exact absurd (h.no_proper_prefix [111] rfl) (by decide)

/-- A reader that hands over both bytes at once gives the whole result. -/
theorem sampleFetch_whole : WholeOrNothing sampleEntry (.ok [111, 107]) := by
  have hread : ReadReply sampleEntry 0 (maxResultSize + 1) [111, 107] none :=
    ⟨⟨[], rfl⟩, by decide, fun h => absurd rfl h⟩
  have hexec := exec_sampleFetch hread (by decide)
  refine (fetch_whole_or_nothing_iff sampleEntry "task" "/result" 0 _ _ _ hexec).mpr ?_
  intro buf err hmem
  obtain ⟨rfl, -⟩ : buf = [111, 107] ∧ err = none := by simpa [sampleFetch] using hmem
  decide

end CellRep
