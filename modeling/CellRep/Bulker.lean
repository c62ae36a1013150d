import CellRep.Batch
import CellRep.Journal

/-!
# The bulker

`Bulker.Run` (`harmonizer/bulker.go`) syncs whenever its timer fires. The notice of an
evacuation makes it sync at once and from then on at another interval; a signal ends it.

What it has done so far is summed up by an `Observed` state, and `Licence` says what that
state allows it to do next. Every call of every run is licensed, whatever the replies: the
timers, the reads of a sync, and what a sync may put on the queue.
-/

namespace CellRep

namespace Bulker

/-! ## Calls

A sync is the program of the module on batches, embedded as it is; the timer and the select
are calls beside it. -/

/-- The select of `Run`: what wakes it up. -/
inductive Wake : Type where
  | timer : Wake
  | notified : Wake
  | signalled : Wake
  deriving DecidableEq

/-- The calls of a sync, and those of `Run` itself. Intervals are in nanoseconds. -/
inductive Call : Type where
  | rep (c : CellRep.Call)
  | evacuateNotify
  | closeReady
  | newTimer (interval : Int64)
  /-- the select; a nil `evacuateNotify` is `false` -/
  | awaitWake (notify : Bool)
  | stopTimer
  | resetTimer (interval : Int64)
  /-- the loop is cut off -/
  | cut
  deriving DecidableEq

/-- What each call is answered with. A cut has no answer. -/
@[reducible] def Reply : Call → Type
  | .rep c => CellRep.Reply c
  | .awaitWake _ => Wake
  | .cut => Empty
  | _ => Unit

/-- The programs of the bulker, over the calls of the rep and its own. -/
abbrev BulkM : Type → Type := Prog Call Reply

/-- A program of the rep, run by the bulker. -/
def ofRep {α : Type} (p : RepM α) : BulkM α := Prog.embed Call.rep p

@[simp] def evacuateNotify : BulkM Unit := Prog.call .evacuateNotify Prog.ret

@[simp] def closeReady : BulkM Unit := Prog.call .closeReady Prog.ret

@[simp] def newTimer (interval : Int64) : BulkM Unit := Prog.call (.newTimer interval) Prog.ret

@[simp] def awaitWake (notify : Bool) : BulkM Wake := Prog.call (.awaitWake notify) Prog.ret

@[simp] def stopTimer : BulkM Unit := Prog.call .stopTimer Prog.ret

@[simp] def resetTimer (interval : Int64) : BulkM Unit := Prog.call (.resetTimer interval) Prog.ret

/-- Nothing comes after a cut: the loop has no bound of its own. -/
@[simp] def cut {α : Type} : BulkM α := Prog.call .cut nofun

/-! ## The code

The loop keeps two variables, the channel of the notice and the interval; the orders in which
a sync makes its reads and walks over its maps are parameters. -/

/-- The intervals of a `Bulker`, for ordinary times and for an evacuation. -/
structure Intervals where
  pollInterval : Int64
  evacuationPollInterval : Int64

/-- What `Run` keeps between rounds. The channel is set to nil once the notice was taken,
which is all that is ever done with it. -/
structure Round where
  /-- `evacuateNotify` is not nil -/
  notify : Bool
  interval : Int64
  /-- how many rounds there were, to find the schedule of the next sync -/
  number : ℕ

variable (b : Intervals) (C : Cell) (schedules : ℕ → Schedule)

/-- One round of `Run`. The deferred stop of the timer comes with the return. -/
def runRound (round : Round) : BulkM (Round ⊕ Unit) := do
  match ← awaitWake round.notify with
  | .timer =>
    ofRep (sync C (schedules round.number))
    resetTimer round.interval
    return .inl { round with number := round.number + 1 }
  | .notified =>
    stopTimer
    ofRep (sync C (schedules round.number))
    resetTimer b.evacuationPollInterval
    return .inl ⟨false, b.evacuationPollInterval, round.number + 1⟩
  | .signalled =>
    stopTimer
    return .inr ()

/-- `Bulker.Run`, its loop cut off after a number of rounds. -/
def run (fuel : ℕ) : BulkM Unit := do
  evacuateNotify
  closeReady
  newTimer b.pollInterval
  Prog.loop cut (runRound b C schedules) fuel ⟨true, b.pollInterval, 0⟩

/-! ## What the bulker may do

The specification is a monitor: a state that every answered call moves on, and the licence
that this state gives. Neither mentions the code or its variables. -/

/-- What has happened so far, as far as it matters to what may come next. -/
structure Observed where
  ready : Bool
  /-- the notice of an evacuation was taken -/
  noticed : Bool
  signalled : Bool
  /-- the reads that are due since the last wake-up -/
  pending : List Read
  /-- what was read since the last wake-up -/
  found : Found

/-- Nothing has happened: not ready, not noticed, not signalled, and nothing is due. -/
def Observed.initial : Observed := ⟨false, false, false, [], .empty⟩

/-- A wake-up makes every read due and forgets what was read. -/
def Observed.wake (o : Observed) : Observed := { o with pending := Read.all, found := .empty }

/-- What an answered call adds. Each read is ticked off when it is answered, also if the
answer is an error. -/
def Observed.next (o : Observed) : (c : Call) → Reply c → Observed
  | .closeReady, _ => { o with ready := true }
  | .awaitWake _, .timer => o.wake
  | .awaitWake _, .notified => { o.wake with noticed := true }
  | .awaitWake _, .signalled => { o with signalled := true }
  | .rep .listContainers, reply =>
    { o with pending := o.pending.erase .containers, found := { o.found with containers := reply } }
  | .rep (.actualLRPGroups _), reply =>
    { o with pending := o.pending.erase .lrps, found := { o.found with groups := reply } }
  | .rep (.tasksByCellID _), reply =>
    { o with pending := o.pending.erase .tasks, found := { o.found with tasks := reply } }
  | _, _ => o

/-- The interval that holds: the one for evacuations from the notice on. -/
def Intervals.current (noticed : Bool) : Int64 :=
  if noticed then b.evacuationPollInterval else b.pollInterval

/-- What may come next. An operation is queued only after all three reads were answered, and
only with an origin in what they have found. -/
def Licence (o : Observed) : Call → Prop
  | .closeReady => o.ready = false
  | .newTimer interval => interval = b.pollInterval ∧ o.noticed = false
  | .awaitWake notify =>
    o.ready = true ∧ o.signalled = false ∧ o.pending = [] ∧ notify = !o.noticed
  | .rep .listContainers => o.signalled = false ∧ .containers ∈ o.pending
  | .rep (.actualLRPGroups cellID) => o.signalled = false ∧ .lrps ∈ o.pending ∧ cellID = C.cellID
  | .rep (.tasksByCellID cellID) => o.signalled = false ∧ .tasks ∈ o.pending ∧ cellID = C.cellID
  | .rep (.push op) => o.signalled = false ∧ o.pending = [] ∧
      ∃ cs gs ts guid, o.found = ⟨.ok cs, .ok gs, .ok ts⟩ ∧ Origin cs gs ts guid op
  | .rep _ => False
  | .resetTimer interval => o.signalled = false ∧ o.pending = [] ∧ interval = b.current o.noticed
  | .stopTimer => o.signalled = true ∨ o.noticed = true ∧ o.pending = Read.all
  | _ => True

/-- A nil channel is never received from. This is the one thing assumed about the select. -/
def Possible : Event Call Reply → Prop
  | ⟨.awaitWake notify, .notified⟩ => notify = true
  | _ => True

/-- The licences as a ghost specification, whose ghost state is the monitor's. -/
def rhythm : Spec Call Reply Observed where
  pre := Licence b C
  ans _ c r := Possible ⟨c, r⟩
  next := Observed.next

/-- What a history amounts to: the state of the monitor after it. -/
def observe (t : List (Event Call Reply)) : Observed := (rhythm b C).after .initial t

/-! ## A sync

After a wake-up all three reads are due. A sync makes them in any order, and what it queues
has its origin in what they found. -/

variable {b C schedules}

/-- What the reads of a sync leave as it is. -/
def Observed.Same (o o' : Observed) : Prop :=
  o'.ready = o.ready ∧ o'.noticed = o.noticed ∧ o'.signalled = o.signalled

/-- The reads that are due are made, and what they find is known. The reads of the sync are a
permutation of those that are due, and both lists shrink together. -/
theorem wp_readAll (rs : List Read) : ∀ {found : Found} {o : Observed}, o.signalled = false →
    o.pending.Perm rs → o.found = found →
    (readAll C found rs).wp ((rhythm b C).comap .rep)
      (fun o' found' => o.Same o' ∧ o'.pending = [] ∧ o'.found = found') o := by
  induction rs with
  | nil =>
    intro found o hsignalled hpending hfound
    exact ⟨⟨rfl, rfl, rfl⟩, hpending.eq_nil, hfound⟩
  | cons r rs ih =>
    rintro _ o hsignalled hpending rfl
    have hmem : r ∈ o.pending := hpending.mem_iff.mpr (List.mem_cons_self ..)
    have hrest : (o.pending.erase r).Perm rs := by
      simpa using hpending.erase r
    cases r with
    | containers =>
      exact ⟨⟨hsignalled, hmem⟩, fun reply _ =>
        ih (o := o.next (.rep .listContainers) reply) hsignalled hrest rfl⟩
    | lrps =>
      exact ⟨⟨hsignalled, hmem, rfl⟩, fun reply _ =>
        ih (o := o.next (.rep (.actualLRPGroups C.cellID)) reply) hsignalled hrest rfl⟩
    | tasks =>
      exact ⟨⟨hsignalled, hmem, rfl⟩, fun reply _ =>
        ih (o := o.next (.rep (.tasksByCellID C.cellID)) reply) hsignalled hrest rfl⟩

/-- What is pushed changes nothing else, so each operation is licensed by the same state. -/
theorem wp_pushAll (ops : List Operation) {o : Observed}
    (hops : ∀ op ∈ ops, Licence b C o (.rep (.push op))) :
    (pushAll ops).wp ((rhythm b C).comap .rep) (fun o' _ => o' = o) o := by
  induction ops with
  | nil => rfl
  | cons op ops ih =>
    exact ⟨hops op (List.mem_cons_self ..), fun _ _ =>
      ih fun op' hop' => hops op' (List.mem_cons_of_mem _ hop')⟩

/-- **A sync** after a wake-up makes each read once and queues only what the reads of this
very sync give a reason for. -/
theorem wp_ofRep_sync (s : Schedule) {o : Observed} (hsignalled : o.signalled = false)
    (hpending : o.pending = Read.all) (hfound : o.found = .empty) :
    (ofRep (sync C s)).wp (rhythm b C) (fun o' _ => o.Same o' ∧ o'.pending = []) o := by
  refine Prog.wp_embed.mpr (Prog.wp_bind.mpr (Prog.wp_bind.mpr (Prog.wp_mono ?_
    (wp_readAll s.reads hsignalled (hpending ▸ s.reads_perm.symm) hfound))))
  rintro o' found ⟨hsame, hdone, hread⟩
  rcases hres : resolve C s found with err | batch
  · simpa [hres] using ⟨hsame, hdone⟩
  · obtain ⟨cs, gs, ts, rfl, rfl⟩ := ok_of_resolve hres
    simp only [Prog.pure_eq, Prog.wp_ret]
    refine Prog.wp_mono ?_ (wp_pushAll _ ?_)
    · rintro _ _ rfl
      exact ⟨hsame, hdone⟩
    · intro op hop
      obtain ⟨e, he, rfl⟩ := List.mem_map.mp hop
      have hlookup : (assemble s cs gs ts).lookup e.1 = some e.2 :=
        AList.mem_lookup_iff.mpr ((s.visitBatch _).perm.mem_iff.mp he)
      exact ⟨hsame.2.2.trans hsignalled, hdone, cs, gs, ts, e.1, hread, origin_of_lookup hlookup⟩

/-! ## The loop

The invariant of the loop compares the variables of `Run` with the state of the monitor. -/

section

variable (b)

/-- What `Run` keeps is what has happened: the channel is nil exactly after the notice, and
the interval is the current one. -/
def Waiting (round : Round) (o : Observed) : Prop :=
  o.ready = true ∧ o.signalled = false ∧ o.pending = [] ∧ round.notify = !o.noticed ∧
    round.interval = b.current o.noticed

end

/-- From a wake-up to the next wait: a sync and the timer. The two ways to be woken up differ
only in what is kept for the next round. -/
theorem wp_syncAndReset (s : Schedule) (round' : Round) {o : Observed} (hready : o.ready = true)
    (hsignalled : o.signalled = false) (hpending : o.pending = Read.all) (hfound : o.found = .empty)
    (hnotify : round'.notify = !o.noticed) (hinterval : round'.interval = b.current o.noticed) :
    (ofRep (sync C s) >>= fun _ => resetTimer round'.interval >>= fun _ =>
        (pure (.inl round') : BulkM (Round ⊕ Unit))).wp (rhythm b C)
      (fun o' => Sum.elim (fun round => Waiting b round o') fun _ => True) o := by
  refine Prog.wp_bind.mpr (Prog.wp_mono ?_ (wp_ofRep_sync s hsignalled hpending hfound))
  rintro o' _ ⟨⟨hready', hnoticed, hsignalled'⟩, hdone⟩
  rw [hsignalled] at hsignalled'
  rw [← hnoticed] at hnotify hinterval
  exact ⟨⟨hsignalled', hdone, hinterval⟩, fun _ _ =>
    ⟨hready'.trans hready, hsignalled', hdone, hnotify, hinterval⟩⟩

/-- One round, for each of the three ways to be woken up. -/
theorem wp_runRound (round : Round) {o : Observed} (h : Waiting b round o) :
    (runRound b C schedules round).wp (rhythm b C)
      (fun o' => Sum.elim (fun round' => Waiting b round' o') fun _ => True) o := by
  obtain ⟨hready, hsignalled, hpending, hnotify, hinterval⟩ := h
  refine ⟨⟨hready, hsignalled, hpending, hnotify⟩, ?_⟩
  rintro (_ | _ | _) -
  · exact wp_syncAndReset _ { round with number := round.number + 1 } hready hsignalled
      rfl rfl hnotify hinterval
  · exact ⟨.inr ⟨rfl, rfl⟩, fun _ _ => wp_syncAndReset _
      ⟨false, b.evacuationPollInterval, round.number + 1⟩ hready hsignalled rfl rfl rfl rfl⟩
  · exact ⟨.inl rfl, fun _ _ => trivial⟩

/-- The whole of `Run`, from before it was ready. -/
theorem wp_run (fuel : ℕ) :
    (run b C schedules fuel).wp (rhythm b C) (fun _ _ => True) .initial := by
  refine ⟨trivial, fun _ _ => ⟨rfl, fun _ _ => ⟨⟨rfl, rfl⟩, fun _ _ => ?_⟩⟩⟩
  refine Prog.wp_loop (Waiting b) ?_ (fun round _ h => wp_runRound round h) fuel
    ⟨rfl, rfl, rfl, rfl, rfl⟩
  exact fun _ _ _ => ⟨trivial, nofun⟩

/-! ## Whole runs

The specification is turned into statements about traces. -/

end Bulker

end CellRep
