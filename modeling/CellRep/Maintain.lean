import CellRep.Journal
import CellRep.Models

/-!
# The presence maintainer

`maintain.Maintainer` keeps the cell's presence registered for as long as the executor
answers (`maintain/maintain.go`). It pings the executor until it answers, starts a
heartbeater, and pings on; when a ping fails the heartbeater is stopped and everything
begins again.

Four selects wait for whatever comes first: a signal, a timer, the heartbeater's
readiness or its exit. Each of them is one call here, answered with the branch that was
taken. The world is a journal in which heartbeaters become ready and exit whenever they
like, so that a run is any order of replies, signals, ticks and exits. The loops are cut
off after `fuel` rounds, and every result is for every `fuel`.
-/

namespace CellRep

open Executor (ExecutorResources)

namespace Maintain

/-! ## The heartbeater

What is registered is a presence, made anew for each heartbeater from the configuration and
from the executor's total resources at that time. -/

/-- `models.CellCapacity`: the executor's total resources, narrowed to 32 bits. -/
structure CellCapacity where
  memoryMB : Int32
  diskMB : Int32
  containers : Int32
  deriving DecidableEq

/-- `models.CellPresence`, by what `models.NewCellPresence` is given. -/
structure CellPresence where
  cellID : String
  repAddress : String
  repUrl : String
  zone : String
  capacity : CellCapacity
  rootFSProviders : List String
  preloadedRootFSes : List String
  placementTags : List String
  optionalPlacementTags : List String
  deriving DecidableEq

/-- The runner of `NewCellPresenceRunner`, by what it is given. What it does is left to the
world. -/
structure Runner where
  cellPresence : CellPresence
  retryInterval : Int64
  lockTTL : Int64
  deriving DecidableEq

/-- `maintain.Maintainer`, by its configuration. Its clients are the calls below, so they are
no fields. -/
structure Maintainer where
  cellID : String
  repAddress : String
  repUrl : String
  zone : String
  retryInterval : Int64
  rootFSProviders : List String
  preloadedRootFSes : List String
  placementTags : List String
  optionalPlacementTags : List String
  lockTTL : Int64
  deriving DecidableEq

/-- `ErrSignaledWhileWaiting`, with which `Run` returns if it is signalled while the executor
does not answer. -/
def errSignaledWhileWaiting : Err := .text "signaled while waiting for executor"

/-! ## Calls

Each select is one call, and the type of its reply has one constructor for each branch. Which
branch is taken is up to the world, among those that are ready. -/

/-- The select of `waitForExecutor` after a failed ping: a signal, or the end of the interval. -/
inductive Sleep : Type where
  | signalled : Sleep
  | elapsed : Sleep
  deriving DecidableEq

/-- The select of `heartbeat` before its loop, with the heartbeater just started. -/
inductive Startup : Type where
  | ready : Startup
  | exited : Option Err → Startup
  | signalled : Startup
  deriving DecidableEq

/-- The select of `heartbeat` in its loop. The tick is what leads to the next ping. -/
inductive Beat : Type where
  | exited : Option Err → Beat
  | signalled : Beat
  | tick : Beat
  deriving DecidableEq

/-- The select of `heartbeat` after a failed ping, with the heartbeater already killed. -/
inductive Stop : Type where
  | exited : Option Err → Stop
  | signalled : Stop
  deriving DecidableEq

/-- The calls of the maintainer. Heartbeaters are numbered from 0 as they are started. -/
inductive Call : Type where
  | ping
  | totalResources
  | sleep
  /-- `ifrit.Background` -/
  | background (heartbeater : Runner)
  | awaitReady (process : ℕ)
  | closeReady
  | awaitBeat (process : ℕ)
  /-- `Signal(os.Kill)` -/
  | kill (process : ℕ)
  /-- `<-heartbeatExitChan` -/
  | awaitExit (process : ℕ)
  | awaitStop (process : ℕ)
  /-- `Run` returns -/
  | exit (err : Option Err)
  /-- a loop is cut off -/
  | cut
  deriving DecidableEq

/-- What each call is answered with. A cut has no answer, so that nothing can follow it. -/
@[reducible] def Reply : Call → Type
  | .ping => Option Err
  | .totalResources => Except Err ExecutorResources
  | .sleep => Sleep
  | .background _ => ℕ
  | .awaitReady _ => Startup
  | .closeReady => Unit
  | .awaitBeat _ => Beat
  | .kill _ => Unit
  | .awaitExit _ => Option Err
  | .awaitStop _ => Stop
  | .exit _ => Unit
  | .cut => Empty

/-- The programs of the maintainer, over the calls of its thread. -/
abbrev MaintM : Type → Type := Prog Call Reply

@[simp] def ping : MaintM (Option Err) := Prog.call .ping Prog.ret

@[simp] def totalResources : MaintM (Except Err ExecutorResources) :=
  Prog.call .totalResources Prog.ret

@[simp] def sleep : MaintM Sleep := Prog.call .sleep Prog.ret

@[simp] def background (heartbeater : Runner) : MaintM ℕ :=
  Prog.call (.background heartbeater) Prog.ret

@[simp] def awaitReady (process : ℕ) : MaintM Startup := Prog.call (.awaitReady process) Prog.ret

@[simp] def closeReady : MaintM Unit := Prog.call .closeReady Prog.ret

@[simp] def awaitBeat (process : ℕ) : MaintM Beat := Prog.call (.awaitBeat process) Prog.ret

@[simp] def kill (process : ℕ) : MaintM Unit := Prog.call (.kill process) Prog.ret

@[simp] def awaitExit (process : ℕ) : MaintM (Option Err) :=
  Prog.call (.awaitExit process) Prog.ret

@[simp] def awaitStop (process : ℕ) : MaintM Stop := Prog.call (.awaitStop process) Prog.ret

@[simp] def exit (err : Option Err) : MaintM Unit := Prog.call (.exit err) Prog.ret

/-- Nothing comes after a cut, which may therefore stand for a result of any type. -/
@[simp] def cut {α : Type} : MaintM α := Prog.call .cut nofun

/-! ## The maintainer's code

One definition for each function, and one for the body of each loop. -/

/-- `createHeartbeater`: the capacity is asked for each time, and without it there is no
heartbeater. -/
def createHeartbeater (m : Maintainer) : MaintM (Except Err Runner) := do
  match ← totalResources with
  | .error err => return .error err
  | .ok resources =>
    let cellCapacity : CellCapacity :=
      ⟨resources.memoryMB.toInt32, resources.diskMB.toInt32, resources.containers.toInt32⟩
    let cellPresence : CellPresence :=
      ⟨m.cellID, m.repAddress, m.repUrl, m.zone, cellCapacity, m.rootFSProviders,
        m.preloadedRootFSes, m.placementTags, m.optionalPlacementTags⟩
    return .ok ⟨cellPresence, m.retryInterval, m.lockTTL⟩

/-- One round of `waitForExecutor`: a ping, and then a heartbeater or a sleep. An error of
`createHeartbeater` is returned and not retried. -/
def waitForExecutorRound (m : Maintainer) (_ : Unit) : MaintM (Unit ⊕ Except Err Runner) := do
  match ← ping with
  | none => return .inr (← createHeartbeater m)
  | some _ =>
    match ← sleep with
    | .signalled => return .inr (.error errSignaledWhileWaiting)
    | .elapsed => return .inl ()

/-- `waitForExecutor`, up to `fuel` rounds. -/
def waitForExecutor (m : Maintainer) (fuel : ℕ) : MaintM (Except Err Runner) :=
  Prog.loop cut (waitForExecutorRound m) fuel ()

/-- One round of the loop of `heartbeat`. After a failed ping the error returned is the ping's
and not the heartbeater's; a signal at that moment returns without waiting for the exit. -/
def heartbeatRound (process : ℕ) (_ : Unit) : MaintM (Unit ⊕ Option Err) := do
  match ← awaitBeat process with
  | .exited err => return .inr err
  | .signalled =>
    kill process
    let _ ← awaitExit process
    return .inr none
  | .tick =>
    match ← ping with
    | none => return .inl ()
    | some err =>
      kill process
      match ← awaitStop process with
      | .exited _ => return .inr (some err)
      | .signalled => return .inr none

/-- `heartbeat`; `ready` says whether the channel is there to be closed. -/
def heartbeat (fuel : ℕ) (ready : Bool) (heartbeater : Runner) : MaintM (Option Err) := do
  let process ← background heartbeater
  match ← awaitReady process with
  | .exited err => return err
  | .signalled =>
    kill process
    let _ ← awaitExit process
    return none
  | .ready =>
    if ready then closeReady
    Prog.loop cut (heartbeatRound process) fuel ()

/-- One round of `Run`: after the first heartbeater the channel is gone, however the
heartbeater ended. -/
def runRound (m : Maintainer) (fuel : ℕ) (ready : Bool) : MaintM (Bool ⊕ Option Err) := do
  match ← waitForExecutor m fuel with
  | .error err => return .inr (some err)
  | .ok heartbeater =>
    match ← heartbeat fuel ready heartbeater with
    | none => return .inr none
    | some _ => return .inl false

/-- `Maintainer.Run`: any error of `heartbeat` starts another round, and only nil ends the
loop. -/
def run (m : Maintainer) (fuel : ℕ) : MaintM (Option Err) :=
  Prog.loop cut (runRound m fuel) fuel true

/-- `Run` and the report of its result, which makes the end of a run visible in the journal. -/
def main (m : Maintainer) (fuel : ℕ) : MaintM Unit := do
  let err ← run m fuel
  exit err

/-! ## The world

The journal holds the answered calls and what heartbeaters do on their own, in one order. What
is ready, alive or exited at a moment is read off the journal so far. -/

/-- What heartbeaters do on their own: each of them may become ready and may exit. -/
inductive Happening : Type where
  | ready (process : ℕ)
  | exited (process : ℕ) (err : Option Err)
  deriving DecidableEq

/-- What happened so far, first things first. -/
abbrev World : Type := Journal Call Reply Happening

/-- An entry of the journal: an answered call or a happening. -/
abbrev Entry : Type := Event Call Reply ⊕ Happening

/-- The entry at which a heartbeater is started in the background. -/
def isStart : Entry → Bool
  | .inl ⟨.background _, _⟩ => true
  | _ => false

/-- The ready channel is closed, which may happen only once in Go. -/
def isCloseReady : Entry → Bool
  | .inl ⟨.closeReady, _⟩ => true
  | _ => false

/-- `heartbeat` has received the readiness of the very first heartbeater. -/
def isFirstReady : Entry → Bool
  | .inl ⟨.awaitReady process, .ready⟩ => process == 0
  | _ => false

/-- The entry at which the loop of `heartbeat` has waited for its next event. -/
def isBeat : Entry → Bool
  | .inl ⟨.awaitBeat _, _⟩ => true
  | _ => false

/-- How many heartbeaters were started; it is also the number of the next one. -/
def starts (w : World) : ℕ := w.countP isStart

/-- The heartbeater was started, numbers being given in order. -/
def Started (w : World) (process : ℕ) : Prop := process < starts w
  deriving Decidable

/-- The heartbeater has exited, with whatever error and whether or not anybody has noticed. -/
def Exited (w : World) (process : ℕ) : Prop := ∃ err, .inr (.exited process err) ∈ w

/-- The heartbeater is alive: started, and not exited yet. -/
def Alive (w : World) (process : ℕ) : Prop := Started w process ∧ ¬ Exited w process

/-- Which reply can be given when: readiness and an exit are only seen when they have
come about, and a heartbeater gets the next number. -/
def Enabled (w : World) : (c : Call) → Reply c → Prop
  | .background _, process => process = starts w
  | .awaitReady process, .ready => .inr (.ready process) ∈ w
  | .awaitReady process, .exited err => .inr (.exited process err) ∈ w
  | .awaitBeat process, .exited err => .inr (.exited process err) ∈ w
  | .awaitExit process, err => .inr (.exited process err) ∈ w
  | .awaitStop process, .exited err => .inr (.exited process err) ∈ w
  | _, _ => True

/-- A heartbeater that is alive can become ready and can exit. -/
def Happens (w : World) : Happening → Prop
  | .ready process => Alive w process
  | .exited process _ => Alive w process

/-- The maintainer and its world: the journal, in which heartbeaters also become ready and
exit by themselves. -/
def system : System Call Reply World Unit := System.journal Unit Enabled Happens

/-- The maintainer before its first step, alone and with an empty journal. -/
def start (m : Maintainer) (fuel : ℕ) : Config Call Reply World Unit :=
  ⟨[], [⟨(), [], main m fuel⟩]⟩

section

variable {w : World} {process : ℕ}

/-- The count goes up with a start and with nothing else. -/
@[simp] theorem starts_concat (w : World) (x : Entry) :
    starts (w ++ [x]) = starts w + if isStart x then 1 else 0 := by
  rw [starts, List.countP_append, List.countP_singleton]
  rfl

theorem Exited.append (h : Exited w process) (l : World) : Exited (w ++ l) process :=
  let ⟨err, herr⟩ := h
  ⟨err, List.mem_append_left l herr⟩

theorem started_concat {x : Entry} (hx : isStart x = false) :
    Started (w ++ [x]) process ↔ Started w process := by
  rw [Started, starts_concat, hx]
  exact Iff.rfl

end

/-! ## The protocol

What the maintainer does with its heartbeaters, apart from all else: it may start one only
while none is running and the executor has answered since. The protocol is stated over a small
ghost state, so that the code can be checked against it without looking at the journal. -/

/-- None is running, and whether the executor answers; or this one is. The maintainer knows
only what it has seen, so a heartbeater counts as running until its exit was received. -/
inductive Phase : Type where
  | idle (answering : Bool)
  | running (process : ℕ)
  deriving DecidableEq

/-- A phase ends with what the maintainer sees: a start, an exit it has received, or the
outcome of a ping while none is running. -/
def Phase.next (phase : Phase) : (c : Call) → Reply c → Phase
  | .ping, err =>
    match phase with
    | .idle _ => .idle err.isNone
    | .running process => .running process
  | .background _, process => .running process
  | .awaitReady _, .exited _ => .idle false
  | .awaitBeat _, .exited _ => .idle false
  | .awaitExit _, _ => .idle false
  | .awaitStop _, .exited _ => .idle false
  | _, _ => phase

/-- The maintainer's progress: its phase, how many it has started, and which of the
three entries that matter for readiness there are. -/
structure Progress where
  phase : Phase
  started : ℕ
  closed : Bool
  firstReady : Bool
  entered : Bool

/-- Before anything happened nothing is running, and nothing is known about the executor. -/
def Progress.zero : Progress := ⟨.idle false, 0, false, false, false⟩

/-- The progress after an answered call. The three flags only ever go up. -/
def Progress.next (g : Progress) (c : Call) (r : Reply c) : Progress where
  phase := g.phase.next c r
  started := g.started + if isStart (.inl ⟨c, r⟩) then 1 else 0
  closed := g.closed || isCloseReady (.inl ⟨c, r⟩)
  firstReady := g.firstReady || isFirstReady (.inl ⟨c, r⟩)
  entered := g.entered || isBeat (.inl ⟨c, r⟩)

/-- What the progress allows. The clauses about readiness say that the first readiness is
received before any loop is entered, and that a loop is entered with the channel in its final
state. -/
def Progress.Allows (g : Progress) : Call → Prop
  | .background _ => g.phase = .idle true
  | .awaitReady process => g.phase = .running process ∧ (process = 0 → g.entered = false)
  | .closeReady => g.closed = false ∧ g.firstReady = true
  | .awaitBeat process => g.phase = .running process ∧ g.closed = g.firstReady
  | .awaitExit process => g.phase = .running process
  | .awaitStop process => g.phase = .running process
  | _ => True

/-- A heartbeater gets the next number; otherwise any reply may come. -/
def Progress.Expects (g : Progress) : (c : Call) → Reply c → Prop
  | .background _, process => process = g.started
  | _, _ => True

/-- The protocol as a ghost specification: what is allowed, what is expected, and how the
progress moves. -/
def protocol : Spec Call Reply Progress where
  pre := Progress.Allows
  ans := Progress.Expects
  next := Progress.next

/-! ## The maintainer keeps to the protocol

One rule for each function, from the innermost outwards. The loops need an invariant each, and
these are where the argument is. -/

/-- A cut loop has kept to everything so far. -/
theorem wp_cut {α : Type} {post : Progress → α → Prop} (g : Progress) :
    (cut : MaintM α).wp protocol post g :=
  ⟨trivial, nofun⟩

/-- Most calls move the phase and nothing else, which saves unfolding the progress at each of
them. -/
theorem Progress.next_eq {g : Progress} {c : Call} {r : Reply c}
    (hstart : isStart (.inl ⟨c, r⟩) = false) (hclose : isCloseReady (.inl ⟨c, r⟩) = false)
    (hfirst : isFirstReady (.inl ⟨c, r⟩) = false) (hbeat : isBeat (.inl ⟨c, r⟩) = false) :
    g.next c r = { g with phase := g.phase.next c r } := by
  simp [Progress.next, hstart, hclose, hfirst, hbeat]

/-- What a ping says about the executor stands until the next call that moves a phase. -/
theorem Progress.next_ping_next {g : Progress} {answering : Bool} (err : Option Err) {c : Call}
    {r : Reply c} (hstart : isStart (.inl ⟨c, r⟩) = false)
    (hclose : isCloseReady (.inl ⟨c, r⟩) = false) (hfirst : isFirstReady (.inl ⟨c, r⟩) = false)
    (hbeat : isBeat (.inl ⟨c, r⟩) = false) (hphase : ∀ phase : Phase, phase.next c r = phase) :
    (Progress.next { g with phase := .idle answering } .ping err).next c r =
      { g with phase := .idle err.isNone } := by
  rw [Progress.next_eq hstart hclose hfirst hbeat, hphase, Progress.next_eq rfl rfl rfl rfl]
  rfl

/-- A heartbeater was started, and the channel is closed if the first one got ready. -/
def Progress.Settled (g : Progress) : Prop := 0 < g.started ∧ g.closed = g.firstReady

/-- Settled progress stays so as long as the channel is not closed and no first readiness is
received. -/
theorem Progress.Settled.next {g : Progress} (h : g.Settled) {c : Call} {r : Reply c}
    (hclose : isCloseReady (.inl ⟨c, r⟩) = false) (hfirst : isFirstReady (.inl ⟨c, r⟩) = false) :
    (g.next c r).Settled := by
  obtain ⟨hstarted, hclosed⟩ := h
  refine ⟨Nat.add_pos_left hstarted _, ?_⟩
  rw [Progress.next, hclose, hfirst, Bool.or_false, Bool.or_false, hclosed]

/-- A runner comes with a successful ping just before. The invariant of the loop is that only
the phase has changed, and that it is an idle one. -/
theorem wp_waitForExecutor (m : Maintainer) (fuel : ℕ) {g : Progress} {answering : Bool}
    (hg : g.phase = .idle answering) :
    (waitForExecutor m fuel).wp protocol
      (fun g' r => ∀ runner, r = .ok runner → g' = { g with phase := .idle true }) g := by
  refine Prog.wp_loop (fun _ g' => ∃ answering, g' = { g with phase := .idle answering })
    (fun _ g' _ => wp_cut g') ?_ fuel ⟨answering, by rw [← hg]⟩
  rintro _ _ ⟨answering, rfl⟩
  refine ⟨trivial, ?_⟩
  rintro (_ | err) -
  · refine ⟨trivial, ?_⟩
    rintro (err | resources) -
    · exact fun runner h => nomatch h
    · exact fun runner _ => Progress.next_ping_next none rfl rfl rfl rfl fun _ => rfl
  · refine ⟨trivial, ?_⟩
    rintro (_ | _) -
    · exact fun runner h => nomatch h
    · exact ⟨false, Progress.next_ping_next (some err) rfl rfl rfl rfl fun _ => rfl⟩

/-- The loop of `heartbeat` returns an error only when its heartbeater has exited. When it is
signalled it may return with the heartbeater still alive, but then it returns nil and nothing
is started any more. -/
theorem wp_heartbeatLoop (process fuel : ℕ) {g : Progress} (hphase : g.phase = .running process)
    (hsettled : g.Settled) :
    (Prog.loop cut (heartbeatRound process) fuel ()).wp protocol
      (fun g' r => ∀ err, r = some err → (∃ answering, g'.phase = .idle answering) ∧ g'.Settled)
      g := by
  refine Prog.wp_loop (fun _ g' => g'.phase = .running process ∧ g'.Settled)
    (fun _ g' _ => wp_cut g') ?_ fuel ⟨hphase, hsettled⟩
  rintro _ g ⟨hphase, hsettled⟩
  refine ⟨⟨hphase, hsettled.2⟩, ?_⟩
  rintro (err | _ | _) -
  · exact fun _ _ => ⟨⟨false, rfl⟩, hsettled.next rfl rfl⟩
  · -- signalled: the loop returns nil, whatever the heartbeater says
    exact ⟨trivial, fun _ _ => ⟨hphase, fun _ _ _ h => nomatch h⟩⟩
  · refine ⟨trivial, ?_⟩
    have hping : ∀ err, g.phase.next .ping err = .running process := by
      intro err
      rw [hphase]
      rfl
    have hsettled' : ∀ err, ((g.next (.awaitBeat process) .tick).next .ping err).Settled :=
      fun err => (hsettled.next rfl rfl).next rfl rfl
    rintro (_ | err) -
    · exact ⟨hping none, hsettled' none⟩
    · refine ⟨trivial, fun _ _ => ⟨hping (some err), ?_⟩⟩
      rintro (_ | _) -
      · exact fun _ _ => ⟨⟨false, rfl⟩, ((hsettled' _).next rfl rfl).next rfl rfl⟩
      · exact fun _ h => nomatch h

/-- What a round of `Run` begins with: none is running, and the channel is there only as
long as nothing was started. -/
def RoundStart (ready : Bool) (g : Progress) : Prop :=
  (∃ answering, g.phase = .idle answering) ∧
    if ready then g.started = 0 ∧ g.closed = false ∧ g.firstReady = false ∧ g.entered = false
    else g.Settled

/-- `heartbeat` starts one heartbeater, closes the channel if that is the first one, and
returns an error only when it has exited. -/
theorem wp_heartbeat (fuel : ℕ) (ready : Bool) (heartbeater : Runner) {g : Progress}
    (hphase : g.phase = .idle true) (hg : RoundStart ready g) :
    (heartbeat fuel ready heartbeater).wp protocol
      (fun g' r => ∀ err, r = some err → RoundStart false g') g := by
  refine ⟨hphase, ?_⟩
  rintro _ rfl
  obtain ⟨-, hg⟩ := hg
  -- before the heartbeater is ready nothing is closed that was not closed before
  have hsettled : (g.next (.background heartbeater) g.started).Settled := by
    refine ⟨Nat.succ_pos _, ?_⟩
    cases ready with
    | true => simp [Progress.next, isCloseReady, isFirstReady, hg.2.1, hg.2.2.1]
    | false => simp [Progress.next, isCloseReady, isFirstReady, hg.2]
  refine ⟨⟨rfl, ?_⟩, ?_⟩
  · intro hzero
    cases ready with
    | true => simp [protocol, Progress.next, isBeat, hg.2.2.2]
    | false => exact absurd hzero (Nat.pos_iff_ne_zero.mp hg.1)
  · rintro (_ | err | _) -
    · cases ready with
      | true =>
        obtain ⟨hzero, hclosed, hfirst, hentered⟩ := hg
        refine ⟨⟨?_, ?_⟩, fun _ _ => wp_heartbeatLoop _ fuel rfl ⟨Nat.succ_pos _, ?_⟩⟩
        · simp [protocol, Progress.next, isCloseReady, hclosed]
        · simp [protocol, Progress.next, isFirstReady, hzero]
        · simp [protocol, Progress.next, isCloseReady, isFirstReady, hzero]
      | false =>
        have hfirst : isFirstReady (.inl ⟨.awaitReady g.started, .ready⟩) = false :=
          beq_eq_false_iff_ne.mpr (Nat.pos_iff_ne_zero.mp hg.1)
        exact wp_heartbeatLoop _ fuel rfl (hsettled.next rfl hfirst)
    · exact fun _ _ => ⟨⟨false, rfl⟩, hsettled.next rfl rfl⟩
    · exact ⟨trivial, fun _ _ => ⟨rfl, fun _ _ _ h => nomatch h⟩⟩

/-- **The maintainer keeps to the protocol.** The invariant of the outer loop is `RoundStart`. -/
theorem wp_main (m : Maintainer) (fuel : ℕ) :
    (main m fuel).wp protocol (fun _ _ => True) Progress.zero := by
  have hrun : (run m fuel).wp protocol (fun _ _ => True) Progress.zero := by
    refine Prog.wp_loop RoundStart (fun _ g _ => wp_cut g) ?_ fuel
      ⟨⟨false, rfl⟩, rfl, rfl, rfl, rfl⟩
    rintro ready g ⟨⟨answering, hphase⟩, hg⟩
    refine Prog.wp_bind.mpr (Prog.wp_mono ?_ (wp_waitForExecutor m fuel hphase))
    rintro g' (err | heartbeater) hwait
    · trivial
    · cases hwait heartbeater rfl
      refine Prog.wp_bind.mpr (Prog.wp_mono ?_ (wp_heartbeat fuel ready heartbeater rfl
        ⟨⟨true, rfl⟩, hg⟩))
      rintro g'' (_ | err) hbeat
      · trivial
      · exact hbeat err rfl
  exact Prog.wp_bind.mpr (Prog.wp_mono (fun _ _ _ => ⟨trivial, fun _ _ => trivial⟩) hrun)

/-! ## What the journal says about it

The ghost state is tied to the journal. From here on the code is not looked at any more: that
it keeps to the protocol is all that is used. -/

/-- A heartbeater may be started: a ping has succeeded after all earlier ones had
exited, and none has failed since. -/
def MayStart (w : World) : Prop :=
  ∃ a b, w = a ++ .inl ⟨.ping, none⟩ :: b ∧ (∀ process, Started w process → Exited a process) ∧
    ∀ err, .inl ⟨.ping, some err⟩ ∉ b

/-- What a phase says about the heartbeaters in the journal. -/
def PhaseHolds (w : World) : Phase → Prop
  | .idle true => MayStart w
  | .idle false => ∀ process, Started w process → Exited w process
  | .running process => ∀ other, Started w other → other ≠ process → Exited w other

/-- The progress is the one the journal shows, field by field. -/
structure Shows (w : World) (g : Progress) : Prop where
  phase : PhaseHolds w g.phase
  started : g.started = starts w
  closed : g.closed = w.any isCloseReady
  firstReady : g.firstReady = w.any isFirstReady
  entered : g.entered = w.any isBeat

/-- The entries that need a licence: a start, and the closing of the channel. The licence is a
statement about the journal before the entry. -/
def Licence (w : World) : Entry → Prop
  | .inl ⟨.background _, process⟩ => process = starts w ∧ MayStart w
  | .inl ⟨.closeReady, _⟩ => w.any isCloseReady = false
  | _ => True

/-- Every entry is licensed, and once a heartbeat loop was entered the channel is closed
exactly if the first heartbeater got ready. -/
structure Sound (w : World) : Prop where
  licensed : Every Licence w
  ready : w.any isBeat = true → w.any isCloseReady = w.any isFirstReady

/-- When a heartbeater may be started, all that were started before have exited. -/
theorem MayStart.exited {w : World} (h : MayStart w) :
    ∀ process, Started w process → Exited w process := by
  obtain ⟨a, b, rfl, hexited, -⟩ := h
  exact fun process hstarted => (hexited process hstarted).append _

/-- A phase survives every entry but a start and a failed ping. -/
theorem PhaseHolds.concat {w : World} {phase : Phase} {x : Entry} (h : PhaseHolds w phase)
    (hstart : isStart x = false) (hping : ∀ err, x ≠ .inl ⟨.ping, some err⟩) :
    PhaseHolds (w ++ [x]) phase := by
  rcases phase with (_ | _) | process
  · exact fun p hp => (h p ((started_concat hstart).mp hp)).append _
  · obtain ⟨a, b, rfl, hexited, hfailed⟩ := h
    refine ⟨a, b ++ [x], by simp, ?_, ?_⟩
    · exact fun p hp => hexited p ((started_concat hstart).mp hp)
    · intro err hmem
      rcases List.mem_append.mp hmem with hmem | hmem
      · exact hfailed err hmem
      · exact hping err (List.mem_singleton.mp hmem).symm
  · exact fun p hp hne => (h p ((started_concat hstart).mp hp) hne).append _

/-- While none is running, all have exited, whether or not the executor answers. -/
theorem PhaseHolds.exited {w : World} {answering : Bool} (h : PhaseHolds w (.idle answering)) :
    ∀ process, Started w process → Exited w process := by
  cases answering with
  | false => exact h
  | true => exact MayStart.exited h

/-- An entry that sees the exit of the one that was running ends its phase. All others had
exited when it was started. -/
theorem PhaseHolds.exit {w : World} {phase : Phase} {process : ℕ} {x : Entry}
    (h : PhaseHolds w phase) (hphase : phase = .running process) {err : Option Err}
    (hexited : .inr (.exited process err) ∈ w) (hstart : isStart x = false) :
    PhaseHolds (w ++ [x]) (.idle false) := by
  subst hphase
  intro p hp
  refine Exited.append ?_ _
  by_cases hne : p = process
  · subst hne
    exact ⟨err, hexited⟩
  · exact h p ((started_concat hstart).mp hp) hne

/-- A ping decides whether the executor answers. All earlier heartbeaters had exited before
it, which is what a later start has to know. -/
theorem PhaseHolds.ping {w : World} {answering : Bool} (h : PhaseHolds w (.idle answering))
    (err : Option Err) : PhaseHolds (w ++ [.inl ⟨.ping, err⟩]) (.idle err.isNone) := by
  cases err with
  | none => exact ⟨w, [], rfl, fun p hp => h.exited p ((started_concat rfl).mp hp), nofun⟩
  | some err => exact fun p hp => (h.exited p ((started_concat rfl).mp hp)).append _

/-- A start makes the started one the only one that may be running. -/
theorem PhaseHolds.start {w : World} {heartbeater : Runner} {process : ℕ}
    (h : PhaseHolds w (.idle true)) (hprocess : process = starts w) :
    PhaseHolds (w ++ [.inl ⟨.background heartbeater, process⟩]) (.running process) := by
  intro p hp hne
  refine (h.exited p ?_).append _
  have hlt : p < starts w + 1 := by simpa [Started, isStart] using hp
  exact Nat.lt_of_le_of_ne (Nat.le_of_lt_succ hlt) (fun heq => hne (heq.trans hprocess.symm))

/-- The phase follows the journal, call by call. -/
theorem phaseHolds_next {w : World} {g : Progress} {c : Call} {r : Reply c}
    (h : PhaseHolds w g.phase) (hallows : g.Allows c) (henabled : Enabled w c r) :
    PhaseHolds (w ++ [.inl ⟨c, r⟩]) (g.phase.next c r) := by
  cases c with
  | ping =>
    cases hphase : g.phase with
    | idle answering =>
      rw [hphase] at h
      exact h.ping r
    | running process =>
      rw [hphase] at h
      exact fun p hp hne => (h p ((started_concat rfl).mp hp) hne).append _
  -- a start is allowed in one phase only, in which all others have exited
  | background heartbeater =>
    rw [show g.phase = .idle true from hallows] at h
    exact h.start henabled
  | awaitReady process =>
    cases r with
    | exited err => exact h.exit hallows.1 henabled rfl
    | _ => exact h.concat rfl nofun
  | awaitBeat process =>
    cases r with
    | exited err => exact h.exit hallows.1 henabled rfl
    | _ => exact h.concat rfl nofun
  | awaitExit process => exact h.exit hallows henabled rfl
  | awaitStop process =>
    cases r with
    | exited err => exact h.exit hallows henabled rfl
    | signalled => exact h.concat rfl nofun
  | _ => exact h.concat rfl nofun

/-- The progress follows the journal along answered calls. -/
theorem Shows.next {w : World} {g : Progress} {c : Call} {r : Reply c} (h : Shows w g)
    (hallows : g.Allows c) (henabled : Enabled w c r) :
    Shows (w ++ [.inl ⟨c, r⟩]) (g.next c r) where
  phase := phaseHolds_next h.phase hallows henabled
  started := by rw [starts_concat, ← h.started]; rfl
  closed := by simp [Progress.next, h.closed]
  firstReady := by simp [Progress.next, h.firstReady]
  entered := by simp [Progress.next, h.entered]

/-- What happens on its own leaves the progress alone, since it was not received yet. -/
theorem Shows.happen {w : World} {g : Progress} (h : Shows w g) (x : Happening) :
    Shows (w ++ [.inr x]) g where
  phase := h.phase.concat rfl nofun
  started := by rw [starts_concat, h.started]; rfl
  closed := by simp [h.closed, isCloseReady]
  firstReady := by simp [h.firstReady, isFirstReady]
  entered := by simp [h.entered, isBeat]

/-- An entry keeps all this when it is licensed, enters no loop, does not close the
channel, and is no first readiness that comes after a loop. -/
theorem Sound.concat {w : World} {x : Entry} (h : Sound w) (hlicence : Licence w x)
    (hbeat : isBeat x = false) (hclose : isCloseReady x = false)
    (hfirst : w.any isBeat = true → isFirstReady x = false) : Sound (w ++ [x]) := by
  refine ⟨every_concat.mpr ⟨h.licensed, hlicence⟩, ?_⟩
  intro hany
  have hentered : w.any isBeat = true := by simpa [hbeat] using hany
  simpa [hclose, hfirst hentered] using h.ready hentered

/-- The protocol licenses what is written down: what it allows, together with what the journal
shows, is the licence. -/
theorem Sound.next {w : World} {g : Progress} {c : Call} {r : Reply c} (h : Sound w)
    (hshows : Shows w g) (hallows : g.Allows c) (henabled : Enabled w c r) :
    Sound (w ++ [.inl ⟨c, r⟩]) := by
  cases c with
  | background heartbeater =>
    have hphase := hshows.phase
    rw [show g.phase = .idle true from hallows] at hphase
    exact h.concat ⟨henabled, hphase⟩ rfl rfl fun _ => rfl
  | awaitReady process =>
    refine h.concat trivial rfl rfl ?_
    intro hentered
    cases r with
    | ready =>
      -- a readiness that counts as the first comes before every loop
      refine beq_eq_false_iff_ne.mpr ?_
      intro hzero
      have hnot := hallows.2 hzero
      rw [hshows.entered, hentered] at hnot
      cases hnot
    | _ => rfl
  | closeReady =>
    refine ⟨every_concat.mpr ⟨h.licensed, hshows.closed.symm.trans hallows.1⟩, ?_⟩
    intro _
    rw [List.any_append, List.any_append, ← hshows.firstReady, hallows.2]
    simp [isCloseReady]
  | awaitBeat process =>
    refine ⟨every_concat.mpr ⟨h.licensed, trivial⟩, ?_⟩
    intro _
    rw [List.any_append, List.any_append, ← hshows.closed, ← hshows.firstReady, hallows.2]
    rfl
  | _ => exact h.concat trivial rfl rfl fun _ => rfl

/-- The contract between the maintainer and its world. There is one thread, so the
compatibility of threads is left empty. -/
def contract : Contract system Progress where
  spec := protocol
  init _ := Progress.zero
  inv := Sound
  holds := Shows
  compat _ _ := False
  compat_symm h := h
  env_ok := by
    rintro w _ hsound ⟨x, -, rfl⟩
    exact ⟨hsound.concat trivial rfl rfl fun _ => rfl, fun g hg => hg.happen x⟩
  spawn_ok _ h := h.elim
  act_ok := by
    rintro w g c r _ hsound hshows hallows ⟨henabled, rfl⟩
    refine ⟨?_, hsound.next hshows hallows henabled, hshows.next hallows henabled,
      fun _ _ h => h.elim⟩
    cases c with
    | background heartbeater => exact henabled.trans hshows.started.symm
    | _ => trivial

/-- Every reachable configuration of the maintainer keeps the contract. -/
theorem meets (m : Maintainer) (fuel : ℕ) {cfg : Config Call Reply World Unit}
    (h : system.Reachable (start m fuel) cfg) : contract.Meets cfg := by
  refine Contract.Meets.run ⟨⟨every_nil, fun _ => rfl⟩, ?_, List.pairwise_singleton ..⟩ h
  intro th hth
  cases List.mem_singleton.mp hth
  exact ⟨⟨nofun, rfl, rfl, rfl, rfl⟩, wp_main m fuel⟩

/-! ## One heartbeater at a time

The licences of a journal are put together: each start was licensed where it stands, and this
is turned into a statement about the journal as a whole. -/

/-- A heartbeater that was started has its entry, with all earlier numbers before it. -/
theorem exists_start {w : World} (h : Every Licence w) {process : ℕ} (hp : Started w process) :
    ∃ l₁ heartbeater l₂, w = l₁ ++ .inl ⟨.background heartbeater, process⟩ :: l₂ ∧
      starts l₁ = process := by
  induction w using List.reverseRecOn with
  | nil => exact absurd hp (Nat.not_lt_zero _)
  | append_singleton w x ih =>
    obtain ⟨hw, hx⟩ := every_concat.mp h
    by_cases hstarted : Started w process
    · obtain ⟨l₁, heartbeater, l₂, rfl, hl₁⟩ := ih hw hstarted
      exact ⟨l₁, heartbeater, l₂ ++ [x], by simp, hl₁⟩
    · -- the number is new, so the last entry is the start
      cases hstart : isStart x with
      | false => exact absurd ((started_concat hstart).mp hp) hstarted
      | true =>
        rcases x with ⟨c, number⟩ | x
        · cases c with
          | background heartbeater =>
            have hlt : process < starts w + 1 := by simpa [Started, isStart] using hp
            have heq : process = starts w :=
              Nat.le_antisymm (Nat.le_of_lt_succ hlt) (Nat.le_of_not_lt hstarted)
            refine ⟨w, heartbeater, [], ?_, heq.symm⟩
            rw [heq, ← show number = starts w from hx.1]
          | _ => cases hstart
        · cases hstart

/-- Of two heartbeaters the earlier one has exited: it had to, for the later one to be
started. -/
theorem exited_of_lt {w : World} (h : Every Licence w) {p q : ℕ} (hq : Started w q)
    (hlt : p < q) : Exited w p := by
  obtain ⟨l₁, heartbeater, l₂, rfl, hl₁⟩ := exists_start h hq
  obtain ⟨-, hmay⟩ := h l₁ _ l₂ rfl
  refine (hmay.exited p ?_).append _
  rw [Started, hl₁]
  exact hlt

/-- The channel is closed only while it is open. -/
theorem Licence.closeReady_once {w : World} {x : Entry} (h : Licence w x)
    (hx : isCloseReady x = true) : w.any isCloseReady = false := by
  rcases x with ⟨c, r⟩ | x
  · cases c with
    | closeReady => exact h
    | _ => cases hx
  · cases hx

/-- The entry that stands between a failed ping and a later start. -/
theorem MayStart.ping_between {l₁ l₂ : World} {err : Err}
    (h : MayStart (l₁ ++ .inl ⟨.ping, some err⟩ :: l₂)) : .inl ⟨.ping, none⟩ ∈ l₂ := by
  obtain ⟨a, b, heq, -, hfailed⟩ := h
  obtain ⟨c, -, hl₂⟩ | ⟨c, -, hb⟩ := List.append_eq_append_iff.mp heq
  · cases c with
    | nil => cases hl₂
    | cons x c =>
      obtain ⟨-, rfl⟩ := List.cons.inj hl₂
      exact List.mem_append_right c (List.mem_cons_self ..)
  · -- the failed ping would come after the successful one
    cases c with
    | nil => cases hb
    | cons x c =>
      obtain ⟨-, rfl⟩ := List.cons.inj hb
      exact absurd (List.mem_append_right c (List.mem_cons_self ..)) (hfailed err)

/-- **The maintainer runs one heartbeater at a time, and none for a dead executor.** In
every run, whatever the pings and selects are answered and whenever heartbeaters get
ready or exit: two heartbeaters are never alive together; each start comes after a
successful ping that itself came after all earlier heartbeaters had exited; between a
failed ping and a later start there is a successful one; and the ready channel is closed
once at most. -/
theorem one_heartbeater_for_a_live_executor (m : Maintainer) (fuel : ℕ)
    {cfg : Config Call Reply World Unit} (h : system.Reachable (start m fuel) cfg) :
    (∀ p q, Alive cfg.world p → Alive cfg.world q → p = q) ∧
    (∀ l₁ heartbeater process l₂,
      cfg.world = l₁ ++ .inl ⟨.background heartbeater, process⟩ :: l₂ →
        ∃ a b, l₁ = a ++ .inl ⟨.ping, none⟩ :: b ∧
          ∀ earlier, Started l₁ earlier → Exited a earlier) ∧
    (∀ l₁ err l₂ heartbeater process l₃,
      cfg.world = (l₁ ++ .inl ⟨.ping, some err⟩ :: l₂) ++
          .inl ⟨.background heartbeater, process⟩ :: l₃ → .inl ⟨.ping, none⟩ ∈ l₂) ∧
    cfg.world.countP isCloseReady ≤ 1 := by
  have hlicensed : Every Licence cfg.world := (meets m fuel h).inv.licensed
  refine ⟨?_, ?_, ?_, ?_⟩
  · rintro p q ⟨hp, hpalive⟩ ⟨hq, hqalive⟩
    -- processes are numbered by their starts, and a start finds all earlier ones exited
    obtain hlt | heq | hlt := Nat.lt_trichotomy p q
    · exact absurd (exited_of_lt hlicensed hq hlt) hpalive
    · exact heq
    · exact absurd (exited_of_lt hlicensed hp hlt) hqalive
  · intro l₁ heartbeater process l₂ hw
    obtain ⟨-, a, b, hl₁, hexited, -⟩ := hlicensed l₁ _ l₂ hw
    exact ⟨a, b, hl₁, hexited⟩
  · intro l₁ err l₂ heartbeater process l₃ hw
    exact (hlicensed _ _ l₃ hw).2.ping_between
  · exact countP_le_one_of_every hlicensed Licence.closeReady_once

/-- A maintainer of an empty cell: no providers, no tags and no intervals. -/
def Maintainer.sample : Maintainer := ⟨"cell", "", "", "zone", 0, [], [], [], [], 0⟩

/-- The runner it starts when the executor has no resources. -/
def sampleRunner : Runner := ⟨⟨"cell", "", "", "zone", ⟨0, 0, 0⟩, [], [], [], []⟩, 0, 0⟩

/-- A ping, and the first heartbeater is started. -/
def firstStart : World :=
  [.inl ⟨.ping, none⟩, .inl ⟨.totalResources, .ok ⟨0, 0, 0⟩⟩, .inl ⟨.background sampleRunner, 0⟩]

/-- A journal of the maintainer is a run when each entry was permitted where it stands
and the maintainer makes the calls. -/
theorem reachable_of_path (m : Maintainer) (fuel : ℕ) {w : World} {q : MaintM Unit}
    (hw : EveryFrom (Permitted Enabled Happens) [] w)
    (hpath : (main m fuel).Path (w.filterMap Sum.getLeft?) q) :
    system.Reachable (start m fuel) ⟨w, [⟨(), w.filterMap Sum.getLeft?, q⟩]⟩ := by
  have hshare : share (fun _ : Call => ()) () w = w.filterMap Sum.getLeft? := by simp [share]
  have hrun := System.Reachable.replay (fun _ => ()) (fun _ => main m fuel)
    (List.nodup_singleton ()) hw.every (fun _ _ => List.mem_singleton.mpr rfl) (fun _ => q)
    (fun _ _ => hshare ▸ hpath)
  rw [List.map_singleton, List.map_singleton, hshare] at hrun
  exact hrun

/-- The executor fails two pings once the first heartbeater is in its loop: the
heartbeater is killed, and a second one is started when the executor answers again. -/
def restarted : World :=
  firstStart ++
    [.inr (.ready 0), .inl ⟨.awaitReady 0, .ready⟩, .inl ⟨.closeReady, ()⟩,
      .inl ⟨.awaitBeat 0, .tick⟩, .inl ⟨.ping, some (.text "refused")⟩, .inl ⟨.kill 0, ()⟩,
      .inr (.exited 0 none), .inl ⟨.awaitStop 0, .exited none⟩,
      .inl ⟨.ping, some (.text "refused")⟩, .inl ⟨.sleep, .elapsed⟩, .inl ⟨.ping, none⟩,
      .inl ⟨.totalResources, .ok ⟨0, 0, 0⟩⟩, .inl ⟨.background sampleRunner, 1⟩]

/-- After the restart the second heartbeater is the only one alive, and the channel was
closed once. -/
theorem restarted_alone :
    ∃ cfg, system.Reachable (start .sample 2) cfg ∧ cfg.world = restarted ∧
      Started cfg.world 0 ∧ Alive cfg.world 1 ∧ (∀ p, Alive cfg.world p → p = 1) ∧
      cfg.world.countP isCloseReady ≤ 1 := by
  have hreach := reachable_of_path .sample 2 (w := restarted)
    ⟨trivial, trivial, rfl, ⟨by decide, by simp [Exited]⟩, by simp [Permitted, Enabled], trivial,
      trivial, trivial, trivial, ⟨by decide, by simp [Exited]⟩, by simp [Permitted, Enabled],
      trivial, trivial, trivial, trivial, rfl, trivial⟩
    (.call _ <| .call _ <| .call _ <| .call _ <| .call _ <| .call _ <| .call _ <| .call _ <|
      .call _ <| .call _ <| .call _ <| .call _ <| .call _ <| .call _ <| .nil _)
  have halive : Alive restarted 1 := ⟨by decide, by simp [Exited, restarted, firstStart]⟩
  obtain ⟨halone, -, -, honce⟩ := one_heartbeater_for_a_live_executor .sample 2 hreach
  exact ⟨_, hreach, rfl, by decide, halive, fun p hp => halone p 1 hp halive, honce⟩

/-! ## Readiness

The channel that `Run` was given is closed by the first round only. If the first heartbeater
fails before it is ready, nobody closes the channel later on. -/

/-- `heartbeat` waits in its loop for this heartbeater, or has waited there before. -/
def InLoop (cfg : Config Call Reply World Unit) (process : ℕ) : Prop :=
  (∃ th ∈ cfg.threads, ∃ k, th.rest = .call (.awaitBeat process) k) ∨
    ∃ beat, .inl ⟨.awaitBeat process, beat⟩ ∈ cfg.world

/-- **Readiness is decided by the first heartbeater.** Whenever `heartbeat` has received
its heartbeater's readiness and entered its loop, the ready channel is closed exactly if
the very first heartbeater was the one whose readiness was received; an earlier one that
exited before it was ready keeps the channel open for good. -/
theorem ready_closed_iff_first_ready (m : Maintainer) (fuel : ℕ)
    {cfg : Config Call Reply World Unit} (h : system.Reachable (start m fuel) cfg) {process : ℕ}
    (hloop : InLoop cfg process) :
    cfg.world.any isCloseReady = true ↔ cfg.world.any isFirstReady = true := by
  have hm := meets m fuel h
  rw [Bool.coe_iff_coe]
  rcases hloop with ⟨th, hth, k, hrest⟩ | ⟨beat, hmem⟩
  · have hshows := (hm.keeps th hth).1
    rw [← hshows.closed, ← hshows.firstReady]
    exact (hm.licensed hth hrest).2
  · exact hm.inv.ready (List.any_eq_true.mpr ⟨_, hmem, rfl⟩)

/-- The first heartbeater gets ready, and the channel is closed. -/
def firstReady : World :=
  firstStart ++ [.inr (.ready 0), .inl ⟨.awaitReady 0, .ready⟩, .inl ⟨.closeReady, ()⟩]

/-- The first heartbeater is in its loop, and the channel is closed. -/
theorem firstReady_closes :
    ∃ cfg, system.Reachable (start .sample 1) cfg ∧ cfg.world = firstReady ∧ InLoop cfg 0 ∧
      cfg.world.any isFirstReady = true ∧ cfg.world.any isCloseReady = true := by
  obtain ⟨cfg, hreach, hworld, hloop⟩ : ∃ cfg, system.Reachable (start .sample 1) cfg ∧
      cfg.world = firstReady ∧ InLoop cfg 0 :=
    ⟨_, reachable_of_path .sample 1 (w := firstReady)
      ⟨trivial, trivial, rfl, ⟨by decide, by simp [Exited]⟩, by simp [Permitted, Enabled], trivial,
        trivial⟩
      (.call _ <| .call _ <| .call _ <| .call _ <| .call _ <| .nil _),
      rfl, .inl ⟨_, List.mem_singleton.mpr rfl, _, rfl⟩⟩
  have hfirst : cfg.world.any isFirstReady = true := by
    rw [hworld]
    decide
  exact ⟨cfg, hreach, hworld, hloop, hfirst,
    (ready_closed_iff_first_ready .sample 1 hreach hloop).mpr hfirst⟩

/-- The first heartbeater exits with an error before it is ready; the second one, started
after another ping, gets ready. -/
def firstFails : World :=
  firstStart ++
    [.inr (.exited 0 (some (.text "lost lock"))),
      .inl ⟨.awaitReady 0, .exited (some (.text "lost lock"))⟩, .inl ⟨.ping, none⟩,
      .inl ⟨.totalResources, .ok ⟨0, 0, 0⟩⟩, .inl ⟨.background sampleRunner, 1⟩, .inr (.ready 1),
      .inl ⟨.awaitReady 1, .ready⟩]

/-- The second heartbeater is in its loop, and nobody has closed the channel. -/
theorem firstFails_stays_open :
    ∃ cfg, system.Reachable (start .sample 2) cfg ∧ cfg.world = firstFails ∧ InLoop cfg 1 ∧
      cfg.world.any isCloseReady = false := by
  have hreach := reachable_of_path .sample 2 (w := firstFails)
    ⟨trivial, trivial, rfl, ⟨by decide, by simp [Exited]⟩, by simp [Permitted, Enabled], trivial,
      trivial, rfl, ⟨by decide, by simp [Exited]⟩, by simp [Permitted, Enabled], trivial⟩
    (.call _ <| .call _ <| .call _ <| .call _ <| .call _ <| .call _ <| .call _ <| .call _ <| .nil _)
  exact ⟨_, hreach, rfl, .inl ⟨_, List.mem_singleton.mpr rfl, _, rfl⟩, by decide⟩

end Maintain

end CellRep
