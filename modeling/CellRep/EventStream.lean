import CellRep.Calls
import CellRep.Pool

/-!
# From lifecycle events to the queue

`generator.OperationStream` (`generator/generator.go`) subscribes to the executor's events
and starts a goroutine that turns each lifecycle event into an operation and sends it on an
unbuffered channel. `EventConsumer.Run` (`harmonizer/event_consumer.go`) receives from that
channel and pushes onto the operation queue until the stream is closed or a signal arrives.

The two run side by side. A send on an unbuffered channel is two steps here, `offer` where
the goroutine begins to wait and `sent` where it goes on, with the receive in between; so
each of the two can be overtaken by the other wherever the language allows it.
-/

namespace CellRep

open Executor (Container)

/-! ## One element behind

Each hand-over of an operation leaves the receiving side at most one element behind the giving
side. The relation is used three times along the way from the events to the queue. -/

section

variable {α : Type} {xs ys : List α}

/-- The first list is the second one, or lacks only its last element. -/
def OneBehind (xs ys : List α) : Prop := ys = xs ∨ ∃ a, ys = xs ++ [a]

/-- Nothing is behind in the beginning, and nothing is when all has been handed over. -/
theorem OneBehind.refl (xs : List α) : OneBehind xs xs := .inl rfl

/-- A new element makes the other side one behind. -/
theorem OneBehind.concat (xs : List α) (a : α) : OneBehind xs (xs ++ [a]) := .inr ⟨a, rfl⟩

/-- Being one behind keeps the order: what was passed on is an initial part. -/
theorem OneBehind.isPrefixOf (h : OneBehind xs ys) : xs <+: ys := by
  rcases h with rfl | ⟨a, rfl⟩
  · exact List.prefix_refl _
  · exact List.prefix_append _ _

/-- Being one behind costs one element at most, which is where the bounds of the theorems come
from. -/
theorem OneBehind.length_le (h : OneBehind xs ys) : ys.length ≤ xs.length + 1 := by
  rcases h with rfl | ⟨a, rfl⟩
  · exact Nat.le_succ _
  · rw [List.length_append, List.length_singleton]

/-- Two lists one behind a third: what is handed on from the middle one is its last element. -/
theorem OneBehind.eq_of_concat {zs : List α} {a : α} (hxz : OneBehind xs zs) (hyz : OneBehind ys zs)
    (hy : ys = xs ++ [a]) : zs = ys := by
  rcases hyz with rfl | ⟨b, rfl⟩
  · rfl
  · subst hy
    rcases hxz with h | ⟨c, h⟩
    · simp at h
    · simp at h

end

namespace EventStream

/-! ## Calls

The consumer calls `OperationStream` itself, so the subscription and the start of the
goroutine belong to the consumer's calls. -/

/-- The executor's events, by what the stream looks at: a lifecycle event has a container, and
any other event is skipped. -/
inductive ExecutorEvent : Type where
  /-- an `executor.LifecycleEvent` -/
  | lifecycle : Container → ExecutorEvent
  | other : ExecutorEvent

/-- The select of `EventConsumer.Run`. A closed channel and a signal both end the loop. -/
inductive Received : Type where
  | operation : Operation → Received
  /-- the channel is closed -/
  | closed : Received
  | signalled : Received

/-- The calls of the consumer and those of the goroutine. -/
inductive Call : Type where
  -- `EventConsumer.Run` and `OperationStream`
  | subscribeToEvents
  | goStream
  | closeReady
  | receive
  | push (operation : Operation)
  /-- `Run` returns -/
  | exit (err : Option Err)
  -- the goroutine
  | begin
  | next
  | offer (operation : Operation)
  | sent
  | closeOpChan
  | closeEvents
  /-- a loop is cut off -/
  | cut

/-- What each call is answered with. A cut has no answer. -/
@[reducible] def Reply : Call → Type
  | .subscribeToEvents => Option Err
  | .receive => Received
  | .next => Except Err ExecutorEvent
  | .cut => Empty
  | _ => Unit

/-- The programs of the two goroutines. -/
abbrev StreamM : Type → Type := Prog Call Reply

@[simp] def subscribeToEvents : StreamM (Option Err) := Prog.call .subscribeToEvents Prog.ret

@[simp] def goStream : StreamM Unit := Prog.call .goStream Prog.ret

@[simp] def closeReady : StreamM Unit := Prog.call .closeReady Prog.ret

@[simp] def receive : StreamM Received := Prog.call .receive Prog.ret

@[simp] def push (operation : Operation) : StreamM Unit := Prog.call (.push operation) Prog.ret

@[simp] def exit (err : Option Err) : StreamM Unit := Prog.call (.exit err) Prog.ret

@[simp] def begin : StreamM Unit := Prog.call .begin Prog.ret

@[simp] def next : StreamM (Except Err ExecutorEvent) := Prog.call .next Prog.ret

/-- A send on the unbuffered channel: it is begun, and it is over when somebody has received. -/
@[simp] def send (operation : Operation) : StreamM Unit :=
  Prog.call (.offer operation) fun _ => Prog.call .sent Prog.ret

@[simp] def closeOpChan : StreamM Unit := Prog.call .closeOpChan Prog.ret

@[simp] def closeEvents : StreamM Unit := Prog.call .closeEvents Prog.ret

/-- Nothing comes after a cut; both loops are without a bound in the code. -/
@[simp] def cut {α : Type} : StreamM α := Prog.call .cut nofun

/-! ## The code

The goroutine of the stream on the one side and `Run` on the other, each with the body of its
loop as a definition. -/

/-- `generator.operationFromContainer`: the operation is made from the guid alone, and will
look the container up again. -/
def operationFromContainer (guid : String) : Operation := .container guid

/-- One round of the goroutine of `OperationStream`. Any error of the subscription ends it. -/
def streamRound (_ : Unit) : StreamM (Unit ⊕ Unit) := do
  match ← next with
  | .error _ =>
    closeOpChan
    return .inr ()
  | .ok .other => return .inl ()
  | .ok (.lifecycle container) =>
    send (operationFromContainer container.guid)
    return .inl ()

/-- The goroutine of `OperationStream`. The deferred close of the events is its last step. -/
def stream (fuel : ℕ) : StreamM Unit := do
  begin
  Prog.loop cut streamRound fuel ()
  closeEvents

/-- `OperationStream`: the channel it returns is the one of `send` and `receive`. -/
def operationStream : StreamM (Option Err) := do
  match ← subscribeToEvents with
  | some err => return some err
  | none =>
    goStream
    return none

/-- One round of `EventConsumer.Run`: what is received is pushed at once. -/
def runRound (_ : Unit) : StreamM (Unit ⊕ Unit) := do
  match ← receive with
  | .closed => return .inr ()
  | .operation op =>
    push op
    return .inl ()
  | .signalled => return .inr ()

/-- `EventConsumer.Run`. It is ready when the subscription is made and the goroutine started. -/
def run (fuel : ℕ) : StreamM Unit := do
  match ← operationStream with
  | some err => exit (some err)
  | none =>
    closeReady
    Prog.loop cut runRound fuel ()
    exit none

/-! ## The world

There is no journal here; the world keeps counts of what passed each of the points on the way,
and the enabling conditions compare them. -/

/-- What has happened on either side of the channel. -/
structure World where
  /-- the events read from the subscription -/
  events : List ExecutorEvent
  offered : List Operation
  opChanClosed : Bool
  eventsClosed : Bool
  /-- the error of the subscription -/
  failed : Option Err
  streaming : Bool
  ready : Bool
  received : List Operation
  /-- the consumer has seen the channel closed -/
  sawClosed : Bool
  signalled : Bool
  /-- what the queue was given -/
  pushed : List Operation
  /-- what `Run` has returned -/
  exited : Option (Option Err)

/-- Before anything has happened: no event, no operation, and both channels open. -/
def World.initial : World :=
  ⟨[], [], false, false, none, false, false, [], false, false, [], none⟩

/-- The operation an event asks for, if it is a lifecycle event. -/
def ExecutorEvent.operation? : ExecutorEvent → Option Operation
  | .lifecycle container => some (operationFromContainer container.guid)
  | .other => none

namespace World

/-- The operations that the events read so far ask for. -/
def due (w : World) : List Operation := w.events.filterMap ExecutorEvent.operation?

/-- The world after an answered call: each call is noted in the field that is about it. -/
def next (w : World) : (c : Call) → Reply c → World
  | .subscribeToEvents, failed => { w with failed := failed }
  | .goStream, _ => { w with streaming := true }
  | .closeReady, _ => { w with ready := true }
  | .receive, .operation op => { w with received := w.received ++ [op] }
  | .receive, .closed => { w with sawClosed := true }
  | .receive, .signalled => { w with signalled := true }
  | .push op, _ => { w with pushed := w.pushed ++ [op] }
  | .exit err, _ => { w with exited := some err }
  | .next, .ok event => { w with events := w.events ++ [event] }
  | .offer op, _ => { w with offered := w.offered ++ [op] }
  | .closeOpChan, _ => { w with opChanClosed := true }
  | .closeEvents, _ => { w with eventsClosed := true }
  | _, _ => w

/-- Which reply can be given when: a receive takes what is offered, and a send goes on when
it has been taken. -/
def Enabled (w : World) : (c : Call) → Reply c → Prop
  | .receive, .operation op => w.offered = w.received ++ [op]
  | .receive, .closed => w.opChanClosed = true
  | .begin, _ => w.streaming = true
  | .sent, _ => w.received = w.offered
  | _, _ => True

end World

/-- Who runs: `EventConsumer.Run`, or the goroutine of the stream. -/
inductive Role : Type where
  | consumer : Role
  | stream : Role
  deriving DecidableEq

/-- What each goroutine runs, its loops cut off after a number of rounds. -/
def prog (fuel : Role → ℕ) : Role → StreamM Unit
  | .consumer => run (fuel .consumer)
  | .stream => stream (fuel .stream)

/-- The two goroutines and their world. -/
def system : System Call Reply World Role where
  act w c r w' := w.Enabled c r ∧ w' = w.next c r
  env _ _ := False
  spawn _ _ _ := False

/-- Before the first step. The goroutine is there already and waits for the `go` statement. -/
def start (fuel : Role → ℕ) : Config Call Reply World Role :=
  ⟨.initial, [⟨.consumer, [], prog fuel .consumer⟩, ⟨.stream, [], prog fuel .stream⟩]⟩

/-! ## The protocol

The phases of the two goroutines. The operation in hand is part of the phase, so that what is
pushed is what was received, and what is offered is what was read. -/

/-- Where a goroutine is, with the operation it has in hand if there is one. -/
inductive Phase : Type where
  -- the consumer
  | subscribing : Phase
  | refused : Err → Phase
  | subscribed : Phase
  | streaming : Phase
  | listening : Phase
  | pushing : Operation → Phase
  | stopping : Phase
  | returned : Phase
  -- the goroutine of the stream
  | idle : Phase
  | reading : Phase
  | offering : Operation → Phase
  | sending : Phase
  | closing : Phase
  | closed : Phase

namespace Phase

/-- Whose phase it is, which never changes along a run. -/
def owner : Phase → Role
  | .idle | .reading | .offering _ | .sending | .closing | .closed => .stream
  | _ => .consumer

/-- The phase a goroutine begins in. -/
def init : Role → Phase
  | .consumer => .subscribing
  | .stream => .idle

/-- What a phase allows. A signal can end the loop of the consumer in one phase only, which is
not the one in which it has an operation in hand. -/
inductive Allows : Phase → Call → Prop where
  | subscribeToEvents : Allows .subscribing .subscribeToEvents
  | exitFailed (err : Err) : Allows (.refused err) (.exit (some err))
  | goStream : Allows .subscribed .goStream
  | closeReady : Allows .streaming .closeReady
  | receive : Allows .listening .receive
  | push (op : Operation) : Allows (.pushing op) (.push op)
  | exit : Allows .stopping (.exit none)
  | cutRun : Allows .listening .cut
  | begin : Allows .idle .begin
  | next : Allows .reading .next
  | offer (op : Operation) : Allows (.offering op) (.offer op)
  | sent : Allows .sending .sent
  | closeOpChan : Allows .reading .closeOpChan
  | closeEvents : Allows .closing .closeEvents
  | cutStream : Allows .reading .cut

/-- The phase after an answered call. Events of other kinds leave the goroutine reading. -/
def next (g : Phase) : (c : Call) → Reply c → Phase
  | .subscribeToEvents, some err => .refused err
  | .subscribeToEvents, none => .subscribed
  | .goStream, _ => .streaming
  | .closeReady, _ => .listening
  | .receive, .operation op => .pushing op
  | .receive, _ => .stopping
  | .push _, _ => .listening
  | .exit _, _ => .returned
  | .begin, _ => .reading
  | .next, .ok (.lifecycle container) => .offering (operationFromContainer container.guid)
  | .offer _, _ => .sending
  | .sent, _ => .reading
  | .closeOpChan, _ => .closing
  | .closeEvents, _ => .closed
  | _, _ => g

end Phase

/-- The order of the steps as a ghost specification; nothing is expected of the replies. -/
def protocol : Spec Call Reply Phase where
  pre := Phase.Allows
  ans _ _ _ := True
  next := Phase.next

/-- A stream that is read to its end has closed the channel. -/
theorem wp_streamLoop (fuel : ℕ) :
    (Prog.loop cut streamRound fuel ()).wp protocol (fun g _ => g = .closing) .reading := by
  refine Prog.wp_loop (fun _ g => g = .reading) ?_ ?_ fuel rfl
  · rintro _ _ rfl
    exact ⟨.cutStream, nofun⟩
  · rintro _ _ rfl
    refine ⟨.next, ?_⟩
    rintro (err | container | _) -
    · exact ⟨.closeOpChan, fun _ _ => rfl⟩
    · exact ⟨.offer _, fun _ _ => ⟨.sent, fun _ _ => rfl⟩⟩
    · rfl

/-- The goroutine of the stream, with the deferred close as its last step. -/
theorem wp_stream (fuel : ℕ) : (stream fuel).wp protocol (fun _ _ => True) .idle := by
  refine ⟨.begin, fun _ _ => ?_⟩
  refine (Prog.wp_bind (p := Prog.loop cut streamRound fuel ())).mpr
    (Prog.wp_mono ?_ (wp_streamLoop fuel))
  rintro _ _ rfl
  exact ⟨.closeEvents, fun _ _ => trivial⟩

/-- The consumer leaves its loop when the stream is closed or a signal has come. -/
theorem wp_runLoop (fuel : ℕ) :
    (Prog.loop cut runRound fuel ()).wp protocol (fun g _ => g = .stopping) .listening := by
  refine Prog.wp_loop (fun _ g => g = .listening) ?_ ?_ fuel rfl
  · rintro _ _ rfl
    exact ⟨.cutRun, nofun⟩
  · rintro _ _ rfl
    refine ⟨.receive, ?_⟩
    rintro (op | _ | _) -
    · exact ⟨.push op, fun _ _ => rfl⟩
    · rfl
    · rfl

/-- `Run`: an error of the subscription is returned before anything else is done. -/
theorem wp_run (fuel : ℕ) : (run fuel).wp protocol (fun _ _ => True) .subscribing := by
  refine ⟨.subscribeToEvents, ?_⟩
  rintro (_ | err) -
  · refine ⟨.goStream, fun _ _ => ⟨.closeReady, fun _ _ => ?_⟩⟩
    refine (Prog.wp_bind (p := Prog.loop cut runRound fuel ())).mpr
      (Prog.wp_mono ?_ (wp_runLoop fuel))
    rintro _ _ rfl
    exact ⟨.exit, fun _ _ => trivial⟩
  · exact ⟨.exitFailed err, fun _ _ => trivial⟩

/-- **Both goroutines keep to the protocol.** -/
theorem wp_prog (fuel : Role → ℕ) (role : Role) :
    (prog fuel role).wp protocol (fun _ _ => True) (.init role) := by
  cases role with
  | consumer => exact wp_run _
  | stream => exact wp_stream _

/-! ## What holds along every run

The invariant of the world is about counts; what a phase adds is which of the counts are equal
at that moment. Both are needed: the one survives every step, the other gives the step its
reason. -/

/-- What a phase says about the world. The consumer speaks of its own side of the channel;
the goroutine speaks of its side, and of what was received as long as nothing is offered. -/
def Holds (w : World) : Phase → Prop
  | .subscribing => w.ready = false ∧ w.pushed = w.received ∧ w.received = [] ∧ w.exited = none ∧
      w.sawClosed = false ∧ w.signalled = false
  | .refused err => w.failed = some err ∧ w.ready = false ∧ w.pushed = w.received ∧
      w.received = [] ∧ w.exited = none ∧ w.sawClosed = false
  | .subscribed => w.failed = none ∧ w.pushed = w.received ∧ w.exited = none ∧ w.sawClosed = false
  | .streaming => w.failed = none ∧ w.pushed = w.received ∧ w.exited = none ∧ w.sawClosed = false
  | .listening => w.failed = none ∧ w.ready = true ∧ w.pushed = w.received ∧ w.exited = none ∧
      w.sawClosed = false
  | .pushing op => w.failed = none ∧ w.ready = true ∧ w.received = w.pushed ++ [op] ∧
      w.exited = none ∧ w.sawClosed = false
  | .stopping => w.failed = none ∧ w.ready = true ∧ w.pushed = w.received ∧ w.exited = none ∧
      (w.sawClosed = true ∨ w.signalled = true)
  | .returned => True
  | .idle => w.due = [] ∧ w.offered = [] ∧ w.opChanClosed = false ∧ w.eventsClosed = false
  | .reading => w.offered = w.due ∧ w.received = w.due ∧ w.opChanClosed = false ∧
      w.eventsClosed = false
  | .offering op => w.due = w.offered ++ [op] ∧ w.received = w.offered ∧ w.opChanClosed = false ∧
      w.eventsClosed = false
  | .sending => w.offered = w.due ∧ w.opChanClosed = false ∧ w.eventsClosed = false
  | .closing => w.offered = w.due ∧ w.opChanClosed = true ∧ w.eventsClosed = false
  | .closed => True

/-- What `Run` may have returned, and what has to be so then. -/
def Returned (w : World) : Option Err → Prop
  | some err => w.failed = some err ∧ w.ready = false ∧ w.pushed = []
  | none => w.failed = none ∧ w.ready = true ∧ (w.sawClosed = true ∨ w.signalled = true)

/-- What holds of the world whatever the phases are. -/
structure Sound (w : World) : Prop where
  pushed_received : OneBehind w.pushed w.received
  received_due : OneBehind w.received w.due
  offered_due : OneBehind w.offered w.due
  received_of_closed : w.opChanClosed = true → w.received = w.due
  pushed_of_sawClosed : w.sawClosed = true → w.opChanClosed = true ∧ w.pushed = w.received
  opChanClosed_of_eventsClosed : w.eventsClosed = true → w.opChanClosed = true
  returned : ∀ err, w.exited = some err → Returned w err

section

variable {w : World} {g g' : Phase} {c : Call} {r : Reply c}

/-- An event of another kind asks for nothing. -/
theorem due_other : (w.next .next (.ok .other)).due = w.due := by
  simp [World.due, World.next, ExecutorEvent.operation?]

/-- A lifecycle event asks for one operation more. -/
theorem due_lifecycle (container : Container) :
    (w.next .next (.ok (.lifecycle container))).due =
      w.due ++ [operationFromContainer container.guid] := by
  simp [World.due, World.next, ExecutorEvent.operation?]

/-- A phase is followed by phases of the same goroutine only. -/
theorem owner_next (hallows : g.Allows c) : (g.next c r).owner = g.owner := by
  cases hallows with
  | subscribeToEvents => cases r <;> rfl
  | receive => cases r <;> rfl
  | next => rcases r with err | container | _ <;> rfl
  | _ => rfl

/-- A step of one goroutine leaves alone what the other one relies on. The exception would be
a receive while the goroutine of the stream has nothing on offer, and that is not enabled. -/
theorem Holds.frame (hallows : g.Allows c) (henabled : w.Enabled c r)
    (howner : g.owner ≠ g'.owner) (h : Holds w g') : Holds (w.next c r) g' := by
  cases hallows with
  | receive =>
    cases r with
    | operation op =>
      -- nothing is offered while the goroutine reads or is about to offer
      have hoffered : w.offered = w.received ++ [op] := henabled
      cases g' with
      | reading =>
        obtain ⟨hdue, hreceived, -, -⟩ := h
        rw [hdue, ← hreceived] at hoffered
        simp at hoffered
      | offering op' =>
        obtain ⟨-, hreceived, -, -⟩ := h
        rw [hreceived] at hoffered
        simp at hoffered
      | _ => first | exact absurd rfl howner | exact h
    | closed => cases g' <;> first | exact absurd rfl howner | exact h
    | signalled => cases g' <;> first | exact absurd rfl howner | exact h
  | next =>
    cases r with
    | error err => exact h
    | ok event => cases g' <;> first | exact absurd rfl howner | exact h
  | cutRun => cases r
  | cutStream => cases r
  | _ => cases g' <;> first | exact absurd rfl howner | exact h

/-- What the next phase says, for each call that the phase allows. -/
theorem Holds.next (hs : Sound w) (h : Holds w g) (hallows : g.Allows c)
    (henabled : w.Enabled c r) : Holds (w.next c r) (g.next c r) := by
  cases hallows with
  | subscribeToEvents =>
    obtain ⟨hready, hpushed, hreceived, hexited, hsaw, -⟩ := h
    cases r with
    | none => exact ⟨rfl, hpushed, hexited, hsaw⟩
    | some err => exact ⟨rfl, hready, hpushed, hreceived, hexited, hsaw⟩
  | exitFailed err => trivial
  | goStream => exact h
  | closeReady =>
    obtain ⟨hfailed, hpushed, hexited, hsaw⟩ := h
    exact ⟨hfailed, rfl, hpushed, hexited, hsaw⟩
  | receive =>
    obtain ⟨hfailed, hready, hpushed, hexited, hsaw⟩ := h
    cases r with
    | operation op =>
      have hlast : w.received ++ [op] = w.pushed ++ [op] := by rw [hpushed]
      exact ⟨hfailed, hready, hlast, hexited, hsaw⟩
    | closed => exact ⟨hfailed, hready, hpushed, hexited, .inl rfl⟩
    | signalled => exact ⟨hfailed, hready, hpushed, hexited, .inr rfl⟩
  | push op =>
    obtain ⟨hfailed, hready, hreceived, hexited, hsaw⟩ := h
    exact ⟨hfailed, hready, hreceived.symm, hexited, hsaw⟩
  | exit => trivial
  | cutRun => cases r
  | begin =>
    obtain ⟨hdue, hoffered, hclosed, hevents⟩ := h
    -- nothing was read yet, so nothing was received
    have hreceived : w.received = w.due := by
      rcases hs.received_due with heq | ⟨op, heq⟩
      · exact heq.symm
      · rw [hdue] at heq
        simp at heq
    exact ⟨hoffered.trans hdue.symm, hreceived, hclosed, hevents⟩
  | next =>
    obtain ⟨hoffered, hreceived, hclosed, hevents⟩ := h
    rcases r with err | container | _
    · exact ⟨hoffered, hreceived, hclosed, hevents⟩
    · refine ⟨?_, hreceived.trans hoffered.symm, hclosed, hevents⟩
      rw [due_lifecycle, ← hoffered]
      rfl
    · refine ⟨?_, ?_, hclosed, hevents⟩
      · rw [due_other]
        exact hoffered
      · rw [due_other]
        exact hreceived
  | offer op =>
    obtain ⟨hdue, -, hclosed, hevents⟩ := h
    exact ⟨hdue.symm, hclosed, hevents⟩
  | sent =>
    obtain ⟨hoffered, hclosed, hevents⟩ := h
    exact ⟨hoffered, Eq.trans henabled hoffered, hclosed, hevents⟩
  | closeOpChan =>
    obtain ⟨hoffered, -, -, hevents⟩ := h
    exact ⟨hoffered, rfl, hevents⟩
  | closeEvents => trivial
  | cutStream => cases r

/-- A consumer that has a call to make has not returned. -/
theorem Holds.not_exited (h : Holds w g) (hallows : g.Allows c) (howner : g.owner = .consumer)
    {w' : World} (hsame : w'.exited = w.exited) :
    ∀ err, w'.exited = some err → Returned w' err := by
  have hexited : w.exited = none := by
    cases hallows with
    | subscribeToEvents => exact h.2.2.2.1
    | exitFailed err => exact h.2.2.2.2.1
    | goStream => exact h.2.2.1
    | closeReady => exact h.2.2.1
    | receive => exact h.2.2.2.1
    | push op => exact h.2.2.2.1
    | exit => exact h.2.2.2.1
    | cutRun => exact h.2.2.2.1
    | _ => cases howner
  intro err hsome
  rw [hsame, hexited] at hsome
  cases hsome

/-- **One step keeps the world sound.** A receive is the step to look at: what is offered is
all that was read, so what is received is too. -/
theorem Sound.next (hs : Sound w) (h : Holds w g) (hallows : g.Allows c)
    (henabled : w.Enabled c r) : Sound (w.next c r) := by
  cases hallows with
  | subscribeToEvents =>
    exact { hs with returned := h.not_exited .subscribeToEvents rfl rfl }
  | exitFailed err =>
    obtain ⟨hfailed, hready, hpushed, hreceived, -, -⟩ := h
    refine { hs with returned := ?_ }
    rintro _ ⟨⟩
    exact ⟨hfailed, hready, hpushed.trans hreceived⟩
  | goStream => exact { hs with }
  | closeReady => exact { hs with returned := h.not_exited .closeReady rfl rfl }
  | receive =>
    obtain ⟨-, -, hpushed, -, hsaw⟩ := id h
    cases r with
    | operation op =>
      -- what is offered is all that was read
      have hdue : w.due = w.received ++ [op] :=
        (hs.received_due.eq_of_concat hs.offered_due henabled).trans henabled
      exact { hs with
        pushed_received := .inr ⟨op, congrArg (· ++ [op]) hpushed.symm⟩
        received_due := .inl hdue
        received_of_closed := fun _ => hdue.symm
        pushed_of_sawClosed := fun htrue => by
          rw [show w.sawClosed = true from htrue] at hsaw
          cases hsaw
        returned := h.not_exited .receive rfl rfl }
    | closed =>
      exact { hs with
        pushed_of_sawClosed := fun _ => ⟨henabled, hpushed⟩
        returned := h.not_exited .receive rfl rfl }
    | signalled => exact { hs with returned := h.not_exited .receive rfl rfl }
  | push op =>
    obtain ⟨-, -, hreceived, -, hsaw⟩ := id h
    exact { hs with
      pushed_received := .inl hreceived
      pushed_of_sawClosed := fun htrue => by
        rw [show w.sawClosed = true from htrue] at hsaw
        cases hsaw
      returned := h.not_exited (.push op) rfl rfl }
  | exit =>
    obtain ⟨hfailed, hready, -, -, hend⟩ := h
    refine { hs with returned := ?_ }
    rintro _ ⟨⟩
    exact ⟨hfailed, hready, hend⟩
  | cutRun => cases r
  | begin => exact hs
  | next =>
    obtain ⟨hoffered, hreceived, hclosed, -⟩ := h
    rcases r with err | container | _
    · exact hs
    · have hdue := due_lifecycle (w := w) container
      exact { hs with
        received_due := by
          rw [hdue, ← hreceived]
          exact OneBehind.concat _ _
        offered_due := by
          rw [hdue, ← hoffered]
          exact OneBehind.concat _ _
        received_of_closed := fun htrue => by
          rw [show w.opChanClosed = true from htrue] at hclosed
          cases hclosed }
    · have hdue := due_other (w := w)
      exact { hs with
        received_due := by
          rw [hdue]
          exact hs.received_due
        offered_due := by
          rw [hdue]
          exact hs.offered_due
        received_of_closed := fun htrue => by
          rw [hdue]
          exact hs.received_of_closed htrue }
  | offer op =>
    obtain ⟨hdue, -, -, -⟩ := h
    exact { hs with offered_due := .inl hdue }
  | sent => exact hs
  | closeOpChan =>
    obtain ⟨-, hreceived, -, -⟩ := h
    exact { hs with
      received_of_closed := fun _ => hreceived
      pushed_of_sawClosed := fun hsaw => ⟨rfl, (hs.pushed_of_sawClosed hsaw).2⟩
      opChanClosed_of_eventsClosed := fun _ => rfl }
  | closeEvents =>
    obtain ⟨-, hclosed, -⟩ := h
    exact { hs with opChanClosed_of_eventsClosed := fun _ => hclosed }
  | cutStream => cases r

end

/-- The contract between the two goroutines: each phase has one owner. -/
def contract : Contract system Phase where
  spec := protocol
  init := Phase.init
  inv := Sound
  holds := Holds
  compat g g' := g.owner ≠ g'.owner
  compat_symm := Ne.symm
  env_ok _ h := h.elim
  spawn_ok _ h := h.elim
  act_ok := by
    rintro w g c r _ hs h hallows ⟨henabled, rfl⟩
    refine ⟨trivial, hs.next h hallows henabled, h.next hs hallows henabled, ?_⟩
    intro g' hg' howner
    refine ⟨hg'.frame hallows henabled howner, ?_⟩
    rw [show (protocol.next g c r).owner = g.owner from owner_next hallows]
    exact howner

/-- The invariant holds in the beginning, all counts being zero. -/
theorem sound_initial : Sound .initial :=
  ⟨.refl _, .refl _, .refl _, nofun, nofun, nofun, nofun⟩

/-- Both goroutines are in their first phases, and these have different owners. -/
theorem meets_start (fuel : Role → ℕ) : contract.Meets (start fuel) := by
  refine ⟨sound_initial, ?_, ?_⟩
  · intro th hth
    rcases List.mem_pair.mp hth with rfl | rfl
    · exact ⟨⟨rfl, rfl, rfl, rfl, rfl, rfl⟩, wp_prog fuel .consumer⟩
    · exact ⟨⟨rfl, rfl, rfl, rfl⟩, wp_prog fuel .stream⟩
  · exact List.pairwise_pair.mpr Role.noConfusion

section

variable {fuel : Role → ℕ} {cfg : Config Call Reply World Role}

/-- **No lifecycle event is lost, repeated or overtaken on its way to the queue.** However
the two goroutines interleave, the queue has been given the operations of the lifecycle
events read so far, in their order, up to two that are still on their way; and when the
consumer has seen the stream closed, all of them. -/
theorem events_reach_the_queue_in_order (h : system.Reachable (start fuel) cfg) :
    cfg.world.pushed <+: cfg.world.events.filterMap ExecutorEvent.operation? ∧
      (cfg.world.events.filterMap ExecutorEvent.operation?).length ≤ cfg.world.pushed.length + 2 ∧
      (cfg.world.sawClosed = true →
        cfg.world.pushed = cfg.world.events.filterMap ExecutorEvent.operation?) := by
  have hs : Sound cfg.world := ((meets_start fuel).run h).inv
  refine ⟨hs.pushed_received.isPrefixOf.trans hs.received_due.isPrefixOf, ?_, ?_⟩
  · have hpushed := hs.pushed_received.length_le
    have hreceived := hs.received_due.length_le
    rw [World.due] at hreceived
    omega
  · intro hsaw
    obtain ⟨hclosed, hpushed⟩ := hs.pushed_of_sawClosed hsaw
    exact hpushed.trans (hs.received_of_closed hclosed)

end

/-- One pending call is answered, and the run goes on from there: for building a run step by
step. -/
theorem answer {w : World} {role : Role} {past : List (Event Call Reply)} {c : Call}
    {k : Reply c → StreamM Unit} {cfg : Config Call Reply World Role}
    (ts₁ ts₂ : List (Thread Call Reply Role)) (r : Reply c) (henabled : w.Enabled c r)
    (h : system.Reachable ⟨w.next c r, ts₁ ++ ⟨role, past ++ [⟨c, r⟩], k r⟩ :: ts₂⟩ cfg) :
    system.Reachable ⟨w, ts₁ ++ ⟨role, past, .call c k⟩ :: ts₂⟩ cfg :=
  .head (.act ts₁ ts₂ ⟨henabled, rfl⟩) h

/-- A container of the given guid. -/
def containerOf (guid : String) : Container :=
  Executor.AllocationRequest.container ⟨guid, ⟨0, 0, 0, ""⟩, none⟩

/-- Two events are read while the consumer has not pushed the first one. -/
def twoBehind : World :=
  { World.initial with
    events := [.lifecycle (containerOf "first"), .other, .lifecycle (containerOf "second")]
    offered := [.container "first", .container "second"]
    streaming := true
    ready := true
    received := [.container "first"] }

/-- One operation has been received and not pushed, the next one is on offer. -/
theorem reachable_twoBehind : ∃ ts, system.Reachable (start fun _ => 3) ⟨twoBehind, ts⟩ := by
  exact ⟨_, answer [] _ none trivial <| answer [] _ () trivial <| answer [] _ () trivial <|
    answer [_] _ () rfl <| answer [_] _ (.ok (.lifecycle (containerOf "first"))) trivial <|
    answer [_] _ () trivial <| answer [] _ (.operation (.container "first")) rfl <|
    answer [_] _ () rfl <| answer [_] _ (.ok .other) trivial <|
    answer [_] _ (.ok (.lifecycle (containerOf "second"))) trivial <|
    answer [_] _ () trivial .refl⟩

/-- The bound of two is reached: one event is held by each goroutine. -/
theorem twoBehind_in_order :
    twoBehind.pushed <+: twoBehind.events.filterMap ExecutorEvent.operation? ∧
      (twoBehind.events.filterMap ExecutorEvent.operation?).length =
        twoBehind.pushed.length + 2 := by
  obtain ⟨ts, hrun⟩ := reachable_twoBehind
  exact ⟨(events_reach_the_queue_in_order hrun).1, rfl⟩

section

variable {fuel : Role → ℕ} {cfg : Config Call Reply World Role}

end

end EventStream

end CellRep
