import CellRep.Evacuator

/-!
# The evacuation context

`evacuationContext` (`evacuation/evacuation_context/evacuation_context.go`) is a channel
that is closed once, with a mutex around the closing. `Evacuator` takes its methods to be
atomic. Here they are taken apart into their steps on the mutex and on the channel, and any
number of callers runs them interleaved: `Evacuate` can be overtaken between its look at the
channel and the closing.

The fine history is mapped to one of atomic calls. A method takes effect at one of its own
steps: `Evacuate` where it closes the channel or finds it closed, `Evacuating` and a receive
from the channel of `EvacuateNotify` at their only step. That the mapped history is one the
evacuator's world allows is what makes the atomic model right.
-/

namespace CellRep

namespace EvacuationContext

/-! ## The methods

Each operation on the mutex or on the channel is a step. A select with a default branch is one
step that never blocks; a receive blocks until the channel is closed. -/

/-- The steps on the mutex and on the channel `evacuated`. -/
inductive Call : Type where
  | lock
  | unlock
  /-- the select of `Evacuate` -/
  | selectEvacuated
  | closeEvacuated
  /-- the select of `Evacuating` -/
  | pollEvacuated
  /-- a receive from the channel that `EvacuateNotify` returns -/
  | receiveEvacuated
  deriving DecidableEq

/-- What each step is answered with: a select tells whether the channel was closed. -/
@[reducible] def Reply : Call → Type
  | .selectEvacuated => Bool
  | .pollEvacuated => Bool
  | _ => Unit

/-- The methods as programs of such steps. -/
abbrev ContextM : Type → Type := Prog Call Reply

@[simp] def lock : ContextM Unit := Prog.call .lock Prog.ret

@[simp] def unlock : ContextM Unit := Prog.call .unlock Prog.ret

@[simp] def selectEvacuated : ContextM Bool := Prog.call .selectEvacuated Prog.ret

@[simp] def closeEvacuated : ContextM Unit := Prog.call .closeEvacuated Prog.ret

@[simp] def pollEvacuated : ContextM Bool := Prog.call .pollEvacuated Prog.ret

@[simp] def receiveEvacuated : ContextM Unit := Prog.call .receiveEvacuated Prog.ret

/-- `evacuationContext.Evacuate`. The deferred unlock is its last step. -/
def evacuate : ContextM Unit := do
  lock
  match ← selectEvacuated with
  | true => unlock
  | false =>
    closeEvacuated
    unlock

/-- `evacuationContext.Evacuating`: it takes no mutex and is one step. -/
def evacuating : ContextM Bool := pollEvacuated

/-- A receiver of `evacuationContext.EvacuateNotify`. The method itself only returns the
channel. -/
def evacuateNotify : ContextM Unit := receiveEvacuated

/-! ## Any number of callers

The context is shared by all of them, and its whole state can be read off the journal: whether
the channel was closed, and whether the mutex is held. -/

/-- Which method a thread calls; any number of threads may call the same one. -/
inductive Role : Type where
  | evacuate : Role
  | evacuating : Role
  | evacuateNotify : Role
  deriving DecidableEq

/-- What a thread runs. What `Evacuating` returned is in the journal. -/
def prog : Role → ContextM Unit
  | .evacuate => evacuate
  | .evacuating => do
    let _ ← evacuating
    return ()
  | .evacuateNotify => evacuateNotify

/-- What happened so far: nothing happens but the steps. -/
abbrev World : Type := Journal Call Reply Empty

/-- An entry of the journal, which is always an answered step. -/
abbrev Entry : Type := Event Call Reply ⊕ Empty

/-- The channel is closed by this step. A second such step is a panic of the program. -/
def isClose : Entry → Bool
  | .inl ⟨.closeEvacuated, _⟩ => true
  | _ => false

/-- The channel is closed, which it stays. -/
def Closed (w : World) : Bool := w.any isClose

/-- The mutex after one more step, whoever makes it. -/
def lockNext (locked : Bool) : Entry → Bool
  | .inl ⟨.lock, _⟩ => true
  | .inl ⟨.unlock, _⟩ => false
  | _ => locked

/-- The mutex is held: it was locked and not unlocked since. -/
def Locked (w : World) : Bool := w.foldl lockNext false

/-- Which reply can be given when. Nothing keeps a caller from closing the channel again. -/
def Enabled (w : World) : (c : Call) → Reply c → Prop
  | .lock, _ => Locked w = false
  | .selectEvacuated, closed => closed = Closed w
  | .pollEvacuated, closed => closed = Closed w
  | .receiveEvacuated, _ => Closed w = true
  | _, _ => True

/-- The context and its callers, any number of them on either interface. -/
def system : System Call Reply World Role := System.journal Role Enabled nofun

/-- A new context and its callers before their first step: open, and not locked. -/
def start (roles : List Role) : Config Call Reply World Role :=
  ⟨[], roles.map fun role => ⟨role, [], prog role⟩⟩

section

variable {w : World} {x : Entry}

@[simp] theorem closed_concat : Closed (w ++ [x]) = (Closed w || isClose x) := by
  simp [Closed]

@[simp] theorem locked_concat : Locked (w ++ [x]) = lockNext (Locked w) x := by
  simp [Locked]

end

/-! ## The mutex

One caller at a time is between `Lock` and `Unlock`, so what it has seen of the channel stays
true until it acts on it. The contract of the pool is about just that: two callers are
compatible unless both are inside. -/

/-- Where a caller is. The phases between `Lock` and `Unlock` say what is known of the
channel. -/
inductive Phase : Type where
  /-- `Evacuate` has not got the mutex -/
  | waiting : Phase
  | holding : Phase
  /-- the select took the default branch -/
  | sawOpen : Phase
  /-- the channel is closed, the mutex is still held -/
  | leaving : Phase
  | returned : Phase
  /-- `Evacuating` or a receiver -/
  | reader : Phase
  deriving DecidableEq

namespace Phase

/-- The phase a caller begins in. -/
def init : Role → Phase
  | .evacuate => .waiting
  | _ => .reader

/-- Between `Lock` and `Unlock`: where a caller may look at the channel. -/
def Inside : Phase → Prop
  | .holding => True
  | .sawOpen => True
  | .leaving => True
  | _ => False

/-- What a phase allows: one step each, apart from the readers. -/
inductive Allows : Phase → Call → Prop where
  | lock : Allows .waiting .lock
  | select : Allows .holding .selectEvacuated
  | close : Allows .sawOpen .closeEvacuated
  | unlock : Allows .leaving .unlock
  | poll : Allows .reader .pollEvacuated
  | receive : Allows .reader .receiveEvacuated

/-- The phase after an answered step. What the select has seen decides which way it goes. -/
def next (g : Phase) : (c : Call) → Reply c → Phase
  | .lock, _ => .holding
  | .selectEvacuated, true => .leaving
  | .selectEvacuated, false => .sawOpen
  | .closeEvacuated, _ => .leaving
  | .unlock, _ => .returned
  | _, _ => g

end Phase

/-- The order of the steps as a ghost specification. -/
def protocol : Spec Call Reply Phase where
  pre := Phase.Allows
  ans _ _ _ := True
  next := Phase.next

/-- `Evacuate` goes through its phases to the end, on either branch of the select. -/
theorem wp_evacuate : evacuate.wp protocol (fun g _ => g = .returned) .waiting := by
  refine ⟨.lock, fun _ _ => ⟨.select, ?_⟩⟩
  rintro (_ | _) -
  · exact ⟨.close, fun _ _ => ⟨.unlock, fun _ _ => rfl⟩⟩
  · exact ⟨.unlock, fun _ _ => rfl⟩

/-- Every caller keeps to the order of the steps. -/
theorem wp_prog (role : Role) : (prog role).wp protocol (fun _ _ => True) (.init role) := by
  cases role with
  | evacuate => exact Prog.wp_mono (fun _ _ _ => trivial) wp_evacuate
  | evacuating => exact ⟨.poll, fun _ _ => trivial⟩
  | evacuateNotify => exact ⟨.receive, fun _ _ => trivial⟩

/-- What a phase says about the journal. A caller that has returned still knows the channel to
be closed. -/
def Holds (w : World) : Phase → Prop
  | .holding => Locked w = true
  | .sawOpen => Locked w = true ∧ Closed w = false
  | .leaving => Locked w = true ∧ Closed w = true
  | .returned => Closed w = true
  | _ => True

/-- Whoever is inside knows the mutex to be held. -/
theorem Holds.locked {w : World} {g : Phase} (h : Holds w g) (hg : g.Inside) :
    Locked w = true := by
  cases g with
  | holding => exact h
  | sawOpen => exact h.1
  | leaving => exact h.1
  | _ => exact hg.elim

/-- A step that leaves the channel and the mutex alone leaves every phase true. -/
theorem Holds.of_same {w w' : World} {g : Phase} (h : Holds w g) (hlocked : Locked w' = Locked w)
    (hclosed : Closed w' = Closed w) : Holds w' g := by
  cases g <;> simp only [Holds, hlocked, hclosed] at h ⊢ <;> exact h

/-- A caller outside the mutex relies only on what stays closed. -/
theorem Holds.of_outside {w w' : World} {g : Phase} (h : Holds w g) (hg : ¬ g.Inside)
    (hclosed : Closed w = true → Closed w' = true) : Holds w' g := by
  cases g with
  | waiting => trivial
  | reader => trivial
  | returned => exact hclosed h
  | _ => exact absurd trivial hg

/-- What each step relied on. For the closing this is that the channel was open, which is what
keeps the program from a panic. -/
def Licence (w : World) : Entry → Prop
  | .inl ⟨.selectEvacuated, closed⟩ => closed = Closed w
  | .inl ⟨.closeEvacuated, _⟩ => Closed w = false
  | .inl ⟨.pollEvacuated, closed⟩ => closed = Closed w
  | .inl ⟨.receiveEvacuated, _⟩ => Closed w = true
  | _ => True

/-- The contract among all callers. The interesting steps are those on the mutex and the
closing: what is known to somebody inside must not be changed by anybody else. -/
def contract : Contract system Phase where
  spec := protocol
  init := Phase.init
  inv := Every Licence
  holds := Holds
  compat g g' := ¬ (g.Inside ∧ g'.Inside)
  compat_symm h := fun hg => h hg.symm
  env_ok := by
    rintro w _ _ ⟨x, -, -⟩
    cases x
  spawn_ok _ h := h.elim
  act_ok := by
    rintro w g c r _ hw h hallows ⟨henabled, rfl⟩
    refine ⟨trivial, ?_⟩
    cases hallows with
    | lock =>
      refine ⟨every_concat.mpr ⟨hw, trivial⟩, by simp [protocol, Phase.next, Holds, lockNext], ?_⟩
      intro g' hg' _
      -- nobody else is inside: the mutex was free
      have hout : ¬ g'.Inside := fun hin => by
        have hlocked := hg'.locked hin
        rw [show Locked w = false from henabled] at hlocked
        cases hlocked
      exact ⟨hg'.of_outside hout fun hclosed => by simp [hclosed], fun hin => hout hin.2⟩
    | select =>
      refine ⟨every_concat.mpr ⟨hw, henabled⟩, ?_, ?_⟩
      · have hlocked : Locked w = true := h
        have hclosed : Closed w = r := Eq.symm henabled
        cases r with
        | false => exact ⟨by simp [lockNext, hlocked], by simp [isClose, hclosed]⟩
        | true => exact ⟨by simp [lockNext, hlocked], by simp [hclosed]⟩
      · intro g' hg' hcompat
        exact ⟨hg'.of_same (by simp [lockNext]) (by simp [isClose]),
          fun hin => hcompat ⟨trivial, hin.2⟩⟩
    | close =>
      refine ⟨every_concat.mpr ⟨hw, h.2⟩, ⟨by simp [lockNext, h.1], by simp [isClose]⟩, ?_⟩
      intro g' hg' hcompat
      exact ⟨hg'.of_outside (fun hin => hcompat ⟨trivial, hin⟩) fun hclosed => by simp [hclosed],
        fun hin => hcompat ⟨trivial, hin.2⟩⟩
    | unlock =>
      refine ⟨every_concat.mpr ⟨hw, trivial⟩,
        by simpa [protocol, Phase.next, Holds] using .inl h.2, ?_⟩
      intro g' hg' hcompat
      exact ⟨hg'.of_outside (fun hin => hcompat ⟨trivial, hin⟩) fun hclosed => by simp [hclosed],
        fun hin => hin.1.elim⟩
    | poll =>
      exact ⟨every_concat.mpr ⟨hw, henabled⟩, trivial, fun g' hg' _ =>
        ⟨hg'.of_same (by simp [lockNext]) (by simp [isClose]), fun hin => hin.1.elim⟩⟩
    | receive =>
      exact ⟨every_concat.mpr ⟨hw, henabled⟩, trivial, fun g' hg' _ =>
        ⟨hg'.of_same (by simp [lockNext]) (by simp [isClose]), fun hin => hin.1.elim⟩⟩

/-- A new context meets the contract, nobody being inside. -/
theorem meets_start (roles : List Role) : contract.Meets (start roles) := by
  refine ⟨every_nil, ?_, ?_⟩
  · intro th hth
    obtain ⟨role, -, rfl⟩ := List.mem_map.mp hth
    refine ⟨?_, wp_prog role⟩
    cases role <;> trivial
  · -- nobody has the mutex yet
    refine List.pairwise_of_forall_mem_list ?_
    rintro th hth th' -
    obtain ⟨role, -, rfl⟩ := List.mem_map.mp hth
    rintro ⟨hin, -⟩
    cases role <;> exact hin

/-! ## The atomic history

The map from the fine history to the atomic one keeps the steps at which something takes
effect and forgets the others. Order is preserved, so an atomic call stands at the place of
one of the steps that make it up. -/

/-- The atomic call that takes effect at this step, if any does. The select of `Evacuate` has
an effect only if it finds the channel closed; otherwise the closing is yet to come. -/
def effect : Event Call Reply → Option Evacuator.Entry
  | ⟨.selectEvacuated, true⟩ => some (.inl ⟨.evacuate, ()⟩)
  | ⟨.closeEvacuated, _⟩ => some (.inl ⟨.evacuate, ()⟩)
  | ⟨.pollEvacuated, closed⟩ => some (.inl ⟨.rep .evacuating, closed⟩)
  | ⟨.receiveEvacuated, _⟩ => some (.inl ⟨.awaitNotice, .notified⟩)
  | _ => none

/-- The calls of the evacuator's world that a fine history stands for. -/
def history (w : World) : Evacuator.World :=
  (w.filterMap Sum.getLeft?).filterMap effect

/-- The history grows by the effect of the step. -/
theorem history_concat (w : World) (e : Event Call Reply) :
    history (w ++ [.inl e]) = history w ++ (effect e).toList := by
  simp [history, List.filterMap_cons]
  cases effect e <;> rfl

/-- **Simulation**: the atomic context is set when the channel is closed, and every atomic
call is answered as the evacuator's world answers it. -/
theorem history_permitted {w : World} (h : Every Licence w) :
    Evacuator.Evacuating (history w) = Closed w ∧
      Every (Permitted Evacuator.Enabled nofun) (history w) := by
  -- along the journal: the abstract flag is set exactly when the channel is closed, and each
  -- abstract event is possible at its point
  induction w using List.reverseRecOn with
  | nil => exact ⟨rfl, every_nil⟩
  | append_singleton w x ih =>
    obtain ⟨hw, hx⟩ := every_concat.mp h
    obtain ⟨hset, hpermitted⟩ := ih hw
    rcases x with ⟨c, r⟩ | ⟨⟨⟩⟩
    rw [history_concat, closed_concat]
    cases c with
    | lock => simpa [effect, isClose] using ⟨hset, hpermitted⟩
    | unlock => simpa [effect, isClose] using ⟨hset, hpermitted⟩
    | selectEvacuated =>
      cases r with
      | false => simpa [effect, isClose] using ⟨hset, hpermitted⟩
      | true =>
        -- a second `Evacuate` finds the channel closed, and sets a flag that is set
        have hclosed : Closed w = true := Eq.symm hx
        exact ⟨by simp [effect, Evacuator.Evacuating, Evacuator.isEvacuate, hclosed],
          every_concat.mpr ⟨hpermitted, trivial⟩⟩
    | closeEvacuated =>
      exact ⟨by simp [effect, Evacuator.Evacuating, Evacuator.isEvacuate, isClose],
        every_concat.mpr ⟨hpermitted, trivial⟩⟩
    | pollEvacuated =>
      refine ⟨?_, every_concat.mpr ⟨hpermitted, ?_⟩⟩
      · simpa [effect, Evacuator.Evacuating, Evacuator.isEvacuate, isClose] using hset
      · exact Eq.trans hx hset.symm
    | receiveEvacuated =>
      refine ⟨?_, every_concat.mpr ⟨hpermitted, ?_⟩⟩
      · simpa [effect, Evacuator.Evacuating, Evacuator.isEvacuate, isClose] using hset
      · exact Eq.trans hset hx

/-! ## The runs of `Evacuate`

What is still to be shown is about single callers: that each `Evacuate` has its effect once,
and that none of them waits for ever. -/

/-- A finished `Evacuate` has taken effect exactly once. -/
theorem effects_of_trace {past : List (Event Call Reply)} (h : evacuate.Trace past ()) :
    past.filterMap effect = [.inl ⟨.evacuate, ()⟩] := by
  obtain ⟨_, _, rfl, hselect⟩ := Prog.trace_call.mp h
  obtain ⟨closed, _, rfl, hrest⟩ := Prog.trace_call.mp hselect
  cases closed with
  | true =>
    obtain ⟨_, _, rfl, hend⟩ := Prog.trace_call.mp hrest
    obtain ⟨rfl, -⟩ := Prog.trace_ret.mp hend
    rfl
  | false =>
    obtain ⟨_, _, rfl, hunlock⟩ := Prog.trace_call.mp hrest
    obtain ⟨_, _, rfl, hend⟩ := Prog.trace_call.mp hunlock
    obtain ⟨rfl, -⟩ := Prog.trace_ret.mp hend
    rfl

/-- Nothing is expected of the replies, so all histories are answered as expected. -/
theorem answered_protocol (g : Phase) (t : List (Event Call Reply)) : protocol.Answered g t :=
  Spec.answered_of_mem (fun _ _ _ => trivial) g

/-- A finished `Evacuate` has left the mutex, by its protocol. -/
theorem phase_of_trace {past : List (Event Call Reply)} (h : evacuate.Trace past ()) :
    protocol.after .waiting past = .returned :=
  (Prog.wp_sound wp_evacuate h (answered_protocol _ _)).1

/-- Only callers of `Evacuate` enter the mutex; the other two have one step, which is another. -/
theorem label_of_inside {role : Role} {past : List (Event Call Reply)} {rest : ContextM Unit}
    (h : (prog role).Path past rest) (hin : (protocol.after (.init role) past).Inside) :
    role = .evacuate := by
  cases role with
  | evacuate => rfl
  | evacuating =>
    cases h with
    | nil => exact hin.elim
    | call r h =>
      cases h
      exact hin.elim
  | evacuateNotify =>
    cases h with
    | nil => exact hin.elim
    | call r h =>
      cases h
      exact hin.elim

/-- A caller of `Evacuate` does not become a reader. -/
theorem phase_ne_reader (past : List (Event Call Reply)) :
    protocol.after .waiting past ≠ .reader := by
  refine Spec.after_keeps (S := protocol) (I := fun g => g ≠ Phase.reader) ?_ past (by decide)
  rintro g (_ | _ | _ | _ | _ | _) r hg
  · exact Phase.noConfusion
  · exact Phase.noConfusion
  · cases r <;> exact Phase.noConfusion
  · exact Phase.noConfusion
  · exact hg
  · exact hg

/-- The only step of `Evacuate` that can be blocked is the one that takes the mutex. -/
theorem exists_enabled {g : Phase} {c : Call} {w : World} (hreader : g ≠ .reader)
    (hallows : g.Allows c) (hfree : ¬ g.Inside → Locked w = false) : ∃ r, Enabled w c r := by
  cases hallows with
  | lock => exact ⟨(), hfree id⟩
  | select => exact ⟨Closed w, rfl⟩
  | close => exact ⟨(), trivial⟩
  | unlock => exact ⟨(), trivial⟩
  | poll => exact absurd rfl hreader
  | receive => exact absurd rfl hreader

/-- Who is inside stays there until the mutex is released. -/
theorem inside_next {g : Phase} {c : Call} (hallows : g.Allows c) {r : Reply c} {locked : Bool}
    (hlocked : lockNext locked (.inl ⟨c, r⟩) = true) :
    (g.next c r).Inside ∨ locked = true ∧ ¬ g.Inside := by
  cases hallows with
  | lock => exact .inl trivial
  | select => cases r <;> exact .inl trivial
  | close => exact .inl trivial
  | unlock => cases hlocked
  | poll => exact .inr ⟨hlocked, id⟩
  | receive => exact .inr ⟨hlocked, id⟩

section

variable {roles : List Role} {cfg : Config Call Reply World Role}

/-- While the mutex is held there is somebody who holds it. The mutex is only a flag in the
journal, so this needs an induction over the run. -/
theorem exists_inside (h : system.Reachable (start roles) cfg) (hlocked : Locked cfg.world = true) :
    ∃ th ∈ cfg.threads, (contract.ghost th).Inside := by
  induction h with
  | refl => cases hlocked
  | @tail b c hb hs ih =>
    have hmeets := (meets_start roles).run hb
    cases hs with
    | env henv =>
      obtain ⟨x, -, -⟩ := henv
      cases x
    | spawn hspawn => exact hspawn.elim
    | @act w w' l past c k r ts₁ ts₂ hact =>
      obtain ⟨-, rfl⟩ := hact
      have hallows := hmeets.licensed (List.mem_append_right ts₁ (List.mem_cons_self ..)) rfl
      rw [locked_concat] at hlocked
      rcases inside_next hallows hlocked with hin | ⟨hbefore, hout⟩
      · refine ⟨⟨l, past ++ [⟨c, r⟩], k r⟩, by simp, ?_⟩
        rw [contract.ghost_concat l past c r _ (.call c k)]
        exact hin
      · -- the holder is somebody else, and still there
        obtain ⟨th, hth, hin⟩ := ih hbefore
        rcases System.mem_answered ⟨l, past ++ [⟨c, r⟩], k r⟩ hth with rfl | hth
        · exact absurd hin hout
        · exact ⟨th, hth, hin⟩

/-- **`Evacuate` is atomic and harmless to repeat.** Whatever callers run and however their
steps interleave, the channel is closed at most once, the history of the context is one that
the evacuator's world allows of atomic calls, and each `Evacuate` that has returned has
taken effect exactly once in it, with the context set from then on. -/
theorem evacuate_is_atomic (h : system.Reachable (start roles) cfg) :
    cfg.world.countP isClose ≤ 1 ∧
      Every (Permitted Evacuator.Enabled nofun) (history cfg.world) ∧
      Evacuator.Evacuating (history cfg.world) = Closed cfg.world ∧
      ∀ th ∈ cfg.threads, th.label = .evacuate → th.rest = .ret () →
        th.past.filterMap effect = [.inl ⟨.evacuate, ()⟩] ∧
          Evacuator.Evacuating (history cfg.world) = true := by
  have hmeets := (meets_start roles).run h
  obtain ⟨hset, hpermitted⟩ := history_permitted hmeets.inv
  refine ⟨countP_le_one_of_every hmeets.inv ?_, hpermitted, hset, ?_⟩
  · rintro w (⟨c, r⟩ | ⟨⟨⟩⟩) hlicence hclose
    cases c with
    | closeEvacuated => exact hlicence
    | _ => cases hclose
  · rintro ⟨label, past, rest⟩ hth hlabel hrest
    cases hlabel
    cases hrest
    have htrace : evacuate.Trace past () := (System.Reachable.on_path h _ hth).1.trace
    refine ⟨effects_of_trace htrace, ?_⟩
    have hholds := (hmeets.keeps _ hth).1
    rw [show contract.ghost ⟨.evacuate, past, .ret ()⟩ = .returned from phase_of_trace htrace]
      at hholds
    exact hset.trans hholds

end

/-- Two calls of `Evacuate` have returned. A reader came between the first one's look at the
channel and its closing. -/
def sampleConfig : Config Call Reply World Role :=
  ⟨[.inl ⟨.lock, ()⟩, .inl ⟨.selectEvacuated, false⟩, .inl ⟨.pollEvacuated, false⟩,
      .inl ⟨.closeEvacuated, ()⟩, .inl ⟨.unlock, ()⟩, .inl ⟨.lock, ()⟩,
      .inl ⟨.selectEvacuated, true⟩, .inl ⟨.unlock, ()⟩],
    [⟨.evacuate, [⟨.lock, ()⟩, ⟨.selectEvacuated, false⟩, ⟨.closeEvacuated, ()⟩, ⟨.unlock, ()⟩],
        .ret ()⟩,
      ⟨.evacuate, [⟨.lock, ()⟩, ⟨.selectEvacuated, true⟩, ⟨.unlock, ()⟩], .ret ()⟩,
      ⟨.evacuating, [⟨.pollEvacuated, false⟩], .ret ()⟩]⟩

/-- The steps of the three callers, one after the other as in the journal. -/
theorem reachable_sampleConfig :
    system.Reachable (start [.evacuate, .evacuate, .evacuating]) sampleConfig := by
  refine System.Reachable.answer [] _ () rfl ?_
  refine System.Reachable.answer [] _ false rfl ?_
  refine System.Reachable.answer [_, _] _ false rfl ?_
  refine System.Reachable.answer [] _ () trivial ?_
  refine System.Reachable.answer [] _ () trivial ?_
  refine System.Reachable.answer [_] _ () rfl ?_
  refine System.Reachable.answer [_] _ true rfl ?_
  refine System.Reachable.answer [_] _ () trivial ?_
  exact .refl

/-- Both calls took effect, and the channel was closed by one of them only. -/
theorem sampleConfig_is_atomic :
    sampleConfig.world.countP isClose = 1 ∧
      (history sampleConfig.world).countP Evacuator.isEvacuate = 2 ∧
      Every (Permitted Evacuator.Enabled nofun) (history sampleConfig.world) :=
  ⟨rfl, rfl, (evacuate_is_atomic reachable_sampleConfig).2.1⟩

section

variable {roles : List Role} {cfg : Config Call Reply World Role}

/-- **No caller of `Evacuate` is left behind**: as long as one has not returned, one of them
can take its next step. -/
theorem evacuate_is_never_stuck (h : system.Reachable (start roles) cfg)
    {th : Thread Call Reply Role} (hth : th ∈ cfg.threads) (hlabel : th.label = .evacuate)
    (hpending : th.rest ≠ .ret ()) :
    ∃ th' ∈ cfg.threads, th'.label = .evacuate ∧
      ∃ c k, th'.rest = .call c k ∧ ∃ r, Enabled cfg.world c r := by
  have hmeets := (meets_start roles).run h
  have hpaths := System.Reachable.on_path h
  -- it is enough to find one that has not returned and does not wait for the mutex
  suffices hfind : ∃ th' ∈ cfg.threads, th'.label = .evacuate ∧ th'.rest ≠ .ret () ∧
      (¬ (contract.ghost th').Inside → Locked cfg.world = false) by
    obtain ⟨⟨label, past, rest⟩, hmem, hevacuate, hrest, hfree⟩ := hfind
    cases hevacuate
    cases rest with
    | ret u => exact absurd rfl hrest
    | call c k =>
      exact ⟨_, hmem, rfl, c, k, rfl,
        exists_enabled (phase_ne_reader past) (hmeets.licensed hmem rfl) hfree⟩
  by_cases hlocked : Locked cfg.world = true
  · obtain ⟨⟨label, past, rest⟩, hholder, hin⟩ := exists_inside h hlocked
    have hpath := (hpaths _ hholder).1
    have hevacuate := label_of_inside hpath hin
    refine ⟨_, hholder, hevacuate, ?_, fun hout => absurd hin hout⟩
    -- who has returned is not inside
    rintro hret
    cases hret
    cases hevacuate
    have hreturned : contract.ghost ⟨.evacuate, past, .ret ()⟩ = .returned :=
      phase_of_trace hpath.trace
    rw [hreturned] at hin
    exact hin
  · exact ⟨th, hth, hlabel, hpending, fun _ => by simpa using hlocked⟩

end

/-- The second call waits for the mutex, and the first one can go on. -/
theorem waiting_call_is_not_stuck : ∃ cfg : Config Call Reply World Role,
    cfg.world = [.inl ⟨.lock, ()⟩] ∧ ∃ th' ∈ cfg.threads, th'.label = .evacuate ∧
      ∃ c k, th'.rest = .call c k ∧ ∃ r, Enabled cfg.world c r := by
  have hrun : system.Reachable (start [.evacuate, .evacuate])
      ⟨[.inl ⟨.lock, ()⟩], [⟨.evacuate, [⟨.lock, ()⟩], _⟩, ⟨.evacuate, [], evacuate⟩]⟩ :=
    System.Reachable.answer [] _ () rfl .refl
  exact ⟨_, rfl,
    evacuate_is_never_stuck hrun (List.mem_cons_of_mem _ (List.mem_cons_self ..)) rfl nofun⟩

end EvacuationContext

end CellRep
