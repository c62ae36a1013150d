import CellRep.Calls

/-!
# The container delegate

`container_delegate.go`: the executor's client with its errors turned into booleans.
Two things hide here. Every error of `GetContainer` reads as "not there", and a
failed `RunContainer` deletes the container before it reports the failure.

Each function has its rules next to it, for traces and for ghost specifications; later
proofs use the rules and do not look inside.
-/

namespace CellRep

open Executor (Container RunRequest)

/-- `MAX_RESULT_SIZE`: ten kilobytes. One byte more is read, by which a larger file is
noticed. -/
def maxResultSize : ℕ := 1024 * 10

/-- `ErrResultFileTooLarge`, with the limit in its text. -/
def errResultFileTooLarge : Err :=
  .text s!"result file is too large (over {maxResultSize} bytes)"

namespace Delegate

universe u

variable {γ : Type u} {S : Spec Call Reply γ} {g : γ}

/-- `containerDelegate.GetContainer`: `none` stands for `false`. The error itself is dropped
here, so no caller can tell a container that is gone from an executor that does not answer. -/
def getContainer (guid : String) : RepM (Option Container) := do
  match ← Client.getContainer guid with
  | .error _ => return none
  | .ok container => return some container

/-- One call, and every error is the same to the caller. -/
theorem trace_getContainer {guid : String} {t : List RepEvent} {found : Option Container} :
    (getContainer guid).Trace t found ↔
      ∃ r : Except Err Container, t = [⟨.getContainer guid, r⟩] ∧ found = r.toOption := by
  simp only [getContainer, Client.getContainer, Prog.call_bind, Prog.ret_bind, Prog.trace_call]
  apply exists_congr
  intro r
  cases r with
  | error err => simp [Except.toOption]
  | ok container => simp [Except.toOption]

/-- The rule for a look: any reply has to be prepared for, and the postcondition sees what is
left of it. -/
@[simp] theorem wp_getContainer {guid : String} {post : γ → Option Container → Prop} :
    (getContainer guid).wp S post g ↔ S.pre g (.getContainer guid) ∧
      ∀ r : Except Err Container, S.ans g (.getContainer guid) r →
        post (S.next g (.getContainer guid) r) r.toOption := by
  simp only [getContainer, Client.getContainer, Prog.call_bind, Prog.ret_bind, Prog.wp_call]
  refine and_congr_right fun _ => forall₂_congr fun r _ => ?_
  cases r with
  | error err => exact Prog.wp_ret
  | ok container => exact Prog.wp_ret

/-- **An action that runs only when its container is not found**: a container ends the trace,
any error at all lets the action run. The four residual operations have this shape. -/
theorem trace_ifAbsent {guid : String} {act : RepM Unit} {t : List RepEvent} :
    (do match ← getContainer guid with
        | some _ => return
        | none => act : RepM Unit).Trace t () ↔
      (∃ container : Container, t = [⟨.getContainer guid, .ok container⟩]) ∨
      ∃ (err : Err) (t' : List RepEvent),
        t = ⟨.getContainer guid, .error err⟩ :: t' ∧ act.Trace t' () := by
  refine ⟨?_, ?_⟩
  · intro ht
    obtain ⟨t₁, t₂, found, rfl, hget, hact⟩ := Prog.trace_bind.mp ht
    obtain ⟨r, rfl, rfl⟩ := trace_getContainer.mp hget
    cases r with
    | error err => exact Or.inr ⟨err, t₂, rfl, hact⟩
    | ok container =>
      obtain ⟨rfl, -⟩ := Prog.trace_ret.mp hact
      exact Or.inl ⟨container, rfl⟩
  · rintro (⟨container, rfl⟩ | ⟨err, t', rfl, hact⟩)
    · exact .call _ (.ret _)
    · exact .call _ hact

/-- The same for ghost specifications. The action may use what the error says of the world,
which is where it matters whether errors other than "not found" are to be expected. -/
theorem wp_ifAbsent {guid : String} {act : RepM Unit} {post : γ → Unit → Prop}
    (hpre : S.pre g (.getContainer guid))
    (hfound : ∀ container : Container, S.ans g (.getContainer guid) (.ok container) →
      post (S.next g (.getContainer guid) (.ok container)) ())
    (habsent : ∀ err : Err, S.ans g (.getContainer guid) (.error err) →
      act.wp S post (S.next g (.getContainer guid) (.error err))) :
    (do match ← getContainer guid with
        | some _ => return
        | none => act : RepM Unit).wp S post g := by
  refine Prog.wp_bind.mpr (wp_getContainer.mpr ⟨hpre, fun r hr => ?_⟩)
  cases r with
  | ok container => exact hfound container hr
  | error err => exact habsent err hr

/-- `containerDelegate.DeleteContainer`: whether the deletion succeeded. Most callers ignore
it. -/
def deleteContainer (guid : String) : RepM Bool := do
  match ← Client.deleteContainer guid with
  | some _ => return false
  | none => return true

/-- One call, made exactly once: a deletion that fails is not repeated. -/
theorem trace_deleteContainer {guid : String} {t : List RepEvent} {ok : Bool} :
    (deleteContainer guid).Trace t ok ↔
      ∃ r : Option Err, t = [⟨.deleteContainer guid, r⟩] ∧ ok = r.isNone := by
  simp only [deleteContainer, Client.deleteContainer, Prog.call_bind, Prog.ret_bind,
    Prog.trace_call]
  apply exists_congr
  intro r
  cases r with
  | none => simp
  | some err => simp

/-- The rule for a deletion, in which the reply has become a boolean. -/
@[simp] theorem wp_deleteContainer {guid : String} {post : γ → Bool → Prop} :
    (deleteContainer guid).wp S post g ↔ S.pre g (.deleteContainer guid) ∧
      ∀ r : Option Err, S.ans g (.deleteContainer guid) r →
        post (S.next g (.deleteContainer guid) r) r.isNone := by
  simp only [deleteContainer, Client.deleteContainer, Prog.call_bind, Prog.ret_bind, Prog.wp_call]
  refine and_congr_right fun _ => forall₂_congr fun r _ => ?_
  cases r with
  | none => exact Prog.wp_ret
  | some err => exact Prog.wp_ret

/-- `containerDelegate.StopContainer`: whether the executor took the request. -/
def stopContainer (guid : String) : RepM Bool := do
  match ← Client.stopContainer guid with
  | some _ => return false
  | none => return true

/-- The rule for a stop, like that of a deletion. -/
@[simp] theorem wp_stopContainer {guid : String} {post : γ → Bool → Prop} :
    (stopContainer guid).wp S post g ↔ S.pre g (.stopContainer guid) ∧
      ∀ r : Option Err, S.ans g (.stopContainer guid) r →
        post (S.next g (.stopContainer guid) r) r.isNone := by
  simp only [stopContainer, Client.stopContainer, Prog.call_bind, Prog.ret_bind, Prog.wp_call]
  refine and_congr_right fun _ => forall₂_congr fun r _ => ?_
  cases r with
  | none => exact Prog.wp_ret
  | some err => exact Prog.wp_ret

/-- `containerDelegate.RunContainer`: on an error the container is deleted, whatever the error
was and whether or not the deletion succeeds, and the caller is told that the run failed. -/
def runContainer (req : RunRequest) : RepM Bool := do
  match ← Client.runContainer req with
  | some _ =>
    let _ ← deleteContainer req.guid
    return false
  | none => return true

/-- Two shapes of a run: accepted, with one call, or refused, with the deletion right behind
it. -/
theorem trace_runContainer {req : RunRequest} {t : List RepEvent} {ok : Bool} :
    (runContainer req).Trace t ok ↔
      (t = [⟨.runContainer req, none⟩] ∧ ok = true) ∨
      ∃ (err : Err) (r : Option Err),
        t = [⟨.runContainer req, some err⟩, ⟨.deleteContainer req.guid, r⟩] ∧ ok = false := by
  simp only [runContainer, Client.runContainer, Prog.call_bind, Prog.ret_bind, Prog.trace_call]
  refine ⟨?_, ?_⟩
  · rintro ⟨r, t, rfl, ht⟩
    cases r with
    | none =>
      obtain ⟨rfl, rfl⟩ := Prog.trace_ret.mp ht
      exact Or.inl ⟨rfl, rfl⟩
    | some err =>
      obtain ⟨t₁, t₂, ok', rfl, hdel, hret⟩ := Prog.trace_bind.mp ht
      obtain ⟨r, rfl, -⟩ := trace_deleteContainer.mp hdel
      obtain ⟨rfl, rfl⟩ := Prog.trace_ret.mp hret
      exact Or.inr ⟨err, r, rfl, rfl⟩
  · rintro (⟨rfl, rfl⟩ | ⟨err, r, rfl, rfl⟩)
    · exact ⟨none, [], rfl, .ret _⟩
    · exact ⟨some err, _, rfl, Prog.trace_bind.mpr
        ⟨_, [], _, rfl, trace_deleteContainer.mpr ⟨r, rfl, rfl⟩, .ret _⟩⟩

/-- The rule for a run. The deletion is left as a program in the second case, so that its own
rule applies there. -/
@[simp] theorem wp_runContainer {req : RunRequest} {post : γ → Bool → Prop} :
    (runContainer req).wp S post g ↔ S.pre g (.runContainer req) ∧
      (S.ans g (.runContainer req) none → post (S.next g (.runContainer req) none) true) ∧
      ∀ err : Err, S.ans g (.runContainer req) (some err) →
        (deleteContainer req.guid).wp S (fun g _ => post g false)
          (S.next g (.runContainer req) (some err)) := by
  simp only [runContainer, Client.runContainer, Prog.call_bind, Prog.ret_bind, Prog.wp_call]
  refine and_congr_right fun _ => ⟨fun h => ⟨h none, fun err herr => ?_⟩, fun h r hr => ?_⟩
  · exact Prog.wp_bind.mp (h (some err) herr)
  · cases r with
    | none => exact h.1 hr
    | some err => exact Prog.wp_bind.mpr (h.2 err hr)

/-- `containerDelegate.FetchContainerResultFile`: one read of the first entry. The error of
that read is only logged, so what was read before it is taken for the whole file. -/
def fetchContainerResultFile (guid filename : String) : RepM (Except Err (List UInt8)) := do
  match ← Client.getFiles guid filename with
  | some err => return .error err
  | none =>
    match ← Client.tarNext with
    | some err => return .error err
    | none =>
      let (buf, _) ← Client.tarRead (maxResultSize + 1)
      if buf.length > maxResultSize then return .error errResultFileTooLarge
      else return .ok buf

/-- Fetching a result: three calls at most, after any of which it may end. The assertion `I`
is what the fetching keeps; a caller for which reading a file is harmless takes `True`. -/
theorem wp_fetchContainerResultFile {guid filename : String}
    {post : γ → Except Err (List UInt8) → Prop} {I : γ → Prop}
    (hfiles : S.pre g (.getFiles guid filename) ∧ ∀ r, I (S.next g (.getFiles guid filename) r))
    (hnext : ∀ g, I g → S.pre g .tarNext ∧ ∀ r, I (S.next g .tarNext r))
    (hread : ∀ g, I g → S.pre g (.tarRead (maxResultSize + 1)) ∧
      ∀ r, I (S.next g (.tarRead (maxResultSize + 1)) r))
    (hpost : ∀ g r, I g → post g r) :
    (fetchContainerResultFile guid filename).wp S post g := by
  simp only [fetchContainerResultFile, Client.getFiles, Client.tarNext, Client.tarRead,
    Prog.call_bind, Prog.ret_bind, Prog.wp_call]
  refine ⟨hfiles.1, ?_⟩
  intro r₁ _
  have h₁ := hfiles.2 r₁
  cases r₁ with
  | some err => exact hpost _ _ h₁
  | none =>
    refine ⟨(hnext _ h₁).1, ?_⟩
    intro r₂ _
    have h₂ := (hnext _ h₁).2 r₂
    cases r₂ with
    | some err => exact hpost _ _ h₂
    | none =>
      -- the length decides between the two results, but both end the program
      refine ⟨(hread _ h₂).1, ?_⟩
      intro r₃ _
      have h₃ := (hread _ h₂).2 r₃
      beta_reduce
      by_cases hlen : r₃.1.length > maxResultSize
      · rw [if_pos hlen]
        exact hpost _ _ h₃
      · rw [if_neg hlen]
        exact hpost _ _ h₃

end Delegate

end CellRep
