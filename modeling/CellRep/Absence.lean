import CellRep.Batch

/-!
# Absence and its proof

A residual operation removes a record, or fails a task, because there is no container
for it. What it knows of that is the answer to one `GetContainer`, and the delegate
turns every error of that call into "not there". The executor's own way to say that a
container does not exist is `ErrContainerNotFound`; a connection that breaks says
nothing of the kind. Here the two are told apart: `residual_acts_on_absence_iff` is
exactly which answers make an operation act on no proof.
-/

namespace CellRep

open Executor (Container)

/-- The call removes an LRP record or fails a task. The rep has no call that would take either
of them back. -/
def Call.isRemoval : Call → Bool
  | .removeActualLRP .. => true
  | .removeEvacuatingActualLRP .. => true
  | .failTask .. => true
  | _ => false

/-- Every removal comes after the executor's report that there is no container, for the guid
the operation was made for and in the same execution. -/
def ActsOnAbsence (op : Operation) (t : List RepEvent) : Prop :=
  ∀ t₁ e t₂, t = t₁ ++ e :: t₂ → e.1.isRemoval →
    (⟨.getContainer op.key, .error .containerNotFound⟩ : RepEvent) ∈ t₁

/-- The executor answered with the container, or with its absence. Every other error leaves
the question open. -/
def Conclusive : Except Err Container → Prop
  | .ok _ => True
  | .error err => err = .containerNotFound

/-- Whatever a residual operation asks for is a removal. One case for each kind; a container
operation has no fixed requests. -/
theorem isRemoval_of_mem_requests {op : Operation} {c : Call} (hc : c ∈ op.requests) :
    c.isRemoval := by
  cases op with
  | container => cases hc
  | residualInstance =>
    obtain rfl := List.mem_singleton.mp hc
    rfl
  | residualEvacuating =>
    obtain rfl := List.mem_singleton.mp hc
    rfl
  | residualJoint =>
    rcases List.mem_cons.mp hc with rfl | hc
    · rfl
    · obtain rfl := List.mem_singleton.mp hc
      rfl
  | residualTask =>
    obtain rfl := List.mem_singleton.mp hc
    rfl

/-- A residual operation asks for something, once it has not found its container. -/
theorem requests_ne_nil {op : Operation} (hres : op.isResidual) : op.requests ≠ [] := by
  cases op with
  | container => cases hres
  | residualInstance => exact List.cons_ne_nil _ _
  | residualEvacuating => exact List.cons_ne_nil _ _
  | residualJoint => exact List.cons_ne_nil _ _
  | residualTask => exact List.cons_ne_nil _ _

/-- A removal right after the answer shows what the answer has to be, as there is no other
call before it that could have reported the absence. -/
theorem err_of_actsOnAbsence {op : Operation} {err : Err} {e : RepEvent} {t : List RepEvent}
    (hacts : ActsOnAbsence op (⟨.getContainer op.key, .error err⟩ :: e :: t))
    (he : e.1.isRemoval) : err = .containerNotFound := by
  have hreport := hacts [⟨.getContainer op.key, .error err⟩] e t rfl he
  have herr : Err.containerNotFound = err := by simpa using hreport
  exact herr.symm

/-- **A residual operation acts only on proof of absence exactly when the executor's answer is
conclusive.** There is one look for the container in each execution. If it fails for another
reason than absence, the operation goes on to its removals all the same, and they are then
without proof. -/
theorem residual_acts_on_absence_iff (C : Cell) (op : Operation) (hres : op.isResidual)
    (t : List RepEvent) (ht : (op.execute C).Trace t ()) :
    ActsOnAbsence op t ↔
      ∀ r : Except Err Container, (⟨.getContainer op.key, r⟩ : RepEvent) ∈ t → Conclusive r := by
  rcases trace_residual hres ht with ⟨container, rfl⟩ | ⟨err, t', rfl, hrequests⟩
  · -- the container is there: nothing is asked of the BBS
    refine ⟨?_, ?_⟩
    · intro _ r hr
      obtain rfl : r = .ok container := by simpa using hr
      trivial
    · intro _ t₁ e t₂ hsplit hremoval
      have he : e ∈ [(⟨.getContainer op.key, .ok container⟩ : RepEvent)] := by
        rw [hsplit]
        simp
      obtain rfl := List.mem_singleton.mp he
      cases hremoval
  · -- any error: the first removal comes right after the answer
    have hother : ∀ e ∈ t', e.1.isRemoval := fun e he =>
      isRemoval_of_mem_requests (hrequests ▸ List.mem_map_of_mem he)
    refine ⟨?_, ?_⟩
    · intro hacts r hr
      rcases List.mem_cons.mp hr with heq | hr
      · obtain rfl : r = .error err := by simpa using heq
        cases t' with
        | nil => exact absurd hrequests.symm (requests_ne_nil hres)
        | cons e t'' => exact err_of_actsOnAbsence hacts (hother e (List.mem_cons_self ..))
      · -- a second look for the container there is not
        cases hother _ hr
    · intro hconclusive t₁ e t₂ hsplit hremoval
      have herr : err = .containerNotFound := hconclusive (.error err) (List.mem_cons_self ..)
      subst herr
      cases t₁ with
      | nil =>
        obtain ⟨rfl, -⟩ := List.cons.inj hsplit
        cases hremoval
      | cons e' t₁ =>
        obtain ⟨rfl, -⟩ := List.cons.inj hsplit
        exact List.mem_cons_self ..

/-! ### A connection that breaks

Nobody knows whether the containers are gone, as the executor does not answer. The requests
are made all the same. -/

/-- One residual operation of each kind, with a trace of it: the executor cannot be
reached, and the BBS grants everything. -/
def sampleUnreachable : List (Operation × List RepEvent) :=
  [(.residualInstance ⟨"process", 0, "domain"⟩ ⟨"instance", "cell"⟩,
      [⟨.getContainer "instance", .error (.text "connection refused")⟩,
        ⟨.removeActualLRP "process" 0 ⟨"instance", "cell"⟩, none⟩]),
    (.residualEvacuating ⟨"process", 0, "domain"⟩ ⟨"instance", "cell"⟩,
      [⟨.getContainer "instance", .error (.text "connection refused")⟩,
        ⟨.removeEvacuatingActualLRP ⟨"process", 0, "domain"⟩ ⟨"instance", "cell"⟩, none⟩]),
    (.residualJoint ⟨"process", 0, "domain"⟩ ⟨"instance", "cell"⟩,
      [⟨.getContainer "instance", .error (.text "connection refused")⟩,
        ⟨.removeActualLRP "process" 0 ⟨"instance", "cell"⟩, none⟩,
        ⟨.removeEvacuatingActualLRP ⟨"process", 0, "domain"⟩ ⟨"instance", "cell"⟩, none⟩]),
    (.residualTask "task",
      [⟨.getContainer "task", .error (.text "connection refused")⟩,
        ⟨.failTask "task" TaskProcessor.reasonMissingContainer, none⟩])]

/-- All four remove a record or fail a task without having been told that there is no
container. -/
theorem sampleUnreachable_acts : sampleUnreachable.Forall fun p => p.1.isResidual ∧
    (p.1.execute Cell.sample).Trace p.2 () ∧ ¬ ActsOnAbsence p.1 p.2 := by
  have hne : Err.text "connection refused" ≠ .containerNotFound := Err.noConfusion
  refine ⟨⟨rfl, ?_, ?_⟩, ⟨rfl, ?_, ?_⟩, ⟨rfl, ?_, ?_⟩, ⟨rfl, ?_, ?_⟩⟩
  · exact .call _ (.call _ (.ret _))
  · exact fun hacts => hne (err_of_actsOnAbsence hacts rfl)
  · exact .call _ (.call _ (.ret _))
  · exact fun hacts => hne (err_of_actsOnAbsence hacts rfl)
  · exact .call _ (.call _ (.call _ (.ret _)))
  · exact fun hacts => hne (err_of_actsOnAbsence hacts rfl)
  · exact .call _ (.call _ (.ret _))
  · exact fun hacts => hne (err_of_actsOnAbsence hacts rfl)

/-- A residual task whose container the executor reports not to exist. -/
def sampleAbsent : List RepEvent :=
  [⟨.getContainer "task", .error .containerNotFound⟩,
    ⟨.failTask "task" TaskProcessor.reasonMissingContainer, none⟩]

/-- With the executor's own report the removal is one on proof of absence. -/
theorem sampleAbsent_acts_on_absence : ActsOnAbsence (.residualTask "task") sampleAbsent := by
  have ht : (Operation.execute Cell.sample (.residualTask "task")).Trace sampleAbsent () :=
    .call _ (.call _ (.ret _))
  refine (residual_acts_on_absence_iff Cell.sample (.residualTask "task") rfl _ ht).mpr ?_
  intro r hr
  obtain ⟨-, rfl⟩ : _ ∧ r = .error .containerNotFound := by simpa [sampleAbsent] using hr
  rfl

end CellRep
