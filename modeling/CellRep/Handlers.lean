import CellRep.Calls

/-!
# The handlers

The requests of `handlers/` that reach the executor directly: stopping an instance
and cancelling a task. A handler returns the status it answers with; the form values
of the request are its arguments.
-/

namespace CellRep

namespace Handlers

/-- `http.StatusAccepted`: the request was taken on. -/
def statusAccepted : ℕ := 202

/-- `http.StatusBadRequest`: a form value is missing. -/
def statusBadRequest : ℕ := 400

/-- `http.StatusInternalServerError`: the executor did not do it. -/
def statusInternalServerError : ℕ := 500

/-- `StopLRPInstanceHandler.ServeHTTP`. Both guids have to be given, although only the instance
guid decides which container is stopped. No look is taken at what the container is
for. -/
def stopLRPInstance (processGuid instanceGuid : String) : RepM ℕ :=
  if processGuid = "" then return statusBadRequest
  else if instanceGuid = "" then return statusBadRequest
  else do
    match ← Client.stopContainer (lrpContainerGuid processGuid instanceGuid) with
    | some _ => return statusInternalServerError
    | none => return statusAccepted

/-- `CancelTaskHandler.ServeHTTP`: the request is accepted before the container is
deleted, and the outcome of the deletion is only logged. -/
def cancelTask (taskGuid : String) : RepM ℕ := do
  let _ ← Client.deleteContainer taskGuid
  return statusAccepted

end Handlers

end CellRep
