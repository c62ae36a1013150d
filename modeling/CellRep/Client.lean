import CellRep.Admission
import CellRep.Identity
import CellRep.Matching
import CellRep.Prediction
import CellRep.Scoring
import CellRep.Server

/-!
# The client of a cell

The auctioneer and the BBS call a cell with the functions of `client.go`. Each of them is
one exchange over HTTP with a server of the cell, and the exchange can go wrong on either
way: the request may not arrive, or it is served and the answer does not arrive.

Client and server are put together here. A call over the wire is the call on the cell, with
its result or with an error of the exchange; and the copy of a cell's state that the
auctioneer gets answers every question as the state itself would.
-/

namespace CellRep

open Evacuator (EvacM ofRep)
open Models (ActualLRPKey ActualLRPInstanceKey)
open Executor (Container)

namespace Rpc

/-! ## Exchanges

The client cannot in general tell a request that did not arrive from one that was served
without an answer. Both are modelled, since they differ for the cell. -/

/-- What becomes of an exchange; which of these it is, is left open in every statement. -/
inductive Exchange : Type where
  /-- the request does not arrive -/
  | unsent (err : Err)
  /-- the answer does not arrive -/
  | unanswered (err : Err)
  | answered

/-- `http.Client.Do`, with the server at the other end. An error is all the client sees if it
goes wrong. -/
def roundTrip (exchange : Exchange) (cell : Handler) (req : Request) :
    EvacM (Except Err Response) :=
  match exchange with
  | .unsent err => return .error err
  | .unanswered err => do
    let _ ← cell req
    return .error err
  | .answered => do
    let response ← cell req
    return .ok response

/-- The errors of the client: of the exchange, for an unexpected status, and of the decoder. -/
inductive ClientError : Type where
  | transport (err : Err)
  | status (message : String)
  | decode (err : DecodeError)

/-- The error of `State`, `Perform` and `Reset` for other statuses than they expect. -/
def unexpectedStatus (status : ℕ) : ClientError := .status s!"unexpected status code: {status}"

/-- The error of `StopLRPInstance` and `CancelTask`, with `http.StatusText`. -/
def httpError (statusText : ℕ → String) (status : ℕ) : ClientError :=
  .status (s!"http error: status code {status} (" ++ statusText status ++ ")")

/-- What a function of the client asks, and how it reads the answer: the status it expects,
the error for any other one, and what it takes from the body. -/
structure Query (α : Type) where
  req : Request
  status : ℕ
  error : ℕ → ClientError
  read : Body → Except ClientError α

/-- What is made of the answer. The body is read only if the status is the expected one. -/
def Query.interpret {α : Type} (query : Query α) : Except Err Response → Except ClientError α
  | .error err => .error (.transport err)
  | .ok resp =>
    if resp.status ≠ query.status then .error (query.error resp.status) else query.read resp.body

/-- With the status that is expected the result is what is read. -/
theorem Query.interpret_status {α : Type} (query : Query α) (body : Body) :
    query.interpret (.ok ⟨query.status, body⟩) = query.read body :=
  if_neg (not_not.mpr rfl)

/-- One exchange and what is made of its outcome. -/
def Query.run {α : Type} (query : Query α) (exchange : Exchange) (cell : Handler) :
    EvacM (Except ClientError α) := do
  let outcome ← roundTrip exchange cell query.req
  return query.interpret outcome

/-- Take the value of a decoder, or its error as one of the client's. -/
def decoded {α : Type} (result : Except DecodeError α) : Except ClientError α :=
  result.mapError .decode

/-! ## The client's functions

Each function of `client.go` is a query: its request, the one status it accepts, and its way
to read the body. -/

namespace HttpClient

/-- `client.State`. Any other status is an error, that of an unhealthy cell as well. -/
def state (walk : EnvelopeWalk) : Query CellState where
  req := ⟨.state, ∅, .empty⟩
  status := statusOK
  error := unexpectedStatus
  read body := decoded (unmarshal (CellState.codec walk) .zero body)

/-- `client.Perform`, which sends the work and returns what the cell could not do of it. -/
def perform {walk : EnvelopeWalk} (K : Marshaller walk) (work : Work) : Query Work where
  req := ⟨.perform, ∅, .json (K.work work)⟩
  status := statusOK
  error := unexpectedStatus
  read body := decoded (decode Work.codec .zero body)

/-- `client.Reset`, for simulations only. -/
def reset : Query Unit where
  req := ⟨.simReset, ∅, .empty⟩
  status := statusOK
  error := unexpectedStatus
  read _ := .ok ()

/-- `stopParamsFromLRP`. The index is a parameter as well, though the route has no place for
it. -/
def stopParamsFromLRP (key : ActualLRPKey) (instanceKey : ActualLRPInstanceKey) :
    GoMap String String :=
  (((∅ : GoMap String String).insert "process_guid" key.processGuid).insert
    "instance_guid" instanceKey.instanceGuid).insert "index" (Strconv.itoa key.index.toInt64)

/-- `client.StopLRPInstance`, which takes only 202 for a success. -/
def stopLRPInstance (statusText : ℕ → String) (key : ActualLRPKey)
    (instanceKey : ActualLRPInstanceKey) : Query Unit where
  req := ⟨.stopLRPInstance, stopParamsFromLRP key instanceKey, .empty⟩
  status := Handlers.statusAccepted
  error := httpError statusText
  read _ := .ok ()

/-- `client.CancelTask`, which takes only 202 for a success. -/
def cancelTask (statusText : ℕ → String) (taskGuid : String) : Query Unit where
  req := ⟨.cancelTask, AList.singleton "task_guid" taskGuid, .empty⟩
  status := Handlers.statusAccepted
  error := httpError statusText
  read _ := .ok ()

end HttpClient

/-! ## A call over the wire

The relation between the call of the client and that on the cell, and how it is proved: the
query is its request served, and a handler that ends with a response can be looked through. -/

/-- A call over the wire against the call on the cell: nothing happens, or the call is
made, and its outcome is what `see` makes of it or is lost. -/
def OverTheWire {α β : Type} (exchange : Exchange) (local_ : EvacM β)
    (see : β → Except ClientError α) (t : List (Event Evacuator.Call Evacuator.Reply))
    (result : Except ClientError α) : Prop :=
  (∃ err, exchange = .unsent err ∧ t = [] ∧ result = .error (.transport err)) ∨
    ∃ outcome, local_.Trace t outcome ∧
      (exchange = .answered ∧ result = see outcome ∨
        ∃ err, exchange = .unanswered err ∧ result = .error (.transport err))

section

variable {α β : Type} {exchange : Exchange} {cell : Handler}
  {t : List (Event Evacuator.Call Evacuator.Reply)} {query : Query α}
  {result : Except ClientError α}

/-- A trace of the rep is one of the cell, under the names of the cell's calls. -/
theorem trace_ofRep {p : RepM α} {a : α} {t : List RepEvent} (h : p.Trace t a) :
    (ofRep p).Trace (t.map fun e => ⟨.rep e.1, e.2⟩) a :=
  Prog.trace_embed.mpr ⟨t, rfl, h⟩

/-- A function of the client is its request, served. -/
theorem trace_query : (query.run exchange cell).Trace t result ↔
    OverTheWire exchange (cell query.req) (fun resp => query.interpret (.ok resp)) t result := by
  rw [Query.run, Prog.trace_bind_pure, OverTheWire]
  -- the three exchanges are the three cases of the relation, one for one
  cases exchange with
  | unsent err =>
    simp only [roundTrip, Exchange.unsent.injEq, exists_eq_left', reduceCtorEq, false_and,
      exists_false, or_false, and_false]
    refine ⟨?_, ?_⟩
    · rintro ⟨_, h, rfl⟩
      obtain ⟨rfl, rfl⟩ := Prog.trace_ret.mp h
      exact ⟨rfl, rfl⟩
    · rintro ⟨rfl, rfl⟩
      exact ⟨.error err, .ret _, rfl⟩
  | unanswered err =>
    simp only [roundTrip, reduceCtorEq, false_and, exists_false, false_or, Prog.trace_bind_pure,
      Exchange.unanswered.injEq, exists_eq_left']
    refine ⟨?_, ?_⟩
    · rintro ⟨_, ⟨resp, h, rfl⟩, rfl⟩
      exact ⟨resp, h, rfl⟩
    · rintro ⟨resp, h, rfl⟩
      exact ⟨_, ⟨resp, h, rfl⟩, rfl⟩
  | answered =>
    simp only [roundTrip, reduceCtorEq, false_and, exists_false, false_or, Prog.trace_bind_pure,
      true_and, or_false]
    refine ⟨?_, ?_⟩
    · rintro ⟨_, ⟨resp, h, rfl⟩, rfl⟩
      exact ⟨resp, h, rfl⟩
    · rintro ⟨resp, h, rfl⟩
      exact ⟨_, ⟨resp, h, rfl⟩, rfl⟩

/-- A handler that makes a call and writes its outcome lets it be seen over the wire. -/
theorem OverTheWire.of_handler {p : EvacM β} {f : β → Response}
    {see : Response → Except ClientError α} :
    OverTheWire exchange (p >>= fun b => (pure (f b) : EvacM Response)) see t result ↔
      OverTheWire exchange p (fun b => see (f b)) t result := by
  rw [OverTheWire, OverTheWire]
  refine or_congr_right ⟨?_, ?_⟩
  · rintro ⟨resp, h, hrest⟩
    obtain ⟨b, hb, rfl⟩ := Prog.trace_bind_pure.mp h
    exact ⟨b, hb, hrest⟩
  · rintro ⟨b, hb, hrest⟩
    exact ⟨f b, Prog.trace_bind_pure.mpr ⟨b, hb, rfl⟩, hrest⟩

end

/-! ## Work over the wire

Both codecs of work bring it back unchanged, the one on the way there and the one on the way
back, so that the wire can be left out. -/

section

variable {walk : EnvelopeWalk} (J K : Marshaller walk) (C : Cell) (legacy secure : Bool)
  (cell : Handler) (hserver : server J (auctionCellRep C) legacy secure = some cell)
  (exchange : Exchange) (t : List (Event Evacuator.Call Evacuator.Reply))

include hserver in
/-- A server that has a route serves it with its handler. -/
theorem cell_eq_handlerOf {req : Request} (hroute : req.route ∈ getRoutes legacy secure) :
    cell req = handlerOf J (auctionCellRep C) req.route req := by
  rw [server_eq] at hserver
  cases hserver
  rw [serve, if_pos hroute]

/-- Performing work the client has written is performing the work: the decoder does not fail,
and finds the same work. -/
theorem performHandler_of_writes (work : Work) :
    performHandler J (auctionCellRep C) (HttpClient.perform K work).req =
      ofRep (CellRep.perform C work) >>= fun failedWork =>
        (pure ⟨statusOK, .json (J.work failedWork)⟩ : EvacM Response) := by
  have hdecode : decode Work.codec .zero (HttpClient.perform K work).req.body = .ok work :=
    decodeBody_of_writes (K.writes_work work)
  rw [performHandler, hdecode]
  exact Prog.bind_assoc _ _ _

/-- The client reads what the handler wrote: the work that failed. -/
theorem interpret_perform (work failedWork : Work) :
    (HttpClient.perform K work).interpret (.ok ⟨statusOK, .json (J.work failedWork)⟩) =
      .ok failedWork := by
  have hdecode : decode Work.codec .zero (.json (J.work failedWork)) = .ok failedWork :=
    decodeBody_of_writes (J.writes_work failedWork)
  exact ((HttpClient.perform K work).interpret_status _).trans (congrArg decoded hdecode)

include hserver in
/-- **Performing work over the wire is performing work.** Whatever the work is and however
its lists are written, with any server of the cell that has the route: either the request
does not arrive and nothing happens, or the cell performs exactly this work, and the client
returns exactly the work that failed, unless the answer is lost. -/
theorem perform_over_the_wire (hroute : Route.perform ∈ getRoutes legacy secure) (work : Work)
    (result : Except ClientError Work) :
    ((HttpClient.perform K work).run exchange cell).Trace t result ↔
      OverTheWire exchange (ofRep (CellRep.perform C work)) .ok t result := by
  have hreq : cell (HttpClient.perform K work).req =
      performHandler J (auctionCellRep C) (HttpClient.perform K work).req :=
    cell_eq_handlerOf J C legacy secure cell hserver hroute
  rw [trace_query, hreq, performHandler_of_writes, OverTheWire.of_handler]
  simp only [interpret_perform]

/-- The sample work, performed by the sample cell over its legacy server. The tasks fail, and
the client is told so. -/
theorem sampleWork_over_the_wire :
    ∃ t, t ≠ [] ∧ ((HttpClient.perform (.plain storedWalk) sampleWork).run .answered (serve
      (.plain storedWalk) (auctionCellRep Cell.sample) true false)).Trace t
        (.ok ⟨[], sampleWork.tasks⟩) := by
  have hperform := trace_ofRep trace_sampleWork
  refine ⟨_, ?_, (perform_over_the_wire (.plain storedWalk) (.plain storedWalk) Cell.sample true
    false _ (server_eq ..) .answered _ (by decide) sampleWork _).mpr
      (.inr ⟨_, hperform, .inl ⟨rfl, rfl⟩⟩)⟩
  exact List.cons_ne_nil _ _

/-! ## States over the wire

A state comes back with other providers at most, those the decoder makes of the written ones.
The next section shows that this makes no difference. -/

/-- What the client makes of what `State` returned. -/
def seenState (walk : EnvelopeWalk) :
    Except Err (CellState × Bool) → Except ClientError CellState
  | .error _ => .error (unexpectedStatus Handlers.statusInternalServerError)
  | .ok (state, true) => .ok (state.back walk)
  | .ok (_, false) => .error (unexpectedStatus statusServiceUnavailable)

/-- What the handler writes for what `State` returned. -/
def stateResponse : Except Err (CellState × Bool) → Response
  | .error _ => ⟨Handlers.statusInternalServerError, .empty⟩
  | .ok (state, healthy) =>
    ⟨if healthy then statusOK else statusServiceUnavailable, .json (J.state state)⟩

/-- The handler asks for the state and writes what it was told. -/
theorem stateHandler_eq (req : Request) :
    stateHandler J (auctionCellRep C) req =
      ofRep (CellRep.state C) >>= fun outcome =>
        (pure (stateResponse J outcome) : EvacM Response) := by
  refine congrArg (ofRep (CellRep.state C) >>= ·) (funext ?_)
  rintro (_ | ⟨state, healthy⟩)
  · rfl
  · rfl

/-- The client reads what the handler wrote, with the status for an unhealthy cell as an
error. -/
theorem interpret_state (outcome : Except Err (CellState × Bool)) :
    (HttpClient.state walk).interpret (.ok (stateResponse J outcome)) = seenState walk outcome := by
  rcases outcome with err | ⟨state, _ | _⟩
  · rfl
  · rfl
  · have hread : unmarshal (CellState.codec walk) .zero (.json (J.state state)) =
        .ok (state.back walk) := decodeBody_of_writes (J.writes_state state)
    exact ((HttpClient.state walk).interpret_status _).trans (congrArg decoded hread)

include hserver in
/-- The client gets the state the cell has computed, with its providers decoded again; that
of an unhealthy cell, which the server writes as well, is an error for the client. -/
theorem trace_state (hroute : Route.state ∈ getRoutes legacy secure)
    (result : Except ClientError CellState) :
    ((HttpClient.state walk).run exchange cell).Trace t result ↔
      OverTheWire exchange (ofRep (CellRep.state C)) (seenState walk) t result := by
  have hreq : cell (HttpClient.state walk).req =
      stateHandler J (auctionCellRep C) (HttpClient.state walk).req :=
    cell_eq_handlerOf J C legacy secure cell hserver hroute
  rw [trace_query, hreq, stateHandler_eq, OverTheWire.of_handler]
  simp only [interpret_state]

end

/-! ## The auctioneer's copy

Between two fetches the auctioneer places work on its own copy. Copy and state stay alike
under placements, and alike states have the same answers. -/

/-- Two states that differ in their providers at most, and there only in how they are
stored. -/
structure Alike (copy s : CellState) : Prop where
  rest : copy = { s with rootFSProviders := copy.rootFSProviders }
  providers : ∀ url, copy.rootFSProviders.matches_ url = s.rootFSProviders.matches_ url

/-- The two states have the same answer to every question the auctioneer asks. -/
structure AnswersAlike (copy s : CellState) : Prop where
  matchRootFS : ∀ x rootfs, copy.matchRootFS x rootfs = s.matchRootFS x rootfs
  matchVolumeDrivers : ∀ drivers, copy.matchVolumeDrivers drivers = s.matchVolumeDrivers drivers
  matchPlacementTags : ∀ walks tags,
    copy.matchPlacementTags walks tags = s.matchPlacementTags walks tags
  resourceMatch : ∀ res, copy.resourceMatch res = s.resourceMatch res
  computeScore : ∀ res weight, copy.computeScore res weight = s.computeScore res weight
  bestFit : ∀ res weight, (CellRep.bestFit copy res weight).1 = (CellRep.bestFit s res weight).1

section

variable {copy s : CellState}

/-- Alike states answer alike. All questions but the one for a root filesystem look only at
what is equal. -/
theorem Alike.answers (h : Alike copy s) : AnswersAlike copy s := by
  obtain ⟨hrest, hproviders⟩ := h
  have hrootfs : ∀ x rootfs, copy.matchRootFS x rootfs = s.matchRootFS x rootfs := by
    intro x rootfs
    rw [CellState.matchRootFS, CellState.matchRootFS]
    cases x.parseURL rootfs with
    | error err => rfl
    | ok url => exact hproviders url
  rw [hrest] at hrootfs ⊢
  exact ⟨hrootfs, fun _ => Bool.eq_iff_iff.mpr
      (matchVolumeDrivers_iff.trans (matchVolumeDrivers_iff (c := s)).symm),
    fun _ _ => rfl, fun _ => rfl, fun _ _ => rfl, fun _ _ => rfl⟩

/-- Work is added to both alike, as it touches the providers of neither. -/
theorem Alike.add (h : Alike copy s) (item : Placement) : Alike (copy.add item) (s.add item) := by
  obtain ⟨hrest, hproviders⟩ := h
  rcases item with lrp | task
  · refine ⟨?_, hproviders⟩
    rw [hrest]
    rfl
  · refine ⟨?_, hproviders⟩
    rw [hrest]
    rfl

/-- A list of work is added to both alike. -/
theorem Alike.addAll (items : List Placement) :
    ∀ {copy s : CellState}, Alike copy s →
      Alike (items.foldl CellState.add copy) (items.foldl CellState.add s) := by
  induction items with
  | nil => exact fun h => h
  | cons item items ih => exact fun h => ih (h.add item)

/-- The same work is admitted: each item is judged alike, and the copies stay alike after it. -/
theorem Alike.admitted (items : List Placement) :
    ∀ {copy s : CellState}, Alike copy s →
      CellRep.admitted copy items = CellRep.admitted s items := by
  induction items with
  | nil => exact fun _ => rfl
  | cons item items ih =>
    intro copy s h
    rw [CellRep.admitted, CellRep.admitted, h.answers.resourceMatch, ih (h.add item), ih h]

/-- What comes back of a state is like it: a provider that was decoded again matches the same
URLs. -/
theorem alike_back (walk : EnvelopeWalk) (s : CellState) : Alike (s.back walk) s := by
  refine ⟨rfl, ?_⟩
  intro url
  obtain ⟨decoded, hdecoded, hsame⟩ := unmarshal_providers walk s.rootFSProviders
  have hback : (s.back walk).rootFSProviders = decoded := by
    change (unmarshalProviders walk (marshalProviders (some s.rootFSProviders))).toOption.getD ∅ = _
    rw [hdecoded]
    rfl
  rw [hback, RootFSProviders.matches_, RootFSProviders.matches_]
  have hkey := hsame url.scheme
  generalize decoded.lookup url.scheme = found at hkey ⊢
  generalize s.rootFSProviders.lookup url.scheme = expected at hkey ⊢
  cases hkey with
  | none => rfl
  | some hprovider =>
    cases hprovider with
    | none => rfl
    | some hprovider => exact congrArg some (hprovider.matches_eq url)

end

/-- **The auctioneer's copy decides as the cell would.** The state the client returns came
from a healthy cell, and whatever work is placed on the copy afterwards, the copy admits the
same work and answers each question as the cell's own state with that work would. -/
theorem copy_decides_as_the_cell {walk : EnvelopeWalk} (J : Marshaller walk) (C : Cell)
    (legacy secure : Bool) (cell : Handler)
    (hserver : server J (auctionCellRep C) legacy secure = some cell)
    (hroute : Route.state ∈ getRoutes legacy secure) (exchange : Exchange)
    (t : List (Event Evacuator.Call Evacuator.Reply)) (copy : CellState)
    (h : ((HttpClient.state walk).run exchange cell).Trace t (.ok copy)) :
    ∃ s, (ofRep (CellRep.state C)).Trace t (.ok (s, true)) ∧
      ∀ items : List Placement, admitted copy items = admitted s items ∧
        AnswersAlike (items.foldl CellState.add copy) (items.foldl CellState.add s) := by
  rcases (trace_state J C legacy secure cell hserver exchange t hroute _).mp h with
    ⟨err, -, -, hresult⟩ | ⟨outcome, htrace, ⟨-, hresult⟩ | ⟨err, -, hresult⟩⟩
  · cases hresult
  · rcases outcome with err | ⟨s, _ | _⟩
    · cases hresult
    · cases hresult
    · cases hresult
      exact ⟨s, htrace, fun items => ⟨(alike_back walk s).admitted items,
        ((alike_back walk s).addAll items).answers⟩⟩
  · cases hresult

/-- A healthy cell with one container is asked for its state. -/
theorem sampleExecutor_decides_as_the_cell :
    ∃ t copy, ((HttpClient.state storedWalk).run .answered (serve (.plain storedWalk)
        (auctionCellRep Cell.sample) false true)).Trace t (.ok copy) ∧
      copy.availableResources = ⟨1000, 1000, 9⟩ ∧
      ∃ s, (ofRep (CellRep.state Cell.sample)).Trace t (.ok (s, true)) ∧
        ∀ items : List Placement, admitted copy items = admitted s items ∧
          AnswersAlike (items.foldl CellState.add copy) (items.foldl CellState.add s) := by
  have hserver := server_eq (.plain storedWalk) (auctionCellRep Cell.sample) false true
  have hstate := trace_ofRep (trace_sampleStateTrace sampleExecutor)
  have h := (trace_state (.plain storedWalk) Cell.sample false true _ hserver .answered _
    (by decide) _).mpr (.inr ⟨_, hstate, .inl ⟨rfl, rfl⟩⟩)
  exact ⟨_, _, h, rfl, copy_decides_as_the_cell (.plain storedWalk) Cell.sample false true _ hserver
    (by decide) .answered _ _ h⟩

/-! ## Stopping and cancelling

The container of an instance is named by its two guids, which the client sends as parameters
of the path and the handler puts together again. -/

section

variable {walk : EnvelopeWalk} (J : Marshaller walk) (C : Cell) (legacy secure : Bool)
  (cell : Handler) (hserver : server J (auctionCellRep C) legacy secure = some cell)
  (exchange : Exchange) (t : List (Event Evacuator.Call Evacuator.Reply))
  (statusText : ℕ → String)

end

end Rpc

end CellRep
