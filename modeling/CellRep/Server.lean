import CellRep.Evacuator
import CellRep.Handlers
import CellRep.Wire

/-!
# The cell's servers

A cell runs two HTTP servers (`cmd/rep/main.go`): the one at its securable address has the
routes of the auctioneer and of the BBS, the other one those of the scripts on the cell
itself, and with the legacy endpoints enabled the other one has all of them
(`routes.go`, `handlers/handlers.go`).

A handler is a program that makes the calls of the rep and returns the response. What a
request can do to the cell is read off its route (`Request.MayCall`), and a request that
is answered with an error has not changed anything.
-/

namespace CellRep

open Evacuator (EvacM ofRep)
open Json (Value Codec UnmarshalTypeError)

namespace Rpc

/-! ## Messages

Only what the handlers look at is kept of a message: the route and its parameters, the status,
and the body as a JSON value. -/

/-- The body of a message, as far as a JSON decoder gets with it. -/
inductive Body : Type where
  | empty
  /-- not JSON, with the error the decoder finds in it -/
  | garbled (err : Err)
  | json (value : Value)

/-- What a handler has written. -/
structure Response where
  status : ℕ
  body : Body

/-- The names of the routes, with which the requests are made and the handlers registered. -/
inductive Route : Type where
  | state
  | perform
  | stopLRPInstance
  | cancelTask
  | simReset
  | ping
  | evacuate
  deriving DecidableEq

/-- A request, with the parameters of its path. The router has already matched the path and
the method. -/
structure Request where
  route : Route
  params : GoMap String String
  body : Body

/-- `FormValue`, of a parameter of the path; one that is missing is the empty string. -/
def Request.formValue (req : Request) (name : String) : String := (req.params.lookup name).getD ""

/-- `http.StatusOK`, which is also the status of a response that was not given one. -/
def statusOK : ℕ := 200

/-- `http.StatusNotFound`, for a route the server does not have. -/
def statusNotFound : ℕ := 404

/-- `http.StatusServiceUnavailable`, with the state of an unhealthy cell. -/
def statusServiceUnavailable : ℕ := 503

/-- Why a body cannot be decoded: it is no JSON, or not of the right types. -/
inductive DecodeError : Type where
  | body (err : Err)
  | type (err : UnmarshalTypeError)

/-- Decode a body, with the error for an empty one, which is where the two decoders of Go
differ. -/
def decodeBody {α : Type} (c : Codec α) (zero : α) (atEnd : Err) : Body → Except DecodeError α
  | .empty => .error (.body atEnd)
  | .garbled err => .error (.body err)
  | .json value =>
    match c.read zero value with
    | .error err => .error (.type err)
    | .ok a => .ok a

/-- Decoding from a stream, as `Decoder.Decode` does: `io.EOF` if there is nothing. -/
def decode {α : Type} (c : Codec α) (zero : α) : Body → Except DecodeError α :=
  decodeBody c zero (.text "EOF")

/-- `json.Unmarshal`, of a body that was read to its end. -/
def unmarshal {α : Type} (c : Codec α) (zero : α) : Body → Except DecodeError α :=
  decodeBody c zero (.text "unexpected end of JSON input")

/-- What was written is decoded, whatever the error for an empty body is. -/
theorem decodeBody_of_writes {α : Type} {c : Codec α} {zero a : α} {atEnd : Err} {value : Value}
    (h : c.Writes a value) : decodeBody c zero atEnd (.json value) = .ok (c.back a) := by
  rw [decodeBody, c.read_of_writes h]

/-- How the JSON package writes what the handlers return; it depends on which lists are
nil. -/
structure Marshaller (walk : EnvelopeWalk) where
  work : Work → Value
  state : CellState → Value
  writes_work : ∀ w, Work.codec.Writes w (work w)
  writes_state : ∀ s, (CellState.codec walk).Writes s (state s)

/-! ## Handlers

The handlers of `handlers.go` over the client of the cell; what `logWrap` adds is logging
only. -/

/-- `auctioncellrep.AuctionCellClient`: what the handlers of the auction need of a cell. -/
structure AuctionCellClient where
  state : EvacM (Except Err (CellState × Bool))
  perform : Work → EvacM (Except Err Work)
  reset : EvacM (Option Err)

/-- The error of `Reset`, which only a simulated cell can do. -/
def errNotASimulationRep : Err := .text "not-a-simulation-rep"

/-- `AuctionCellRep` as the handlers see it: `Perform` has no error of its own. -/
def auctionCellRep (C : Cell) : AuctionCellClient where
  state := ofRep (CellRep.state C)
  perform work := do
    let failedWork ← ofRep (CellRep.perform C work)
    return .ok failedWork
  reset := return some errNotASimulationRep

/-- Anything that serves requests: a handler, a router or a whole server. -/
abbrev Handler : Type := Request → EvacM Response

section

variable {walk : EnvelopeWalk} (J : Marshaller walk) (rep : AuctionCellClient)

/-- `state.ServeHTTP`: the state of an unhealthy cell is written, too. -/
def stateHandler : Handler := fun _ => do
  match ← rep.state with
  | .error _ => return ⟨Handlers.statusInternalServerError, .empty⟩
  | .ok (state, healthy) =>
    let status := if healthy then statusOK else statusServiceUnavailable
    return ⟨status, .json (J.state state)⟩

/-- `perform.ServeHTTP`: the body is decoded before anything is done, and the work that failed
is the answer. -/
def performHandler : Handler := fun req =>
  match decode Work.codec .zero req.body with
  | .error _ => return ⟨Handlers.statusBadRequest, .empty⟩
  | .ok work => do
    match ← rep.perform work with
    | .error _ => return ⟨Handlers.statusInternalServerError, .empty⟩
    | .ok failedWork => return ⟨statusOK, .json (J.work failedWork)⟩

/-- `reset.ServeHTTP`. With the cell's own rep it always fails. -/
def resetHandler : Handler := fun _ => do
  match ← rep.reset with
  | some _ => return ⟨Handlers.statusInternalServerError, .empty⟩
  | none => return ⟨statusOK, .empty⟩

/-- `StopLRPInstanceHandler.ServeHTTP`, with its two form values; the index is not looked at. -/
def stopLRPInstanceHandler : Handler := fun req => do
  let status ← ofRep (Handlers.stopLRPInstance (req.formValue "process_guid")
    (req.formValue "instance_guid"))
  return ⟨status, .empty⟩

/-- `CancelTaskHandler.ServeHTTP`, with its form value. An empty guid is not refused. -/
def cancelTaskHandler : Handler := fun req => do
  let status ← ofRep (Handlers.cancelTask (req.formValue "task_guid"))
  return ⟨status, .empty⟩

/-- `PingHandler.ServeHTTP`, which answers as long as the server runs. -/
def pingHandler : Handler := fun _ => return ⟨statusOK, .empty⟩

/-- `EvacuationHandler.ServeHTTP`: the answer tells the drain script where to look for the end
of the cell. -/
def evacuationHandler : Handler := fun _ => do
  Evacuator.EvacuationContext.evacuate
  return ⟨Handlers.statusAccepted,
    .json (Json.encodeMap Value.string (AList.singleton "ping_path" "/ping"))⟩

/-! ## Routes

Routes and handlers are chosen by the same two flags, in two functions. That both choose alike
is `getHandlers_of_mem`; otherwise the router could not be built and the rep would not start. -/

/-- `NewRoutes`: the secure server has the routes of the auctioneer and the BBS, the other one
those of the scripts. -/
def newRoutes (secure : Bool) : List Route :=
  if secure then [.state, .perform, .stopLRPInstance, .cancelTask, .simReset]
  else [.ping, .evacuate]

/-- `Routes`: those of both servers. -/
def routes : List Route := newRoutes false ++ newRoutes true

/-- `handlers.New`: a handler for each route of the server, and none for the others. -/
def newHandlers (secure : Bool) : Route → Option Handler
  | .state => if secure then some (stateHandler J rep) else none
  | .perform => if secure then some (performHandler J rep) else none
  | .simReset => if secure then some (resetHandler rep) else none
  | .stopLRPInstance => if secure then some stopLRPInstanceHandler else none
  | .cancelTask => if secure then some cancelTaskHandler else none
  | .ping => if secure then none else some pingHandler
  | .evacuate => if secure then none else some evacuationHandler

/-- `handlers.NewLegacy`: the secure handlers over the other ones. No route is in both. -/
def newLegacy : Route → Option Handler := fun route =>
  (newHandlers J rep true route).or (newHandlers J rep false route)

/-- `getHandlers`: with the legacy endpoints the server that is not secure has all handlers. -/
def getHandlers (enableLegacyAPIServer isSecureServer : Bool) : Route → Option Handler :=
  if enableLegacyAPIServer && !isSecureServer then newLegacy J rep
  else newHandlers J rep isSecureServer

/-- `getRoutes`, by the same flags as the handlers. -/
def getRoutes (enableLegacyAPIServer isSecureServer : Bool) : List Route :=
  if enableLegacyAPIServer && !isSecureServer then routes else newRoutes isSecureServer

/-- The router, which has to find a handler for each of its routes. -/
def newRouter (routes : List Route) (handlers : Route → Option Handler) : Option Handler :=
  if routes.all fun route => (handlers route).isSome then
    some fun req =>
      match if req.route ∈ routes then handlers req.route else none with
      | some handler => handler req
      | none => return ⟨statusNotFound, .empty⟩
  else none

/-- A server of `initializeServer`. If there is none the rep ends with a fatal error. -/
def server (enableLegacyAPIServer secure : Bool) : Option Handler :=
  newRouter (getRoutes enableLegacyAPIServer secure)
    (getHandlers J rep enableLegacyAPIServer secure)

/-- The handler of a route, whichever server it is on. -/
def handlerOf : Route → Handler
  | .state => stateHandler J rep
  | .perform => performHandler J rep
  | .simReset => resetHandler rep
  | .stopLRPInstance => stopLRPInstanceHandler
  | .cancelTask => cancelTaskHandler
  | .ping => pingHandler
  | .evacuate => evacuationHandler

/-- A server answers the routes it has with their handlers, and nothing else. -/
def serve (legacy secure : Bool) : Handler := fun req =>
  if req.route ∈ getRoutes legacy secure then handlerOf J rep req.route req
  else return ⟨statusNotFound, .empty⟩

/-- The handlers of a server are those of its routes, for each setting of the two flags. -/
theorem getHandlers_of_mem {legacy secure : Bool} {route : Route}
    (h : route ∈ getRoutes legacy secure) :
    getHandlers J rep legacy secure route = some (handlerOf J rep route) := by
  revert h
  cases legacy <;> cases secure <;> cases route <;>
    first | exact fun _ => rfl | exact fun h => absurd h (by decide)

/-- **The router is always built**, and serves each route with its handler. -/
theorem server_eq (legacy secure : Bool) :
    server J rep legacy secure = some (serve J rep legacy secure) := by
  have hall : (getRoutes legacy secure).all
      (fun route => (getHandlers J rep legacy secure route).isSome) = true :=
    List.all_eq_true.mpr fun route h => by rw [getHandlers_of_mem J rep h]; rfl
  rw [server, newRouter, if_pos hall]
  refine congrArg some (funext fun req => ?_)
  by_cases h : req.route ∈ getRoutes legacy secure
  · rw [serve, if_pos h, if_pos h, getHandlers_of_mem J rep h]
  · rw [serve, if_neg h, if_neg h]

end

/-! ## What a request can do

One predicate says what each route is for. That a handler makes no other calls goes by the structure
of the handler; that a failed request has changed nothing goes by its traces, since
it depends on the replies. -/

section

variable {walk : EnvelopeWalk} (J : Marshaller walk) (C : Cell) (req : Request)

variable {t : List (Event Evacuator.Call Evacuator.Reply)} {response : Response}

/-- Stopping an instance is refused, or the executor is asked once. -/
theorem trace_stopLRPInstance {processGuid instanceGuid : String} {t : List RepEvent} {status : ℕ}
    (h : (Handlers.stopLRPInstance processGuid instanceGuid).Trace t status) :
    (t = [] ∧ status = Handlers.statusBadRequest) ∨
      ∃ err, t = [⟨.stopContainer (lrpContainerGuid processGuid instanceGuid), err⟩] ∧
        status = if err = none then Handlers.statusAccepted
          else Handlers.statusInternalServerError := by
  rw [Handlers.stopLRPInstance] at h
  split at h
  · exact .inl (Prog.trace_ret.mp h)
  split at h
  · exact .inl (Prog.trace_ret.mp h)
  obtain ⟨err, t', rfl, h'⟩ := Prog.trace_call.mp h
  cases err with
  | none =>
    obtain ⟨rfl, rfl⟩ := Prog.trace_ret.mp h'
    exact .inr ⟨none, rfl, rfl⟩
  | some err =>
    obtain ⟨rfl, rfl⟩ := Prog.trace_ret.mp h'
    exact .inr ⟨some err, rfl, rfl⟩

/-- Every value written as its codec would write it. The theorems hold for any other
marshaller, too. -/
def Marshaller.plain (walk : EnvelopeWalk) : Marshaller walk where
  work := Work.codec.write
  state := (CellState.codec walk).write
  writes_work := Work.codec.writes_write
  writes_state := (CellState.codec walk).writes_write

end

end Rpc

end CellRep
