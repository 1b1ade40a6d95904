import Matryoshka.Http.Request
import Matryoshka.Service.Drive
import Matryoshka.Service.View

/-!
# Exchanges

A server answers requests on behalf of a service. A request for vectors becomes one
call to the service, and its response is made from the outcomes. Every other request
is answered at once and leaves the service as it is.
-/

namespace Matryoshka.Http

open Service

variable (settings : Settings)

/-- What is left to do for a request. -/
inductive Exchange where
  /-- Nothing: the response is there. -/
  | finished (response : Response)
  /-- The vectors of some texts are wanted; the response is made from the outcomes. -/
  | waiting (texts : List String) (respond : List ItemOutcome → Response)

/-- The response to a request for one text, from the outcomes of its call. -/
def respondToOne : List ItemOutcome → Response
  | outcome :: _ => .ofOutcome outcome
  | [] => .ofOutcome (.error (.unavailable .droppedRequest))

/-- What is left to do for a request when the service is in a given state; `address` is
where the server listens. -/
def Exchange.begin (address : String) (s : State) (request : Request) : Exchange :=
  match request.demand with
  | .embed text => .waiting [text] respondToOne
  | .embedAll texts => .waiting texts (.ofOutcomes · settings.effectiveDim)
  | .health => .finished (.ofHealth (healthReport settings s))
  | .stats => .finished ⟨.ok, .stats (Service.stats settings s)⟩
  | .about => .finished ⟨.ok, .about settings.model settings.effectiveDim address⟩
  | .access => .finished ⟨.noContent, .empty⟩
  | .refused status response => .finished ⟨status, .error response⟩

/-- The step of the service that a request asks for; `id` is a fresh number for a call. -/
def Exchange.label? (id : CallId) : Exchange → Option Label
  | .finished _ => none
  | .waiting texts _ => some (.embed id texts)

/-- The response to a request, from the outcomes of its call if there is one. -/
def Exchange.response : Exchange → List ItemOutcome → Response
  | .finished response, _ => response
  | .waiting _ respond, outcomes => respond outcomes

/-- Answer a request; `id` is a fresh number for a call. There is no response as long as the call
has no answer, as when its caller breaks off. -/
def serve (loader : Loader) (address : String) (d : Drive) (id : CallId) (request : Request) :
    Drive × Option Response :=
  let exchange := Exchange.begin settings address d.service request
  match exchange.label? id with
  | none => (d, some (exchange.response []))
  | some label =>
    let d := d.call settings loader label id
    (d, (d.answer? id).map exchange.response)

end Matryoshka.Http
