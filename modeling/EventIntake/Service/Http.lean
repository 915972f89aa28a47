/-
The service over HTTP, without its wire: requests, answers, and which endpoint a request is for.
-/
import EventIntake.Calendar.Moment
import EventIntake.Schema.View

namespace EventIntake

/-- A request, with the time when it came. -/
structure Request where
  method : String
  path : String
  body : String
  received : Moment

/-- An answer.  One that sends the client elsewhere has no body. -/
structure Response where
  status : Nat
  body : Option Value

/-- What the service offers. -/
inductive Endpoint where
  | normalize
  | inspect
  | health
  | formats
  | metrics
deriving DecidableEq, Repr

namespace Endpoint

def all : List Endpoint := [.normalize, .inspect, .health, .formats, .metrics]

def path : Endpoint → String
  | .normalize => "/normalize"
  | .inspect => "/inspect"
  | .health => "/health"
  | .formats => "/formats"
  | .metrics => "/metrics"

def method : Endpoint → String
  | .normalize => "POST"
  | .inspect => "POST"
  | _ => "GET"

def ofPath? (path : String) : Option Endpoint := all.find? (·.path == path)

end Endpoint

namespace Response

/-- An answer with a body. -/
def ofValue (status : Nat) (body : Value) : Response := ⟨status, some body⟩

/-- An answer that something is wrong. -/
def ofDetail (status : Nat) (detail : Value) : Response :=
  ofValue status (.record [("detail", detail)])

/-- The answer of success with its data. -/
def ofData (data : Value) : Response :=
  ofValue 200 (.record [("status", .string "success"), ("data", data)])

/-- No endpoint is there. -/
def notFound : Response := ofDetail 404 (.string "Not Found")

/-- The endpoint has another method. -/
def wrongMethod : Response := ofDetail 405 (.string "Method Not Allowed")

/-- The endpoint is at the same path but for the slash at its end. -/
def redirect : Response := ⟨307, none⟩

end Response

/-- The path with the slashes at its end taken away or, where there are none, with one put there. -/
def otherSlash (path : String) : String :=
  if path.endsWith "/" then String.ofList (path.toList.reverse.dropWhile (· == '/')).reverse
  else path ++ "/"

/-- The endpoint that a request is for, or the answer where there is none. -/
def Request.endpoint (request : Request) : Except Response Endpoint :=
  match Endpoint.ofPath? request.path with
  | some endpoint =>
    if request.method = endpoint.method then .ok endpoint else .error .wrongMethod
  | none =>
    if request.path != "/" && (Endpoint.ofPath? (otherSlash request.path)).isSome then
      .error .redirect
    else .error .notFound

end EventIntake
