import SecretSync.Api.Uri

namespace SecretSync.Probe

inductive Page where
  | metrics
  | health
  | ready
  deriving DecidableEq, Repr

def Page.ofPath? (path : String) : Option Page :=
  if path = "/metrics" then some .metrics
  else if path = "/healthz" then some .health
  else if path = "/readyz" then some .ready
  else none

structure Response where
  status : Nat
  contentType : Option String
  allow : Option String
  deriving DecidableEq, Repr

def metricsType : String := "text/plain; version=0.0.4; charset=utf-8"

def serve (page : Page) (ready : Bool) : Response :=
  match page with
  | .metrics => ⟨200, some metricsType, none⟩
  | .health => ⟨200, none, none⟩
  | .ready => ⟨if ready then 200 else 503, none, none⟩

/-- The answer to a request. A query does not matter; pages can only be read. -/
def respond (method : String) (target : Uri) (ready : Bool) : Response :=
  match Page.ofPath? target.path with
  | none => ⟨404, none, none⟩
  | some page =>
    if method = "GET" ∨ method = "HEAD" then serve page ready else ⟨405, none, some "GET,HEAD"⟩

/-- The answer to a request, if it is one. -/
def answer (method target : String) (ready : Bool) : Except RequestError Response :=
  if isMethod method then (Uri.parse target).map fun u => respond method u ready
  else .error .method

end SecretSync.Probe
