import OncePerKey.Http.Gate
import OncePerKey.Http.Route

set_option autoImplicit false

namespace OncePerKey.Http

structure Site (E : Type) where
  routes : List (Route E)
  fallback : Option E := none
  -- Requests without a route are guarded and measured too.
  guardsFallback : Bool := false

variable {E : Type}

def measured (route : String) (method : String) (answer : Serving E Response) :
    Serving E Response := do
  let response ← answer
  report (.measure (.httpRequest method route response.status.toNat))
  return response

def Route.finish (route : Route E) (method : String) (response : Response) : Response :=
  match route.methods with
  | none => response
  | some methods =>
      if route.answers method then
        if method = "HEAD" then { response with body := [] } else response
      else if response.headers.contains "allow" then response
      else response.setHeader "allow" (Route.allowed methods)

def Route.serve (route : Route E) (r : Request) : Serving E Response :=
  if route.answers r.method then Serving.ask (.forward route.endpoint r)
  else return .ofStatus 405

def Site.serveUnrouted (site : Site E) (r : Request) : Serving E Response :=
  match site.fallback with
  | some endpoint => Serving.ask (.forward endpoint r)
  | none => return .ofStatus 404

def Site.serve (c : Request.Context) (site : Site E) (r : Request) : Serving E Response :=
  match Route.find? site.routes r.uri.path with
  | some route => do
      -- What the route itself adds comes last, so it is neither stored nor measured.
      let name := route.pattern.text
      let answer := if route.guarded then gate c name route.serve r else route.serve r
      return route.finish r.method (← measured name r.method answer)
  | none =>
      if site.guardsFallback then
        measured "unmatched" r.method (gate c r.uri.path site.serveUnrouted r)
      else site.serveUnrouted r

end OncePerKey.Http
