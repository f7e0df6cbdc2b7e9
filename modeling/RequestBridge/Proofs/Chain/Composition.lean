import RequestBridge.Chain.Stages
import RequestBridge.Proofs.Bridge.Decision
import RequestBridge.Proofs.Chain.Steps
import RequestBridge.Proofs.Routing.Series

/-! Pipelines of pipelines.

A pipeline is put together from the inside out: around the handler comes the last stage, and around
what is there already each stage before it (`Continuation`). So a pipeline may be cut at any stage,
and what lies inside the cut is a handler like any other (`pipelines_compose`). In this way the
chain of a route consists of the stages around all routes, the stages of its group, and its own. -/
namespace RequestBridge

/-- What a stage passes its request on to: the next stage with all that comes after it, or the
handler. -/
inductive Continuation where
  | handler (h : Handler)
  | stage (m : Middleware) (next : Continuation)

def Continuation.run : Continuation → Handler
  | .handler h => h
  | .stage m next => m.around next.run

/-- The continuation of a whole pipeline, built from the inside out. -/
def Pipeline.continuation (p : Pipeline) : Continuation :=
  p.stages.reverse.foldl (fun next m => .stage m next) (.handler p.handler)

namespace Chain

theorem run_foldr (ms : List Middleware) (next : Continuation) :
    (ms.foldr Continuation.stage next).run = ms.foldr Middleware.around next.run := by
  induction ms with
  | nil => rfl
  | cons m ms ih => exact congrArg m.around ih

theorem run_continuation (p : Pipeline) : p.continuation.run = p.start := by
  rw [Pipeline.continuation, List.foldl_reverse]
  exact run_foldr p.stages (.handler p.handler)

/-- A route that is added below a group is found under its number, behind the stages of the
group. -/
theorem route?_addRoute {E : Type} [RouteHost E] {g : Group} {r : Router} {e : E} {path : String}
    {route : Route} {id : UInt16} (hadded : (g.addRoute r e path route).result = .ok id) :
    (g.addRoute r e path route).router.registry.route? id =
      some ⟨g.stages ++ route.stages, route.handler⟩ := by
  unfold Group.addRoute at hadded ⊢
  rcases r.addRoute_cases e .get (Path.join g.base path)
      { route with stages := g.stages ++ route.stages } with
    ⟨misuse, _, hadd⟩ | ⟨id', e', hnext, _, hadd⟩ | ⟨id', e', code, _, _, _, hadd⟩
  · rw [hadd] at hadded
    cases hadded
  · rw [hadd] at hadded ⊢
    cases hadded
    obtain ⟨_, _, hroom, hid⟩ := Router.nextRoute_eq_ok hnext
    have hplace : id.toNat = r.registry.routes.length := by
      rw [hid, UInt16.toNat_ofNat', r.registry.length_routes]
      unfold maxRoutes at hroom
      omega
    rw [Registry.route?_eq, Registry.routes_push, hplace]
    exact List.getElem?_concat_length
  · rw [hadd] at hadded
    cases hadded

theorem route?_addGlobal (registry : Registry) (stage : Middleware) (id : UInt16) :
    (registry.addGlobal stage).route? id = registry.route? id := rfl

theorem start_pipeline {d : Dispatcher} {outer own : List Middleware} {h : Handler} :
    (d.registry.pipeline ⟨outer ++ own, h⟩).start =
      (Pipeline.mk d.registry.globals (Pipeline.mk outer (Pipeline.mk own h).start).start).start := by
  rw [Registry.pipeline, Pipeline.start_append, Pipeline.start_append]

/-- The pipeline of two lists of stages is the pipeline of the first list around the pipeline of
the second one, which is its handler: both take the same steps and come to the same. Its names are
those of the one pipeline and then of the other, and these are the names of the stages in order. A
pipeline without stages is its handler. So what a dispatcher starts for a route of a group is the
pipeline of the stages around all routes, around the pipeline of the group, around the pipeline of
the route. -/
theorem pipelines_compose {E : Type} [RouteHost E] (ms ns : List Middleware) (h : Handler) :
    (∀ p : Pipeline, p.continuation.run = p.start) ∧
    (Pipeline.mk (ms ++ ns) h).start = (Pipeline.mk ms (Pipeline.mk ns h).start).start ∧
    (Pipeline.mk [] h).start = h ∧
    ((Pipeline.mk (ms ++ ns) h).names = (Pipeline.mk ms h).names ++ (Pipeline.mk ns h).names ∧
      (Pipeline.mk (ms ++ ns) h).names = ms.map (·.name) ++ ns.map (·.name)) ∧
    (∀ request steps result, ((Pipeline.mk (ms ++ ns) h).start request).Runs steps result ↔
      ((Pipeline.mk ms (Pipeline.mk ns h).start).start request).Runs steps result) ∧
    (∀ request cancelled, ((Pipeline.mk (ms ++ ns) h).start request).run cancelled =
      ((Pipeline.mk ms (Pipeline.mk ns h).start).start request).run cancelled) ∧
    (∀ (g : Group) base, (Pipeline.mk (g.nested base ns).stages h).start =
      (Pipeline.mk g.stages (Pipeline.mk ns h).start).start) ∧
    (∀ (g : Group) (r : Router) (e : E) path route id,
      let added := g.addRoute r e path route
      added.result = .ok id →
      ∀ (b : Bridge) (d : Dispatcher) (call : Inbound) request,
        d.registry.route? id = added.router.registry.route? id →
        call.route = id → call.frame.getD [] ≠ [] →
        Frame.decodeRequest d.limits (call.frame.getD []) = .ok request →
        b.dispatch d call = b.spawn call
          ((Pipeline.mk d.registry.globals
            (Pipeline.mk g.stages (Pipeline.mk route.stages route.handler).start).start).start
              request)) := by
  have hcut := Pipeline.start_append ms ns h
  refine ⟨run_continuation, hcut, rfl, ⟨List.map_append, List.map_append⟩, ?_, ?_, ?_, ?_⟩
  · intro request steps result
    rw [hcut]
  · intro request cancelled
    rw [hcut]
  · intro g base
    exact Pipeline.start_append g.stages ns h
  · intro g r e path route id added hadded b d call request hroute hid hbytes hread
    have hentry := hroute.trans (route?_addRoute hadded)
    rw [Registry.route?_eq, ← hid] at hentry
    rw [Bridge.dispatch_bytes d hbytes, hread, hentry, ← start_pipeline]

/-- One stage around all routes, one of the group and one of the route, each in its layer. -/
theorem pipelines_compose_at_dispatch :
    let own : Route := ⟨[.tracing "own"], fun request => .done (.ok ⟨200, request.body⟩)⟩
    let g := Group.outermost "api/" [.tracing "group"]
    let added := g.addRoute ({ table := 16 } : Router) (Engine.new .memory).createTable.1 "x" own
    let d : Dispatcher := ⟨added.router.registry.addGlobal (.tracing "global"), {}⟩
    let request : Request := ⟨.get, "/api/x", [7]⟩
    let call : Inbound := ⟨0, some (Frame.encodeRequest request), some 32, none⟩
    let chain := (Pipeline.mk d.registry.globals (Pipeline.mk g.stages
      (Pipeline.mk own.stages own.handler).start).start).start request
    let b := Bridge.new .memory
    (added.result = .ok 0 ∧ d.registry.route? 0 = added.router.registry.route? 0 ∧
      Frame.decodeRequest d.limits (call.frame.getD []) = .ok request) ∧
    b.dispatch d call = b.spawn call chain ∧
    (chain.run false).marks = ["global>", "group>", "own>", "<own", "<group", "<global"] := by
  intro own g added d request call chain b
  have hadded : added.result = .ok 0 := by decide +kernel
  have hread : Frame.decodeRequest d.limits (call.frame.getD []) = .ok request := by
    decide +kernel
  have hbytes : call.frame.getD [] ≠ [] := by decide +kernel
  have hmarks : (chain.run false).marks =
      ["global>", "group>", "own>", "<own", "<group", "<global"] := by decide +kernel
  obtain ⟨-, -, -, -, -, -, -, hdispatch⟩ :=
    pipelines_compose (E := Engine) [.tracing "global"] [.tracing "group"] own.handler
  have hspawns := hdispatch g { table := 16 } (Engine.new .memory).createTable.1 "x" own 0
  have hadd : g.addRoute { table := 16 } (Engine.new .memory).createTable.1 "x" own = added := rfl
  rw [hadd] at hspawns
  -- what the route has become is evaluated no more
  clear_value added
  have hroute := route?_addGlobal added.router.registry (.tracing "global") 0
  exact ⟨⟨hadded, hroute, hread⟩, hspawns hadded b d call request hroute rfl hbytes hread, hmarks⟩

end Chain
end RequestBridge
