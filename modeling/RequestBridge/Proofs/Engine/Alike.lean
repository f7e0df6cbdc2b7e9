import RequestBridge.Proofs.Engine.Journal
import RequestBridge.Routing.Group

/-! Engines that differ in what has been told, in who has given up and in the message of the last
failure.

What concerns tables, routes and servers does not look at any of these. So an operation on them does
the same at two such engines, and leaves them as far apart as they were (`Engine.Alike`). Only who
asks for the message sees whether it is the same. -/
namespace RequestBridge

namespace Engine

/-- A route is known from then on if it is accepted. -/
theorem registerRoute_eq (e : Engine) (table : Address) (method : Method) (pattern : Bytes)
    (route : UInt16) :
    e.registerRoute table method pattern route =
      ({ e.record (.routeRegistered table method pattern route (e.codeFor table pattern)) with
          known := ((if e.codeFor table pattern = 0 then Utf8.decode? pattern else none).toList.map
            fun text => ⟨table, method, text, route⟩) ++ e.known },
        e.codeFor table pattern) := by
  unfold registerRoute
  dsimp only
  split
  · next hcode htext =>
    rw [hcode, htext]
    rfl
  · next hrefused =>
    have hnone : (if e.codeFor table pattern = 0 then Utf8.decode? pattern else none) = none := by
      split
      · next hcode => exact Option.eq_none_iff_forall_ne_some.mpr fun text => hrefused text hcode
      · rfl
    rw [hnone]
    rfl

theorem takeError_snd (e : Engine) :
    e.takeError.2 = e.lastError.map fun message => Utf8.lossy (e.profile.visible message) := by
  unfold takeError
  split
  · next hnone =>
    rw [hnone]
    rfl
  · next message hmessage =>
    rw [hmessage]
    rfl

/-- Engines that differ in what has been told, in who has given up and in the message of the last
failure. -/
def Alike (e e' : Engine) : Prop :=
  ∃ journal cancelled lastError, e' = { e with journal, cancelled, lastError }

namespace Alike
variable {e e' : Engine}

theorem refl (e : Engine) : e.Alike e := ⟨_, _, _, rfl⟩

theorem symm (h : e.Alike e') : e'.Alike e := by
  obtain ⟨journal, cancelled, lastError, rfl⟩ := h
  exact ⟨_, _, _, rfl⟩

theorem trans {e'' : Engine} (h : e.Alike e') (h' : e'.Alike e'') : e.Alike e'' := by
  obtain ⟨journal, cancelled, lastError, rfl⟩ := h
  obtain ⟨journal, cancelled, lastError, rfl⟩ := h'
  exact ⟨_, _, _, rfl⟩

theorem noted (h : e.Alike e') (calls calls' : List Call) :
    (e.noted calls).Alike (e'.noted calls') := by
  obtain ⟨journal, cancelled, lastError, rfl⟩ := h
  exact ⟨_, _, _, rfl⟩

theorem cancel (h : e.Alike e') (flag : Address) :
    (e.cancel flag).Alike (e'.cancel flag) := by
  obtain ⟨journal, cancelled, lastError, rfl⟩ := h
  exact ⟨_, _, _, rfl⟩

theorem attached (h : e.Alike e') : e'.attached = e.attached := by
  obtain ⟨journal, cancelled, lastError, rfl⟩ := h
  rfl

theorem resolve (h : e.Alike e') (method : Method) (path : String) :
    e'.resolve method path = e.resolve method path := by
  obtain ⟨journal, cancelled, lastError, rfl⟩ := h
  rfl

theorem createTable (h : e.Alike e') :
    e.createTable.1.Alike e'.createTable.1 ∧ e'.createTable.2 = e.createTable.2 := by
  obtain ⟨journal, cancelled, lastError, rfl⟩ := h
  unfold Engine.createTable
  split
  · exact ⟨⟨_, _, _, rfl⟩, rfl⟩
  · exact ⟨⟨_, _, _, rfl⟩, rfl⟩

theorem registerRoute (h : e.Alike e') (table : Address) (method : Method) (pattern : Bytes)
    (route : UInt16) :
    (e.registerRoute table method pattern route).1.Alike
      (e'.registerRoute table method pattern route).1 ∧
    (e'.registerRoute table method pattern route).2 =
      (e.registerRoute table method pattern route).2 := by
  obtain ⟨journal, cancelled, lastError, rfl⟩ := h
  rw [registerRoute_eq, registerRoute_eq]
  exact ⟨⟨_, _, _, rfl⟩, rfl⟩

theorem startServer (h : e.Alike e') (port : UInt16) (table : Option Address) :
    (e.startServer port table).1.Alike (e'.startServer port table).1 ∧
      (e'.startServer port table).2 = (e.startServer port table).2 := by
  obtain ⟨journal, cancelled, lastError, rfl⟩ := h
  unfold Engine.startServer
  dsimp only
  split
  · exact ⟨⟨_, _, _, rfl⟩, rfl⟩
  · exact ⟨⟨_, _, _, rfl⟩, rfl⟩

/-- The message of a server that has just failed to start is there at both. -/
theorem lastError_startServer (h : e.Alike e') (port : UInt16) (table : Option Address)
    (hfailed : (e.startServer port table).2 = none) :
    (e'.startServer port table).1.lastError = (e.startServer port table).1.lastError := by
  obtain ⟨journal, cancelled, lastError, rfl⟩ := h
  unfold Engine.startServer at hfailed ⊢
  dsimp only at hfailed ⊢
  split
  · rfl
  · next hstarts =>
    rw [hstarts] at hfailed
    cases hfailed

theorem of_takeError (e : Engine) : e.Alike e.takeError.1 := by
  unfold Engine.takeError
  split
  · exact .refl e
  · exact ⟨_, _, _, rfl⟩

theorem takeError (h : e.Alike e') : e.takeError.1.Alike e'.takeError.1 :=
  (of_takeError e).symm.trans (h.trans (of_takeError e'))

theorem takeError_snd (h : e.Alike e') (hsame : e'.lastError = e.lastError) :
    e'.takeError.2 = e.takeError.2 := by
  obtain ⟨journal, cancelled, lastError, rfl⟩ := h
  rw [Engine.takeError_snd, Engine.takeError_snd, hsame]

theorem attach (h : e.Alike e') (s : ServerId) :
    (∃ message, e.attach s = .error message ∧ e'.attach s = .error message) ∨
      ∃ x x', e.attach s = .ok x ∧ e'.attach s = .ok x' ∧ x.Alike x' := by
  obtain ⟨journal, cancelled, lastError, rfl⟩ := h
  unfold Engine.attach
  dsimp only
  split
  · exact .inl ⟨_, rfl, rfl⟩
  · exact .inr ⟨_, _, rfl, rfl, _, _, _, rfl⟩

theorem freeTable (h : e.Alike e') (table : Address) :
    (e.freeTable table).Alike (e'.freeTable table) := by
  obtain ⟨journal, cancelled, lastError, rfl⟩ := h
  exact ⟨_, _, _, rfl⟩

theorem stopServer (h : e.Alike e') (server : Address) :
    (e.stopServer server).Alike (e'.stopServer server) := by
  obtain ⟨journal, cancelled, lastError, rfl⟩ := h
  exact ⟨_, _, _, rfl⟩

theorem detach (h : e.Alike e') : e.detach.Alike e'.detach := by
  obtain ⟨journal, cancelled, lastError, rfl⟩ := h
  exact ⟨_, _, _, rfl⟩

end Alike
end Engine

/-! ### Routes -/

/-- What comes of adding a route at engines that are alike. -/
def Router.Added.Alike (a a' : Router.Added Engine) : Prop :=
  a.engine.Alike a'.engine ∧ a'.router = a.router ∧ a'.result = a.result

theorem Router.alike_addRoute {e e' : Engine} (h : e.Alike e') (r : Router) (method : Method)
    (path : String) (route : Route) :
    (r.addRoute e method path route).Alike (r.addRoute e' method path route) := by
  unfold Router.addRoute
  split
  · exact ⟨h, rfl, rfl⟩
  · next id _ =>
    obtain ⟨hengine, hcode⟩ :=
      h.registerRoute r.table method (Utf8.encode (Path.join "" path)) id
    dsimp only [RouteHost.registerRoute]
    rw [hcode]
    split
    · exact ⟨hengine, rfl, rfl⟩
    · exact ⟨hengine, rfl, rfl⟩

namespace Group

/-- What comes of declaring things at engines that are alike. -/
def Walk.Alike (w w' : Walk Engine) : Prop :=
  w.engine.Alike w'.engine ∧ w'.router = w.router ∧ w'.result = w.result

mutual

theorem alike_declare {e e' : Engine} (h : e.Alike e') (g : Group) (r : Router) :
    ∀ item, (g.declare r e item).Alike (g.declare r e' item)
  | .route path route => by
    rw [declare, declare]
    obtain ⟨hengine, hrouter, hresult⟩ := r.alike_addRoute h .get (Path.join g.base path)
      { route with stages := g.stages ++ route.stages }
    exact ⟨hengine, hrouter, congrArg (Except.map _) hresult⟩
  | .group base stages items => by
    rw [declare, declare]
    obtain ⟨hengine, hrouter, hresult⟩ := (g.nested base stages).alike_declareAll h r items
    exact ⟨hengine, hrouter, congrArg (Except.map _) hresult⟩

theorem alike_declareAll {e e' : Engine} (h : e.Alike e') (g : Group) (r : Router) :
    ∀ items, (g.declareAll r e items).Alike (g.declareAll r e' items)
  | [] => by
    rw [declareAll, declareAll]
    exact ⟨h, rfl, rfl⟩
  | item :: rest => by
    rw [declareAll, declareAll]
    obtain ⟨hengine, hrouter, hresult⟩ := g.alike_declare h r item
    dsimp only
    rw [hrouter, hresult]
    split
    · exact ⟨hengine, rfl, rfl⟩
    · next declared _ =>
      obtain ⟨hengine', hrouter', hresult'⟩ :=
        g.alike_declareAll hengine (g.declare r e item).router rest
      exact ⟨hengine', hrouter', congrArg (Except.map fun more => declared ++ more) hresult'⟩

end

end Group

theorem Router.alike_addGroup {e e' : Engine} (h : e.Alike e') (r : Router) (base : String)
    (stages : List Middleware) (items : List Declaration) :
    (r.addGroup e base stages items).Alike (r.addGroup e' base stages items) := by
  unfold Router.addGroup
  split
  · exact ⟨h, rfl, rfl⟩
  · obtain ⟨hengine, hrouter, hresult⟩ := (Group.outermost base stages).alike_declareAll h r items
    exact ⟨hengine, hrouter, congrArg (Except.map _) hresult⟩

end RequestBridge
