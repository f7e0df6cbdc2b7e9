import RequestBridge.Routing.Group

/-! What a group does to a router and an engine.

A group is declared by adding its routes one after another. So what every addition of one route
leaves as it is, a whole group leaves as it is (`Router.lasts_addGroup`). -/
namespace RequestBridge

/-- A relation that lasts as long as nothing but routes are added to a router. -/
structure Router.Lasts (P : Router × Engine → Router × Engine → Prop) : Prop where
  refl : ∀ x, P x x
  trans : ∀ {x y z}, P x y → P y z → P x z
  addRoute : ∀ (r : Router) (e : Engine) method path route,
    P (r, e) ((r.addRoute e method path route).router, (r.addRoute e method path route).engine)

variable {P : Router × Engine → Router × Engine → Prop}

namespace Group

mutual

theorem lasts_declare (h : Router.Lasts P) (g : Group) (r : Router) (e : Engine) :
    ∀ item, P (r, e) ((g.declare r e item).router, (g.declare r e item).engine)
  | .route path route => by
    rw [declare]
    exact h.addRoute r e .get _ _
  | .group base stages items => by
    rw [declare]
    exact lasts_declareAll h (g.nested base stages) r e items

theorem lasts_declareAll (h : Router.Lasts P) (g : Group) (r : Router) (e : Engine) :
    ∀ items, P (r, e) ((g.declareAll r e items).router, (g.declareAll r e items).engine)
  | [] => by
    rw [declareAll]
    exact h.refl _
  | item :: rest => by
    have hfirst := lasts_declare h g r e item
    rw [declareAll]
    dsimp only
    split
    · exact hfirst
    · exact h.trans hfirst (lasts_declareAll h g _ _ rest)

end

end Group

theorem Router.lasts_addGroup (h : Lasts P) (r : Router) (e : Engine) (base : String)
    (stages : List Middleware) (items : List Declaration) :
    P (r, e) ((r.addGroup e base stages items).router, (r.addGroup e base stages items).engine) := by
  unfold addGroup
  split
  · exact h.refl _
  · exact Group.lasts_declareAll h _ r e items

end RequestBridge
