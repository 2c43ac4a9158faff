import HttpRouter.Proofs.Router.Answering

namespace HttpRouter

variable {World : Type}

namespace Router

/-- A request is handed to a handler: that handler is the only foreign code called, it is given the
    request with the parameters in the world as it was, and what it comes to is the response. -/
structure HandsTo (router : Router World) (request : Http.Request) (world : World)
    (index : Option Nat) (handler : Handler World) (params : Params) : Prop where
  record : router.dispatchRecord request world = [.handler index]
  response : (router.dispatch request world).1.value =
    settled (router.handle handler ⟨request, params⟩ world).outcome
  world : (router.dispatch request world).2 = (handler ⟨request, params⟩ world).2

/-- A request that two routers with the same settings hand to the same handler is answered alike by
    both. -/
theorem HandsTo.dispatch_eq {router : Router World} {others : List (Route World)}
    {request : Http.Request} {world : World} {i j : Option Nat} {handler : Handler World}
    {params : Params}
    (hother : ({ router with routes := others } : Router World).HandsTo request world i handler params)
    (h : router.HandsTo request world j handler params) :
    (({ router with routes := others } : Router World).dispatch request world).1.value =
        (router.dispatch request world).1.value ∧
      (({ router with routes := others } : Router World).dispatch request world).2 =
        (router.dispatch request world).2 := by
  rw [hother.response, hother.world, h.response, h.world]
  exact ⟨rfl, rfl⟩

section Searching

variable (router : Router World) (request : Http.Request) (path : String) (presence : Presence)
  (world : World)

end Searching

section Handing

variable (router : Router World) (request : Http.Request) (world : World)

end Handing

end Router

end HttpRouter
