import PackageSearch.Server.Run

/-!
The runs of the server: operations arrive, time passes, and tasks that can go on do so, in any
order.
-/

namespace PackageSearch.Server

inductive Step (settings : Settings) (world : World) : State → State → Prop where
  | arrive {state : State} (operation : Operation) :
      Step settings world state (state.spawn settings world operation)
  | announce {state : State} (operation : Operation) (start : Nat) :
      Step settings world state (state.schedule operation start)
  | pass {state : State} {later : Nat} :
      state.now ≤ later → Step settings world state { state with now := later }
  | resume {state : State} {task : TaskId} :
      state.isReady task = true → Step settings world state (state.resume settings world task)

inductive Reachable (settings : Settings) (world : World) : State → Prop where
  | initial : Reachable settings world State.initial
  | step {state next : State} :
      Reachable settings world state → Step settings world state next →
        Reachable settings world next

end PackageSearch.Server
