import DsiPanel.Panel.Liveness
import DsiPanel.Panel.Transition

/-!
# Sessions with a panel

What can be done to a panel, as data. A **request** is one call, `serve` answers it, and a session
is a list of requests that are served one after the other. A request that fails does not end a
session: the next one finds the panel as the failed one left it.

Between two operations the host may be reached directly and changed at will. That is a request
too, and leaves no event, since the panel has no part in it.
-/

set_option autoImplicit false

namespace DsiPanel.Panel

/-! ## Requests and answers -/

/-- One call on a panel. -/
inductive Request (σ : Type) where
  /-- give the panel a host -/
  | configure (host : σ)
  /-- change the host, if there is one, past the panel -/
  | adjust (change : σ → σ)
  /-- perform an operation of the lifecycle -/
  | perform (operation : Operation)

/-- What a call that succeeded gives. -/
inductive Answer (σ : Type) where
  /-- there is nothing to tell -/
  | done
  /-- whether the panel is well -/
  | alive (well : Bool)
  /-- the host the panel had until now -/
  | replaced (previous : Option σ)
  /-- whether there was a host to change -/
  | adjusted (found : Bool)
  deriving DecidableEq

/-! ## Serving them -/

variable {σ : Type}

/-- Change the host, if there is one. -/
def adjust (change : σ → σ) : Run Error (Panel σ) Bool := fun panel =>
  ⟨.ok panel.host.isSome, [], { panel with host := panel.host.map change }⟩

variable [Host σ]

/-- Perform one operation. -/
def perform : Operation → Run Error (Panel σ) (Answer σ)
  | .bringUp => (fun _ => .done) <$> bringUp
  | .suspend => (fun _ => .done) <$> suspend
  | .resume => (fun _ => .done) <$> resume
  | .checkLiveness => .alive <$> checkLiveness

/-- Answer one request. -/
def serve : Request σ → Run Error (Panel σ) (Answer σ)
  | .configure host => .replaced <$> configure host
  | .adjust change => .adjusted <$> adjust change
  | .perform operation => perform operation

theorem serve_configure (host : σ) (panel : Panel σ) :
    serve (.configure host) panel =
      ⟨.ok (.replaced panel.host), [.noted (.configured panel.name)],
        { panel with host := some host }⟩ := rfl

theorem serve_adjust (change : σ → σ) (panel : Panel σ) :
    serve (.adjust change) panel =
      ⟨.ok (.adjusted panel.host.isSome), [], { panel with host := panel.host.map change }⟩ := rfl

theorem serve_perform (operation : Operation) :
    (serve (.perform operation) : Run Error (Panel σ) (Answer σ)) = perform operation := rfl

/-- Serve a list of requests in order. There is one report for each, and the panel at the end. -/
def serveAll (panel : Panel σ) :
    List (Request σ) → List (Report Error (Panel σ) (Answer σ)) × Panel σ
  | [] => ([], panel)
  | request :: rest =>
    let report := serve request panel
    let (reports, last) := serveAll report.state rest
    (report :: reports, last)

theorem serveAll_cons (panel : Panel σ) (request : Request σ) (rest : List (Request σ)) :
    serveAll panel (request :: rest) =
      (serve request panel :: (serveAll (serve request panel).state rest).1,
        (serveAll (serve request panel).state rest).2) := rfl

end DsiPanel.Panel
