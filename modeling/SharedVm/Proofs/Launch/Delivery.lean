import SharedVm.Proofs.Exchange
import SharedVm.Proofs.Launch.Attempts
import SharedVm.Proofs.Relay

/-!
# One attempt to reach a leader

A launch that is not interactive makes its request. An interactive one starts a relay first, and
sees it off when the request is over, whatever became of it.
-/

namespace SharedVm

open Act

/-- How a relay is seen off once the request that went with it is over. -/
def Relay.seenOff (p : RelayProcess) : Except Failure Unit → List Event
  | .ok () => [.wait]
  | .error _ => ended p ++ [.wait]

namespace Launch

variable {α : Type}

section

variable (l : Launch α) (request : Asking) (base : Option Path) (port : Int) (command : Value)
  (args : List Value) (env : Value)

/-- What one attempt comes to. -/
inductive Delivers (w : World) : Except Failure Unit → World → Prop
  | plain {r : Except Failure Unit} {v : World} (hl : l.interactive = false)
      (hr : (request (.int port) command (.list args) env).run w = (r, v)) : Delivers w r v
  | unopened {f : Failure} {v : World} (hl : l.interactive = true)
      (hs : (Relay.start base none w.environ).run w = (.error f, v)) : Delivers w (.error f) v
  | unwrapped {relay : Relay} {f : Failure} {v : World} (hl : l.interactive = true)
      (hs : (Relay.start base none w.environ).run w = (.ok relay, v))
      (hw : Relay.wrap command (.list args) (.int relay.port) = .error f) : Delivers w (.error f) v
  | relayed {relay : Relay} {wrapped : Text × List Text} {r : Except Failure Unit}
      {v u x : World} (hl : l.interactive = true)
      (hs : (Relay.start base none w.environ).run w = (.ok relay, v))
      (hw : Relay.wrap command (.list args) (.int relay.port) = .ok wrapped)
      (hr : (request (.int port) (.text wrapped.1) (.list (wrapped.2.map .text)) env).run v = (r, u))
      (hx : { u with events := u.events ++ Relay.seenOff relay.process r }.Local x) : Delivers w r x

lemma deliver_delivers (w : World) : l.Delivers request base port command args env w
    ((l.deliver request base port command args env).run w).1
    ((l.deliver request base port command args env).run w).2 := by
  unfold deliver
  cases hl : l.interactive with
  | false => exact .plain hl rfl
  | true =>
    rw [if_neg (by decide), run_bind_of_ok (run_environ w), run_bind]
    rcases hs : (Relay.start base none w.environ).run w with ⟨f | relay, v⟩
    · exact .unopened hl hs
    · dsimp only
      cases hw : Relay.wrap command (.list args) (.int relay.port) with
      | error f =>
        rw [run_bind_of_error (run_ofExcept _ v)]
        exact .unwrapped hl hs hw
      | ok wrapped =>
        rw [run_bind_of_ok (run_ofExcept _ v), run_bind, run_tryCatch]
        rcases hr : (request (.int port) (.text wrapped.1) (.list (wrapped.2.map .text)) env).run v
          with ⟨f | ⟨⟩, u⟩
        · dsimp only
          rw [run_bind_of_ok (Relay.run_terminate relay u), run_bind_of_ok (Relay.run_wait relay _)]
          refine .relayed hl hs hw hr ?_
          dsimp only [run_throw, Relay.seenOff]
          rw [List.append_assoc]
          exact refl_of World.Local _
        · dsimp only
          rw [run_bind_of_ok (Relay.run_wait relay u), run_note]
          exact .relayed hl hs hw hr rfl

end

end Launch

end SharedVm
