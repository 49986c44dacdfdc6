import EncosDriver.Ethernet.Management
import EncosDriver.Ethercat.Reconfigure

set_option autoImplicit false

namespace EncosDriver.Adapter.BusTiming

open Lib

/-- Any number of calls, of stops and of failures of the loop, in any order. -/
theorem bus_timing_requests_complete (channelCount : Nat) (Timing : Type) (line : Ethercat.Reconfigure.Line) (Override : Type) :
    (∀ state, Reachable (Ethernet.Management.system channelCount Timing) state →
      RequestQueue.Completes Ethernet.Management.Configured state.shared.requests (Ethernet.Management.Returns state)
        (Ethernet.Management.Over state)) ∧
    (∀ state, Reachable (Ethercat.Reconfigure.system line Override) state →
      RequestQueue.Completes Ethercat.Reconfigure.Applies state.shared.requests (Ethercat.Reconfigure.Returns state)
        (Ethercat.Reconfigure.Over state)) :=
  ⟨fun state reached => Ethernet.Management.management_completes channelCount state reached,
    fun state reached => Ethercat.Reconfigure.reconfigure_buses_completes line state reached⟩

-- The gateway takes the first request and refuses the second, which is in
-- service when the stop fails the third.
def ethernetRun : List (Ethernet.Management.Action Nat) :=
  [.reconfigure ⟨0, 5⟩, .reconfigure ⟨0, 6⟩, .reconfigure ⟨0, 7⟩, .stop, .run 0 false, .run 0 false, .run 1 false, .run 1 false,
    .run 2 false, .run 2 false, .work .completes, .work .completes, .work .completes, .work .completes, .work .completes,
    .work .completes, .work .completes, .run 3 false, .work (.throws "refused"), .work .completes, .work .completes,
    .work .completes, .work .completes, .run 0 false, .run 1 false, .run 2 false, .run 3 false]

def twoOverrides : Ethercat.Reconfigure.AdapterExtend Nat := ⟨[(0, 0), (0, 1)], fun _ channel => some channel.toNat⟩

-- The slave refuses the second override of the first call and takes both of the
-- second call; the third is queued when the stop comes, and then the exchange
-- throws.
def ethercatRun : List (Ethercat.Reconfigure.Action Nat) :=
  let cycle (event : Ethercat.Reconfigure.Event Nat) : List (Ethercat.Reconfigure.Action Nat) :=
    [.work event, .work event, .work event, .work event, .work event]
  [.reconfigureBuses twoOverrides, .reconfigureBuses twoOverrides, .reconfigureBuses ⟨[], fun _ _ => none⟩, .requestStop, .run 0 false,
    .run 0 false, .run 0 false, .run 1 false, .run 1 false, .run 1 false] ++
    cycle (.completes fun _ channel _ => if channel = 0 then .accepted else .refused) ++ cycle (.completes fun _ _ _ => .accepted) ++
    [.work (.completes fun _ _ _ => .accepted), .run 2 false, .run 2 false, .run 3 false, .run 2 false, .run 3 false, .work .throws, .run 0 false, .run 1 false, .run 2 false]

def oneSlave : Ethercat.Reconfigure.Line := ⟨1, [2]⟩

theorem ethernet_run_served : (runActions (Ethernet.Management.system 1 Nat) ⟨{}, ∅, 0⟩ ethernetRun).map
    (fun state => (state.shared.requests.answered, state.calls.find 0)) =
      some ([(0, .value), (2, .exception Ethernet.Management.stopping), (1, .exception "refused")],
        some (.reconfigure ⟨0, 5⟩ (.done .returned))) := by
  decide +kernel

theorem ethercat_run_served : (runActions (Ethercat.Reconfigure.system oneSlave Nat) ⟨{}, ∅, 0⟩ ethercatRun).map
    (fun state => (state.shared.requests.answered, state.calls.find 1)) =
      some ([(0, .exception Ethercat.Reconfigure.rejected), (1, .value), (2, .exception Ethercat.Reconfigure.stopped)],
        some (.reconfigureBuses twoOverrides (.done .returned))) := by
  rfl

theorem bus_timing_requests_complete_at_stop :
    (∃ state : Ethernet.Management.State Nat,
      state.shared.requests.answered = [(0, .value), (2, .exception Ethernet.Management.stopping), (1, .exception "refused")] ∧
      ∃ service, ((0, ⟨0, 5⟩), service) ∈ state.shared.requests.served ∧ Ethernet.Management.Configured ⟨0, 5⟩ service) ∧
    (∃ state : Ethercat.Reconfigure.State Nat,
      state.shared.requests.answered =
        [(0, .exception Ethercat.Reconfigure.rejected), (1, .value), (2, .exception Ethercat.Reconfigure.stopped)] ∧
      ∃ calls, ((1, twoOverrides), calls) ∈ state.shared.requests.served ∧ Ethercat.Reconfigure.Applies twoOverrides calls) := by
  have complete := bus_timing_requests_complete 1 Nat oneSlave Nat
  obtain ⟨gateway, gatewayRan, gatewaySame⟩ := Option.map_eq_some_iff.mp ethernet_run_served
  obtain ⟨gatewayAnswered, gatewayReturned⟩ := Prod.mk.inj gatewaySame
  obtain ⟨handle, handleRan, handleSame⟩ := Option.map_eq_some_iff.mp ethercat_run_served
  obtain ⟨handleAnswered, handleReturned⟩ := Prod.mk.inj handleSame
  have gatewayComplete := complete.1 gateway (run_actions_reachable _ _ _ _ (.start _ rfl) gatewayRan)
  have handleComplete := complete.2 handle (run_actions_reachable _ _ _ _ (.start _ rfl) handleRan)
  exact ⟨⟨gateway, gatewayAnswered, (gatewayComplete.truthful 0 ⟨0, 5⟩ gatewayReturned).2⟩,
    ⟨handle, handleAnswered, (handleComplete.truthful 1 twoOverrides handleReturned).2⟩⟩

end EncosDriver.Adapter.BusTiming
