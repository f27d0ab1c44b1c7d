import SandboxNet.Proofs.Sandbox.Calls

/-! # Before there is a device

Up to the creation of its device a setup only reads, and without it a setup comes to nothing.
-/

namespace SandboxNet

open Program

namespace Strategy

variable {queues uid gid : UInt32}

theorem cautious_wire (physical : Link) :
    (wire AddressPlan.fixed queues physical uid gid).Cautious AddressPlan.fixed.tapName
      fun _ => False := by
  rw [wire]
  split
  · exact Cautious.fail _
  refine Cautious.bind (Q := fun _ => False) ?_ fun _ impossible => absurd impossible id
  rw [Tap.create, if_neg (by decide)]
  split
  · exact Cautious.fail _
  · exact Cautious.bind (Cautious.addTap rfl) fun _ impossible => absurd impossible id

/-- A setup has nothing to answer until it was given its device. -/
theorem cautious_setup (strategy : Strategy) :
    (strategy.setup uid gid).Cautious AddressPlan.fixed.tapName fun _ => False := by
  obtain ⟨scheme, queues⟩ := strategy
  cases scheme with
  | static =>
      refine Cautious.bind (Cautious.of_asks Uplink.failStop_require.asks) fun _ _ => ?_
      apply Cautious.bind (Cautious.ask rfl)
      intro physical _
      exact Cautious.bind (cautious_wire physical) fun _ impossible => absurd impossible id
  | dynamic =>
      refine Cautious.bind (Cautious.of_asks Uplink.failStop_require.asks) fun _ _ => ?_
      apply Cautious.bind (Cautious.of_asks TapIndex.failStop_next.asks)
      intro index _
      split
      · exact Cautious.fail _
      · next alone =>
          obtain rfl : index = 0 := by omega
          apply Cautious.bind (Cautious.ask rfl)
          intro physical _
          exact Cautious.bind (cautious_wire physical) fun _ impossible => absurd impossible id

end Strategy

end SandboxNet
