import SandboxNet.Proofs.Kernel.States
import SandboxNet.Proofs.Sandbox.Calls

/-! # Sequences of operations

A session is any number of operations with any arguments, each of them started whatever became of
those before it. What every operation keeps, in all the states that it passes through, a session
keeps.
-/

namespace SandboxNet

open Program Call

/-- An operation that can be asked for, with its arguments. -/
inductive Operation where
  | setup (strategy : Strategy) (uid gid : UInt32)
  | cleanup (tap : String)
  | install (physical tap : Link)
  | addIngress (link : Option Link)
  | addRedirect (source target : Option Link)
  | deleteQdiscs (link : Option Link)
  | deleteFilters (link : Option Link)
  | deleteRedirectsTo (link : Link) (target : String)
  | createTap (name : String) (queues : Int32) (mtu : Option UInt32) (uid gid : UInt32)
  | deleteTap (link : Option Link)
  | masquerade (outInterface : String) (subnet : Ipv4Net)
  | unmasquerade (outInterface : String) (subnet : Ipv4Net)

namespace Operation

/-- What an operation answers when it succeeds. -/
@[reducible] def Answer : Operation → Type
  | setup _ _ _ => Descriptor
  | createTap _ _ _ _ _ => Link
  | deleteRedirectsTo _ _ => Nat
  | unmasquerade _ _ => Bool
  | cleanup _ | install _ _ | addIngress _ | addRedirect _ _ | deleteQdiscs _ | deleteFilters _
  | deleteTap _ | masquerade _ _ => Unit

def program : (operation : Operation) → Program operation.Answer
  | setup strategy uid gid => strategy.setup uid gid
  | cleanup tap => Cleanup.run tap
  | install physical tap => Duplex.install physical tap
  | addIngress link => Duplex.addIngress link
  | addRedirect source target => Duplex.addRedirect source target
  | deleteQdiscs link => Duplex.deleteQdiscs link
  | deleteFilters link => Duplex.deleteFilters link
  | deleteRedirectsTo link target => Duplex.deleteRedirectsTo link target
  | createTap name queues mtu uid gid => Tap.create name queues mtu uid gid
  | deleteTap link => Tap.delete link
  | masquerade outInterface subnet => Masquerade.install outInterface subnet
  | unmasquerade outInterface subnet => Masquerade.remove outInterface subnet

/-- Operations one after the other, whatever each of them ends with. -/
def session (operations : List Operation) : Program Unit :=
  operations.forM fun operation => do
    let _ ← operation.program.attempt
    return ()

variable {σ : Type} {K : Kernel σ} {s : σ}

/-- What each operation of a session keeps between any two of its calls, the session keeps. -/
theorem states_session {I : σ → Prop} {operations : List Operation}
    (keeps : ∀ operation ∈ operations, ∀ s, I s → ∀ t ∈ operation.program.states K s, I t)
    (start : I s) : ∀ t ∈ (session operations).states K s, I t := by
  induction operations generalizing s with
  | nil =>
      intro t member
      exact List.mem_singleton.1 member ▸ start
  | cons operation rest ih =>
      have attempted : ∀ t ∈ operation.program.attempt.states K s, I t := by
        rw [states_attempt]
        exact keeps operation List.mem_cons_self s start
      have first : ∀ t ∈ (operation.program.attempt >>= fun _ => pure ()).states K s, I t := by
        intro t member
        rcases mem_states_bind member with during | ⟨_, _, after⟩
        · exact attempted t during
        · rw [List.mem_singleton.1 after]
          exact attempted _ (state_mem_states _)
      have later : ∀ t, I t → ∀ u ∈ (session rest).states K t, I u := fun t held =>
        ih (fun other member => keeps other (List.mem_cons_of_mem _ member)) held
      intro t member
      rcases mem_states_bind member with during | ⟨_, _, after⟩
      · exact first t during
      · exact later _ (first _ (state_mem_states _)) t after

/-- The calls that an operation may make. -/
def MayCall : Operation → Call → Prop
  | setup strategy _ _ => OfSetup strategy.scheme
  | cleanup tap => OfCleanup tap
  | install _ _ => OnTraffic
  | addIngress link | deleteQdiscs link => OnQdiscs link
  | addRedirect link _ | deleteFilters link => OnFilters link
  | deleteRedirectsTo link _ => OnFilters (some link)
  | createTap name _ _ _ _ => OnDevice name
  | deleteTap _ => fun request => ∃ link, request = .deleteLink link
  | masquerade outInterface subnet => Adopting (NatRule.masquerade outInterface subnet)
  | unmasquerade outInterface subnet => Dropping (NatRule.masquerade outInterface subnet)

theorem asks_mayCall (operation : Operation) : operation.program.Asks operation.MayCall := by
  cases operation with
  | setup strategy uid gid => exact (strategy.failStop_setup uid gid).asks
  | cleanup tap => exact Cleanup.asks_calls tap
  | install physical tap => exact (Duplex.failStop_install physical tap).asks
  | addIngress link => exact (Duplex.failStop_addIngress link).asks
  | addRedirect source target => exact (Duplex.failStop_addRedirect source target).asks
  | deleteQdiscs link => exact (Duplex.failStop_deleteQdiscs link).asks
  | deleteFilters link => exact (Duplex.failStop_deleteFilters link).asks
  | deleteRedirectsTo link target => exact (Duplex.failStop_deleteRedirectsTo link target).asks
  | createTap name queues mtu uid gid => exact (Tap.failStop_create name queues mtu uid gid).asks
  | deleteTap link => exact (Tap.failStop_delete link).asks
  | masquerade outInterface subnet => exact (Masquerade.failStop_install outInterface subnet).asks
  | unmasquerade outInterface subnet => exact (Masquerade.failStop_remove outInterface subnet).asks

theorem MayCall.orderly {operation : Operation} {request : Call} (h : operation.MayCall request) :
    request.Orderly := by
  cases operation with
  | setup => exact h.creating.orderly
  | cleanup => exact h.deleting.orderly
  | install => exact h.plain.orderly
  | addIngress | deleteQdiscs => exact (OnQdiscs.traffic h).plain.orderly
  | addRedirect | deleteFilters | deleteRedirectsTo => exact (OnFilters.traffic h).plain.orderly
  | createTap => exact (OnDevice.creating h).orderly
  | deleteTap =>
      obtain ⟨link, rfl⟩ := h
      nofun
  | masquerade => exact (Adopting.plain h).orderly
  | unmasquerade => exact (Dropping.plain h).orderly

/-- No operation attaches another queueing discipline than the ingress one. -/
theorem asks_program (operation : Operation) : operation.program.Asks Orderly :=
  operation.asks_mayCall.mono fun _ => MayCall.orderly

end Operation

end SandboxNet
