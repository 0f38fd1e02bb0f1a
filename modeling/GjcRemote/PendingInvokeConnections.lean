import GjcRemote.PendingInvokeGates
import GjcRemote.PendingInvokeNetwork

/-! That a connection that is lost takes everything with it that refers to its socket. -/
namespace GjcRemote.HostInvoke

open Utf16 OrderedMap List Registry

variable {cfg : Config} {net : Transport} {ending : Option Nat} {s : Registry}

theorem network_identities {s s' : Registry} (same : s'.network = s.network) :
    s'.connectionIdentities = s.connectionIdentities := congrArg (·.2.2) same

theorem network_sockets {s s' : Registry} (same : s'.network = s.network) : s'.sockets = s.sockets :=
  congrArg (·.1) same

theorem network_connections {s s' : Registry} (same : s'.network = s.network) :
    s'.connections = s.connections := congrArg (·.2.1) same

structure Fails (s s' : Registry) : Prop where
  network : s'.network = s.network
  invoked : s'.invoked = s.invoked
  same : ∀ q, SameRequest (s.pendings q) (s'.pendings q)
  requests : ∀ r p, s'.pendingRequests.get r = some p → s.pendingRequests.get r = some p

theorem Fails.refl (s : Registry) : Fails s s := ⟨rfl,rfl,fun _ => .refl _,fun _ _ found => found⟩

theorem Fails.trans (one : Fails first second) (two : Fails second third) :
    Fails first third where
  network := two.network.trans one.network
  invoked := two.invoked.trans one.invoked
  same q := (one.same q).trans (two.same q)
  requests r p found := one.requests r p (two.requests r p found)

theorem settle_fails (s : Registry) (p : Nat) (result : Result) : Fails s (s.settle p result) := by
  have touches := settle_touches s p result
  refine ⟨network_settle ..,?_,touches.same,fun r q found => ?_⟩
  · rw [touches.rest]
  · rw [touches.requests] at found
    exact found

theorem deletePending_fails (s : Registry) (requestId : Units) : Fails s (s.deletePending requestId) := by
  refine ⟨network_deletePending ..,?_,fun q => ?_,fun r q found => ?_⟩
  all_goals unfold deletePending at *
  all_goals split at *
  · rfl
  · rfl
  · exact .refl _
  · exact modify_same (mild_clearTimers.same _) q
  · exact found
  · exact (get_delete_eq_some.mp found).2

theorem deletePending_gone (s : Registry) (requestId : Units) :
    (s.deletePending requestId).pendingRequests.get requestId = none := by
  unfold deletePending
  split
  · next absent => exact absent
  · exact get_delete_self ..

theorem failEntry_fails (s : Registry) (socket : Nat) (code : Option Units) (e : Units × Nat) :
    Fails s (s.failEntry socket code e) := by
  unfold failEntry
  split
  · exact .refl s
  · exact (settle_fails ..).trans (deletePending_fails ..)

theorem Sound.failEntry (sound : Sound ending none s) (below : e.2 < s.invoked)
    (own : ∀ p, s.pendingRequests.get e.1 = some p → p = e.2) (socket : Nat) (code : Option Units) :
    Sound ending none (s.failEntry socket code e) := by
  unfold Registry.failEntry
  split
  · exact sound
  · refine (sound.settle below (fun _ _ => not_loose) _).deletePending fun p found => ?_
    rw [own p ((settle_fails ..).requests _ _ found)]
    exact settle_settled ..

/-- The entries that a pass finds are the ones that the registry has, or they have left. -/
structure Listed (s : Registry) (e : Units × Nat) : Prop where
  below : e.2 < s.invoked
  own : ∀ p, s.pendingRequests.get e.1 = some p → p = e.2

theorem Listed.fails (listed : Listed s e) (fails : Fails s s') :
    Listed s' e := by
  refine ⟨?_,fun p found => listed.own p (fails.requests _ _ found)⟩
  rw [fails.invoked]
  exact listed.below

/-- One pass over the pending requests, by induction on the entries. -/
theorem failEntries (entries : List (Units × Nat)) (listed : ∀ e ∈ entries, Listed s e)
    (sound : Sound ending none s) (socket : Nat) (code : Option Units) :
    Sound ending none (entries.foldl (failEntry socket code) s) ∧
      Fails s (entries.foldl (failEntry socket code) s) ∧
      ∀ e ∈ entries, (s.pendings e.2).socket = socket →
        (entries.foldl (failEntry socket code) s).pendingRequests.get e.1 = none := by
  induction entries generalizing s with
  | nil => exact ⟨sound,.refl s,fun e member => nomatch member⟩
  | cons e rest ih =>
    have fails := failEntry_fails s socket code e
    have head := listed e mem_cons_self
    have next := sound.failEntry head.below head.own socket code
    have later (e' : Units × Nat) (member : e' ∈ rest) : Listed (s.failEntry socket code e) e' :=
      (listed e' (mem_cons_of_mem _ member)).fails fails
    obtain ⟨sound',fails',gone⟩ := ih later next
    refine ⟨sound',fails.trans fails',fun e' member here => ?_⟩
    rcases mem_cons.mp member with rfl | inside
    · rw [Option.eq_none_iff_forall_ne_some]
      intro p found
      have there := fails'.requests _ _ found
      rw [failEntry,if_neg (not_not.mpr here),deletePending_gone] at there
      cases there
    · refine gone e' inside ?_
      rw [(fails.same e'.2).socket]
      exact here

theorem failPending_spec (sound : Sound ending none s) (socket : Nat) (code : Option Units) :
    Sound ending none (s.failPending socket code) ∧ (s.failPending socket code).network = s.network ∧
      ∀ r p, (s.failPending socket code).pendingRequests.get r = some p →
        ((s.failPending socket code).pendings p).socket ≠ socket := by
  have listed (e : Units × Nat) (member : e ∈ s.pendingRequests.entries) : Listed s e := by
    have there := get_eq_some.mpr member
    refine ⟨(sound.requests e.1 e.2 there).1,fun p found => ?_⟩
    rw [there] at found
    exact (Option.some.inj found).symm
  obtain ⟨sound',fails,gone⟩ := failEntries s.pendingRequests.entries listed sound socket code
  refine ⟨sound',fails.network,fun r p found here => ?_⟩
  rw [failPending,(fails.same p).socket] at here
  have none := gone (r,p) (get_eq_some.mp (fails.requests r p found)) here
  exact Option.some_ne_none p (found.symm.trans none)

theorem failAnswer_kept (fails : GateAnswer → Bool) (e : Nat × GateAnswer)
    (found : (s.failAnswer fails e).pendingGateAnswers.get a = some entry) :
    s.pendingGateAnswers.get a = some entry ∧ (fails e.2 → a ≠ e.1) := by
  unfold failAnswer at found
  split at found
  · unfold settleGateAnswer at found
    split at found
    · next absent =>
      refine ⟨found,fun _ same => ?_⟩
      rw [same,absent] at found
      cases found
    · obtain ⟨other,before⟩ := get_delete_eq_some.mp found
      exact ⟨before,fun _ => other⟩
  · next kept => exact ⟨found,fun fail => absurd fail kept⟩

theorem Sound.failAnswer (sound : Sound ending none s) (fails : GateAnswer → Bool) (e : Nat × GateAnswer) :
    Sound ending none (s.failAnswer fails e) := by
  unfold Registry.failAnswer
  split
  · exact sound.settleGateAnswer ..
  · exact sound

/-- An answer that is settled changes neither the connections nor the pending requests. -/
theorem failAnswer_rest (s : Registry) (fails : GateAnswer → Bool) (e : Nat × GateAnswer) :
    (s.failAnswer fails e).network = s.network ∧ (s.failAnswer fails e).pendingRequests = s.pendingRequests ∧
      (s.failAnswer fails e).cancelTombstones = s.cancelTombstones ∧
      ∀ q, SameRequest (s.pendings q) ((s.failAnswer fails e).pendings q) := by
  unfold failAnswer
  split
  · have answers := settleGateAnswer_answers s e.1 .disconnected
    refine ⟨network_settleGateAnswer ..,?_,?_,answers.same⟩
    · rw [answers.rest]
    · rw [answers.rest]
  · exact ⟨rfl,rfl,rfl,fun _ => .refl _⟩

theorem failAnswers_fold (entries : List (Nat × GateAnswer)) (fails : GateAnswer → Bool)
    (sound : Sound ending none s) :
    let after := entries.foldl (failAnswer fails) s
    Sound ending none after ∧ after.network = s.network ∧ after.pendingRequests = s.pendingRequests ∧
      after.cancelTombstones = s.cancelTombstones ∧ (∀ q, SameRequest (s.pendings q) (after.pendings q)) ∧
      ∀ a entry, after.pendingGateAnswers.get a = some entry → s.pendingGateAnswers.get a = some entry ∧
        ∀ e ∈ entries, fails e.2 → a ≠ e.1 := by
  induction entries generalizing s with
  | nil =>
    exact ⟨sound,rfl,rfl,rfl,fun _ => .refl _,fun a entry found => ⟨found,fun e member => nomatch member⟩⟩
  | cons e rest ih =>
    obtain ⟨sound',network,requests,tombstones,same,kept⟩ := ih (sound.failAnswer fails e)
    obtain ⟨network',requests',tombstones',same'⟩ := failAnswer_rest s fails e
    refine ⟨sound',network.trans network',requests.trans requests',tombstones.trans tombstones',
      fun q => (same' q).trans (same q),fun a entry found => ?_⟩
    obtain ⟨there,others⟩ := kept a entry found
    obtain ⟨before,other⟩ := failAnswer_kept fails e there
    refine ⟨before,fun e' member => ?_⟩
    rcases mem_cons.mp member with rfl | inside
    · exact other
    · exact others e' inside

theorem failAnswers_spec (sound : Sound ending none s) (fails : GateAnswer → Bool) :
    Sound ending none (s.failAnswers fails) ∧ (s.failAnswers fails).network = s.network ∧
      (s.failAnswers fails).pendingRequests = s.pendingRequests ∧
      (s.failAnswers fails).cancelTombstones = s.cancelTombstones ∧
      (∀ q, SameRequest (s.pendings q) ((s.failAnswers fails).pendings q)) ∧
      ∀ a entry, (s.failAnswers fails).pendingGateAnswers.get a = some entry → fails entry = false := by
  obtain ⟨sound',network,requests,tombstones,same,kept⟩ :=
    failAnswers_fold s.pendingGateAnswers.entries fails sound
  refine ⟨sound',network,requests,tombstones,same,fun a entry found => ?_⟩
  obtain ⟨before,others⟩ := kept a entry found
  rw [Bool.eq_false_iff]
  exact fun fail => others (a,entry) (get_eq_some.mp before) fail rfl

structure Unreferenced (s : Registry) (socket : Nat) : Prop where
  requests : ∀ r p, s.pendingRequests.get r = some p → (s.pendings p).socket ≠ socket
  tombstones : ∀ r e, s.cancelTombstones.get r = some e → e.socket ≠ socket
  answers : ∀ a e, s.pendingGateAnswers.get a = some e → e.socket ≠ socket
  presentations : ∀ a e, s.pendingGatePresentations.get a = some e → e.socket ≠ socket
  abandons : ∀ a e, s.pendingGateAbandons.get a = some e → e.socket ≠ socket

theorem failPendingForSocket_spec (sound : Sound ending none s) (socket : Nat) (code : Option Units) :
    Sound ending none (s.failPendingForSocket socket code) ∧
      (s.failPendingForSocket socket code).network = s.network ∧
      Unreferenced (s.failPendingForSocket socket code) socket := by
  obtain ⟨failed,network,gone⟩ := failPending_spec sound socket code
  have discarded : Sound ending none {s.failPending socket code with
      cancelTombstones := (s.failPending socket code).cancelTombstones.discard fun _ e => e.socket == socket} :=
    {failed with tombstones := fun r e found => failed.tombstones r e (get_discard.mp found).1}
  obtain ⟨answered,network',requests,tombstones,same,answers⟩ :=
    failAnswers_spec discarded fun e => e.socket == socket
  refine ⟨?_,network'.trans network,?_⟩
  · refine {answered with presentations := fun a e found => ?_,abandons := fun a e found => ?_}
    · exact answered.presentations a e (get_discard.mp found).1
    · exact answered.abandons a e (get_discard.mp found).1
  · constructor
    case requests =>
      intro r p found
      refine (same p).socket.trans_ne ?_
      exact gone r p ((congrArg (get · r) requests).symm.trans found)
    case tombstones =>
      intro r e found
      have found' := (congrArg (get · r) tombstones).symm.trans found
      exact beq_eq_false_iff_ne.mp (get_discard.mp found').2
    case answers => exact fun a e found => beq_eq_false_iff_ne.mp (answers a e found)
    case presentations => exact fun a e found => beq_eq_false_iff_ne.mp (get_discard.mp found).2
    case abandons => exact fun a e found => beq_eq_false_iff_ne.mp (get_discard.mp found).2

/-- A socket that nothing refers to need not be connected. -/
theorem Sound.unreferenced (sound : Sound (some socket) none s) (gone : Unreferenced s socket)
    (unconnected : ∀ hostId other, s.connections.get hostId = some other → other ≠ socket) :
    Sound none none s := by
  have live {other : Nat} (ends : s.isLive (some socket) other) (ne : other ≠ socket) : s.isLive none other := by
    rcases ends with connected | same
    · exact .inl connected
    · exact absurd (Option.some.inj same).symm ne
  exact {
    requests := fun r p found =>
      let ⟨below,own,ends⟩ := sound.requests r p found
      ⟨below,own,live ends (gone.requests r p found)⟩
    unsettled := sound.unsettled
    counted := sound.counted
    settlements := sound.settlements
    ticking := sound.ticking
    paused := sound.paused
    tombstones := fun r e found => live (sound.tombstones r e found) (gone.tombstones r e found)
    presentations := fun a e found => live (sound.presentations a e found) (gone.presentations a e found)
    abandons := fun a e found => live (sound.abandons a e found) (gone.abandons a e found)
    answers := fun a e found =>
      let ⟨ends,awaited⟩ := sound.answers a e found
      ⟨live ends (gone.answers a e found),awaited⟩
    asked := sound.asked
    room := sound.room
    connected := fun hostId other found =>
      let ⟨ends,own⟩ := sound.connected hostId other found
      ⟨live ends (unconnected hostId other found),own⟩}

theorem cancelAll_spec (cfg : Config) (net : Transport) (sound : Sound none none s) (socket : Nat) :
    Sound none none (s.cancelAll cfg net socket) ∧ (s.cancelAll cfg net socket).network = s.network := by
  unfold cancelAll
  generalize s.pendingRequests.entries = entries
  induction entries generalizing s with
  | nil => exact ⟨sound,rfl⟩
  | cons e rest ih =>
    have head : Sound none none (s.cancelEntry cfg net socket e) ∧
        (s.cancelEntry cfg net socket e).network = s.network := by
      unfold cancelEntry
      split
      · exact ⟨sound.cancel (cancellable s e.2) .disconnect,network_initiateCancellation ..⟩
      · exact ⟨sound,rfl⟩
    obtain ⟨sound',network⟩ := ih head.1
    exact ⟨sound',network.trans head.2⟩

/-- The identity of the socket is taken from it. -/
theorem Sound.disconnect (sound : Sound none none s) (socket : Nat) :
    Sound (some socket) none {s with connectionIdentities := s.connectionIdentities.delete socket} := by
  have live {other : Nat} (connected : s.isLive none other) :
      isLive {s with connectionIdentities := s.connectionIdentities.delete socket}
        (some socket) other := by
    by_cases here : other = socket
    · exact .inr (congrArg some here.symm)
    · rcases connected with connected | same
      · left
        simp only [get_delete_ne _ here]
        exact connected
      · cases same
  exact {
    requests := fun r p found =>
      have known := sound.requests r p found
      ⟨known.1,known.2.1,live known.2.2⟩
    unsettled := sound.unsettled
    counted := sound.counted
    settlements := sound.settlements
    ticking := sound.ticking
    paused := sound.paused
    tombstones := fun r e found => live (sound.tombstones r e found)
    presentations := fun a e found => live (sound.presentations a e found)
    abandons := fun a e found => live (sound.abandons a e found)
    answers := fun a e found =>
      have known := sound.answers a e found
      ⟨live known.1,known.2⟩
    asked := sound.asked
    room := sound.room
    connected := fun hostId other found =>
      have known := sound.connected hostId other found
      ⟨live known.1,known.2⟩}

/-- A host is no longer connected by the socket. -/
theorem Sound.unconnect (sound : Sound none none s) (own : s.sockets[socket]? = some hostId) :
    let after := if s.connections.get hostId = some socket then
        {s with connections := s.connections.delete hostId,hostInfo := s.hostInfo.delete hostId}
      else s
    Sound none none after ∧ after.sockets = s.sockets ∧
      after.connectionIdentities = s.connectionIdentities ∧
      ∀ hostId' other, after.connections.get hostId' = some other → other ≠ socket := by
  have unique (hostId' : Units) (found : s.connections.get hostId' = some socket) : hostId' = hostId := by
    have named := (sound.connected hostId' socket found).2
    rw [own] at named
    exact (Option.some.inj named).symm
  split
  · refine ⟨?_,rfl,rfl,fun hostId' other found same => ?_⟩
    · refine {sound with connected := fun hostId' other found => ?_}
      exact sound.connected hostId' other (get_delete_eq_some.mp found).2
    · obtain ⟨ne,before⟩ := get_delete_eq_some.mp found
      rw [same] at before
      exact ne (unique hostId' before)
  · next absent =>
    refine ⟨sound,rfl,rfl,fun hostId' other found same => ?_⟩
    rw [same] at found
    have here := unique hostId' found
    rw [here] at found
    exact absent found

/-- The socket has been registered, and it is connected no longer. -/
def Registry.isDropped (s : Registry) (socket : Nat) : Prop :=
  socket < s.sockets.length ∧ s.connectionIdentities.get socket = none

theorem dropConnection_spec (cfg : Config) (net : Transport) (sound : Sound none none s) (socket : Nat)
    (code : Option Units) :
    Sound none none (s.dropConnection cfg net socket code) ∧
      (s.dropConnection cfg net socket code).sockets = s.sockets ∧
      (∀ other, (s.dropConnection cfg net socket code).connectionIdentities.get other =
        if other = socket ∧ socket < s.sockets.length then none else s.connectionIdentities.get other) := by
  unfold dropConnection
  split
  · next absent =>
    refine ⟨sound,rfl,fun other => ?_⟩
    have above : ¬ socket < s.sockets.length := Nat.not_lt.mpr (getElem?_eq_none_iff.mp absent)
    rw [if_neg fun both => above both.2]
  · next hostId own =>
    have cancelled : Sound none none (if net.isOpen socket = true then s.cancelAll cfg net socket else s) ∧
        (if net.isOpen socket = true then s.cancelAll cfg net socket else s).network = s.network := by
      split
      · exact cancelAll_spec cfg net sound socket
      · exact ⟨sound,rfl⟩
    generalize (if net.isOpen socket = true then s.cancelAll cfg net socket else s) = s₁ at cancelled ⊢
    obtain ⟨sound₁,network₁⟩ := cancelled
    have own₁ : s₁.sockets[socket]? = some hostId := by
      rw [network_sockets network₁]
      exact own
    obtain ⟨sound₂,sockets₂,identities₂,unconnected⟩ := sound₁.unconnect own₁
    simp only at sound₂ sockets₂ identities₂ unconnected ⊢
    generalize (if s₁.connections.get hostId = some socket then
        {s₁ with connections := s₁.connections.delete hostId,hostInfo := s₁.hostInfo.delete hostId}
      else s₁) = s₂ at sound₂ sockets₂ identities₂ unconnected ⊢
    obtain ⟨sound₃,network₃,gone⟩ := failPendingForSocket_spec (sound₂.disconnect socket) socket code
    refine ⟨?_,?_,fun other => ?_⟩
    · refine sound₃.unreferenced gone fun hostId' other found => unconnected hostId' other ?_
      rw [network_connections network₃] at found
      exact found
    · rw [network_sockets network₃,← network_sockets network₁]
      exact sockets₂
    · have below : socket < s.sockets.length := (List.getElem?_eq_some_iff.mp own).1
      rw [network_identities network₃]
      simp only [below,and_true,get_delete,identities₂,network_identities network₁]

end GjcRemote.HostInvoke
