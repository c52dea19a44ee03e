import Mathlib.Data.List.Sort
import NetworkWrapper.ChatSound

set_option autoImplicit false

namespace NetworkWrapper

open WebSocketSession WebSocketMainLogicServer

theorem seen_increasing (self : SessionId) (log : List LogicEvent) : (seenBy self log).Pairwise (· < ·) :=
  List.pairwise_lt_range.filter _

theorem shared_order (first second : List Nat) (firstIncreasing : first.Pairwise (· < ·))
    (secondIncreasing : second.Pairwise (· < ·)) : first.filter (· ∈ second) = second.filter (· ∈ first) := by
  apply (firstIncreasing.filter _).eq_of_mem_iff (secondIncreasing.filter _)
  intro position
  simp only [List.mem_filter, decide_eq_true_eq, and_comm]

theorem seen_positions (self : SessionId) (log : List LogicEvent) (seen : List Bytes)
    (promised : seen <+: expectedTexts self log) :
    ∃ positions, positions <+: seenBy self log ∧ seen.map some = positions.map (textAt self log) := by
  have texts : seen.map some <+: (seenBy self log).map (textAt self log) := by
    rw [← seen_texts]
    exact promised.map some
  obtain ⟨positions, within, same⟩ := List.prefix_map_iff.mp texts
  exact ⟨positions, within, same⟩

theorem chat_texts_delivered (stale : Address → Option Int) (events : List ChatEvent) (final : Chat)
    (reached : Transition.run (chatStep stale) noChat events = some final) (self : SessionId) :
    (final.seen self <+: expectedTexts self final.log ∧
      messagesFrom self final.log <+: (final.link self).connection.accepted) ∧
    (final.server.ending = .running ∧ (final.peers self).client.broken = false ∧ (final.peers self).broken = false ∧
      (final.peers self).client.incoming = [] ∧ (final.peers self).incoming = [] ∧
      (final.link self).connection.buffersToSend = [] ∧
      ((final.link self).session self).sendBufferSafeQueue.buffersToSend = [] →
        final.seen self = expectedTexts self final.log ∧
          messagesFrom self final.log = (final.link self).connection.accepted) := by
  have sound := chat_run_sound stale events final reached
  refine ⟨⟨texts_shown final sound self, messages_heard final sound self⟩, ?_⟩
  rintro ⟨runs, clientWell, serverWell, nothingDown, nothingUp, clientSent, serverSent⟩
  exact chat_drained final sound self runs clientWell serverWell nothingDown nothingUp clientSent serverSent

def greetedAndTold : List ChatEvent :=
  [.opened 0, .opened 1, .completed 0 (.accepted none) 10, .network 0 (.clientCompleted (.handshaken none)),
    .network 0 .serverTransmits, .completed 0 (.wrote 0 none) 0,
    .network 0 (.clientCompleted (.received none (welcomeText 1))), .completed 1 (.accepted none) 11,
    .network 0 .serverTransmits, .network 1 (.clientCompleted (.handshaken none)), .network 1 (.sendChecked [104]),
    .network 1 (.sendLocked 0), .network 1 .clientTransmits, .network 1 (.clientCompleted (.wrote 0 none)),
    .completed 1 (.received none [104]) 0, .completed 0 (.wrote 0 none) 0, .network 0 .serverTransmits,
    .completed 0 (.wrote 0 none) 0, .network 0 (.clientCompleted (.received none (newClientText 2))),
    .network 0 (.clientCompleted (.received none (newMessageText 2 [104])))]

theorem chat_texts_greeted_and_told :
    ∃ final, Transition.run (chatStep undefinedRead) noChat greetedAndTold = some final ∧
      final.seen 0 = [welcomeText 1, newClientText 2, newMessageText 2 [104]] ∧ messagesFrom 1 final.log <+: [[104]] := by
  refine ⟨_, rfl, ?_, (chat_texts_delivered undefinedRead greetedAndTold _ rfl 1).1.2⟩
  exact ((chat_texts_delivered undefinedRead greetedAndTold _ rfl 0).2 (by decide)).1.trans (by decide)

theorem chat_common_order (stale : Address → Option Int) (events : List ChatEvent) (final : Chat)
    (reached : Transition.run (chatStep stale) noChat events = some final) :
    ∃ positions : SessionId → List Nat,
      (∀ self, positions self <+: seenBy self final.log ∧
        (final.seen self).map some = (positions self).map (textAt self final.log)) ∧
      ∀ self other, (positions self).filter (· ∈ positions other) = (positions other).filter (· ∈ positions self) := by
  have sound := chat_run_sound stale events final reached
  have shown (self : SessionId) := seen_positions self final.log (final.seen self) (texts_shown final sound self)
  refine ⟨fun self => (shown self).choose, fun self => (shown self).choose_spec, fun self other => ?_⟩
  exact shared_order _ _ ((seen_increasing self final.log).sublist (shown self).choose_spec.1.sublist)
    ((seen_increasing other final.log).sublist (shown other).choose_spec.1.sublist)

theorem chat_order_greeted_and_told :
    ∃ final, Transition.run (chatStep undefinedRead) noChat greetedAndTold = some final ∧
      ∃ first second : List Nat, (final.seen 0).map some = first.map (textAt 0 final.log) ∧
        (final.seen 1).map some = second.map (textAt 1 final.log) ∧
        first.filter (· ∈ second) = second.filter (· ∈ first) := by
  obtain ⟨positions, shown, common⟩ := chat_common_order undefinedRead greetedAndTold _ rfl
  exact ⟨_, rfl, positions 0, positions 1, (shown 0).2, (shown 1).2, common 0 1⟩

end NetworkWrapper
