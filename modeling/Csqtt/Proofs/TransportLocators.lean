/-
Module: Csqtt.Proofs.TransportLocators
Purpose: Where the scheduler and selective FEC find different transport headers in a
  packet: the scheduler finds one in a later IPv4 fragment too.
Trusted boundary: none
Main exports: extensionWalk_eq, selectiveTransport_eq, LaterFragment, locators_agree_iff,
  fragment_located_by_one
-/
import Csqtt.Engine.SelectiveFec

namespace Csqtt

variable {packet : List U8}

/-!
### The two walks over the extension headers
-/

/-- A round of the scheduler's walk, in the terms of the other one. -/
theorem ipv6Headers_succ (packet : List U8) (rounds : Nat) (protocol : U8) (offset : Nat) :
    ipv6Headers packet (rounds + 1) protocol offset =
      match extensionStep packet protocol offset with
      | none => none
      | some none => some (protocol, offset)
      | some (some (next, after)) =>
          if packet.length < after then none else ipv6Headers packet rounds next after := by
  rw [ipv6Headers]
  split
  · next kind =>
      simp only [extensionStep, kind]
      cases getRange packet offset 2 with
      | none => rfl
      | some header => rfl
  · next kind =>
      simp only [extensionStep, kind]
      cases getRange packet offset 2 with
      | none => rfl
      | some header => rfl
  · next kind =>
      simp only [extensionStep, kind]
      cases getRange packet offset 2 with
      | none => rfl
      | some header => rfl
  · next kind =>
      simp only [extensionStep, kind]
      cases getRange packet offset 8 with
      | none => rfl
      | some header =>
        simp only [Option.bind_some, Option.bind_eq_bind]
        split
        · rfl
        · rfl
  · next kind =>
      simp only [extensionStep, kind]
      cases getRange packet offset 2 with
      | none => rfl
      | some header => rfl
  · next a b c d e =>
      simp only [extensionStep]

/-- The two walks take the same rounds. -/
theorem extensionWalk_eq (packet : List U8) (rounds : Nat) (protocol : U8) (offset : Nat) :
    extensionWalk packet rounds protocol offset = ipv6Headers packet rounds protocol offset := by
  induction rounds generalizing protocol offset with
  | zero => rfl
  | succ rounds inductionHypothesis =>
      rw [extensionWalk, ipv6Headers_succ]
      cases extensionStep packet protocol offset with
      | none => rfl
      | some round =>
          cases round with
          | none => rfl
          | some next => simp only [inductionHypothesis]

/-- A walk does not leave the packet. -/
theorem extensionWalk_inside {rounds : Nat} {protocol last : U8} {offset reached : Nat}
    (inside : offset ≤ packet.length)
    (walked : extensionWalk packet rounds protocol offset = some (last, reached)) :
    reached ≤ packet.length := by
  induction rounds generalizing protocol offset with
  | zero =>
      cases walked
      exact inside
  | succ rounds inductionHypothesis =>
      rw [extensionWalk] at walked
      split at walked
      · cases walked
      · cases walked
        exact inside
      · split at walked
        · cases walked
        · next within => exact inductionHypothesis (Nat.le_of_not_lt within) walked

theorem selectiveIpv6Transport_eq (packet : List U8) :
    selectiveIpv6Transport packet = fecIpv6Transport packet := by
  have same := extensionWalk_eq packet 8 (byteAt packet 6) 40
  unfold selectiveIpv6Transport fecIpv6Transport
  generalize extensionWalk packet 8 (byteAt packet 6) 40 = walked at same ⊢
  subst same
  cases ipv6Headers packet 8 (byteAt packet 6) 40 with
  | none => rfl
  | some last => rfl

/-- This is the transport header that the choice of what is sent twice rests on. -/
theorem selectiveTransport_eq (packet : List U8) :
    selectiveTransport packet = ipTransport packet := by
  have same := selectiveIpv6Transport_eq packet
  unfold selectiveTransport ipTransport
  generalize selectiveIpv6Transport packet = located at same ⊢
  subst same
  cases packet.head? with
  | none => rfl
  | some first => rfl

/-!
### Where they agree
-/

/-- An IPv4 packet with a header of a valid length and a fragment offset. -/
def LaterFragment (packet : List U8) : Prop :=
  ∃ first, packet.head? = some first ∧ (first >>> 4).toNat = 4 ∧
    20 ≤ (first &&& 0x0f#8).toNat * 4 ∧ (first &&& 0x0f#8).toNat * 4 ≤ packet.length ∧
    BitVec.ofNat 16 (beValue (packet.extract 6 8)) &&& 0x1fff#16 ≠ 0

theorem located_drop {protocol : U8} {offset : Nat} (inside : offset ≤ packet.length) :
    Transport.located packet { protocol := protocol, bytes := packet.drop offset } =
      (protocol, offset) := by
  rw [Transport.located, List.length_drop, Nat.sub_sub_self inside]

theorem byteAt_zero {first : U8} (head : packet.head? = some first) :
    byteAt packet 0 = first := by
  cases packet with
  | nil => cases head
  | cons byte rest =>
      cases head
      rfl

theorem version_iff {first : U8} {version : U8} :
    (first >>> 4).toNat = version.toNat ↔ first >>> 4 = version :=
  BitVec.toNat_inj

/-- Selective FEC's finding in an IPv4 packet. -/
theorem ipv4Transport_located {first : U8} (head : packet.head? = some first)
    (version : (first >>> 4).toNat = 4) :
    (ipv4Transport packet).map (·.located packet) =
      if (20 ≤ (first &&& 0x0f#8).toNat * 4 ∧ (first &&& 0x0f#8).toNat * 4 ≤ packet.length) ∧
          BitVec.ofNat 16 (beValue (packet.extract 6 8)) &&& 0x1fff#16 = 0 then
        some (byteAt packet 9, (first &&& 0x0f#8).toNat * 4)
      else none := by
  have four : first >>> 4 = 4#8 := version_iff.mp version
  rw [ipv4Transport, byteAt_zero head]
  by_cases header : 20 ≤ (first &&& 0x0f#8).toNat * 4 ∧
    (first &&& 0x0f#8).toNat * 4 ≤ packet.length
  · rw [if_neg (by rintro (short | other); exacts [by omega, other four]), if_neg (by omega)]
    by_cases whole : BitVec.ofNat 16 (beValue (packet.extract 6 8)) &&& 0x1fff#16 = 0
    · rw [if_neg (not_not_intro whole), if_pos ⟨header, whole⟩, Option.map_some,
        located_drop header.2]
    · rw [if_pos whole, if_neg fun both => whole both.2]
      rfl
  · have malformed : ¬ ((20 ≤ (first &&& 0x0f#8).toNat * 4 ∧
        (first &&& 0x0f#8).toNat * 4 ≤ packet.length) ∧
        BitVec.ofNat 16 (beValue (packet.extract 6 8)) &&& 0x1fff#16 = 0) :=
      fun both => header both.1
    rw [if_neg malformed]
    split
    · rfl
    · rw [if_pos (by omega)]
      rfl

/-- Both find the same in an IPv6 packet. -/
theorem ipv6Transport_located {first : U8} (head : packet.head? = some first)
    (version : (first >>> 4).toNat = 6) :
    (selectiveIpv6Transport packet).map (·.located packet) =
      if 40 ≤ packet.length then ipv6Transport packet else none := by
  have six : first >>> 4 = 6#8 := version_iff.mp version
  rw [selectiveIpv6Transport, byteAt_zero head, ipv6Transport, ← extensionWalk_eq]
  by_cases long : 40 ≤ packet.length
  · rw [if_neg (by rintro (short | other); exacts [by omega, other six]), if_pos long]
    cases walked : extensionWalk packet 8 (byteAt packet 6) 40 with
    | none => rfl
    | some last =>
        have inside := extensionWalk_inside long walked
        simp only [if_pos inside, Option.map_some, located_drop inside]
  · rw [if_pos (Or.inl (Nat.lt_of_not_le long)), if_neg long]
    rfl

/-- For every byte string: the scheduler and selective FEC find the same protocol at the
same offset, or both none, exactly if it is no later fragment of an IPv4 packet. -/
theorem locators_agree_iff (packet : List U8) :
    internetTransport packet = (selectiveTransport packet).map (·.located packet) ↔
      ¬ LaterFragment packet := by
  cases head : packet.head? with
  | none =>
      apply iff_of_true
      · rw [internetTransport, selectiveTransport, head]
        rfl
      · rintro ⟨first, found, _⟩
        rw [head] at found
        cases found
  | some first =>
      by_cases four : (first >>> 4).toNat = 4
      · have found : selectiveTransport packet = ipv4Transport packet := by
          simp only [selectiveTransport, head, Option.map_some, four]
        simp only [found, ipv4Transport_located head four, internetTransport, head,
          Option.bind_eq_bind, Option.bind_some, four]
        by_cases header : 20 ≤ (first &&& 0x0f#8).toNat * 4 ∧
          (first &&& 0x0f#8).toNat * 4 ≤ packet.length
        · rw [if_pos header]
          by_cases whole : BitVec.ofNat 16 (beValue (packet.extract 6 8)) &&& 0x1fff#16 = 0
          · rw [if_pos ⟨header, whole⟩]
            apply iff_of_true rfl
            rintro ⟨_, _, _, _, _, later⟩
            exact later whole
          · rw [if_neg fun both => whole both.2]
            apply iff_of_false
            · exact Option.some_ne_none _
            · exact not_not_intro ⟨first, head, four, header.1, header.2, whole⟩
        · rw [if_neg header, if_neg fun both => header both.1]
          apply iff_of_true rfl
          rintro ⟨other, same, _, long, inside, _⟩
          rw [head] at same
          cases same
          exact header ⟨long, inside⟩
      · apply iff_of_true
        · by_cases six : (first >>> 4).toNat = 6
          · have found : selectiveTransport packet = selectiveIpv6Transport packet := by
              simp only [selectiveTransport, head, Option.map_some, six]
            simp only [found, ipv6Transport_located head six, internetTransport, head,
              Option.bind_eq_bind, Option.bind_some, six]
          · simp only [internetTransport, selectiveTransport, head, Option.bind_eq_bind,
              Option.bind_some, Option.map_some]
            split
            · next version => exact absurd (Option.some.inj version) four
            · next version => exact absurd (Option.some.inj version) six
            · rfl
        · rintro ⟨other, same, version, _⟩
          rw [head] at same
          cases same
          exact four version

/-- The second fragment of an IPv4 packet: the scheduler takes its payload for the header
of a transport, selective FEC does not. -/
theorem fragment_located_by_one :
    let packet : List U8 := [0x45#8, 0#8, 0#8, 28#8, 0#8, 1#8, 0#8, 1#8, 64#8, 17#8, 0#8, 0#8,
      10#8, 0#8, 0#8, 2#8, 1#8, 1#8, 1#8, 1#8, 0#8, 53#8, 0#8, 53#8, 0#8, 0#8, 0#8, 0#8]
    internetTransport packet = some (17#8, 20) ∧
      (selectiveTransport packet).map (·.located packet) = none := by
  decide +kernel

end Csqtt
