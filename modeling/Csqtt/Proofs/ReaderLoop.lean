/-
Module: Csqtt.Proofs.ReaderLoop
Purpose: The reader hands every packet of the tunnel to the dispatcher and nothing that the server
  says besides.
Trusted boundary: none
Main exports: Ipv4Consistent, Ipv6Consistent, Tunnelled, ControlMessage,
  not_control_of_tunnelled, control_and_data_apart
-/
import Csqtt.Core.Transducer
import Csqtt.Engine.ReaderLoop
import Csqtt.Proofs.StreamCommands

namespace Csqtt

/-- An IPv4 packet with a header as long as it says, in all as long as it says. -/
structure Ipv4Consistent (bytes : List U8) : Prop where
  version : byteAt bytes 0 >>> 4 = 4#8
  least : 20 ≤ (byteAt bytes 0 &&& 0x0f#8).toNat * 4
  header : (byteAt bytes 0 &&& 0x0f#8).toNat * 4 ≤ bytes.length
  total : beValue (bytes.extract 2 4) = bytes.length

/-- An IPv6 packet with a payload as long as it says. -/
structure Ipv6Consistent (bytes : List U8) : Prop where
  version : byteAt bytes 0 >>> 4 = 6#8
  total : 40 + beValue (bytes.extract 4 6) = bytes.length

/-- What belongs into the tunnel. -/
def Tunnelled (bytes : List U8) : Prop :=
  (FrameHeader.decode bytes).isSome = true ∨ Ipv4Consistent bytes ∨ Ipv6Consistent bytes

/-- What the server says besides. -/
def ControlMessage (bytes : List U8) : Prop :=
  bytes = panelRestartNotice ∨ ∃ marker ∈ controlPrefixes, marker <+: bytes

theorem isControlResponse_iff (bytes : List U8) :
    isControlResponse bytes = true ↔ ControlMessage bytes := by
  simp [isControlResponse, isPanelRestartNotice, ControlMessage]

/-- The first four bytes of all that the server says besides. -/
def controlOpenings : List (List U8) := (panelRestartNotice :: controlPrefixes).map (·.take 4)

theorem opening_of_control {bytes : List U8} (control : ControlMessage bytes) :
    bytes.take 4 ∈ controlOpenings := by
  have long : ∀ marker ∈ panelRestartNotice :: controlPrefixes, 4 ≤ marker.length := by decide
  obtain ⟨marker, known, begins⟩ :
      ∃ marker ∈ panelRestartNotice :: controlPrefixes, marker <+: bytes := by
    rcases control with rfl | ⟨marker, known, begins⟩
    · exact ⟨_, List.mem_cons_self, List.prefix_refl _⟩
    · exact ⟨marker, List.mem_cons_of_mem _ known, begins⟩
  obtain ⟨rest, rfl⟩ := begins
  rw [List.take_append_of_le_length (long marker known)]
  exact List.mem_map_of_mem known

/-- The first byte tells flow frames and IPv6 packets from all that the server says besides; an
IPv4 packet would be longer than a buffer, or its header shorter than one can be. -/
theorem not_control_of_tunnelled {bytes : List U8} (short : bytes.length ≤ packetCapacity)
    (tunnelled : Tunnelled bytes) : ¬ ControlMessage bytes := by
  intro control
  have opening := opening_of_control control
  have first : byteAt bytes 0 = byteAt (bytes.take 4) 0 := by cases bytes <;> rfl
  have third : bytes.extract 2 4 = (bytes.take 4).extract 2 4 := by
    rw [List.extract_eq_take_drop, List.extract_eq_take_drop, List.drop_take, List.take_take]
    rfl
  rcases tunnelled with frame | ⟨version, least, -, total⟩ | ⟨version, -⟩
  · obtain ⟨decoded, read⟩ := Option.isSome_iff_exists.mp frame
    rw [FrameHeader.decode] at read
    split at read
    · cases read
    · next whole =>
        push Not at whole
        rw [whole.2] at opening
        exact absurd opening (by decide)
  · have none : ∀ opening ∈ controlOpenings, ¬ (byteAt opening 0 >>> 4 = 4#8 ∧
        20 ≤ (byteAt opening 0 &&& 0x0f#8).toNat * 4 ∧
        beValue (opening.extract 2 4) ≤ packetCapacity) := by decide
    rw [first] at version least
    rw [third] at total
    exact none _ opening ⟨version, least, total ▸ short⟩
  · have none : ∀ opening ∈ controlOpenings, byteAt opening 0 >>> 4 ≠ 6#8 := by decide
    exact none _ opening (first ▸ version)

theorem control_of_parseStreamCommand {payload marker : List U8} {command : StreamRepairCommand}
    (known : marker ∈ controlPrefixes)
    (accepted : parseStreamCommand payload marker = some command) : ControlMessage payload :=
  Or.inr ⟨marker, known,
    ⟨_, ((parseStreamCommand_eq_some_iff payload marker command).mp accepted).2.symm⟩⟩

theorem control_of_begins {payload marker : List U8} (known : marker ∈ controlPrefixes)
    (begins : marker.isPrefixOf payload = true) : ControlMessage payload :=
  Or.inr ⟨marker, known, List.isPrefixOf_iff_prefix.mp begins⟩

theorem control_of_observed {shutdown : ShutdownState} {response : List U8}
    (observed : (shutdown.observeControlResponse response).2 = true) : ControlMessage response := by
  rw [ShutdownState.observeControlResponse] at observed
  split at observed
  · cases observed
  · next answer =>
      rw [not_and_or, not_not] at answer
      rcases answer with rfl | denied
      · exact Or.inr ⟨_, by decide, List.prefix_refl _⟩
      · have begins : (asciiBytes "DENIED:").isPrefixOf response = true := by simpa using denied
        exact control_of_begins (by decide) begins

namespace ReaderLoop

variable (self : ReaderLoop) (inbound : Inbound)

/-- Each recogniser before the last takes only what that one would. -/
theorem step_of_not_control (apart : ¬ ControlMessage inbound.packet.asSlice) :
    (self.step inbound).2 = .returned inbound.packet := by
  have notice : ¬ isPanelRestartNotice inbound.packet.asSlice = true := fun notice =>
    apart (Or.inl (by simpa [isPanelRestartNotice] using notice))
  have repair : parseStreamRepair inbound.packet.asSlice = none := by
    cases parsed : parseStreamRepair inbound.packet.asSlice with
    | none => rfl
    | some command => exact absurd (control_of_parseStreamCommand (by decide) parsed) apart
  have alive : parseStreamAlive inbound.packet.asSlice = none := by
    cases parsed : parseStreamAlive inbound.packet.asSlice with
    | none => rfl
    | some command => exact absurd (control_of_parseStreamCommand (by decide) parsed) apart
  have unobserved :
      ¬ (self.shutdown.observeControlResponse inbound.packet.asSlice).2 = true :=
    fun observed => apart (control_of_observed observed)
  have unconfigured : ¬ (asciiBytes "TUNCONF:").isPrefixOf inbound.packet.asSlice = true :=
    fun begins => apart (control_of_begins (by decide) begins)
  have data : ¬ isControlResponse inbound.packet.asSlice = true := fun control =>
    apart ((isControlResponse_iff _).mp control)
  simp only [step, repair, alive, if_neg notice, if_neg unobserved, if_neg unconfigured,
    if_neg data]

theorem step_of_control (control : ControlMessage inbound.packet.asSlice) (other : PacketBuf) :
    (self.step inbound).2 ≠ .returned other := by
  have caught := (isControlResponse_iff _).mpr control
  rw [step]
  dsimp only
  split
  · exact ReaderEffect.noConfusion
  · split
    · exact ReaderEffect.noConfusion
    · split
      · exact ReaderEffect.noConfusion
      · split
        · exact ReaderEffect.noConfusion
        · split
          · exact ReaderEffect.noConfusion
          · exact ReaderEffect.noConfusion

/-- In every run, from every state of a disconnect, what belongs into the tunnel reaches the
dispatcher as it came, and what the server says besides never does. -/
theorem control_and_data_apart (reader : ReaderLoop) (inbounds : List Inbound) :
    List.Forall₂
      (fun entry effect =>
        (Tunnelled entry.packet.asSlice → effect = .returned entry.packet) ∧
          (ControlMessage entry.packet.asSlice → ∀ other, effect ≠ .returned other))
      inbounds (Transducer.run step reader inbounds).2 := by
  induction inbounds generalizing reader with
  | nil => exact List.Forall₂.nil
  | cons inbound inbounds inductionHypothesis =>
      refine List.Forall₂.cons ⟨fun tunnelled => ?_, reader.step_of_control inbound⟩
        (inductionHypothesis _)
      have short : inbound.packet.asSlice.length ≤ packetCapacity := by
        rw [PacketBuf.length_asSlice]
        exact (Nat.sub_le _ _).trans inbound.packet.bounded
      exact reader.step_of_not_control inbound (not_control_of_tunnelled short tunnelled)

end ReaderLoop

end Csqtt
