/-
Module: Csqtt.Proofs.StunBounds
Purpose: Decoding a message and walking over its attributes end without a read outside the
  message, and the attributes with their paddings are its body.
Trusted boundary: none
Main exports: Walkable, Tiles, decodeChecked_eq, collectChecked_eq, tiles_collect,
  decode_and_walk_within
-/
import Csqtt.Engine.StunBounds

namespace Csqtt

open Tlv

variable {raw : List U8} {position stop turns fuel : Nat}

/-!
### The first walk
-/

/-- As many turns as there are bytes left are enough, and every byte read is there. -/
theorem checkAttributesChecked_eq (within : stop ≤ raw.length) (before : position ≤ stop)
    (enough : stop - position < turns) (enoughFuel : stop - position ≤ fuel) :
    checkAttributesChecked raw stop turns position =
      .read (checkAttributes raw stop fuel position) := by
  induction turns generalizing position fuel with
  | zero => exact absurd enough (Nat.not_lt_zero _)
  | succ turns inductionHypothesis =>
      rw [checkAttributesChecked]
      by_cases more : position < stop
      · obtain ⟨fuel, rfl⟩ : ∃ left, fuel = left + 1 := ⟨fuel - 1, by omega⟩
        rw [if_pos more, checkAttributes, if_pos more]
        by_cases short : stop - position < 4
        · rw [if_pos short, if_pos short]
          rfl
        · rw [if_neg short, if_neg short, u16Checked_of_lt (by omega), Access.read_bind]
          dsimp only
          split
          · rfl
          · next fits =>
              push Not at fits
              exact inductionHypothesis fits.1 (by omega) (by omega)
      · rw [if_neg more]
        cases fuel with
        | zero => rfl
        | succ fuel =>
            rw [checkAttributes, if_neg more]
            rfl

/-- What the first walk leaves behind: from here on every attribute ends within the message. -/
inductive Walkable (raw : List U8) (stop : Nat) : Nat → Prop where
  | done : Walkable raw stop stop
  | step {position : Nat} (header : position + 4 ≤ stop)
      (value : position + 4 + padded (u16At raw (position + 2)) ≤ stop)
      (rest : Walkable raw stop (position + 4 + padded (u16At raw (position + 2)))) :
      Walkable raw stop position

theorem walkable_of_check (before : position ≤ stop) (enough : stop - position ≤ fuel)
    (passed : checkAttributes raw stop fuel position = .ok ()) : Walkable raw stop position := by
  induction fuel generalizing position with
  | zero =>
      obtain rfl : position = stop := by omega
      exact .done
  | succ fuel inductionHypothesis =>
      rw [checkAttributes] at passed
      by_cases more : position < stop
      · rw [if_pos more] at passed
        by_cases short : stop - position < 4
        · rw [if_pos short] at passed
          cases passed
        · rw [if_neg short] at passed
          dsimp only at passed
          split at passed
          · cases passed
          · next fits =>
              push Not at fits
              exact .step (by omega) fits.1 (inductionHypothesis fits.1 (by omega) passed)
      · obtain rfl : position = stop := by omega
        exact .done

/-!
### The second walk
-/

/-- Attributes that stand one behind the other, each with its padding, from a position up to
another. Each has the length that its header declares. -/
inductive Tiles (raw : List U8) (stop : Nat) : Nat → List Attribute → Prop where
  | nil : Tiles raw stop stop []
  | cons {position : Nat} {item : Attribute} {items : List Attribute}
      (starts : item.headerStart = position)
      (declared : u16At raw (position + 2) = item.value.length)
      (value : item.value = slice raw (position + 4) item.value.length)
      (within : position + 4 + padded item.value.length ≤ stop)
      (rest : Tiles raw stop (position + 4 + padded item.value.length) items) :
      Tiles raw stop position (item :: items)

theorem Tiles.start_le {items : List Attribute} {item : Attribute}
    (tiles : Tiles raw stop position items) (listed : item ∈ items) :
    position ≤ item.headerStart := by
  induction tiles with
  | nil => cases listed
  | cons starts _ _ _ _ inductionHypothesis =>
      rcases List.mem_cons.mp listed with same | later
      · rw [same, starts]
      · have behind := inductionHypothesis later
        omega

/-- By induction on what the first walk has found. -/
theorem collectChecked_eq (walkable : Walkable raw stop position) (within : stop ≤ raw.length)
    (enough : stop - position < turns) (enoughFuel : stop - position ≤ fuel) :
    Attributes.collectChecked turns { raw := raw, position := position, stop := stop } =
        .read (Attributes.collect fuel { raw := raw, position := position, stop := stop }) ∧
      Tiles raw stop position
        (Attributes.collect fuel { raw := raw, position := position, stop := stop }) := by
  induction walkable generalizing turns fuel with
  | done =>
      obtain ⟨turns, rfl⟩ : ∃ left, turns = left + 1 := ⟨turns - 1, by omega⟩
      have ended : Attributes.nextChecked { raw := raw, position := stop, stop := stop } =
          .read none := if_neg (Nat.lt_irrefl stop)
      rw [Attributes.collectChecked, ended]
      cases fuel with
      | zero => exact ⟨rfl, .nil⟩
      | succ fuel =>
          have endedToo : Attributes.next { raw := raw, position := stop, stop := stop } = none :=
            if_neg (Nat.lt_irrefl stop)
          rw [Attributes.collect, endedToo]
          exact ⟨rfl, .nil⟩
  | @step position header value rest inductionHypothesis =>
      obtain ⟨turns, rfl⟩ : ∃ left, turns = left + 1 := ⟨turns - 1, by omega⟩
      obtain ⟨fuel, rfl⟩ : ∃ left, fuel = left + 1 := ⟨fuel - 1, by omega⟩
      have room := le_padded (u16At raw (position + 2))
      have more : position < stop := by omega
      have whole : (slice raw (position + 4) (u16At raw (position + 2))).length =
          u16At raw (position + 2) := by
        rw [length_slice]
        omega
      obtain ⟨checked, tiles⟩ := @inductionHypothesis turns fuel (by omega) (by omega)
      generalize here : ({
          kind := if BitVec.ofNat 16 (u16At raw position) = 0x8020 then 0x0020
            else BitVec.ofNat 16 (u16At raw position)
          value := slice raw (position + 4) (u16At raw (position + 2))
          headerStart := position } : Attribute) = item
      have next : Attributes.next { raw := raw, position := position, stop := stop } =
          some (item, { raw := raw, position := position + 4 + padded (u16At raw (position + 2)),
                        stop := stop }) := by
        rw [← here]
        exact if_pos more
      have nextChecked : Attributes.nextChecked { raw := raw, position := position, stop := stop } =
          .read (Attributes.next { raw := raw, position := position, stop := stop }) := by
        have value := @sliceChecked_of_le raw (position + 4 + u16At raw (position + 2))
          (position + 4) (Nat.le_add_right _ _) (by omega)
        rw [Nat.add_sub_cancel_left] at value
        rw [Attributes.nextChecked, if_pos more, @u16Checked_of_lt raw position (by omega),
          @u16Checked_of_lt raw (position + 2) (by omega)]
        simp only [Access.read_bind, value]
        rw [Attributes.next, if_pos more]
        rfl
      rw [Attributes.collectChecked, Attributes.collect, nextChecked, next]
      simp only [Access.read_bind, checked]
      refine ⟨rfl, ?_⟩
      subst here
      apply Tiles.cons
      · rfl
      · exact whole.symm
      · exact congrArg (slice raw (position + 4)) whole.symm
      · dsimp only
        rw [whole]
        exact value
      · dsimp only
        rw [whole]
        exact tiles

/-!
### What the attributes cover
-/

/-- Nothing is left over and nothing is counted twice: every byte of the body lies in exactly one
attribute or its padding. -/
theorem Tiles.covers {items : List Attribute} (tiles : Tiles raw stop position items) {index : Nat}
    (behind : position ≤ index) (inside : index < stop) :
    ∃! item, item ∈ items ∧ item.headerStart ≤ index ∧
      index < item.headerStart + 4 + padded item.value.length := by
  induction tiles with
  | nil => exact absurd inside (Nat.not_lt_of_le behind)
  | @cons position item items starts declared value within rest inductionHypothesis =>
      subst starts
      by_cases own : index < item.headerStart + 4 + padded item.value.length
      · refine ⟨item, ⟨List.mem_cons_self, behind, own⟩, ?_⟩
        rintro other ⟨listed, from_, _⟩
        rcases List.mem_cons.mp listed with same | later
        · exact same
        · have started := rest.start_le later
          omega
      · obtain ⟨found, ⟨listed, from_, until_⟩, only⟩ :=
          inductionHypothesis (Nat.le_of_not_lt own)
        refine ⟨found, ⟨List.mem_cons_of_mem _ listed, from_, until_⟩, ?_⟩
        rintro other ⟨listed, from_, until_⟩
        rcases List.mem_cons.mp listed with same | later
        · rw [same] at until_
          exact absurd until_ own
        · exact only other ⟨later, from_, until_⟩

/-!
### A whole message
-/

theorem decodeChecked_eq (enough : raw.length < turns) :
    Message.decodeChecked turns raw = .read (Message.decode raw) := by
  rw [Message.decodeChecked, Message.decode]
  by_cases short : raw.length < headerSize
  · rw [if_pos short, if_pos short]
    rfl
  have long : 20 ≤ raw.length := Nat.le_of_not_lt short
  have kind := @u16Checked_of_lt raw 0 (by omega)
  have cookie : sliceChecked raw 4 8 = .read (slice raw 4 4) :=
    sliceChecked_of_le (by decide) (by omega)
  have declared := @u16Checked_of_lt raw 2 (by omega)
  have transaction : sliceChecked raw 8 20 = .read (slice raw 8 12) :=
    sliceChecked_of_le (by decide) long
  rw [if_neg short, if_neg short]
  simp only [kind, cookie, declared, transaction, Access.read_bind]
  split
  · rfl
  split
  · rfl
  split
  · rfl
  split
  · rfl
  split
  · rfl
  next whole =>
    rw [not_not] at whole
    have walked := @checkAttributesChecked_eq raw headerSize raw.length turns raw.length
      (Nat.le_refl _) long (by omega) (by omega)
    rw [← whole, walked]
    simp only [Access.read_bind]
    cases checkAttributes raw raw.length raw.length headerSize with
    | error reason => rfl
    | ok _ => rfl

/-- What the check of a datagram establishes. -/
structure Decoded (raw : List U8) (message : Message) : Prop where
  bytes : message.raw = raw
  kind : message.kind = BitVec.ofNat 16 (u16At raw 0)
  transaction : message.transaction = BitVec.ofNat 96 (beValue (slice raw 8 12))
  stop : message.stop = raw.length
  checked : checkAttributes raw raw.length raw.length headerSize = .ok ()

theorem decode_inversion {raw : List U8} {message : Message}
    (decoded : Message.decode raw = .ok message) :
    Decoded raw message ∧ raw.length = headerSize + u16At raw 2 := by
  unfold Message.decode at decoded
  simp only at decoded
  split at decoded
  · cases decoded
  split at decoded
  · cases decoded
  split at decoded
  · cases decoded
  split at decoded
  · cases decoded
  split at decoded
  · cases decoded
  split at decoded
  · cases decoded
  · next whole =>
      have stop := not_not.mp whole
      split at decoded
      · cases decoded
      · next checked =>
          cases decoded
          exact ⟨⟨rfl, rfl, rfl, stop.symm, by rwa [← stop] at checked⟩, stop⟩

theorem decoded_of_decode {raw : List U8} {message : Message}
    (decoded : Message.decode raw = .ok message) : Decoded raw message :=
  (decode_inversion decoded).1

/-- Whatever is received, decoding it ends and reads nothing outside of it, and so does the walk
over the attributes of a message that is accepted. With their paddings the attributes stand one
behind the other from the header to the end that the message declares, which is its last byte:
each byte of the body lies in exactly one of them. -/
theorem decode_and_walk_within (raw : List U8) :
    (∀ turns, raw.length < turns →
      Message.decodeChecked turns raw = .read (Message.decode raw)) ∧
    ∀ message, Message.decode raw = .ok message →
      (∀ turns, raw.length < turns →
        Attributes.collectChecked turns message.walk = .read message.attributes) ∧
      message.raw = raw ∧ raw.length = headerSize + u16At raw 2 ∧
      Tiles raw raw.length headerSize message.attributes ∧
      ∀ index, headerSize ≤ index → index < raw.length →
        ∃! item, item ∈ message.attributes ∧ item.headerStart ≤ index ∧
          index < item.headerStart + 4 + padded item.value.length := by
  refine ⟨fun turns enough => decodeChecked_eq enough, ?_⟩
  intro message decoded
  obtain ⟨⟨bytes, _, _, stop, checked⟩, declares⟩ := decode_inversion decoded
  have before : headerSize ≤ raw.length := by
    rw [declares]
    exact Nat.le_add_right _ _
  have walkable : Walkable raw raw.length headerSize :=
    walkable_of_check before (Nat.sub_le _ _) checked
  have walks : ∀ turns, raw.length < turns →
      Attributes.collectChecked turns message.walk = .read message.attributes ∧
        Tiles raw raw.length headerSize message.attributes := by
    intro turns enough
    rw [Message.attributes, Message.walk, bytes, stop]
    exact collectChecked_eq walkable (Nat.le_refl _) (Nat.sub_lt_of_lt enough) (Nat.sub_le _ _)
  have tiles := (walks (raw.length + 1) (Nat.lt_succ_self _)).2
  refine ⟨fun turns enough => (walks turns enough).1, bytes, declares, tiles, ?_⟩
  intro index behind inside
  exact tiles.covers behind inside

end Csqtt
