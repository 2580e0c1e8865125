/-
Module: Csqtt.Proofs.UdpHeader
Purpose: What the reader of a relayed datagram's header accepts, and that a written header is read
  back.
Trusted boundary: none
Main exports: WireAddress.resolve, udpHeader, parseSocksUDP_header, parseSocksUDP_of_no_header,
  bytes_append_inj, udp_header_round_trip
-/
import Csqtt.Proofs.Handshake
import Csqtt.Socks5.UdpHeader

namespace Csqtt.Socks5

variable {resolver : Resolver} {front payload : List U8} {address : WireAddress} {port : U16}

/-- The address that a header's one stands for. -/
def WireAddress.resolve (resolver : Resolver) : WireAddress → Option Addr
  | .ipv4 value => some (.v4 value)
  | .domain name =>
      match resolver.lookupHost name with
      | some (ip :: _) => some (resolver.parseAddr ip)
      | _ => none
  | .ipv6 value => some (.v6 value "")

/-- A header: two reserved bytes, no fragment, an address and a port. -/
def udpHeader (first second : U8) (address : WireAddress) (port : U16) : List U8 :=
  [first, second, 0x00] ++ (address.bytes ++ beBytes 2 port.toNat)

theorem parseSocksPort_append (front payload : List U8) (ip : Addr) (port : U16) :
    parseSocksPort (front ++ (beBytes 2 port.toNat ++ payload)) ip front.length =
      .read (some (⟨ip, port⟩, payload)) := by
  have back : BitVec.ofNat 16 (beValue (beBytes 2 port.toNat)) = port :=
    ofNat_beValue_beBytes port rfl
  obtain ⟨high, low, bytes⟩ : ∃ high low, beBytes 2 port.toNat = [high, low] := ⟨_, _, rfl⟩
  rw [bytes] at back ⊢
  have behind := sliceChecked_append (front ++ [high, low]) payload []
  rw [List.append_nil, List.append_assoc, List.length_append, List.length_cons, List.length_cons,
    List.length_nil] at behind
  have whole : (front ++ ([high, low] ++ payload)).length = front.length + 2 + payload.length := by
    simp
    omega
  rw [parseSocksPort, whole, behind, byteChecked_append front _ 1]
  rw [← Nat.add_zero front.length, byteChecked_append front _ 0]
  rw [← back]
  rfl

theorem parseSocksUDP_typed (resolver : Resolver) (first second atyp : U8) (rest : List U8) :
    parseSocksUDP resolver ([first, second, 0x00, atyp] ++ rest) =
      parseSocksTarget resolver ([first, second, 0x00, atyp] ++ rest) atyp := by
  have long : ¬ ([first, second, 0x00, atyp] ++ rest).length < 4 := by simp
  rw [parseSocksUDP, if_neg long]
  rfl

/-- An address of a fixed size, with a port and a payload behind it. -/
theorem parseSocksPort_fixed (first second third fourth : U8) (body payload : List U8)
    (port : U16) :
    (sliceChecked ([first, second, third, fourth] ++ (body ++ (beBytes 2 port.toNat ++ payload))) 4
        (4 + body.length) >>= fun b =>
      parseSocksPort ([first, second, third, fourth] ++ (body ++ (beBytes 2 port.toNat ++ payload)))
        (.fromSlice b) (4 + body.length)) =
      .read (some (⟨.fromSlice body, port⟩, payload)) := by
  have sliced := sliceChecked_append [first, second, third, fourth] body
    (beBytes 2 port.toNat ++ payload)
  have behind := parseSocksPort_append ([first, second, third, fourth] ++ body) payload
    (.fromSlice body) port
  rw [List.length_append, List.append_assoc] at behind
  rw [List.length_cons, List.length_cons, List.length_cons, List.length_cons, List.length_nil]
    at sliced behind
  rw [sliced, Access.read_bind, behind]

section Typed

variable (first second : U8) (payload : List U8) (port : U16)

theorem parseSocksUDP_four (value : U32) :
    parseSocksUDP resolver
        ([first, second, 0x00, 0x01] ++
          (beBytes 4 value.toNat ++ (beBytes 2 port.toNat ++ payload))) =
      .read (some (⟨.v4 value, port⟩, payload)) := by
  have fixed := parseSocksPort_fixed first second 0x00 0x01 (beBytes 4 value.toNat) payload port
  rw [length_beBytes, Addr.fromSlice_four] at fixed
  generalize body : beBytes 4 value.toNat = bytes at fixed ⊢
  have length : bytes.length = 4 := body ▸ length_beBytes _ _
  have long : ¬ ([first, second, 0x00, 0x01] ++
      (bytes ++ (beBytes 2 port.toNat ++ payload))).length < 4 + 4 + 2 := by
    simp [length]
    omega
  rw [parseSocksUDP_typed, parseSocksTarget, if_pos rfl, if_neg long]
  exact fixed

theorem parseSocksUDP_sixteen (value : BitVec 128) :
    parseSocksUDP resolver
        ([first, second, 0x00, 0x04] ++
          (beBytes 16 value.toNat ++ (beBytes 2 port.toNat ++ payload))) =
      .read (some (⟨.v6 value "", port⟩, payload)) := by
  have fixed := parseSocksPort_fixed first second 0x00 0x04 (beBytes 16 value.toNat) payload port
  rw [length_beBytes, Addr.fromSlice_sixteen] at fixed
  generalize body : beBytes 16 value.toNat = bytes at fixed ⊢
  have length : bytes.length = 16 := body ▸ length_beBytes _ _
  have long : ¬ ([first, second, 0x00, 0x04] ++
      (bytes ++ (beBytes 2 port.toNat ++ payload))).length < 4 + 16 + 2 := by
    simp [length]
    omega
  rw [parseSocksUDP_typed, parseSocksTarget, if_neg (by decide), if_pos rfl, if_neg long]
  exact fixed

theorem parseSocksUDP_named {name : List U8} (short : name.length ≤ 255) :
    parseSocksUDP resolver
        ([first, second, 0x00, 0x03] ++
          (lengthPrefixed name ++ (beBytes 2 port.toNat ++ payload))) =
      .read (((WireAddress.domain name).resolve resolver).map fun addr =>
        (⟨addr, port⟩, payload)) := by
  let front : List U8 := [first, second, 0x00, 0x03, BitVec.ofNat 8 name.length]
  have whole : [first, second, 0x00, 0x03] ++
      (lengthPrefixed name ++ (beBytes 2 port.toNat ++ payload)) =
        front ++ (name ++ (beBytes 2 port.toNat ++ payload)) := rfl
  have length : (front ++ (name ++ (beBytes 2 port.toNat ++ payload))).length =
      5 + name.length + 2 + payload.length := by
    simp [front]
    omega
  have sliced := sliceChecked_append front name (beBytes 2 port.toNat ++ payload)
  have behind (ip : Addr) := parseSocksPort_append (front ++ name) payload ip port
  simp only [List.length_append, List.append_assoc, show front.length = 5 from rfl]
    at sliced behind
  have counted : byteChecked (front ++ (name ++ (beBytes 2 port.toNat ++ payload))) 4 =
      .read (BitVec.ofNat 8 name.length) := rfl
  rw [parseSocksUDP_typed, whole, parseSocksTarget, if_neg (by decide), if_neg (by decide),
    if_pos rfl, length, if_neg (by omega), counted, Access.read_bind, toNat_ofNat_length short,
    if_neg (by omega), sliced, Access.read_bind, WireAddress.resolve]
  rcases resolver.lookupHost name with _ | (_ | ⟨ip, others⟩)
  · rfl
  · rfl
  · exact behind (resolver.parseAddr ip)

end Typed

theorem parseSocksUDP_header (resolver : Resolver) (address : WireAddress) (port : U16)
    (payload : List U8) (short : address.Short) (first second : U8) :
    parseSocksUDP resolver (udpHeader first second address port ++ payload) =
      .read ((address.resolve resolver).map fun addr => (⟨addr, port⟩, payload)) := by
  rw [udpHeader, List.append_assoc, List.append_assoc]
  cases address with
  | ipv4 value => exact parseSocksUDP_four first second payload port value
  | domain name => exact parseSocksUDP_named first second payload port short
  | ipv6 value => exact parseSocksUDP_sixteen first second payload port value

/-- Enough bytes behind an address are a port and a payload. -/
theorem exists_port (rest : List U8) (count : Nat) (long : count + 2 ≤ rest.length) :
    ∃ (port : U16) (payload : List U8),
      rest = rest.take count ++ (beBytes 2 port.toNat ++ payload) ∧
        (rest.take count).length = count := by
  have two : ((rest.drop count).take 2).length = 2 := by
    rw [List.length_take, List.length_drop]
    omega
  obtain ⟨port, bytes⟩ := exists_word_of_length 16 rfl two
  refine ⟨port, (rest.drop count).drop 2, ?_, ?_⟩
  · rw [← bytes, List.take_append_drop, List.take_append_drop]
  · rw [List.length_take]
    omega

theorem header_four (first second : U8) {rest : List U8} (long : 6 ≤ rest.length) :
    ∃ value port payload, first :: second :: 0x00 :: 0x01 :: rest =
      udpHeader first second (.ipv4 value) port ++ payload := by
  obtain ⟨port, payload, split, exact⟩ := exists_port rest 4 long
  obtain ⟨value, body⟩ := exists_word_of_length 32 rfl exact
  rw [body] at split
  refine ⟨value, port, payload, ?_⟩
  rw [split, udpHeader]
  simp [WireAddress.bytes]

theorem header_sixteen (first second : U8) {rest : List U8} (long : 18 ≤ rest.length) :
    ∃ value port payload, first :: second :: 0x00 :: 0x04 :: rest =
      udpHeader first second (.ipv6 value) port ++ payload := by
  obtain ⟨port, payload, split, exact⟩ := exists_port rest 16 long
  obtain ⟨value, body⟩ := exists_word_of_length 128 rfl exact
  rw [body] at split
  refine ⟨value, port, payload, ?_⟩
  rw [split, udpHeader]
  simp [WireAddress.bytes]

theorem header_named (first second length : U8) {rest : List U8}
    (long : length.toNat + 2 ≤ rest.length) :
    ∃ name port payload, WireAddress.Short (.domain name) ∧
      first :: second :: 0x00 :: 0x03 :: length :: rest =
        udpHeader first second (.domain name) port ++ payload := by
  obtain ⟨port, payload, split, exact⟩ := exists_port rest length.toNat long
  refine ⟨rest.take length.toNat, port, payload, ?_, ?_⟩
  · have bound := length.isLt
    exact exact.trans_le (by omega)
  · rw [udpHeader, WireAddress.bytes, lengthPrefixed, exact, BitVec.ofNat_toNat,
      BitVec.setWidth_eq]
    simp only [List.cons_append, List.nil_append, List.append_assoc, ← split]

/-- What is no header with something behind it is rejected. -/
theorem parseSocksUDP_of_no_header {p : List U8}
    (other : ∀ first second address port payload, WireAddress.Short address →
      p ≠ udpHeader first second address port ++ payload) :
    parseSocksUDP resolver p = .read none := by
  match p with
  | [] => rfl
  | [_] => rfl
  | [_, _] => rfl
  | [_, _, _] => rfl
  | first :: second :: frag :: atyp :: rest =>
      by_cases fragment : frag ≠ 0x00
      · have long : ¬ (first :: second :: frag :: atyp :: rest).length < 4 := by simp
        have third : byteChecked (first :: second :: frag :: atyp :: rest) 2 = .read frag := rfl
        rw [parseSocksUDP, if_neg long, third, Access.read_bind, if_pos fragment]
        rfl
      · obtain rfl := not_not.mp fragment
        refine (parseSocksUDP_typed resolver first second atyp rest).trans ?_
        have length : ([first, second, 0x00, atyp] ++ rest).length = 4 + rest.length := by
          simp
          omega
        -- Long enough for its type it would be a header.
        rw [parseSocksTarget, length]
        split
        · next four =>
            split
            · rfl
            · next long =>
                have enough : 6 ≤ rest.length := by omega
                obtain ⟨value, port, payload, header⟩ := header_four first second enough
                subst four
                exact absurd header (other first second (.ipv4 value) port payload trivial)
        · split
          · next sixteen =>
              split
              · rfl
              · next long =>
                  have enough : 18 ≤ rest.length := by omega
                  obtain ⟨value, port, payload, header⟩ := header_sixteen first second enough
                  subst sixteen
                  exact absurd header (other first second (.ipv6 value) port payload trivial)
          · split
            · next named =>
                split
                · rfl
                · next some =>
                    match rest with
                    | [] => simp at some
                    | count :: rest =>
                        have counted :
                            byteChecked ([first, second, 0x00, atyp] ++ count :: rest) 4 =
                              .read count := rfl
                        rw [counted, Access.read_bind, List.length_cons]
                        split
                        · rfl
                        · next long =>
                            have enough : count.toNat + 2 ≤ rest.length := by omega
                            obtain ⟨name, port, payload, short, header⟩ :=
                              header_named first second count enough
                            subst named
                            exact absurd header
                              (other first second (.domain name) port payload short)
            · rfl

/-!
### Headers do not run into each other
-/

theorem WireAddress.bytes_append_inj {address other : WireAddress} (short : address.Short)
    (shortOther : other.Short) {rest behind : List U8}
    (same : address.bytes ++ rest = other.bytes ++ behind) : address = other ∧ rest = behind := by
  have words {width count : Nat} (whole : width = 8 * count) (value value' : BitVec width)
      (same : beBytes count value.toNat ++ rest = beBytes count value'.toNat ++ behind) :
      value = value' ∧ rest = behind := by
    obtain ⟨bytes, rests⟩ := List.append_inj same (by simp)
    have back := ofNat_beValue_beBytes value whole
    rw [bytes, ofNat_beValue_beBytes value' whole] at back
    exact ⟨back.symm, rests⟩
  cases address <;> cases other <;>
    first
    | exact absurd (List.cons.inj same).1 (by decide)
    | skip
  · obtain ⟨rfl, rests⟩ := words rfl _ _ (List.cons.inj same).2
    exact ⟨rfl, rests⟩
  · next name name' =>
      obtain ⟨lengths, names⟩ := List.cons.inj (List.cons.inj same).2
      have equal : name.length = name'.length := by
        rw [← toNat_ofNat_length short, lengths, toNat_ofNat_length shortOther]
      obtain ⟨rfl, rests⟩ := List.append_inj names equal
      exact ⟨rfl, rests⟩
  · obtain ⟨rfl, rests⟩ := words rfl _ _ (List.cons.inj same).2
    exact ⟨rfl, rests⟩

/-- A header cut off anywhere is no header with something behind it. -/
theorem take_ne_udpHeader (first second : U8) (short : address.Short) (port : U16) {count : Nat}
    (cut : count < (udpHeader first second address port).length) (first' second' : U8)
    (address' : WireAddress) (port' : U16) (payload : List U8) (short' : address'.Short) :
    (udpHeader first second address port).take count ≠
      udpHeader first' second' address' port' ++ payload := by
  intro same
  have whole := List.take_append_drop count (udpHeader first second address port)
  rw [same, List.append_assoc] at whole
  have behind : address'.bytes ++ (beBytes 2 port'.toNat ++ (payload ++
      (udpHeader first second address port).drop count)) =
        address.bytes ++ beBytes 2 port.toNat := by
    have tails := congrArg (List.drop 3) whole
    rw [udpHeader, udpHeader, List.append_assoc, List.append_assoc] at tails
    exact tails
  obtain ⟨rfl, rests⟩ := WireAddress.bytes_append_inj short' short behind
  have lengths := congrArg List.length rests
  rw [List.length_append, List.length_append, List.length_drop, length_beBytes, length_beBytes]
    at lengths
  omega

theorem parseSocksUDP_within (resolver : Resolver) (p : List U8) :
    ∃ result, parseSocksUDP resolver p = .read result := by
  by_cases header : ∃ first second address port payload, WireAddress.Short address ∧
      p = udpHeader first second address port ++ payload
  · obtain ⟨first, second, address, port, payload, short, rfl⟩ := header
    exact ⟨_, parseSocksUDP_header _ _ _ _ short first second⟩
  · push Not at header
    exact ⟨none, parseSocksUDP_of_no_header header⟩

/-- Addresses without a zone come back with their port and their payload; a name comes back as the
address that it resolves to. No datagram is read beyond its end, and neither a fragment nor a
header that is cut off is accepted. -/
theorem udp_header_round_trip (resolver : Resolver) :
    (∀ value port payload,
      parseSocksUDP resolver (buildSocksUDPHeader ⟨.v4 value, port⟩ ++ payload) =
        .read (some (⟨.v4 value, port⟩, payload))) ∧
    (∀ value port payload,
      parseSocksUDP resolver (buildSocksUDPHeader ⟨.v6 value "", port⟩ ++ payload) =
        .read (some (⟨.v6 value "", port⟩, payload))) ∧
    (∀ first second name port payload, List.length name ≤ 255 →
      parseSocksUDP resolver (udpHeader first second (.domain name) port ++ payload) =
        .read (((WireAddress.domain name).resolve resolver).map fun addr =>
          (⟨addr, port⟩, payload))) ∧
    (∀ p, ∃ result, parseSocksUDP resolver p = .read result) ∧
    (∀ first second frag rest, frag ≠ 0x00 →
      parseSocksUDP resolver (first :: second :: frag :: rest) = .read none) ∧
    (∀ first second address port count, WireAddress.Short address →
      count < (udpHeader first second address port).length →
        parseSocksUDP resolver ((udpHeader first second address port).take count) =
          .read none) := by
  refine ⟨fun value port payload => ?_, fun value port payload => ?_, ?_,
    parseSocksUDP_within resolver, ?_, ?_⟩
  · exact parseSocksUDP_header resolver (.ipv4 value) port payload trivial 0 0
  · exact parseSocksUDP_header resolver (.ipv6 value) port payload trivial 0 0
  · intro first second name port payload short
    exact parseSocksUDP_header resolver (.domain name) port payload short first second
  · intro first second frag rest fragment
    refine parseSocksUDP_of_no_header fun first' second' address port payload _ same => ?_
    exact fragment (List.cons.inj (List.cons.inj (List.cons.inj same).2).2).1
  · intro first second address port count short cut
    exact parseSocksUDP_of_no_header (take_ne_udpHeader first second short port cut)

/-- A resolver that knows one address. -/
def oneAddress : Resolver where
  lookupHost _ := some ["192.0.2.1"]
  parseAddr _ := .v4 0xc0000201

/-- The zone of an address is lost, and a name comes back as an address. -/
theorem zone_and_name_lost :
    parseSocksUDP oneAddress (buildSocksUDPHeader ⟨.v6 1 "eth0", 53⟩ ++ [7]) ≠
        .read (some (⟨.v6 1 "eth0", 53⟩, [7])) ∧
      parseSocksUDP oneAddress (udpHeader 0 0 (.domain [0x61]) 53 ++ [7]) =
        .read (some (⟨.v4 0xc0000201, 53⟩, [7])) := by
  constructor
  · have read := parseSocksUDP_header oneAddress (.ipv6 1) 53 [7] trivial 0 0
    intro same
    have equal := Access.read.inj (read.symm.trans same)
    simp [WireAddress.resolve] at equal
  · rfl

end Csqtt.Socks5
