/-
Module: Csqtt.Proofs.Handshake
Purpose: An accepted handshake has read the bytes of the protocol and no others, and its target is
  a name or an address unless the client names nothing.
Trusted boundary: none
Main exports: Takes, WireAddress, Accepted, takes_socksHandshake, NamesNothing,
  handshake_well_formed_iff
-/
import Csqtt.Socks5.Handshake

namespace Csqtt.Socks5

open Handshake

variable {Value Next : Type} {conn after : Conn}

/-- The connection with more bytes to come first. -/
def Conn.before (self : Conn) (bytes : List U8) : Conn :=
  { self with unread := bytes ++ self.unread }

/-- The connection after a reply. -/
def Conn.replied (self : Conn) (reply : List U8) : Conn :=
  { self with writes := self.writes - 1, written := self.written ++ [reply] }

@[simp] theorem Conn.before_before (self : Conn) (first second : List U8) :
    (self.before second).before first = self.before (first ++ second) := by
  simp [Conn.before]

namespace Handshake

/-- The action comes to a value. -/
def Takes (action : Handshake Value) (conn : Conn) (value : Value) (after : Conn) : Prop :=
  action.exec conn = (some value, after)

theorem takes_pure {value result : Value} :
    Takes (pure value) conn result after ↔ value = result ∧ conn = after := by
  have done : exec (pure value) conn = (some value, conn) := rfl
  rw [Takes, done, Prod.mk.injEq, Option.some.injEq]

theorem takes_bind {action : Handshake Value} {next : Value → Handshake Next} {result : Next} :
    Takes (action >>= next) conn result after ↔
      ∃ value between, Takes action conn value between ∧
        Takes (next value) between result after := by
  have unfolded : exec (action >>= next) conn =
      match exec action conn with
      | (some value, between) => exec (next value) between
      | (none, between) => (none, between) := by
    simp only [exec, OptionT.run, StateT.run, bind, OptionT.bind, OptionT.mk, StateT.bind]
    rcases action conn with ⟨_ | value, between⟩ <;> rfl
  rw [Takes, unfolded]
  rcases execution : exec action conn with ⟨_ | value, between⟩
  · simp [Takes, execution]
  · simp [Takes, execution]

theorem not_takes_failure {result : Value} :
    ¬ Takes (failure : Handshake Value) conn result after := by
  intro takes
  cases takes

theorem takes_readByte {byte : U8} :
    Takes readByte conn byte after ↔ conn = after.before [byte] := by
  obtain ⟨unread, writes, written⟩ := conn
  obtain ⟨unread', writes', written'⟩ := after
  cases unread with
  | nil => simp [Takes, exec, OptionT.run, StateT.run, readByte, OptionT.mk, Conn.before]
  | cons first rest =>
      simp [Takes, exec, OptionT.run, StateT.run, readByte, OptionT.mk, Conn.before]
      tauto

theorem takes_readFull {count : Nat} {bytes : List U8} :
    Takes (readFull count) conn bytes after ↔
      bytes.length = count ∧ conn = after.before bytes := by
  obtain ⟨unread, writes, written⟩ := conn
  obtain ⟨unread', writes', written'⟩ := after
  simp only [Takes, exec, OptionT.run, StateT.run, readFull, OptionT.mk, Conn.before]
  split
  · next enough =>
      simp only [Prod.mk.injEq, Option.some.injEq, Conn.mk.injEq]
      constructor
      · rintro ⟨rfl, rfl, rfl, rfl⟩
        simp [enough]
      · rintro ⟨rfl, rfl, rfl, rfl⟩
        simp
  · next short =>
      simp only [Prod.mk.injEq, reduceCtorEq, false_and, Conn.mk.injEq, false_iff, not_and]
      rintro rfl rfl
      simp at short

theorem takes_write {bytes : List U8} {result : Unit} :
    Takes (write bytes) conn result after ↔
      0 < conn.writes ∧ conn.replied bytes = after := by
  simp only [Takes, exec, OptionT.run, StateT.run, write, OptionT.mk, Conn.replied]
  split
  · next open' => simp [open']
  · next broken => simp [broken]

theorem takes_require {condition : Prop} [Decidable condition] {result : Unit} :
    Takes (require condition) conn result after ↔ condition ∧ conn = after := by
  rw [require]
  split
  · next holds => simp [takes_pure, holds]
  · next fails => simp [not_takes_failure, fails]

theorem takes_requireElse {condition : Prop} [Decidable condition] {reply : List U8}
    {result : Unit} :
    Takes (requireElse condition reply) conn result after ↔ condition ∧ conn = after := by
  rw [requireElse]
  split
  · next holds => simp [takes_pure, holds]
  · next fails => simp [takes_bind, not_takes_failure, fails]

end Handshake

/-!
### The messages of the protocol
-/

/-- A field behind one byte of its length. -/
def lengthPrefixed (bytes : List U8) : List U8 := BitVec.ofNat 8 bytes.length :: bytes

def greetingBytes (methods : List U8) : List U8 := 0x05 :: lengthPrefixed methods

def authBytes (user pass : List U8) : List U8 :=
  0x01 :: (lengthPrefixed user ++ lengthPrefixed pass)

/-- What a request can be for. -/
inductive WireAddress where
  | ipv4 (value : U32)
  | domain (name : List U8)
  | ipv6 (value : BitVec 128)
deriving DecidableEq, Repr

namespace WireAddress

def bytes : WireAddress → List U8
  | .ipv4 value => 0x01 :: beBytes 4 value.toNat
  | .domain name => 0x03 :: lengthPrefixed name
  | .ipv6 value => 0x04 :: beBytes 16 value.toNat

/-- A name has a length of one byte. -/
def Short : WireAddress → Prop
  | .domain name => name.length ≤ 255
  | _ => True

/-- The fields of the request that the address goes to. -/
def target : WireAddress → List U8 × Addr
  | .ipv4 value => ([], .v4 value)
  | .domain name => (name, .zero)
  | .ipv6 value => ([], .v6 value "")

end WireAddress

def requestBytes (cmd rsv : U8) (address : WireAddress) (port : U16) : List U8 :=
  [0x05, cmd, rsv] ++ address.bytes ++ beBytes 2 port.toNat

/-- Whether a length fits into one byte. -/
theorem toNat_ofNat_length {bytes : List U8} (short : bytes.length ≤ 255) :
    (BitVec.ofNat 8 bytes.length).toNat = bytes.length := by
  rw [BitVec.toNat_ofNat]
  exact Nat.mod_eq_of_lt (Nat.lt_succ_of_le short)

theorem takes_socksReadLP {bytes : List U8} :
    Takes socksReadLP conn bytes after ↔
      bytes.length ≤ 255 ∧ conn = after.before (lengthPrefixed bytes) := by
  rw [socksReadLP, takes_bind]
  constructor
  · rintro ⟨n, between, first, rest⟩
    obtain ⟨length, rfl⟩ := takes_readFull.mp rest
    have bound := n.isLt
    refine ⟨by omega, ?_⟩
    rw [takes_readByte.mp first, Conn.before_before, lengthPrefixed, length, BitVec.ofNat_toNat,
      BitVec.setWidth_eq]
    rfl
  · rintro ⟨short, rfl⟩
    refine ⟨BitVec.ofNat 8 bytes.length, after.before bytes, takes_readByte.mpr ?_,
      takes_readFull.mpr ⟨(toNat_ofNat_length short).symm, rfl⟩⟩
    rw [Conn.before_before]
    rfl

theorem Conn.before_eq_iff {first other : U8} {bytes : List U8} :
    conn.before [first] = after.before (other :: bytes) ↔
      first = other ∧ conn = after.before bytes := by
  obtain ⟨unread, writes, written⟩ := conn
  obtain ⟨unread', writes', written'⟩ := after
  simp [Conn.before]
  tauto

theorem takes_socksReadTarget {atyp : U8} {target : List U8 × Addr} :
    Takes (socksReadTarget atyp) conn target after ↔
      ∃ address : WireAddress, address.Short ∧ target = address.target ∧
        conn.before [atyp] = after.before address.bytes := by
  rw [socksReadTarget]
  constructor
  · intro takes
    split at takes
    · next four =>
        obtain ⟨bytes, between, read, last⟩ := takes_bind.mp takes
        obtain ⟨length, rfl⟩ := takes_readFull.mp read
        obtain ⟨rfl, rfl⟩ := takes_pure.mp last
        obtain ⟨value, rfl⟩ := exists_word_of_length 32 rfl length
        exact ⟨.ipv4 value, trivial, by rw [Addr.fromSlice_four]; rfl,
          Conn.before_eq_iff.mpr ⟨four, rfl⟩⟩
    · split at takes
      · next named =>
          obtain ⟨name, between, read, last⟩ := takes_bind.mp takes
          obtain ⟨short, rfl⟩ := takes_socksReadLP.mp read
          obtain ⟨rfl, rfl⟩ := takes_pure.mp last
          exact ⟨.domain name, short, rfl, Conn.before_eq_iff.mpr ⟨named, rfl⟩⟩
      · split at takes
        · next six =>
            obtain ⟨bytes, between, read, last⟩ := takes_bind.mp takes
            obtain ⟨length, rfl⟩ := takes_readFull.mp read
            obtain ⟨rfl, rfl⟩ := takes_pure.mp last
            obtain ⟨value, rfl⟩ := exists_word_of_length 128 rfl length
            exact ⟨.ipv6 value, trivial, by rw [Addr.fromSlice_sixteen]; rfl,
              Conn.before_eq_iff.mpr ⟨six, rfl⟩⟩
        · obtain ⟨_, between, _, last⟩ := takes_bind.mp takes
          exact absurd last not_takes_failure
  · rintro ⟨address, short, rfl, same⟩
    cases address with
    | ipv4 value =>
        obtain ⟨rfl, rfl⟩ := Conn.before_eq_iff.mp same
        rw [if_pos rfl]
        exact takes_bind.mpr ⟨_, after, takes_readFull.mpr ⟨length_beBytes _ _, rfl⟩,
          takes_pure.mpr ⟨by rw [Addr.fromSlice_four]; rfl, rfl⟩⟩
    | domain name =>
        obtain ⟨rfl, rfl⟩ := Conn.before_eq_iff.mp same
        rw [if_neg (by decide), if_pos rfl]
        exact takes_bind.mpr ⟨name, after, takes_socksReadLP.mpr ⟨short, rfl⟩,
          takes_pure.mpr ⟨rfl, rfl⟩⟩
    | ipv6 value =>
        obtain ⟨rfl, rfl⟩ := Conn.before_eq_iff.mp same
        rw [if_neg (by decide), if_neg (by decide), if_pos rfl]
        exact takes_bind.mpr ⟨_, after, takes_readFull.mpr ⟨length_beBytes _ _, rfl⟩,
          takes_pure.mpr ⟨by rw [Addr.fromSlice_sixteen]; rfl, rfl⟩⟩

theorem takes_socksGreeting {result : Unit} :
    Takes socksGreeting conn result after ↔
      ∃ methods between, methods.length ≤ 255 ∧ conn = Conn.before between (greetingBytes methods) ∧
        0 < between.writes ∧ between.replied [0x05, 0x02] = after := by
  rw [socksGreeting]
  constructor
  · intro takes
    obtain ⟨version, first, read, takes⟩ := takes_bind.mp takes
    obtain ⟨_, checked, known, takes⟩ := takes_bind.mp takes
    obtain ⟨rfl, rfl⟩ := takes_require.mp known
    obtain ⟨nm, counted, readCount, takes⟩ := takes_bind.mp takes
    obtain ⟨methods, between, readMethods, written⟩ := takes_bind.mp takes
    obtain ⟨short, same⟩ := takes_socksReadLP.mp
      (takes_bind.mpr ⟨nm, counted, readCount, readMethods⟩)
    refine ⟨methods, between, short, ?_, takes_write.mp written⟩
    rw [takes_readByte.mp read, same, Conn.before_before]
    rfl
  · rintro ⟨methods, between, short, rfl, written⟩
    obtain ⟨nm, counted, readCount, readMethods⟩ :=
      takes_bind.mp (takes_socksReadLP.mpr ⟨short, rfl⟩)
    refine takes_bind.mpr ⟨0x05, between.before (lengthPrefixed methods),
      takes_readByte.mpr (Conn.before_before between [0x05] _).symm, takes_bind.mpr ⟨(), _,
        takes_require.mpr ⟨rfl, rfl⟩, takes_bind.mpr ⟨nm, counted, readCount,
          takes_bind.mpr ⟨methods, between, readMethods, takes_write.mpr written⟩⟩⟩⟩

theorem takes_socksAuth {user pass : List U8} {result : Unit} :
    Takes (socksAuth user pass) conn result after ↔
      user.length ≤ 255 ∧ pass.length ≤ 255 ∧ ∃ between,
        conn = Conn.before between (authBytes user pass) ∧ 0 < between.writes ∧
          between.replied [0x01, 0x00] = after := by
  rw [socksAuth]
  constructor
  · intro takes
    obtain ⟨version, first, read, takes⟩ := takes_bind.mp takes
    obtain ⟨_, checked, known, takes⟩ := takes_bind.mp takes
    obtain ⟨rfl, rfl⟩ := takes_require.mp known
    obtain ⟨gu, named, readUser, takes⟩ := takes_bind.mp takes
    obtain ⟨gp, between, readPass, takes⟩ := takes_bind.mp takes
    obtain ⟨_, granted, right, written⟩ := takes_bind.mp takes
    obtain ⟨⟨rfl, rfl⟩, rfl⟩ := takes_requireElse.mp right
    obtain ⟨shortUser, rfl⟩ := takes_socksReadLP.mp readUser
    obtain ⟨shortPass, rfl⟩ := takes_socksReadLP.mp readPass
    refine ⟨shortUser, shortPass, between, ?_, takes_write.mp written⟩
    rw [takes_readByte.mp read, Conn.before_before, Conn.before_before]
    rfl
  · rintro ⟨shortUser, shortPass, between, rfl, written⟩
    refine takes_bind.mpr ⟨0x01, between.before (lengthPrefixed user ++ lengthPrefixed pass),
      takes_readByte.mpr (Conn.before_before between [0x01] _).symm, takes_bind.mpr ⟨(), _,
        takes_require.mpr ⟨rfl, rfl⟩, takes_bind.mpr ⟨user, between.before (lengthPrefixed pass),
          takes_socksReadLP.mpr ⟨shortUser, (Conn.before_before _ _ _).symm⟩,
          takes_bind.mpr ⟨pass, between, takes_socksReadLP.mpr ⟨shortPass, rfl⟩,
            takes_bind.mpr ⟨(), between, takes_requireElse.mpr ⟨⟨rfl, rfl⟩, rfl⟩,
              takes_write.mpr written⟩⟩⟩⟩⟩

theorem takes_socksReadRequest {request : SocksRequest} :
    Takes socksReadRequest conn request after ↔
      ∃ rsv address, (request.cmd = socksCmdConnect ∨ request.cmd = socksCmdUDPAssociate) ∧
        WireAddress.Short address ∧ (request.host, request.ip) = address.target ∧
        conn = after.before (requestBytes request.cmd rsv address request.port) := by
  rw [socksReadRequest]
  constructor
  · intro takes
    obtain ⟨hdr, first, read, takes⟩ := takes_bind.mp takes
    obtain ⟨_, checked, known, takes⟩ := takes_bind.mp takes
    obtain ⟨⟨version, command⟩, rfl⟩ := takes_requireElse.mp known
    obtain ⟨target, named, readTarget, takes⟩ := takes_bind.mp takes
    obtain ⟨pp, between, readPort, last⟩ := takes_bind.mp takes
    obtain ⟨rfl, rfl⟩ := takes_pure.mp last
    obtain ⟨length, rfl⟩ := takes_readFull.mp read
    obtain ⟨two, rfl⟩ := takes_readFull.mp readPort
    obtain ⟨address, short, rfl, same⟩ := takes_socksReadTarget.mp readTarget
    obtain ⟨port, rfl⟩ := exists_word_of_length 16 rfl two
    match hdr, length with
    | [ver, cmd, rsv, atyp], _ =>
        obtain rfl : ver = 0x05 := version
        refine ⟨rsv, address, command, short, rfl, ?_⟩
        have split : first.before [0x05, cmd, rsv, atyp] =
            (first.before [atyp]).before [0x05, cmd, rsv] :=
          (Conn.before_before first [0x05, cmd, rsv] [atyp]).symm
        have same : first.before [atyp] = (between.before (beBytes 2 port.toNat)).before
            address.bytes := same
        rw [split, same, Conn.before_before, Conn.before_before, requestBytes,
          ofNat_beValue_beBytes port rfl, List.append_assoc]
        rfl
  · rintro ⟨rsv, address, command, short, target, rfl⟩
    obtain ⟨atyp, body, typed⟩ : ∃ atyp body, address.bytes = atyp :: body := by
      cases address <;> exact ⟨_, _, rfl⟩
    let port := beBytes 2 request.port.toNat
    have header : after.before (requestBytes request.cmd rsv address request.port) =
        ((after.before port).before body).before [0x05, request.cmd, rsv, atyp] := by
      rw [requestBytes, typed, Conn.before_before, Conn.before_before]
      simp [port]
    refine takes_bind.mpr ⟨[0x05, request.cmd, rsv, atyp], (after.before port).before body,
      takes_readFull.mpr ⟨rfl, header⟩, takes_bind.mpr ⟨(), _,
        takes_requireElse.mpr ⟨⟨rfl, command⟩, rfl⟩, takes_bind.mpr ⟨address.target,
          after.before port, takes_socksReadTarget.mpr ⟨address, short, rfl, ?_⟩,
          takes_bind.mpr ⟨port, after, takes_readFull.mpr ⟨length_beBytes _ _, rfl⟩,
            takes_pure.mpr ⟨?_, rfl⟩⟩⟩⟩⟩
    · rw [typed]
      exact Conn.before_eq_iff.mpr ⟨rfl, rfl⟩
    · rw [← target, ofNat_beValue_beBytes request.port rfl]
      rfl

/-- What an accepted handshake has read, up to where it stands now, and what it has answered. -/
structure Accepted (user pass : List U8) (conn : Conn) (request : SocksRequest) (after : Conn)
    (methods : List U8) (rsv : U8) (address : WireAddress) : Prop where
  shortMethods : methods.length ≤ 255
  shortUser : user.length ≤ 255
  shortPass : pass.length ≤ 255
  command : request.cmd = socksCmdConnect ∨ request.cmd = socksCmdUDPAssociate
  shortAddress : address.Short
  targeted : (request.host, request.ip) = address.target
  consumed : conn.unread = greetingBytes methods ++ authBytes user pass ++
    requestBytes request.cmd rsv address request.port ++ after.unread
  writes : conn.writes = after.writes + 2
  written : after.written = conn.written ++ [[0x05, 0x02], [0x01, 0x00]]

theorem takes_socksHandshake {user pass : List U8} {request : SocksRequest} :
    Takes (socksHandshake user pass) conn request after ↔
      ∃ methods rsv address, Accepted user pass conn request after methods rsv address := by
  rw [socksHandshake]
  constructor
  · intro takes
    obtain ⟨_, greeted, greeting, takes⟩ := takes_bind.mp takes
    obtain ⟨_, authorized, auth, reading⟩ := takes_bind.mp takes
    obtain ⟨methods, first, shortMethods, rfl, canGreet, rfl⟩ := takes_socksGreeting.mp greeting
    obtain ⟨shortUser, shortPass, second, same, canGrant, rfl⟩ := takes_socksAuth.mp auth
    obtain ⟨rsv, address, command, short, target, read⟩ := takes_socksReadRequest.mp reading
    refine ⟨methods, rsv, address, shortMethods, shortUser, shortPass, command, short, target, ?_,
      ?_, ?_⟩
    · have firstUnread := congrArg Conn.unread same
      have secondUnread := congrArg Conn.unread read
      simp only [Conn.replied, Conn.before] at firstUnread secondUnread ⊢
      rw [firstUnread, secondUnread]
      simp
    · have firstWrites := congrArg Conn.writes same
      have secondWrites := congrArg Conn.writes read
      simp only [Conn.replied, Conn.before] at firstWrites secondWrites canGrant ⊢
      omega
    · have firstWritten := congrArg Conn.written same
      have secondWritten := congrArg Conn.written read
      simp only [Conn.replied, Conn.before] at firstWritten secondWritten ⊢
      rw [← secondWritten, ← firstWritten]
      simp
  · rintro ⟨methods, rsv, address, accepted⟩
    obtain ⟨unread, writes, written⟩ := conn
    obtain ⟨unread', writes', written'⟩ := after
    obtain ⟨shortMethods, shortUser, shortPass, command, shortAddress, targeted, consumed, spent,
      replied⟩ := accepted
    dsimp only at consumed spent replied
    subst consumed spent replied
    let asked : Conn :=
      ⟨requestBytes request.cmd rsv address request.port ++ unread', writes' + 1,
        written ++ [[0x05, 0x02]]⟩
    let greeted : Conn := ⟨authBytes user pass ++ asked.unread, writes' + 2, written⟩
    refine takes_bind.mpr ⟨(), greeted.replied [0x05, 0x02],
      takes_socksGreeting.mpr ⟨methods, greeted, shortMethods, ?_, Nat.succ_pos _, rfl⟩,
      takes_bind.mpr ⟨(), asked.replied [0x01, 0x00],
        takes_socksAuth.mpr ⟨shortUser, shortPass, asked, rfl, Nat.succ_pos _, ?_⟩,
        takes_socksReadRequest.mpr ⟨rsv, address, command, shortAddress, targeted, ?_⟩⟩⟩
    · simp [Conn.before, greeted, asked]
    · rfl
    · simp [Conn.before, Conn.replied, asked]

/-- The stream of a client that asks for a name without a letter. -/
def NamesNothing (user pass stream : List U8) : Prop :=
  ∃ methods cmd rsv port rest, List.length methods ≤ 255 ∧ user.length ≤ 255 ∧ pass.length ≤ 255 ∧
    (cmd = socksCmdConnect ∨ cmd = socksCmdUDPAssociate) ∧
    stream = greetingBytes methods ++ authBytes user pass ++
      requestBytes cmd rsv (.domain []) port ++ rest

/-- What acceptance promises: exactly the three messages are read, the request is what the third
says, and it names a host or has an address. -/
def WellFormedHandshake (user pass : List U8) (conn after : Conn) (request : SocksRequest) : Prop :=
  (∃ methods rsv address, Accepted user pass conn request after methods rsv address) ∧
    (request.isIP = true → request.ip.isValid = true)

/-- Acceptance keeps its promise on every stream but those that ask for the empty name, unless the
replies cannot be written. -/
theorem handshake_well_formed_iff (user pass stream : List U8) (writes : Nat) :
    (∀ request after,
        (socksHandshake user pass).exec ⟨stream, writes, []⟩ = (some request, after) →
          WellFormedHandshake user pass ⟨stream, writes, []⟩ after request) ↔
      ¬ (2 ≤ writes ∧ NamesNothing user pass stream) := by
  constructor
  · rintro wellFormed ⟨enough, methods, cmd, rsv, port, rest, shortMethods, shortUser, shortPass,
      command, rfl⟩
    let request : SocksRequest := ⟨cmd, [], .zero, port⟩
    let after : Conn := ⟨rest, writes - 2, [[0x05, 0x02], [0x01, 0x00]]⟩
    have accepted : Accepted user pass ⟨_, writes, []⟩ request after methods rsv (.domain []) :=
      ⟨shortMethods, shortUser, shortPass, command, Nat.zero_le _, rfl, rfl,
        (Nat.sub_add_cancel enough).symm, rfl⟩
    have valid := (wellFormed request after
      (takes_socksHandshake.mpr ⟨methods, rsv, .domain [], accepted⟩)).2 rfl
    exact absurd valid Bool.false_ne_true
  · intro named request after accepts
    obtain ⟨methods, rsv, address, accepted⟩ := takes_socksHandshake.mp accepts
    refine ⟨⟨methods, rsv, address, accepted⟩, fun isIP => ?_⟩
    have targeted := accepted.targeted
    cases address with
    | ipv4 value =>
        obtain ⟨-, ip⟩ := Prod.mk.inj targeted
        rw [ip]
        rfl
    | domain name =>
        obtain ⟨host, -⟩ := Prod.mk.inj targeted
        have empty : name = [] := host ▸ beq_iff_eq.mp isIP
        subst empty
        refine absurd ⟨?_, methods, request.cmd, rsv, request.port, after.unread,
          accepted.shortMethods, accepted.shortUser, accepted.shortPass, accepted.command,
          accepted.consumed⟩ named
        have spent : writes = after.writes + 2 := accepted.writes
        omega
    | ipv6 value =>
        obtain ⟨-, ip⟩ := Prod.mk.inj targeted
        rw [ip]
        rfl

/-- A client without a user and a password that asks to connect to the empty name. -/
theorem empty_name_accepted :
    ¬ ∀ request after,
      (socksHandshake [] []).exec
          ⟨[5, 1, 2, 1, 0, 0, 5, 1, 0, 3, 0, 1, 187], 3, []⟩ = (some request, after) →
        WellFormedHandshake [] [] ⟨[5, 1, 2, 1, 0, 0, 5, 1, 0, 3, 0, 1, 187], 3, []⟩ after
          request := by
  intro wellFormed
  have valid := (wellFormed ⟨1, [], .zero, 443⟩ ⟨[], 1, [[5, 2], [1, 0]]⟩ (by decide)).2 rfl
  exact absurd valid Bool.false_ne_true

end Csqtt.Socks5
