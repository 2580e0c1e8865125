/-
Module: Csqtt.Proofs.UdpTargets
Purpose: What a relay of datagrams knows of names, and the table that it keeps of its
  connections: a name is asked for once at a time, and a target has one open connection at most.
Trusted boundary: none
Main exports: AsyncSocksResolver.Sound, Knows, parseSocksUDP_requested, Reads, Tabled,
  Tabled.sweep, Tabled.find, Tabled.dialed, Tabled.insert, Tabled.leave
-/
import Csqtt.Proofs.UdpHeader
import Csqtt.Socks5.UdpAssoc

namespace Csqtt.Socks5

/-!
### Names
-/

namespace AsyncSocksResolver

/-- What is kept are the answers with addresses, one of each name, and a name is asked for once at
a time and not again once it is known. -/
structure Sound (dns : AsyncSocksResolver) : Prop where
  cached : ∀ host ips, dns.cache.lookup host = some ips → ips ≠ [] ∧ (host, ips) ∈ dns.answers
  kept : ∀ host, dns.cache.lookup host = none → ∀ ips, (host, ips) ∈ dns.answers → ips = []
  alone : dns.running.Nodup
  inflight : ∀ host, host ∈ dns.inflight ↔ host ∈ dns.running
  unknown : ∀ host ∈ dns.running, dns.cache.lookup host = none

theorem Sound.new : newAsyncSocksResolver.Sound where
  cached := fun _ _ found => nomatch found
  kept := fun _ _ _ mem => nomatch mem
  alone := List.nodup_nil
  inflight := fun _ => Iff.rfl
  unknown := fun _ mem => nomatch mem

variable {self : AsyncSocksResolver}

theorem Sound.lookupHost (sound : self.Sound) (host : List U8) :
    (self.lookupHost host).1.Sound := by
  rw [AsyncSocksResolver.lookupHost]
  cases found : self.cache.lookup host with
  | some ips => exact sound
  | none =>
      dsimp only
      split
      · exact sound
      · next idle =>
          have new : host ∉ self.running := fun mem => idle ((sound.inflight host).mpr mem)
          exact
            { cached := sound.cached
              kept := sound.kept
              alone := by
                rw [List.nodup_append]
                refine ⟨sound.alone, List.nodup_singleton host, ?_⟩
                rintro other mem _ same rfl
                exact new (List.mem_singleton.mp same ▸ mem)
              inflight := by
                intro other
                change other ∈ insert host self.inflight ↔ other ∈ self.running ++ [host]
                rw [Finset.mem_insert, sound.inflight, List.mem_append, List.mem_singleton]
                exact Or.comm
              unknown := by
                intro other mem
                rcases List.mem_append.mp mem with before | this
                · exact sound.unknown other before
                · rw [List.mem_singleton.mp this]
                  exact found }

theorem Sound.asked (sound : self.Sound) (p : List U8) : (self.asked p).Sound := by
  rw [AsyncSocksResolver.asked]
  split
  · exact sound.lookupHost _
  · exact sound

theorem answers_lookupHost (self : AsyncSocksResolver) (host : List U8) :
    (self.lookupHost host).1.answers = self.answers := by
  rw [AsyncSocksResolver.lookupHost]
  split
  · rfl
  · split <;> rfl

theorem answers_asked (self : AsyncSocksResolver) (p : List U8) :
    (self.asked p).answers = self.answers := by
  rw [AsyncSocksResolver.asked]
  split
  · exact answers_lookupHost self _
  · rfl

theorem answers_answered (self : AsyncSocksResolver) (index : Nat) (ips : Option (List String)) :
    self.answers <+: (self.answered index ips).answers := by
  rw [answered]
  split
  · exact List.prefix_refl _
  · exact List.prefix_append _ _

/-- A lookup that ends leaves the others as they are. -/
theorem Sound.answered (sound : self.Sound) (index : Nat) (ips : Option (List String)) :
    (self.answered index ips).Sound := by
  rw [AsyncSocksResolver.answered]
  cases here : self.running[index]? with
  | none => exact sound
  | some host =>
      obtain ⟨bound, exact⟩ := List.getElem?_eq_some_iff.mp here
      have mem : host ∈ self.running := List.mem_of_getElem? here
      have rest : self.running.eraseIdx index = self.running.erase host := by
        rw [← exact, sound.alone.erase_getElem index bound]
      have others : ∀ other, other ∈ self.running.eraseIdx index ↔
          other ≠ host ∧ other ∈ self.running := by
        intro other
        rw [rest, sound.alone.mem_erase_iff]
      have alone : (self.running.eraseIdx index).Nodup :=
        sound.alone.sublist (List.eraseIdx_sublist _ _)
      have inflight : ∀ other, other ∈ self.inflight.erase host ↔
          other ∈ self.running.eraseIdx index := by
        intro other
        rw [Finset.mem_erase, others, sound.inflight]
      match ips with
      | none =>
          exact
            { cached := by
                intro other known found
                exact (sound.cached other known found).imp_right (List.mem_append_left _)
              kept := by
                intro other missing known there
                rcases List.mem_append.mp there with before | this
                · exact sound.kept other missing known before
                · exact nomatch this
              alone := alone
              inflight := inflight
              unknown := fun other among => sound.unknown other ((others other).mp among).2 }
      | some [] =>
          exact
            { cached := by
                intro other known found
                exact (sound.cached other known found).imp_right (List.mem_append_left _)
              kept := by
                intro other missing known there
                rcases List.mem_append.mp there with before | this
                · exact sound.kept other missing known before
                · exact (Prod.mk.inj (List.mem_singleton.mp this)).2
              alone := alone
              inflight := inflight
              unknown := fun other among => sound.unknown other ((others other).mp among).2 }
      | some (ip :: more) =>
          have apart : ∀ other, other ≠ host →
              (self.cache.insert host (ip :: more)).lookup other = self.cache.lookup other :=
            fun other differ => AList.lookup_insert_ne differ
          exact
            { cached := by
                intro other known found
                by_cases same : other = host
                · subst same
                  rw [AList.lookup_insert] at found
                  obtain rfl := Option.some.inj found
                  exact ⟨List.cons_ne_nil _ _, List.mem_append_right _ List.mem_cons_self⟩
                · rw [apart other same] at found
                  exact (sound.cached other known found).imp_right (List.mem_append_left _)
              kept := by
                intro other missing known there
                have differ : other ≠ host := by
                  rintro rfl
                  rw [AList.lookup_insert] at missing
                  cases missing
                rw [apart other differ] at missing
                rcases List.mem_append.mp there with before | this
                · exact sound.kept other missing known before
                · exact absurd (Prod.mk.inj (List.mem_singleton.mp this)).1 differ
              alone := alone
              inflight := inflight
              unknown := by
                intro other among
                obtain ⟨differ, before⟩ := (others other).mp among
                rw [apart other differ]
                exact sound.unknown other before }

theorem snd_lookupHost (self : AsyncSocksResolver) (host : List U8) :
    (self.lookupHost host).2 = self.cache.lookup host := by
  rw [lookupHost]
  cases self.cache.lookup host with
  | some ips => rfl
  | none =>
      dsimp only
      split <;> rfl

end AsyncSocksResolver

/-- A resolver that answers with what has been answered already, and with nothing else. -/
structure Knows (parseAddr : String → Addr) (answers : List (List U8 × List String))
    (resolver : Resolver) : Prop where
  parseAddr : resolver.parseAddr = parseAddr
  cached : ∀ host ips, resolver.lookupHost host = some ips → ips ≠ [] ∧ (host, ips) ∈ answers
  kept : ∀ host, resolver.lookupHost host = none → ∀ ips, (host, ips) ∈ answers → ips = []

theorem AsyncSocksResolver.Sound.knows {dns : AsyncSocksResolver} (sound : dns.Sound)
    (parseAddr : String → Addr) : Knows parseAddr dns.answers (dns.resolver parseAddr) where
  parseAddr := rfl
  cached := by
    intro host ips found
    exact sound.cached host ips ((dns.snd_lookupHost host).symm.trans found)
  kept := by
    intro host missing
    exact sound.kept host ((dns.snd_lookupHost host).symm.trans missing)

/-- The name of an address, if it is one. -/
def WireAddress.name : WireAddress → Option (List U8)
  | .domain name => some name
  | _ => none

theorem requestedHost_unnamed (first second frag : U8) {atyp : U8} (other : atyp ≠ 0x03)
    (rest : List U8) : requestedHost (first :: second :: frag :: atyp :: rest) = none := by
  cases rest with
  | nil => rfl
  | cons l rest => exact if_pos (Or.inr (Or.inl other))

theorem requestedHost_header (first second : U8) (address : WireAddress) (port : U16)
    (payload : List U8) (short : address.Short) :
    requestedHost (udpHeader first second address port ++ payload) = address.name := by
  cases address with
  | ipv4 value => exact requestedHost_unnamed first second 0x00 (by decide) _
  | ipv6 value => exact requestedHost_unnamed first second 0x00 (by decide) _
  | domain name =>
      have length := toNat_ofNat_length short
      have split : udpHeader first second (.domain name) port ++ payload =
          first :: second :: 0x00 :: 0x03 :: BitVec.ofNat 8 name.length ::
            (name ++ (beBytes 2 port.toNat ++ payload)) := by
        simp [udpHeader, WireAddress.bytes, lengthPrefixed]
      have enough : ¬ (name ++ (beBytes 2 port.toNat ++ payload)).length < name.length + 2 := by
        rw [List.length_append, List.length_append, length_beBytes]
        omega
      rw [split, requestedHost, length]
      rw [if_neg (by
        rintro (frag | atyp | few)
        · exact frag rfl
        · exact atyp rfl
        · exact enough few)]
      rw [List.take_left, WireAddress.name]

/-- The parser asks for no name but the requested one. -/
theorem parseSocksUDP_requested {resolver other : Resolver} (p : List U8)
    (same : resolver.parseAddr = other.parseAddr)
    (agree : ∀ host, requestedHost p = some host →
      resolver.lookupHost host = other.lookupHost host) :
    parseSocksUDP resolver p = parseSocksUDP other p := by
  by_cases header : ∃ first second address port payload, WireAddress.Short address ∧
      p = udpHeader first second address port ++ payload
  · obtain ⟨first, second, address, port, payload, short, rfl⟩ := header
    rw [parseSocksUDP_header _ _ _ _ short, parseSocksUDP_header _ _ _ _ short]
    cases address with
    | ipv4 value => rfl
    | ipv6 value => rfl
    | domain name =>
        have asked := agree name (requestedHost_header first second _ port payload short)
        rw [WireAddress.resolve, WireAddress.resolve, asked, same]
  · push Not at header
    rw [parseSocksUDP_of_no_header header, parseSocksUDP_of_no_header header]

/-- What a datagram says to a resolver that knows what had been answered when the datagram came,
and perhaps a few answers more. -/
def Reads (parseAddr : String → Addr) (answers : List (List U8 × List String)) (d : Datagram)
    (result : Option (AddrPort × List U8)) : Prop :=
  ∃ count resolver, d.known ≤ count ∧ count ≤ answers.length ∧
    Knows parseAddr (answers.take count) resolver ∧ parseSocksUDP resolver d.p = .read result

theorem Reads.mono {parseAddr : String → Addr} {answers more : List (List U8 × List String)}
    {d : Datagram} {result : Option (AddrPort × List U8)} (reads : Reads parseAddr answers d result)
    (grown : answers <+: more) : Reads parseAddr more d result := by
  obtain ⟨count, resolver, known, bound, knows, parsed⟩ := reads
  obtain ⟨new, rfl⟩ := grown
  refine ⟨count, resolver, known, ?_, ?_, parsed⟩
  · rw [List.length_append]
    exact Nat.le_add_right_of_le bound
  · rwa [List.take_append_of_le_length bound]

/-!
### The table of targets
-/

namespace UdpAssociation

variable {self later : UdpAssociation}

/-- The serving loop has run what it defers. -/
def Over (self : UdpAssociation) : Prop := self.point = .closing ∨ self.point = .left

/-- The open connections are those of the table, one for each target, and the one that is on its
way there; those that are closed had been idle, until the loop is left. -/
structure Tabled (assoc : UdpAssociation) : Prop where
  entry : ∀ dst e, assoc.targets.lookup dst = some e →
    ∃ conn, assoc.conns[e.conn]? = some conn ∧ conn.target = dst ∧ conn.used = e.last ∧
      conn.closed = none
  opened : ∀ (index : Nat) conn, assoc.conns[index]? = some conn → conn.closed = none →
    (∃ e, assoc.targets.lookup conn.target = some e ∧ e.conn = index) ∨
      ∃ data, assoc.point = .inserting conn.target data index
  dialing : ∀ dst data, assoc.point = .dialing dst data → assoc.targets.lookup dst = none
  inserting : ∀ dst data uc, assoc.point = .inserting dst data uc →
    assoc.targets.lookup dst = none ∧
      ∃ conn, assoc.conns[uc]? = some conn ∧ conn.target = dst ∧ conn.closed = none
  aged : ¬ assoc.Over → ∀ (index : Nat) conn time, assoc.conns[index]? = some conn →
    conn.closed = some time → conn.used + socksUDPIdleTTL ≤ time
  ended : assoc.Over → assoc.targets = ∅

theorem Tabled.start : start.Tabled where
  entry := fun _ _ found => nomatch found
  opened := fun _ _ found => nomatch found
  dialing := fun _ _ stands => nomatch stands
  inserting := fun _ _ _ stands => nomatch stands
  aged := fun _ _ _ _ found => nomatch found
  ended := fun _ => rfl

/-- What the table cares about in a connection. -/
def standing (conn : UdpConn) : AddrPort × Nat × Option Nat := (conn.target, conn.used, conn.closed)

theorem exists_standing {conns others : List UdpConn} {index : Nat} {conn : UdpConn}
    (same : conns[index]?.map standing = others[index]?.map standing)
    (found : conns[index]? = some conn) :
    ∃ other, others[index]? = some other ∧ other.target = conn.target ∧ other.used = conn.used ∧
      other.closed = conn.closed := by
  rw [found, Option.map_some] at same
  obtain ⟨other, there, standings⟩ := Option.map_eq_some_iff.mp same.symm
  obtain ⟨target, rest⟩ := Prod.mk.inj standings
  obtain ⟨used, closed⟩ := Prod.mk.inj rest
  exact ⟨other, there, target, used, closed⟩

theorem Tabled.entry_of_same (sound : self.Tabled) (targets : later.targets = self.targets)
    (conns : ∀ index : Nat, later.conns[index]?.map standing = self.conns[index]?.map standing)
    (dst : AddrPort) (e : UdpNatEntry) (found : later.targets.lookup dst = some e) :
    ∃ conn, later.conns[e.conn]? = some conn ∧ conn.target = dst ∧ conn.used = e.last ∧
      conn.closed = none := by
  rw [targets] at found
  obtain ⟨conn, there, target, used, closed⟩ := sound.entry dst e found
  obtain ⟨now, here, target', used', closed'⟩ := exists_standing (conns e.conn).symm there
  exact ⟨now, here, target'.trans target, used'.trans used, closed'.trans closed⟩

/-- Whoever leaves the table, the loop and the standing of the connections alone. -/
theorem Tabled.frame (sound : self.Tabled) (targets : later.targets = self.targets)
    (conns : ∀ index : Nat, later.conns[index]?.map standing = self.conns[index]?.map standing)
    (point : later.point = self.point) : later.Tabled where
  entry := sound.entry_of_same targets conns
  opened := by
    intro index conn found isOpen
    obtain ⟨before, there, target, _, closed⟩ := exists_standing (conns index) found
    rw [targets, point, ← target]
    exact sound.opened index before there (closed.trans isOpen)
  dialing := by
    rw [targets, point]
    exact sound.dialing
  inserting := by
    intro dst data uc stands
    rw [point] at stands
    obtain ⟨missing, conn, there, target, isOpen⟩ := sound.inserting dst data uc stands
    obtain ⟨now, here, target', _, closed⟩ := exists_standing (conns uc).symm there
    rw [targets]
    exact ⟨missing, now, here, target'.trans target, closed.trans isOpen⟩
  aged := by
    intro going index conn time found isClosed
    obtain ⟨before, there, _, used, closed⟩ := exists_standing (conns index) found
    rw [Over, point] at going
    rw [← used]
    exact sound.aged going index before time there (closed.trans isClosed)
  ended := by
    rw [Over, point, targets]
    exact sound.ended

/-- The points of the loop at which the table is just that. -/
def Plain : ServePoint → Prop
  | .dialing _ _ | .inserting _ _ _ | .closing | .left => False
  | _ => True

/-- The points at which the loop does not insert, and is not over. -/
def Calm : ServePoint → Prop
  | .inserting _ _ _ | .closing | .left => False
  | _ => True

theorem bare_of_calm (calm : Calm self.point) (dst : AddrPort) (data : List U8) (uc : Nat) :
    self.point ≠ .inserting dst data uc := by
  intro stands
  rw [stands] at calm
  exact calm

theorem going_of_calm (calm : Calm self.point) : ¬ self.Over := by
  rintro (stands | stands)
  · rw [stands] at calm
    exact calm
  · rw [stands] at calm
    exact calm

/-- The loop moves on, and does not insert meanwhile. -/
theorem Tabled.settle (sound : self.Tabled) (targets : later.targets = self.targets)
    (conns : ∀ index : Nat, later.conns[index]?.map standing = self.conns[index]?.map standing)
    (calm : Calm self.point) (plain : Plain later.point) : later.Tabled where
  entry := sound.entry_of_same targets conns
  opened := by
    intro index conn found isOpen
    obtain ⟨before, there, target, _, closed⟩ := exists_standing (conns index) found
    rw [targets, ← target]
    rcases sound.opened index before there (closed.trans isOpen) with tabled | ⟨data, stands⟩
    · exact Or.inl tabled
    · exact absurd stands (bare_of_calm calm _ _ _)
  dialing := by
    intro dst data stands
    rw [stands] at plain
    exact plain.elim
  inserting := by
    intro dst data uc stands
    rw [stands] at plain
    exact plain.elim
  aged := by
    intro _ index conn time found isClosed
    obtain ⟨before, there, _, used, closed⟩ := exists_standing (conns index) found
    rw [← used]
    exact sound.aged (going_of_calm calm) index before time there (closed.trans isClosed)
  ended := by
    rintro (stands | stands)
    · rw [stands] at plain
      exact plain.elim
    · rw [stands] at plain
      exact plain.elim

theorem getElem?_closeConns (self : UdpAssociation) (which : List Nat) (index : Nat) :
    (self.closeConns which).conns[index]? =
      self.conns[index]?.map fun conn => if index ∈ which then conn.close self.now else conn :=
  List.getElem?_mapIdx

/-- A connection that is still open was not among those that were to be closed. -/
theorem not_mem_of_open {which : List Nat} {index : Nat} {conn : UdpConn}
    (found : (self.closeConns which).conns[index]? = some conn) (isOpen : conn.closed = none) :
    index ∉ which ∧ self.conns[index]? = some conn := by
  rw [getElem?_closeConns] at found
  obtain ⟨before, there, rfl⟩ := Option.map_eq_some_iff.mp found
  split at isOpen
  · cases isOpen
  · next outside =>
      rw [if_neg outside]
      exact ⟨outside, there⟩

theorem mem_sweep {targets : HashTable AddrPort UdpNatEntry} {now index : Nat} :
    index ∈ (sweepIdleUDPTargets targets now).2 ↔
      ∃ dst e, targets.lookup dst = some e ∧ e.idle now = true ∧ e.conn = index := by
  constructor
  · intro mem
    obtain ⟨⟨dst, e⟩, kept, same⟩ := List.mem_map.mp mem
    obtain ⟨there, idle⟩ := List.mem_filter.mp kept
    exact ⟨dst, e, AList.mem_lookup_iff.mpr there, idle, same⟩
  · rintro ⟨dst, e, found, idle, same⟩
    exact List.mem_map.mpr ⟨⟨dst, e⟩,
      List.mem_filter.mpr ⟨AList.mem_lookup_iff.mp found, idle⟩, same⟩

theorem lookup_sweep {targets : HashTable AddrPort UdpNatEntry} {now : Nat} {dst : AddrPort}
    {e : UdpNatEntry} :
    (sweepIdleUDPTargets targets now).1.lookup dst = some e ↔
      targets.lookup dst = some e ∧ e.idle now = false := by
  rw [sweepIdleUDPTargets, HashTable.lookup_retain, Option.filter_eq_some_iff]
  rw [Bool.not_eq_true']

theorem lookup_sweep_none {targets : HashTable AddrPort UdpNatEntry} {now : Nat} {dst : AddrPort}
    (missing : targets.lookup dst = none) :
    (sweepIdleUDPTargets targets now).1.lookup dst = none := by
  rw [sweepIdleUDPTargets, HashTable.lookup_retain, missing]
  rfl

/-- No two targets share a connection. -/
theorem Tabled.lookup_inj (sound : self.Tabled) {dst other : AddrPort} {e f : UdpNatEntry}
    (found : self.targets.lookup dst = some e) (found' : self.targets.lookup other = some f)
    (same : e.conn = f.conn) : e = f := by
  obtain ⟨conn, there, target, _⟩ := sound.entry dst e found
  obtain ⟨conn', there', target', _⟩ := sound.entry other f found'
  rw [same, there'] at there
  obtain rfl := Option.some.inj there
  rw [← target, target', found'] at found
  exact (Option.some.inj found).symm

/-- What is swept, and with it closed, has been idle for long enough. -/
theorem Tabled.sweep (sound : self.Tabled) {now : Nat} (past : now ≤ self.now) :
    (self.sweep now).Tabled where
  entry := by
    intro dst e found
    obtain ⟨before, busy⟩ := lookup_sweep.mp found
    obtain ⟨conn, there, rest⟩ := sound.entry dst e before
    refine ⟨conn, ?_, rest⟩
    refine (getElem?_closeConns self _ e.conn).trans ?_
    rw [there, Option.map_some, if_neg]
    intro mem
    obtain ⟨other, f, found', idle, same⟩ := mem_sweep.mp mem
    rw [sound.lookup_inj found' before same, busy] at idle
    cases idle
  opened := by
    intro index conn found isOpen
    obtain ⟨outside, there⟩ := not_mem_of_open found isOpen
    rcases sound.opened index conn there isOpen with ⟨e, before, same⟩ | inserting
    · refine Or.inl ⟨e, lookup_sweep.mpr ⟨before, ?_⟩, same⟩
      exact Bool.eq_false_iff.mpr fun idle => outside (mem_sweep.mpr ⟨_, e, before, idle, same⟩)
    · exact Or.inr inserting
  dialing := fun dst data stands => lookup_sweep_none (sound.dialing dst data stands)
  inserting := by
    intro dst data uc stands
    obtain ⟨missing, conn, there, target, isOpen⟩ := sound.inserting dst data uc stands
    refine ⟨lookup_sweep_none missing, conn, ?_, target, isOpen⟩
    refine (getElem?_closeConns self _ uc).trans ?_
    rw [there, Option.map_some, if_neg]
    intro mem
    obtain ⟨other, e, found, _, same⟩ := mem_sweep.mp mem
    obtain ⟨conn', there', target', _⟩ := sound.entry other e found
    rw [same, there] at there'
    obtain rfl := Option.some.inj there'
    rw [← target', target, missing] at found
    cases found
  aged := by
    intro going index conn time found isClosed
    replace found := (getElem?_closeConns self _ index).symm.trans found
    obtain ⟨before, there, rfl⟩ := Option.map_eq_some_iff.mp found
    by_cases mem : index ∈ (sweepIdleUDPTargets self.targets now).2
    · obtain ⟨dst, e, tabled, idle, same⟩ := mem_sweep.mp mem
      obtain ⟨conn, there', _, used, isOpen⟩ := sound.entry dst e tabled
      rw [same, there] at there'
      obtain rfl := Option.some.inj there'
      rw [if_pos mem, UdpConn.close, isOpen] at isClosed
      rw [if_pos mem]
      obtain rfl := Option.some.inj isClosed
      have long := of_decide_eq_true idle
      change before.used + socksUDPIdleTTL ≤ self.now
      rw [used]
      have some : 0 < socksUDPIdleTTL := by decide
      omega
    · rw [if_neg mem] at isClosed ⊢
      exact sound.aged going index before time there isClosed
  ended := by
    intro gone
    have none := sound.ended gone
    change (sweepIdleUDPTargets self.targets now).1 = ∅
    rw [none]
    rfl

/-- An open connection becomes that of its target, and used. -/
theorem Tabled.enter (sound : self.Tabled) {dst : AddrPort} {uc time : Nat} {conn : UdpConn}
    {change : UdpConn → UdpConn} (there : self.conns[uc]? = some conn) (target : conn.target = dst)
    (isOpen : conn.closed = none)
    (mine : ∀ e, self.targets.lookup dst = some e → e.conn = uc)
    (keeps : ∀ conn, standing (change conn) = (conn.target, time, conn.closed))
    (targets : later.targets = self.targets.insert dst ⟨uc, time⟩)
    (conns : later.conns = self.conns.modify uc change)
    (alone : ∀ dst data index, self.point = .inserting dst data index → index = uc)
    (going : ¬ self.Over) (plain : Plain later.point) : later.Tabled := by
  have changed : later.conns[uc]? = some (change conn) := by
    rw [conns, List.getElem?_modify_eq, there]
    rfl
  have others : ∀ index, index ≠ uc → later.conns[index]? = self.conns[index]? := by
    intro index apart
    rw [conns, List.getElem?_modify_ne _ _ (Ne.symm apart)]
  obtain ⟨target', rest⟩ := Prod.mk.inj (keeps conn)
  obtain ⟨used', closed'⟩ := Prod.mk.inj rest
  exact
    { entry := by
        intro other e found
        rw [targets] at found
        by_cases same : other = dst
        · subst same
          rw [AList.lookup_insert] at found
          obtain rfl := Option.some.inj found
          exact ⟨change conn, changed, target'.trans target, used', closed'.trans isOpen⟩
        · rw [AList.lookup_insert_ne same] at found
          obtain ⟨conn', there', target'', rest⟩ := sound.entry other e found
          have apart : e.conn ≠ uc := by
            intro equal
            rw [equal, there] at there'
            obtain rfl := Option.some.inj there'
            exact same (target''.symm.trans target)
          exact ⟨conn', (others _ apart).trans there', target'', rest⟩
      opened := by
        intro index now found nowOpen
        rw [targets]
        by_cases same : index = uc
        · subst same
          rw [changed] at found
          obtain rfl := Option.some.inj found
          rw [target', target, AList.lookup_insert]
          exact Or.inl ⟨_, rfl, rfl⟩
        · rw [others index same] at found
          rcases sound.opened index now found nowOpen with ⟨e, tabled, equal⟩ | ⟨data, stands⟩
          · have differ : now.target ≠ dst := by
              intro hit
              rw [hit] at tabled
              exact same (equal.symm.trans (mine e tabled))
            rw [AList.lookup_insert_ne differ]
            exact Or.inl ⟨e, tabled, equal⟩
          · exact absurd (alone _ _ _ stands) same
      dialing := by
        intro other data stands
        rw [stands] at plain
        exact plain.elim
      inserting := by
        intro other data index stands
        rw [stands] at plain
        exact plain.elim
      aged := by
        intro _ index now past found isClosed
        by_cases same : index = uc
        · subst same
          rw [changed] at found
          obtain rfl := Option.some.inj found
          rw [closed', isOpen] at isClosed
          cases isClosed
        · rw [others index same] at found
          exact sound.aged going index now past found isClosed
      ended := by
        rintro (stands | stands)
        · rw [stands] at plain
          exact plain.elim
        · rw [stands] at plain
          exact plain.elim }

theorem Tabled.find (sound : self.Tabled) {dst : AddrPort} {data : List U8}
    (stands : self.point = .finding dst data) (elapsed : Nat) :
    (self.find elapsed dst data).Tabled := by
  have swept : Tabled { self.sweep self.now with now := self.now + elapsed } :=
    (sound.sweep (Nat.le_refl _)).frame rfl (fun _ => rfl) rfl
  have calm : Calm self.point := by
    rw [stands]
    trivial
  have bare := bare_of_calm calm
  have going := going_of_calm calm
  rw [UdpAssociation.find]
  dsimp only
  cases found : (self.sweep self.now).targets.lookup dst with
  | some e =>
      obtain ⟨conn, there, target, _, isOpen⟩ := swept.entry dst e found
      refine @Tabled.enter _ _ swept dst e.conn (self.now + elapsed) conn _ there target isOpen ?_
        (fun _ => rfl) rfl rfl (fun _ _ _ same => absurd same (bare _ _ _)) going trivial
      intro other found'
      rw [Option.some.inj (found.symm.trans found')]
  | none =>
      exact
        { entry := swept.entry
          opened := by
            intro index conn there isOpen
            rcases swept.opened index conn there isOpen with tabled | ⟨data, same⟩
            · exact Or.inl tabled
            · exact absurd same (bare _ _ _)
          dialing := by
            intro other payload same
            obtain ⟨rfl, rfl⟩ := ServePoint.dialing.inj same
            exact found
          inserting := fun _ _ _ same => nomatch same
          aged := fun _ => swept.aged going
          ended := by
            rintro (same | same) <;> cases same }

theorem getElem?_dialed {dst : AddrPort} {data : List U8} {index : Nat} {conn : UdpConn}
    (found : (self.dialed dst data).conns[index]? = some conn) :
    self.conns[index]? = some conn ∨
      index = self.conns.length ∧ conn = ⟨dst, self.now, none, .unstarted, []⟩ := by
  rw [UdpAssociation.dialed, List.getElem?_append] at found
  split at found
  · exact Or.inl found
  · next beyond =>
      obtain ⟨bound, rfl⟩ := List.getElem?_eq_some_iff.mp found
      rw [List.length_singleton] at bound
      exact Or.inr ⟨by omega, List.getElem_singleton _⟩

theorem Tabled.dialed (sound : self.Tabled) {dst : AddrPort} {data : List U8}
    (stands : self.point = .dialing dst data) : (self.dialed dst data).Tabled := by
  have calm : Calm self.point := by
    rw [stands]
    trivial
  have bare := bare_of_calm calm
  have going := going_of_calm calm
  have kept : ∀ {index : Nat} {conn : UdpConn}, self.conns[index]? = some conn →
      (self.dialed dst data).conns[index]? = some conn := by
    intro index conn found
    have bound := (List.getElem?_eq_some_iff.mp found).1
    exact (List.getElem?_append_left bound).trans found
  exact
    { entry := by
        intro other e found
        obtain ⟨conn, there, rest⟩ := sound.entry other e found
        exact ⟨conn, kept there, rest⟩
      opened := by
        intro index conn found isOpen
        rcases getElem?_dialed found with before | ⟨rfl, rfl⟩
        · rcases sound.opened index conn before isOpen with tabled | ⟨data, same⟩
          · exact Or.inl tabled
          · exact absurd same (bare _ _ _)
        · exact Or.inr ⟨data, rfl⟩
      dialing := fun _ _ same => nomatch same
      inserting := by
        intro other payload uc same
        obtain ⟨rfl, rfl, rfl⟩ := ServePoint.inserting.inj same
        refine ⟨sound.dialing dst data stands, ⟨dst, self.now, none, .unstarted, []⟩, ?_, rfl, rfl⟩
        exact List.getElem?_concat_length
      aged := by
        intro _ index conn time found isClosed
        rcases getElem?_dialed found with before | ⟨_, rfl⟩
        · exact sound.aged going index conn time before isClosed
        · cases isClosed
      ended := by
        rintro (same | same) <;> cases same }

theorem Tabled.insert (sound : self.Tabled) {dst : AddrPort} {data : List U8} {uc : Nat}
    (stands : self.point = .inserting dst data uc) : (self.insert dst data uc).Tabled := by
  obtain ⟨missing, conn, there, target, isOpen⟩ := sound.inserting dst data uc stands
  have going : ¬ self.Over := by
    rw [Over, stands]
    rintro (same | same) <;> cases same
  refine @Tabled.enter _ _ sound dst uc self.now conn _ there target isOpen ?_ (fun _ => rfl) rfl
    rfl ?_ going trivial
  · intro e found
    rw [missing] at found
    cases found
  · intro other payload index same
    rw [stands] at same
    exact (ServePoint.inserting.inj same).2.2.symm

/-- The loop takes all open connections along. -/
theorem Tabled.leave (sound : self.Tabled) (stands : self.point = .leaving) :
    self.leave.Tabled where
  entry := nofun
  opened := by
    intro index conn found isOpen
    obtain ⟨outside, there⟩ := not_mem_of_open found isOpen
    rcases sound.opened index conn there isOpen with ⟨e, tabled, rfl⟩ | ⟨data, same⟩
    · exact absurd (List.mem_map.mpr ⟨_, AList.mem_lookup_iff.mp tabled, rfl⟩) outside
    · rw [stands] at same
      cases same
  dialing := nofun
  inserting := nofun
  aged := fun going => absurd (Or.inl rfl) going
  ended := fun _ => rfl

/-- Nothing is open any more once the loop has been left. -/
theorem Tabled.shut (sound : self.Tabled) (gone : self.Over) :
    ∀ conn ∈ self.conns, conn.closed ≠ none := by
  intro conn mem isOpen
  obtain ⟨index, found⟩ := List.getElem?_of_mem mem
  rcases sound.opened index conn found isOpen with ⟨e, tabled, _⟩ | ⟨data, stands⟩
  · rw [sound.ended gone] at tabled
    cases tabled
  · rw [Over, stands] at gone
    rcases gone with same | same <;> cases same

end UdpAssociation

end Csqtt.Socks5
