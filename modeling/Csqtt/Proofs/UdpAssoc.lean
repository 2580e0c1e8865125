/-
Module: Csqtt.Proofs.UdpAssoc
Purpose: Whatever arrives, fails or takes its time, the relay of datagrams passes each one on once
  and to the target that it names, and each answer to the client, in order and under its target;
  it keeps one connection to a target and closes what is idle.
Trusted boundary: none
Main exports: Pumped, Became, Served, Sound, sound_reached, association_passes_on,
  association_keeps_conns
-/
import Csqtt.Proofs.UdpTargets

namespace Csqtt.Socks5

namespace UdpAssociation

variable {self later : UdpAssociation}

/-!
### Answers of the targets
-/

/-- What the pump of a connection has read and not yet passed on. -/
def held (conn : UdpConn) : List (List U8) :=
  match conn.pump with
  | .holding payload | .answering payload _ => [payload]
  | _ => []

/-- A payload under the header of the target that it comes from. -/
def labelled (conn : UdpConn) (payload : List U8) : List U8 :=
  buildSocksUDPHeader conn.target ++ payload

def repliesOf (self : UdpAssociation) (index : Nat) : List Reply :=
  self.replies.filter fun reply => reply.conn = index

/-- Each connection's answers are passed on in order, and to the sender of the first datagram. -/
structure Pumped (assoc : UdpAssociation) : Prop where
  order : ∀ (index : Nat) conn, assoc.conns[index]? = some conn →
    (assoc.repliesOf index).map Reply.out ++ (held conn).map (labelled conn) =
      conn.arrived.map (labelled conn)
  bound : ∀ reply ∈ assoc.replies, reply.conn < assoc.conns.length
  clients : ∀ reply ∈ assoc.replies, assoc.clientAddr = some reply.ca
  answering : ∀ (index : Nat) conn payload ca, assoc.conns[index]? = some conn →
    conn.pump = .answering payload ca → assoc.clientAddr = some ca
  first : assoc.clientAddr = assoc.received.head?.map Datagram.src
  known : assoc.received = [] → assoc.conns = []

theorem Pumped.start : start.Pumped where
  order := fun _ _ found => nomatch found
  bound := fun _ mem => nomatch mem
  clients := fun _ mem => nomatch mem
  answering := fun _ _ _ _ found => nomatch found
  first := rfl
  known := fun _ => rfl

/-- What the pump of a connection cares about. -/
def pumping (conn : UdpConn) : AddrPort × PumpPoint × List (List U8) :=
  (conn.target, conn.pump, conn.arrived)

theorem exists_pumping {conns others : List UdpConn} {index : Nat} {conn : UdpConn}
    (same : conns[index]?.map pumping = others[index]?.map pumping)
    (found : conns[index]? = some conn) :
    ∃ other, others[index]? = some other ∧ other.target = conn.target ∧ other.pump = conn.pump ∧
      other.arrived = conn.arrived := by
  rw [found, Option.map_some] at same
  obtain ⟨other, there, pumpings⟩ := Option.map_eq_some_iff.mp same.symm
  obtain ⟨target, rest⟩ := Prod.mk.inj pumpings
  obtain ⟨pump, arrived⟩ := Prod.mk.inj rest
  exact ⟨other, there, target, pump, arrived⟩

theorem held_congr {conn other : UdpConn} (same : other.pump = conn.pump) :
    held other = held conn := by
  rw [held, held, same]

theorem labelled_congr {conn other : UdpConn} (same : other.target = conn.target) :
    labelled other = labelled conn := by
  funext payload
  rw [labelled, labelled, same]

/-- Whoever leaves the replies, the client and the pumps alone. -/
theorem Pumped.frame (sound : self.Pumped) (replies : later.replies = self.replies)
    (client : later.clientAddr = self.clientAddr) (received : later.received = self.received)
    (conns : ∀ index : Nat, later.conns[index]?.map pumping = self.conns[index]?.map pumping) :
    later.Pumped where
  order := by
    intro index conn found
    obtain ⟨before, there, target, pump, arrived⟩ := exists_pumping (conns index) found
    have order := sound.order index before there
    rwa [held_congr pump, labelled_congr target, arrived, repliesOf, ← replies] at order
  bound := by
    intro reply mem
    rw [replies] at mem
    have there := List.getElem?_eq_getElem (sound.bound reply mem)
    obtain ⟨now, here, _⟩ := exists_pumping (conns reply.conn).symm there
    exact (List.getElem?_eq_some_iff.mp here).1
  clients := by
    rw [replies, client]
    exact sound.clients
  answering := by
    intro index conn payload ca found stands
    obtain ⟨before, there, _, pump, _⟩ := exists_pumping (conns index) found
    rw [client]
    exact sound.answering index before payload ca there (pump.trans stands)
  first := by
    rw [client, received]
    exact sound.first
  known := by
    intro empty
    rw [received] at empty
    have none := conns 0
    rw [sound.known empty, List.getElem?_nil, Option.map_none, Option.map_eq_none_iff,
      List.getElem?_eq_none_iff] at none
    exact List.length_eq_zero_iff.mp (Nat.le_zero.mp none)

/-- One pump moves on. -/
theorem Pumped.move (sound : self.Pumped) {index : Nat} {conn : UdpConn}
    {change : UdpConn → UdpConn} (there : self.conns[index]? = some conn)
    (conns : later.conns = self.conns.modify index change)
    (client : later.clientAddr = self.clientAddr) (received : later.received = self.received)
    (others : ∀ other, other ≠ index → later.repliesOf other = self.repliesOf other)
    (mine : (later.repliesOf index).map Reply.out ++
      (held (change conn)).map (labelled (change conn)) =
        (change conn).arrived.map (labelled (change conn)))
    (replying : ∀ reply ∈ later.replies,
      reply ∈ self.replies ∨ reply.conn = index ∧ self.clientAddr = some reply.ca)
    (answering : ∀ payload ca, (change conn).pump = .answering payload ca →
      self.clientAddr = some ca) : later.Pumped := by
  have changed : later.conns[index]? = some (change conn) := by
    rw [conns, List.getElem?_modify_eq, there]
    rfl
  have elsewhere : ∀ other, other ≠ index → later.conns[other]? = self.conns[other]? := by
    intro other apart
    rw [conns, List.getElem?_modify_ne _ _ (Ne.symm apart)]
  have length : later.conns.length = self.conns.length := by
    rw [conns, List.length_modify]
  exact
    { order := by
        intro other now found
        by_cases same : other = index
        · subst same
          rw [changed] at found
          obtain rfl := Option.some.inj found
          exact mine
        · rw [elsewhere other same] at found
          rw [others other same]
          exact sound.order other now found
      bound := by
        intro reply mem
        rw [length]
        rcases replying reply mem with before | ⟨rfl, _⟩
        · exact sound.bound reply before
        · exact (List.getElem?_eq_some_iff.mp there).1
      clients := by
        intro reply mem
        rw [client]
        rcases replying reply mem with before | ⟨_, same⟩
        · exact sound.clients reply before
        · exact same
      answering := by
        intro other now payload ca found stands
        rw [client]
        by_cases same : other = index
        · subst same
          rw [changed] at found
          obtain rfl := Option.some.inj found
          exact answering payload ca stands
        · rw [elsewhere other same] at found
          exact sound.answering other now payload ca found stands
      first := by
        rw [client, received]
        exact sound.first
      known := by
        intro empty
        rw [received] at empty
        rw [conns, sound.known empty]
        exact List.modify_nil _ _ }

/-- A pump that only goes elsewhere keeps what it holds. -/
theorem Pumped.setPump (sound : self.Pumped) {index : Nat} {conn : UdpConn} {pump : PumpPoint}
    (there : self.conns[index]? = some conn) (keeps : held { conn with pump := pump } = held conn)
    (answering : ∀ payload ca, pump = .answering payload ca → self.clientAddr = some ca) :
    (self.setPump index pump).Pumped := by
  refine @Pumped.move _ _ sound index conn _ there rfl rfl rfl (fun _ _ => rfl) ?_
    (fun _ mem => Or.inl mem) answering
  rw [keeps]
  exact sound.order index conn there

/-- There is a client once there are connections. -/
theorem Pumped.exists_client (sound : self.Pumped) {index : Nat} {conn : UdpConn}
    (there : self.conns[index]? = some conn) : ∃ ca, self.clientAddr = some ca := by
  cases empty : self.received with
  | nil =>
      rw [sound.known empty] at there
      cases there
  | cons d rest =>
      rw [sound.first, empty]
      exact ⟨d.src, rfl⟩

theorem Pumped.pump (sound : self.Pumped) (index : Nat) (arrives : Option (List U8)) (ok : Bool) :
    (self.pump index arrives ok).Pumped := by
  rw [UdpAssociation.pump]
  cases there : self.conns[index]? with
  | none => exact sound
  | some conn =>
      have order := sound.order index conn there
      dsimp only
      cases stands : conn.pump with
      | unstarted => exact sound
      | ended => exact sound
      | starting =>
          refine sound.setPump there ?_ nofun
          rw [held, held, stands]
      | reading =>
          have nothing : held conn = [] := by rw [held, stands]
          have goes : (self.setPump index .ended).Pumped := by
            refine sound.setPump there ?_ nofun
            rw [nothing, held]
          cases arrives with
          | none => exact goes
          | some payload =>
              dsimp only
              unfold arrive
              cases conn.closed with
              | some time => exact goes
              | none =>
                  refine @Pumped.move _ _ sound index conn _ there rfl rfl rfl (fun _ _ => rfl) ?_
                    (fun _ mem => Or.inl mem) nofun
                  rw [nothing, List.map_nil, List.append_nil] at order
                  rw [held, List.map_append]
                  exact congrArg (· ++ [labelled conn payload]) order
      | holding payload =>
          obtain ⟨ca, client⟩ := sound.exists_client there
          rw [client]
          refine sound.setPump there ?_ ?_
          · rw [held, held, stands]
          · intro payload' ca' same
            rw [client, (PumpPoint.answering.inj same).2]
      | answering payload ca =>
          have client := sound.answering index conn payload ca there stands
          refine @Pumped.move _ _ sound index conn _ there rfl rfl rfl ?_ ?_ ?_ nofun
          · intro other apart
            refine (List.filter_append _ _).trans ?_
            rw [List.filter_cons_of_neg (by simpa using Ne.symm apart), List.filter_nil,
              List.append_nil]
            rfl
          · rw [held, stands] at order
            refine (List.append_nil _).trans ?_
            rw [repliesOf, List.filter_append, List.filter_cons_of_pos (by simp), List.filter_nil,
              List.map_append]
            exact order
          · intro reply mem
            rcases List.mem_append.mp mem with before | this
            · exact Or.inl before
            · rw [List.mem_singleton.mp this]
              exact Or.inr ⟨rfl, client⟩

theorem Pumped.datagram (sound : self.Pumped) (src : AddrPort) (p : List U8) :
    (self.datagram src p).Pumped := by
  have kept : ∀ {ca}, self.clientAddr = some ca →
      (self.datagram src p).clientAddr = some ca := by
    intro ca client
    rw [UdpAssociation.datagram, client]
    rfl
  exact
    { order := sound.order
      bound := sound.bound
      clients := fun reply mem => kept (sound.clients reply mem)
      answering := fun index conn payload ca found stands =>
        kept (sound.answering index conn payload ca found stands)
      first := by
        have first := sound.first
        rw [UdpAssociation.datagram, first]
        cases self.received <;> rfl
      known := fun empty =>
        absurd empty (List.append_ne_nil_of_right_ne_nil _ (List.cons_ne_nil _ _)) }

theorem Pumped.dialed (sound : self.Pumped) (some : self.received ≠ []) (dst : AddrPort)
    (data : List U8) : (self.dialed dst data).Pumped := by
  exact
    { order := by
        intro index conn found
        rcases getElem?_dialed found with before | ⟨rfl, rfl⟩
        · exact sound.order index conn before
        · have none : self.repliesOf self.conns.length = [] := by
            refine List.filter_eq_nil_iff.mpr fun reply mem => ?_
            simpa using Nat.ne_of_lt (sound.bound reply mem)
          exact congrArg (fun replies => List.map Reply.out replies ++ []) none
      bound := by
        intro reply mem
        refine (sound.bound reply mem).trans_le ?_
        rw [UdpAssociation.dialed, List.length_append]
        exact Nat.le_add_right _ _
      clients := sound.clients
      answering := by
        intro index conn payload ca found stands
        rcases getElem?_dialed found with before | ⟨_, rfl⟩
        · exact sound.answering index conn payload ca before stands
        · cases stands
      first := sound.first
      known := fun empty => absurd empty some }

/-!
### Datagrams of the client
-/

variable {parseAddr : String → Addr} {d : Datagram}

/-- Its pump is past its start. -/
def Started (conn : UdpConn) : Prop := conn.pump ≠ .unstarted ∧ conn.pump ≠ .starting

theorem started_congr {conn other : UdpConn} (same : other.pump = conn.pump) :
    Started other ↔ Started conn := by
  rw [Started, Started, same]

/-- What an outcome says of the datagram that it is the outcome of. -/
def Became (parseAddr : String → Addr) (self : UdpAssociation) (d : Datagram) : Outcome → Prop
  | .parseFailed => Reads parseAddr self.dns.answers d none
  | .dialFailed dst => ∃ data, Reads parseAddr self.dns.answers d (some (dst, data))
  | .written uc data _ =>
      ∃ conn, self.conns[uc]? = some conn ∧ Started conn ∧
        Reads parseAddr self.dns.answers d (some (conn.target, data))

/-- What is so of the datagram that the loop is busy with. -/
def Busy (parseAddr : String → Addr) (self : UdpAssociation) (d : Datagram) : ServePoint → Prop
  | .parsing p => d.p = p
  | .finding dst data | .dialing dst data =>
      Reads parseAddr self.dns.answers d (some (dst, data))
  | .inserting dst data uc =>
      Reads parseAddr self.dns.answers d (some (dst, data)) ∧
        ∃ conn, self.conns[uc]? = some conn ∧ conn.target = dst ∧ conn.pump = .unstarted
  | .awaiting uc data =>
      ∃ conn, self.conns[uc]? = some conn ∧ conn.pump ≠ .unstarted ∧
        Reads parseAddr self.dns.answers d (some (conn.target, data))
  | .writing uc data => Became parseAddr self d (.written uc data false)
  | .reading | .leaving | .closing | .left | .crashed => False

/-- The points at which the loop is busy with no datagram. -/
def Unoccupied : ServePoint → Prop
  | .reading | .leaving | .closing | .left => True
  | _ => False

/-- Each datagram has had one outcome, in their order, but for the one that the loop is busy
with. -/
structure Served (parseAddr : String → Addr) (assoc : UdpAssociation) : Prop where
  names : assoc.dns.Sound
  done : ∀ (index : Nat) outcome, assoc.outcomes[index]? = some outcome →
    ∃ d, assoc.received[index]? = some d ∧ Became parseAddr assoc d outcome
  current : (Unoccupied assoc.point ∧ assoc.received.length = assoc.outcomes.length) ∨
    ∃ before d, assoc.received = before ++ [d] ∧ before.length = assoc.outcomes.length ∧
      d.known ≤ assoc.dns.answers.length ∧ Busy parseAddr assoc d assoc.point
  pumps : ∀ (index : Nat) conn, assoc.conns[index]? = some conn →
    (conn.pump = .unstarted → ∃ dst data, assoc.point = .inserting dst data index) ∧
      (conn.pump = .starting → ∃ data, assoc.point = .awaiting index data)

theorem Served.start : start.Served parseAddr where
  names := .new
  done := fun _ _ found => nomatch found
  current := Or.inl ⟨trivial, rfl⟩
  pumps := fun _ _ found => nomatch found

/-- More has been answered and dialed, and pumps have come further. -/
structure Grows (assoc later : UdpAssociation) : Prop where
  answers : assoc.dns.answers <+: later.dns.answers
  conns : ∀ (index : Nat) conn, assoc.conns[index]? = some conn →
    ∃ now, later.conns[index]? = some now ∧ now.target = conn.target ∧
      (conn.pump ≠ .unstarted → now.pump ≠ .unstarted) ∧ (Started conn → Started now)

theorem Became.mono {outcome : Outcome} (became : Became parseAddr self d outcome)
    (grows : Grows self later) : Became parseAddr later d outcome := by
  cases outcome with
  | parseFailed => exact Reads.mono became grows.answers
  | dialFailed dst =>
      obtain ⟨data, reads⟩ := became
      exact ⟨data, reads.mono grows.answers⟩
  | written uc data sent =>
      obtain ⟨conn, there, started, reads⟩ := became
      obtain ⟨now, here, target, _, still⟩ := grows.conns uc conn there
      refine ⟨now, here, still started, ?_⟩
      rw [target]
      exact reads.mono grows.answers

theorem Served.move (sound : self.Served parseAddr) (grows : Grows self later)
    (names : later.dns.Sound) (received : later.received = self.received)
    (outcomes : later.outcomes = self.outcomes)
    (current : (Unoccupied later.point ∧ self.received.length = self.outcomes.length) ∨
      ∃ before d, self.received = before ++ [d] ∧ before.length = self.outcomes.length ∧
        d.known ≤ later.dns.answers.length ∧ Busy parseAddr later d later.point)
    (pumps : ∀ (index : Nat) conn, later.conns[index]? = some conn →
      (conn.pump = .unstarted → ∃ dst data, later.point = .inserting dst data index) ∧
        (conn.pump = .starting → ∃ data, later.point = .awaiting index data)) :
    later.Served parseAddr where
  names := names
  done := by
    intro index outcome found
    rw [outcomes] at found
    rw [received]
    obtain ⟨d, there, became⟩ := sound.done index outcome found
    exact ⟨d, there, became.mono grows⟩
  current := by
    rw [received, outcomes]
    exact current
  pumps := pumps

/-- Whoever leaves the pumps alone. -/
theorem Grows.of_same (answers : self.dns.answers <+: later.dns.answers)
    (conns : ∀ index : Nat, later.conns[index]?.map pumping = self.conns[index]?.map pumping) :
    Grows self later where
  answers := answers
  conns := by
    intro index conn found
    obtain ⟨now, here, target, pump, _⟩ := exists_pumping (conns index).symm found
    refine ⟨now, here, target, ?_, (started_congr pump).mpr⟩
    rw [pump]
    exact id

theorem Busy.mono {point : ServePoint} (busy : Busy parseAddr self d point)
    (grows : Grows self later)
    (fresh : ∀ (index : Nat) conn, self.conns[index]? = some conn → conn.pump = .unstarted →
      ∃ now, later.conns[index]? = some now ∧ now.target = conn.target ∧ now.pump = .unstarted) :
    Busy parseAddr later d point := by
  cases point with
  | parsing p => exact busy
  | finding dst data => exact Reads.mono busy grows.answers
  | dialing dst data => exact Reads.mono busy grows.answers
  | inserting dst data uc =>
      obtain ⟨reads, conn, there, target, unstarted⟩ := busy
      obtain ⟨now, here, target', still⟩ := fresh uc conn there unstarted
      exact ⟨reads.mono grows.answers, now, here, target'.trans target, still⟩
  | awaiting uc data =>
      obtain ⟨conn, there, begun, reads⟩ := busy
      obtain ⟨now, here, target, still, _⟩ := grows.conns uc conn there
      refine ⟨now, here, still begun, ?_⟩
      rw [target]
      exact reads.mono grows.answers
  | writing uc data => exact @Became.mono _ _ _ _ (.written uc data false) busy grows
  | reading => exact busy
  | leaving => exact busy
  | closing => exact busy
  | left => exact busy
  | crashed => exact busy

/-- Whoever leaves the loop alone, and starts no pump. -/
theorem Served.frame (sound : self.Served parseAddr) (grows : Grows self later)
    (names : later.dns.Sound) (received : later.received = self.received)
    (outcomes : later.outcomes = self.outcomes) (point : later.point = self.point)
    (pumps : ∀ (index : Nat) conn, later.conns[index]? = some conn →
      ∃ before, self.conns[index]? = some before ∧
        (conn.pump = .unstarted → before.pump = .unstarted) ∧
        (conn.pump = .starting → before.pump = .starting))
    (fresh : ∀ (index : Nat) conn, self.conns[index]? = some conn → conn.pump = .unstarted →
      ∃ now, later.conns[index]? = some now ∧ now.target = conn.target ∧ now.pump = .unstarted) :
    later.Served parseAddr := by
  refine sound.move grows names received outcomes ?_ ?_
  · rw [point]
    rcases sound.current with rest | ⟨before, d, split, length, known, busy⟩
    · exact Or.inl rest
    · exact Or.inr ⟨before, d, split, length, known.trans grows.answers.length_le,
        busy.mono grows fresh⟩
  · intro index conn found
    obtain ⟨before, there, unstarted, starting⟩ := pumps index conn found
    rw [point]
    exact ⟨fun same => (sound.pumps index before there).1 (unstarted same),
      fun same => (sound.pumps index before there).2 (starting same)⟩

theorem Served.frame_of_same (sound : self.Served parseAddr)
    (answers : self.dns.answers <+: later.dns.answers) (names : later.dns.Sound)
    (conns : ∀ index : Nat, later.conns[index]?.map pumping = self.conns[index]?.map pumping)
    (received : later.received = self.received) (outcomes : later.outcomes = self.outcomes)
    (point : later.point = self.point) : later.Served parseAddr := by
  refine sound.frame (.of_same answers conns) names received outcomes point ?_ ?_
  · intro index conn found
    obtain ⟨before, there, _, pump, _⟩ := exists_pumping (conns index) found
    rw [← pump]
    exact ⟨before, there, id, id⟩
  · intro index conn found unstarted
    obtain ⟨now, here, target, pump, _⟩ := exists_pumping (conns index).symm found
    exact ⟨now, here, target, pump.trans unstarted⟩

/-- Unless the loop is about to start a pump or waits for one, all of them have started. -/
theorem Served.started (sound : self.Served parseAddr)
    (before : ∀ dst data uc, self.point ≠ .inserting dst data uc)
    (after : ∀ uc data, self.point ≠ .awaiting uc data) {index : Nat} {conn : UdpConn}
    (found : self.conns[index]? = some conn) : Started conn := by
  obtain ⟨unstarted, starting⟩ := sound.pumps index conn found
  constructor
  · intro same
    obtain ⟨dst, data, stands⟩ := unstarted same
    exact before _ _ _ stands
  · intro same
    obtain ⟨data, stands⟩ := starting same
    exact after _ _ stands

/-- The loop is done with the datagram. -/
theorem Served.finish (sound : self.Served parseAddr) {outcome : Outcome}
    (settled : ∀ before d, self.received = before ++ [d] → Busy parseAddr self d self.point →
      d.known ≤ self.dns.answers.length → Became parseAddr self d outcome)
    (occupied : ¬ Unoccupied self.point)
    (started : ∀ (index : Nat) conn, self.conns[index]? = some conn → Started conn) :
    (self.finish outcome).Served parseAddr := by
  rcases sound.current with ⟨free, _⟩ | ⟨before, d, split, length, known, busy⟩
  · exact absurd free occupied
  · have became := settled before d split busy known
    exact
      { names := sound.names
        done := by
          intro index other found
          have found' : (self.outcomes ++ [outcome])[index]? = some other := found
          rw [List.getElem?_append] at found'
          split at found'
          · exact sound.done index other found'
          · next beyond =>
              obtain ⟨bound, rfl⟩ := List.getElem?_eq_some_iff.mp found'
              rw [List.length_singleton] at bound
              have last : index = before.length := by omega
              subst last
              refine ⟨d, ?_, ?_⟩
              · change self.received[before.length]? = some d
                rw [split, List.getElem?_concat_length]
              · rw [List.getElem_singleton]
                exact became
        current := by
          refine Or.inl ⟨trivial, ?_⟩
          change self.received.length = (self.outcomes ++ [outcome]).length
          rw [split, List.length_append, List.length_append, length]
          rfl
        pumps := by
          intro index conn found
          obtain ⟨begun, past⟩ := started index conn found
          exact ⟨fun same => absurd same begun, fun same => absurd same past⟩ }

/-!
### Steps
-/

theorem pumping_closeConns (self : UdpAssociation) (which : List Nat) (index : Nat) :
    (self.closeConns which).conns[index]?.map pumping = self.conns[index]?.map pumping := by
  rw [getElem?_closeConns, Option.map_map]
  refine Option.map_congr fun conn _ => ?_
  change pumping (if index ∈ which then conn.close self.now else conn) = pumping conn
  split <;> rfl

theorem pumping_sweep (self : UdpAssociation) (now index : Nat) :
    (self.sweep now).conns[index]?.map pumping = self.conns[index]?.map pumping :=
  pumping_closeConns self _ index

theorem map_modify_of_same {Image : Type*} {image : UdpConn → Image} {change : UdpConn → UdpConn}
    (same : ∀ conn, image (change conn) = image conn) (conns : List UdpConn) (place index : Nat) :
    (conns.modify place change)[index]?.map image = conns[index]?.map image := by
  rw [List.getElem?_modify]
  cases conns[index]? with
  | none => rfl
  | some conn =>
      by_cases hit : place = index
      · rw [Option.map_eq_map, Option.map_some, if_pos hit, Option.map_some, same, Option.map_some]
      · rw [Option.map_eq_map, Option.map_some, if_neg hit]

/-- Nothing that the pump of a connection does moves the loop, or starts another pump. -/
theorem Served.pump (sound : self.Served parseAddr) (index : Nat) (arrives : Option (List U8))
    (ok : Bool) : (self.pump index arrives ok).Served parseAddr := by
  -- A pump that has been started stays started, and one that has not is left alone.
  have moves : ∀ {later : UdpAssociation} {conn : UdpConn} {change : UdpConn → UdpConn},
      self.conns[index]? = some conn → conn.pump ≠ .unstarted →
        later.conns = self.conns.modify index change →
        (∀ conn, (change conn).target = conn.target ∧ Started (change conn)) →
        later.dns = self.dns → later.received = self.received →
        later.outcomes = self.outcomes → later.point = self.point →
          later.Served parseAddr := by
    intro later conn change there begun conns keeps dns received outcomes point
    have changed : later.conns[index]? = some (change conn) := by
      rw [conns, List.getElem?_modify_eq, there]
      rfl
    have elsewhere : ∀ other, other ≠ index → later.conns[other]? = self.conns[other]? := by
      intro other apart
      rw [conns, List.getElem?_modify_ne _ _ (Ne.symm apart)]
    have grows : Grows self later := by
      refine ⟨by rw [dns], ?_⟩
      intro other before found
      by_cases same : other = index
      · subst same
        rw [there] at found
        obtain rfl := Option.some.inj found
        exact ⟨_, changed, (keeps conn).1, fun _ => (keeps conn).2.1, fun _ => (keeps conn).2⟩
      · exact ⟨before, (elsewhere other same).trans found, rfl, id, id⟩
    refine sound.frame grows (by rw [dns]; exact sound.names) received outcomes point ?_ ?_
    · intro other now found
      by_cases same : other = index
      · subst same
        rw [changed] at found
        obtain rfl := Option.some.inj found
        exact ⟨conn, there, fun wrong => absurd wrong (keeps conn).2.1,
          fun wrong => absurd wrong (keeps conn).2.2⟩
      · rw [elsewhere other same] at found
        exact ⟨now, found, id, id⟩
    · intro other before found unstarted
      by_cases same : other = index
      · subst same
        rw [there] at found
        obtain rfl := Option.some.inj found
        exact absurd unstarted begun
      · exact ⟨before, (elsewhere other same).trans found, rfl, unstarted⟩
  rw [UdpAssociation.pump]
  cases there : self.conns[index]? with
  | none => exact sound
  | some conn =>
      have plain : ∀ {pump : PumpPoint}, conn.pump ≠ .unstarted → pump ≠ .unstarted →
          pump ≠ .starting → (self.setPump index pump).Served parseAddr :=
        fun begun first second =>
          moves there begun rfl (fun _ => ⟨rfl, first, second⟩) rfl rfl rfl rfl
      dsimp only
      cases stands : conn.pump with
      | unstarted => exact sound
      | ended => exact sound
      | starting =>
          refine plain ?_ nofun nofun
          rw [stands]
          exact nofun
      | reading =>
          have begun : conn.pump ≠ .unstarted := by
            rw [stands]
            exact nofun
          cases arrives with
          | none => exact plain begun nofun nofun
          | some payload =>
              dsimp only
              unfold arrive
              cases conn.closed with
              | some time => exact plain begun nofun nofun
              | none => exact moves there begun rfl (fun _ => ⟨rfl, nofun, nofun⟩) rfl rfl rfl rfl
      | holding payload =>
          have begun : conn.pump ≠ .unstarted := by
            rw [stands]
            exact nofun
          cases self.clientAddr with
          | none => exact plain begun nofun nofun
          | some ca => exact plain begun nofun nofun
      | answering payload ca =>
          refine moves there ?_ rfl (fun _ => ⟨rfl, nofun, nofun⟩) rfl rfl rfl rfl
          rw [stands]
          exact nofun

theorem Tabled.pump (sound : self.Tabled) (index : Nat) (arrives : Option (List U8))
    (ok : Bool) : (self.pump index arrives ok).Tabled := by
  have moves : ∀ {later : UdpAssociation} {change : UdpConn → UdpConn},
      later.conns = self.conns.modify index change →
        (∀ conn, standing (change conn) = standing conn) →
        later.targets = self.targets → later.point = self.point → later.Tabled := by
    intro later change conns keeps targets point
    refine sound.frame targets (fun other => ?_) point
    rw [conns]
    exact map_modify_of_same keeps _ _ _
  have plain : ∀ pump : PumpPoint, (self.setPump index pump).Tabled :=
    fun _ => moves rfl (fun _ => rfl) rfl rfl
  rw [UdpAssociation.pump]
  cases self.conns[index]? with
  | none => exact sound
  | some conn =>
      dsimp only
      cases conn.pump with
      | unstarted => exact sound
      | ended => exact sound
      | starting => exact plain _
      | reading =>
          cases arrives with
          | none => exact plain _
          | some payload =>
              dsimp only
              unfold arrive
              cases conn.closed with
              | some time => exact plain _
              | none => exact moves rfl (fun _ => rfl) rfl rfl
      | holding payload =>
          cases self.clientAddr with
          | none => exact plain _
          | some ca => exact plain _
      | answering payload ca => exact moves rfl (fun _ => rfl) rfl rfl

theorem Served.parse (sound : self.Served parseAddr) {p : List U8}
    (stands : self.point = .parsing p) : (self.parse parseAddr p).Served parseAddr := by
  have names : (self.dns.asked p).Sound := sound.names.asked p
  have same : (self.dns.asked p).answers = self.dns.answers := self.dns.answers_asked p
  have asked : Served parseAddr { self with dns := self.dns.asked p } :=
    sound.frame_of_same (by rw [same]) names (fun _ => rfl) rfl rfl rfl
  have started : ∀ (index : Nat) conn, self.conns[index]? = some conn → Started conn := by
    intro index conn found
    refine sound.started ?_ ?_ found <;> rw [stands] <;> exact nofun
  -- The datagram is parsed with all that is known by now.
  have reads : ∀ {d : Datagram} {result : Option (AddrPort × List U8)}, d.p = p →
      d.known ≤ self.dns.answers.length →
        parseSocksUDP (self.dns.resolver parseAddr) p = .read result →
          Reads parseAddr self.dns.answers d result := by
    rintro d result rfl known parsed
    refine ⟨self.dns.answers.length, _, known, Nat.le_refl _, ?_, parsed⟩
    rw [List.take_length]
    exact sound.names.knows parseAddr
  obtain ⟨result, parsed⟩ := parseSocksUDP_within (self.dns.resolver parseAddr) p
  rw [UdpAssociation.parse, parsed]
  dsimp only
  cases result with
  | none =>
      refine asked.finish ?_ ?_ started
      · intro before d split busy known
        change Reads parseAddr (self.dns.asked p).answers d none
        rw [same]
        refine reads ?_ (same ▸ known) parsed
        change Busy _ _ d self.point at busy
        rwa [stands] at busy
      · change ¬ Unoccupied self.point
        rw [stands]
        exact id
  | some target =>
      refine asked.move (.of_same (List.prefix_refl _) fun _ => rfl) names rfl rfl ?_ ?_
      · rcases sound.current with ⟨free, _⟩ | ⟨before, d, split, length, known, busy⟩
        · rw [stands] at free
          exact free.elim
        · rw [stands] at busy
          refine Or.inr ⟨before, d, split, length, ?_, ?_⟩
          · exact known.trans_eq (congrArg List.length same.symm)
          · change Reads parseAddr (self.dns.asked p).answers d _
            rw [same]
            exact reads busy known parsed
      · intro index conn found
        obtain ⟨begun, past⟩ := started index conn found
        exact ⟨fun wrong => absurd wrong begun, fun wrong => absurd wrong past⟩

/-- The datagram of a loop that is busy with one. -/
theorem Served.occupied (sound : self.Served parseAddr) (busy : ¬ Unoccupied self.point) :
    ∃ before d, self.received = before ++ [d] ∧ before.length = self.outcomes.length ∧
      d.known ≤ self.dns.answers.length ∧ Busy parseAddr self d self.point := by
  rcases sound.current with ⟨free, _⟩ | occupied
  · exact absurd free busy
  · exact occupied

theorem Served.find (sound : self.Served parseAddr) (table : self.Tabled) {dst : AddrPort}
    {data : List U8} (stands : self.point = .finding dst data) (elapsed : Nat) :
    (self.find elapsed dst data).Served parseAddr := by
  have started : ∀ (index : Nat) conn, (self.sweep self.now).conns[index]? = some conn →
      Started conn := by
    intro index conn found
    obtain ⟨before, there, _, pump, _⟩ :=
      exists_pumping (pumping_sweep self self.now index) found
    rw [started_congr pump.symm]
    refine sound.started ?_ ?_ there <;> rw [stands] <;> exact nofun
  have occupied : ¬ Unoccupied self.point := by
    rw [stands]
    exact id
  obtain ⟨before, d, split, length, known, reads⟩ := sound.occupied occupied
  rw [stands] at reads
  rw [UdpAssociation.find]
  dsimp only
  cases found : (self.sweep self.now).targets.lookup dst with
  | some e =>
      obtain ⟨conn, there, target, _⟩ := (table.sweep (Nat.le_refl _)).entry dst e found
      have same : ∀ index : Nat, ((self.sweep self.now).conns.modify e.conn fun conn =>
          { conn with used := self.now + elapsed })[index]?.map pumping =
            self.conns[index]?.map pumping := by
        intro index
        rw [← pumping_sweep self self.now]
        refine map_modify_of_same (fun conn => ?_) _ _ _
        rfl
      refine sound.move (.of_same (List.prefix_refl _) same) sound.names rfl rfl ?_ ?_
      · refine Or.inr ⟨before, d, split, length, known, ?_⟩
        refine ⟨{ conn with used := self.now + elapsed }, ?_, started _ conn there, ?_⟩
        · refine (List.getElem?_modify_eq _ _ _).trans ?_
          exact congrArg (Option.map _) there
        · change Reads _ _ _ (some (conn.target, data))
          rw [target]
          exact reads
      · intro index conn found
        obtain ⟨other, there, _, pump, _⟩ := exists_pumping (same index) found
        obtain ⟨begun, past⟩ : Started conn := by
          rw [started_congr pump.symm]
          refine sound.started ?_ ?_ there <;> rw [stands] <;> exact nofun
        exact ⟨fun wrong => absurd wrong begun, fun wrong => absurd wrong past⟩
  | none =>
      refine sound.move (.of_same (List.prefix_refl _) (pumping_sweep self _)) sound.names rfl rfl
        (Or.inr ⟨before, d, split, length, known, reads⟩) ?_
      intro index conn found
      obtain ⟨begun, past⟩ := started index conn found
      exact ⟨fun wrong => absurd wrong begun, fun wrong => absurd wrong past⟩

theorem Served.dialed (sound : self.Served parseAddr) {dst : AddrPort} {data : List U8}
    (stands : self.point = .dialing dst data) : (self.dialed dst data).Served parseAddr := by
  have occupied : ¬ Unoccupied self.point := by
    rw [stands]
    exact id
  obtain ⟨before, d, split, length, known, reads⟩ := sound.occupied occupied
  rw [stands] at reads
  have grows : Grows self (self.dialed dst data) := by
    refine ⟨List.prefix_refl _, ?_⟩
    intro index conn found
    have bound := (List.getElem?_eq_some_iff.mp found).1
    exact ⟨conn, (List.getElem?_append_left bound).trans found, rfl, id, id⟩
  refine sound.move grows sound.names rfl rfl ?_ ?_
  · exact Or.inr ⟨before, d, split, length, known, reads, _, List.getElem?_concat_length, rfl, rfl⟩
  · intro index conn found
    rcases getElem?_dialed found with there | ⟨rfl, rfl⟩
    · obtain ⟨begun, past⟩ : Started conn := by
        refine sound.started ?_ ?_ there <;> rw [stands] <;> exact nofun
      exact ⟨fun wrong => absurd wrong begun, fun wrong => absurd wrong past⟩
    · exact ⟨fun _ => ⟨dst, data, rfl⟩, nofun⟩

theorem Served.insert (sound : self.Served parseAddr) {dst : AddrPort} {data : List U8} {uc : Nat}
    (stands : self.point = .inserting dst data uc) :
    (self.insert dst data uc).Served parseAddr := by
  have occupied : ¬ Unoccupied self.point := by
    rw [stands]
    exact id
  obtain ⟨before, d, split, length, known, busy⟩ := sound.occupied occupied
  rw [stands] at busy
  obtain ⟨reads, conn, there, target, unstarted⟩ := busy
  have changed : (self.insert dst data uc).conns[uc]? =
      some { conn with used := self.now, pump := .starting } := by
    refine (List.getElem?_modify_eq _ _ _).trans ?_
    rw [there]
    rfl
  have elsewhere : ∀ index, index ≠ uc →
      (self.insert dst data uc).conns[index]? = self.conns[index]? :=
    fun index apart => List.getElem?_modify_ne _ _ (Ne.symm apart)
  have grows : Grows self (self.insert dst data uc) := by
    refine ⟨List.prefix_refl _, ?_⟩
    intro index other found
    by_cases same : index = uc
    · subst same
      rw [there] at found
      obtain rfl := Option.some.inj found
      exact ⟨_, changed, rfl, fun _ => nofun, fun begun => absurd unstarted begun.1⟩
    · exact ⟨other, (elsewhere index same).trans found, rfl, id, id⟩
  refine sound.move grows sound.names rfl rfl ?_ ?_
  · refine Or.inr ⟨before, d, split, length, known, _, changed, nofun, ?_⟩
    change Reads _ _ _ (some (conn.target, data))
    rw [target]
    exact reads
  · intro index other found
    by_cases same : index = uc
    · subst same
      rw [changed] at found
      obtain rfl := Option.some.inj found
      exact ⟨nofun, fun _ => ⟨data, rfl⟩⟩
    · rw [elsewhere index same] at found
      obtain ⟨unstarted', starting'⟩ := sound.pumps index other found
      constructor
      · intro wrong
        obtain ⟨dst', data', stands'⟩ := unstarted' wrong
        rw [stands] at stands'
        exact absurd (ServePoint.inserting.inj stands').2.2.symm same
      · intro wrong
        obtain ⟨data', stands'⟩ := starting' wrong
        rw [stands] at stands'
        cases stands'

theorem Served.await (sound : self.Served parseAddr) {uc : Nat} {data : List U8}
    (stands : self.point = .awaiting uc data) : (self.await uc data).Served parseAddr := by
  have occupied : ¬ Unoccupied self.point := by
    rw [stands]
    exact id
  obtain ⟨before, d, split, length, known, busy⟩ := sound.occupied occupied
  rw [stands] at busy
  obtain ⟨conn, there, begun, reads⟩ := busy
  rw [UdpAssociation.await, there]
  dsimp only
  split
  · exact sound
  · next past =>
      refine sound.move (.of_same (List.prefix_refl _) fun _ => rfl) sound.names rfl rfl ?_ ?_
      · exact Or.inr ⟨before, d, split, length, known, conn, there, ⟨begun, past⟩, reads⟩
      · intro index other found
        obtain ⟨unstarted, starting⟩ := sound.pumps index other found
        constructor
        · intro wrong
          obtain ⟨dst', data', stands'⟩ := unstarted wrong
          rw [stands] at stands'
          cases stands'
        · intro wrong
          obtain ⟨data', stands'⟩ := starting wrong
          rw [stands] at stands'
          obtain ⟨rfl, _⟩ := ServePoint.awaiting.inj stands'
          rw [there] at found
          obtain rfl := Option.some.inj found
          exact absurd wrong past

/-- The loop goes from one point at which it is not busy to another. -/
theorem Served.idle (sound : self.Served parseAddr) (free : Unoccupied self.point)
    (still : Unoccupied later.point) (dns : later.dns = self.dns)
    (conns : ∀ index : Nat, later.conns[index]?.map pumping = self.conns[index]?.map pumping)
    (received : later.received = self.received) (outcomes : later.outcomes = self.outcomes) :
    later.Served parseAddr := by
  refine sound.move (.of_same (by rw [dns]) conns) (by rw [dns]; exact sound.names) received
    outcomes ?_ ?_
  · rcases sound.current with ⟨_, lengths⟩ | ⟨_, d, _, _, _, busy⟩
    · exact Or.inl ⟨still, lengths⟩
    · exfalso
      cases stands : self.point <;> rw [stands] at free busy <;> first | exact free | exact busy
  · intro index conn found
    obtain ⟨other, there, _, pump, _⟩ := exists_pumping (conns index) found
    obtain ⟨begun, past⟩ : Started conn := by
      rw [started_congr pump.symm]
      refine sound.started ?_ ?_ there
      · intro _ _ _ stands
        rw [stands] at free
        exact free
      · intro _ _ stands
        rw [stands] at free
        exact free
    exact ⟨fun wrong => absurd wrong begun, fun wrong => absurd wrong past⟩

theorem Served.datagram (sound : self.Served parseAddr) (stands : self.point = .reading)
    (src : AddrPort) (p : List U8) : (self.datagram src p).Served parseAddr := by
  have lengths : self.received.length = self.outcomes.length := by
    rcases sound.current with ⟨_, lengths⟩ | ⟨_, _, _, _, _, busy⟩
    · exact lengths
    · rw [stands] at busy
      exact busy.elim
  exact
    { names := sound.names
      done := by
        intro index outcome found
        obtain ⟨d, there, became⟩ := sound.done index outcome found
        have bound := (List.getElem?_eq_some_iff.mp there).1
        refine ⟨d, (List.getElem?_append_left bound).trans there, ?_⟩
        exact became.mono (.of_same (List.prefix_refl _) fun _ => rfl)
      current := Or.inr ⟨self.received, _, rfl, lengths, Nat.le_refl _, rfl⟩
      pumps := by
        intro index conn found
        obtain ⟨begun, past⟩ : Started conn := by
          refine sound.started ?_ ?_ found <;> rw [stands] <;> exact nofun
        exact ⟨fun wrong => absurd wrong begun, fun wrong => absurd wrong past⟩ }

theorem Pumped.find (sound : self.Pumped) (elapsed : Nat) (dst : AddrPort) (data : List U8) :
    (self.find elapsed dst data).Pumped := by
  rw [UdpAssociation.find]
  dsimp only
  cases (self.sweep self.now).targets.lookup dst with
  | some e =>
      refine sound.frame rfl rfl rfl fun index => ?_
      rw [← pumping_sweep self self.now]
      refine map_modify_of_same (fun conn => ?_) _ _ _
      rfl
  | none => exact sound.frame rfl rfl rfl (pumping_sweep self self.now)

theorem Pumped.insert (sound : self.Pumped) {dst : AddrPort} {data : List U8} {uc : Nat}
    {conn : UdpConn} (there : self.conns[uc]? = some conn) (unstarted : conn.pump = .unstarted) :
    (self.insert dst data uc).Pumped := by
  refine @Pumped.move _ _ sound uc conn _ there rfl rfl rfl (fun _ _ => rfl) ?_
    (fun _ mem => Or.inl mem) nofun
  have order := sound.order uc conn there
  rwa [held, unstarted] at order

/-- All that is so between two steps. -/
structure Sound (parseAddr : String → Addr) (assoc : UdpAssociation) : Prop where
  tabled : assoc.Tabled
  pumped : assoc.Pumped
  served : assoc.Served parseAddr

theorem Sound.start : start.Sound parseAddr := ⟨.start, .start, .start⟩

/-- The loop moves on, and neither starts a pump nor is left. -/
theorem Sound.settle (sound : self.Sound parseAddr) (served : later.Served parseAddr)
    (calm : Calm self.point) (plain : Plain later.point) (targets : later.targets = self.targets)
    (conns : later.conns = self.conns) (replies : later.replies = self.replies)
    (client : later.clientAddr = self.clientAddr) (received : later.received = self.received) :
    later.Sound parseAddr where
  tabled := sound.tabled.settle targets (fun _ => by rw [conns]) calm plain
  pumped := sound.pumped.frame replies client received fun _ => by rw [conns]
  served := served

theorem Sound.find (sound : self.Sound parseAddr) {dst : AddrPort} {data : List U8}
    (stands : self.point = .finding dst data) (elapsed : Nat) :
    (self.find elapsed dst data).Sound parseAddr where
  tabled := sound.tabled.find stands elapsed
  pumped := sound.pumped.find elapsed dst data
  served := sound.served.find sound.tabled stands elapsed

theorem Sound.parse (sound : self.Sound parseAddr) {p : List U8}
    (stands : self.point = .parsing p) : (self.parse parseAddr p).Sound parseAddr := by
  have served := sound.served.parse stands
  have calm : Calm self.point := by
    rw [stands]
    trivial
  rw [UdpAssociation.parse] at served ⊢
  obtain ⟨result, parsed⟩ := parseSocksUDP_within (self.dns.resolver parseAddr) p
  rw [parsed] at served ⊢
  cases result with
  | none => exact sound.settle served calm trivial rfl rfl rfl rfl rfl
  | some target => exact sound.settle served calm trivial rfl rfl rfl rfl rfl

theorem Sound.serve (sound : self.Sound parseAddr) (elapsed : Nat) (ok : Bool) :
    (self.serve parseAddr elapsed ok).Sound parseAddr := by
  have occupied : ∀ {point}, self.point = point → ¬ Unoccupied point → ¬ Unoccupied self.point :=
    fun stands busy => stands.symm ▸ busy
  have started : (∀ dst data uc, self.point ≠ .inserting dst data uc) →
      (∀ uc data, self.point ≠ .awaiting uc data) →
        ∀ (index : Nat) conn, self.conns[index]? = some conn → Started conn :=
    fun before after _ _ found => sound.served.started before after found
  rw [UdpAssociation.serve]
  cases stands : self.point with
  | reading => exact sound
  | left => exact sound
  | crashed => exact sound
  | leaving =>
      have free : Unoccupied self.point := by
        rw [stands]
        trivial
      exact ⟨sound.tabled.leave stands, sound.pumped.frame rfl rfl rfl (pumping_closeConns self _),
        sound.served.idle free trivial rfl (pumping_closeConns self _) rfl rfl⟩
  | parsing p => exact sound.parse stands
  | finding dst data => exact sound.find stands elapsed
  | dialing dst data =>
      have calm : Calm self.point := by
        rw [stands]
        trivial
      obtain ⟨before, d, split, _, _, reads⟩ := sound.served.occupied (occupied stands id)
      cases ok with
      | true =>
          have some : self.received ≠ [] := by
            rw [split]
            exact List.append_ne_nil_of_right_ne_nil _ (List.cons_ne_nil _ _)
          exact ⟨sound.tabled.dialed stands, sound.pumped.dialed some dst data,
            sound.served.dialed stands⟩
      | false =>
          refine sound.settle ?_ calm trivial rfl rfl rfl rfl rfl
          refine sound.served.finish ?_ (occupied stands id) (started (bare_of_calm calm) ?_)
          · intro _ d _ busy _
            rw [stands] at busy
            exact ⟨data, busy⟩
          · rw [stands]
            exact nofun
  | inserting dst data uc =>
      obtain ⟨before, d, _, _, _, busy⟩ := sound.served.occupied (occupied stands id)
      rw [stands] at busy
      obtain ⟨_, conn, there, _, unstarted⟩ := busy
      exact ⟨sound.tabled.insert stands, sound.pumped.insert there unstarted,
        sound.served.insert stands⟩
  | awaiting uc data =>
      have calm : Calm self.point := by
        rw [stands]
        trivial
      have served := sound.served.await stands
      dsimp only
      rw [UdpAssociation.await] at served ⊢
      split
      · next conn there =>
          rw [there] at served
          dsimp only at served
          split
          · exact sound
          · next past =>
              rw [if_neg past] at served
              exact sound.settle served calm trivial rfl rfl rfl rfl rfl
      · exact sound
  | writing uc data =>
      have calm : Calm self.point := by
        rw [stands]
        trivial
      refine sound.settle ?_ calm trivial rfl rfl rfl rfl rfl
      refine sound.served.finish ?_ (occupied stands id) (started (bare_of_calm calm) ?_)
      · intro _ d _ busy _
        rw [stands] at busy
        exact busy
      · rw [stands]
        exact nofun
  | closing =>
      have gone : self.Over := Or.inl stands
      have free : Unoccupied self.point := by
        rw [stands]
        trivial
      have shut := sound.tabled.shut gone
      exact
        { tabled :=
            { entry := sound.tabled.entry
              opened := by
                intro index conn found isOpen
                exact absurd isOpen (shut conn (List.mem_of_getElem? found))
              dialing := nofun
              inserting := nofun
              aged := fun going => absurd (Or.inr rfl) going
              ended := fun _ => sound.tabled.ended gone }
          pumped := sound.pumped.frame rfl rfl rfl fun _ => rfl
          served := sound.served.idle free trivial rfl (fun _ => rfl) rfl rfl }

theorem Sound.step (sound : self.Sound parseAddr) (event : UdpEvent) :
    (step parseAddr self event).1.Sound parseAddr := by
  have frame : ∀ {later : UdpAssociation}, later.targets = self.targets →
      later.conns = self.conns → later.point = self.point → later.replies = self.replies →
        later.clientAddr = self.clientAddr → later.received = self.received →
          later.Served parseAddr → later.Sound parseAddr := by
    intro later targets conns point replies client received served
    exact ⟨sound.tabled.frame targets (fun _ => by rw [conns]) point,
      sound.pumped.frame replies client received fun _ => by rw [conns], served⟩
  cases event with
  | pass elapsed =>
      refine frame rfl rfl rfl rfl rfl rfl ?_
      exact sound.served.frame_of_same (List.prefix_refl _) sound.served.names (fun _ => rfl) rfl
        rfl rfl
  | ctrlEnds =>
      refine frame rfl rfl rfl rfl rfl rfl ?_
      exact sound.served.frame_of_same (List.prefix_refl _) sound.served.names (fun _ => rfl) rfl
        rfl rfl
  | answer index ips =>
      refine frame rfl rfl rfl rfl rfl rfl ?_
      exact sound.served.frame_of_same (self.dns.answers_answered index ips)
        (sound.served.names.answered index ips) (fun _ => rfl) rfl rfl rfl
  | sweep age =>
      exact ⟨sound.tabled.sweep (Nat.sub_le _ _),
        sound.pumped.frame rfl rfl rfl (pumping_sweep self _),
        sound.served.frame_of_same (List.prefix_refl _) sound.served.names (pumping_sweep self _)
          rfl rfl rfl⟩
  | serve elapsed ok => exact sound.serve elapsed ok
  | pump index arrives ok =>
      exact ⟨sound.tabled.pump index arrives ok, sound.pumped.pump index arrives ok,
        sound.served.pump index arrives ok⟩
  | datagram src p =>
      dsimp only [UdpAssociation.step]
      split
      · next ready =>
          have calm : Calm self.point := by
            rw [ready.1]
            trivial
          exact ⟨sound.tabled.settle rfl (fun _ => rfl) calm trivial, sound.pumped.datagram src p,
            sound.served.datagram ready.1 src p⟩
      · exact sound
  | readFails =>
      dsimp only [UdpAssociation.step]
      split
      · next ready =>
          have calm : Calm self.point := by
            rw [ready]
            trivial
          have free : Unoccupied self.point := by
            rw [ready]
            trivial
          refine sound.settle ?_ calm trivial rfl rfl rfl rfl rfl
          exact sound.served.idle free trivial rfl (fun _ => rfl) rfl rfl
      · exact sound

theorem sound_reached (parseAddr : String → Addr) (events : List UdpEvent) :
    (reached parseAddr events).Sound parseAddr :=
  Transducer.run_invariant _ (fun _ event sound => sound.step event) start events .start

/-- Whatever arrives, fails and is answered, and in whatever order: each datagram of the client has
one outcome, in order, but for the one that the loop is busy with, and what is written goes to a
connection to the very target that the datagram names, with its payload and after the pump of that
connection has started; a name stands for an answer that was given for it before, and a datagram is
dropped for its name only if no addresses were known for it. Each answer of a connection's target
is passed on once, in order, under that target's header, and to the sender of the first datagram. A
name is asked for once at a time, and not again once its addresses are known. -/
theorem association_passes_on (parseAddr : String → Addr) (events : List UdpEvent) :
    ((reached parseAddr events).received.length = (reached parseAddr events).outcomes.length ∨
      (reached parseAddr events).received.length =
        (reached parseAddr events).outcomes.length + 1) ∧
    (∀ (index : Nat) outcome, (reached parseAddr events).outcomes[index]? = some outcome →
      ∃ d, (reached parseAddr events).received[index]? = some d ∧
        Became parseAddr (reached parseAddr events) d outcome) ∧
    (∀ (index : Nat) conn, (reached parseAddr events).conns[index]? = some conn →
      ((reached parseAddr events).repliesOf index).map Reply.out ++
          (held conn).map (labelled conn) = conn.arrived.map (labelled conn)) ∧
    (∀ reply ∈ (reached parseAddr events).replies,
      (∃ conn, (reached parseAddr events).conns[reply.conn]? = some conn) ∧
        (reached parseAddr events).received.head?.map Datagram.src = some reply.ca) ∧
    (reached parseAddr events).dns.running.Nodup ∧
    (∀ host ∈ (reached parseAddr events).dns.running, ∀ ips,
      (host, ips) ∈ (reached parseAddr events).dns.answers → ips = []) ∧
    (reached parseAddr events).point ≠ .crashed := by
  obtain ⟨_, pumped, served⟩ := sound_reached parseAddr events
  refine ⟨?_, served.done, pumped.order, ?_, served.names.alone, ?_, ?_⟩
  · rcases served.current with ⟨_, lengths⟩ | ⟨before, d, split, lengths, _⟩
    · exact Or.inl lengths
    · rw [split, List.length_append, lengths]
      exact Or.inr rfl
  · intro reply mem
    have bound := pumped.bound reply mem
    rw [← pumped.first]
    exact ⟨⟨_, List.getElem?_eq_getElem bound⟩, pumped.clients reply mem⟩
  · intro host mem
    exact served.names.kept host (served.names.unknown host mem)
  · intro stands
    rcases served.current with ⟨free, _⟩ | ⟨_, _, _, _, _, busy⟩
    · rw [stands] at free
      exact free
    · rw [stands] at busy
      exact busy

-- A datagram goes out on a new connection, and what is answered to it comes back.
example :
    (fun assoc : UdpAssociation => (assoc.outcomes, assoc.replies))
        (reached (fun _ => .zero)
          [.datagram ⟨.v4 1, 2⟩ (buildSocksUDPHeader ⟨.v4 3, 4⟩ ++ [5]), .serve 0 true,
            .serve 0 true, .serve 0 true, .serve 0 true, .pump 0 none true, .serve 0 true,
            .serve 0 true, .pump 0 (some [6]) true, .pump 0 none true, .pump 0 none true]) =
      ([.written 0 [5] true], [⟨0, ⟨.v4 1, 2⟩, buildSocksUDPHeader ⟨.v4 3, 4⟩ ++ [6], true⟩]) := by
  decide

/-- Whatever happens and in whatever order: a target has one open connection at most; each open
connection is the one that the table has for its target, or is on its way there, and the table has
no others. While the association lives a connection is closed only after a minute without a
datagram for its target, and once the association has ended none is left open. -/
theorem association_keeps_conns (parseAddr : String → Addr) (events : List UdpEvent) :
    (∀ (index other : Nat) conn conn', (reached parseAddr events).conns[index]? = some conn →
      (reached parseAddr events).conns[other]? = some conn' → conn.closed = none →
        conn'.closed = none → conn.target = conn'.target → index = other) ∧
    (∀ (index : Nat) conn, (reached parseAddr events).conns[index]? = some conn →
      conn.closed = none →
        (∃ e, (reached parseAddr events).targets.lookup conn.target = some e ∧ e.conn = index) ∨
          ∃ data, (reached parseAddr events).point = .inserting conn.target data index) ∧
    (∀ dst e, (reached parseAddr events).targets.lookup dst = some e →
      ∃ conn, (reached parseAddr events).conns[e.conn]? = some conn ∧ conn.target = dst ∧
        conn.used = e.last ∧ conn.closed = none) ∧
    (¬ (reached parseAddr events).Over → ∀ (index : Nat) conn time,
      (reached parseAddr events).conns[index]? = some conn → conn.closed = some time →
        conn.used + socksUDPIdleTTL ≤ time) ∧
    ((reached parseAddr events).Over →
      ∀ conn ∈ (reached parseAddr events).conns, conn.closed ≠ none) := by
  obtain ⟨tabled, _, _⟩ := sound_reached parseAddr events
  refine ⟨?_, tabled.opened, tabled.entry, tabled.aged, tabled.shut⟩
  intro index other conn conn' found found' isOpen isOpen' same
  rcases tabled.opened index conn found isOpen with ⟨e, entry, rfl⟩ | ⟨data, stands⟩
  · rcases tabled.opened other conn' found' isOpen' with ⟨f, entry', rfl⟩ | ⟨data, stands⟩
    · rw [← same, entry] at entry'
      rw [Option.some.inj entry']
    · rw [← same] at stands
      rw [(tabled.inserting _ _ _ stands).1] at entry
      cases entry
  · rcases tabled.opened other conn' found' isOpen' with ⟨f, entry', rfl⟩ | ⟨data', stands'⟩
    · rw [same] at stands
      rw [(tabled.inserting _ _ _ stands).1] at entry'
      cases entry'
    · rw [stands] at stands'
      exact (ServePoint.inserting.inj stands').2.2

end UdpAssociation

end Csqtt.Socks5
