/-
Module: Csqtt.Socks5.RelayCopy
Purpose: The loop that carries one direction of a relayed connection.
Trusted boundary: what each read returns and how much of it each write takes; a writer takes no
  more than it is given
Main exports: ReadError, WriteError, Round, Copy, relayCopy
-/
import Csqtt.Core.Word

namespace Csqtt.Socks5

variable {Fault : Type*}

inductive ReadError (Fault : Type*) where
  | eof
  | fault (fault : Fault)
deriving DecidableEq, Repr

inductive WriteError (Fault : Type*) where
  | fault (fault : Fault)
  | shortWrite
deriving DecidableEq, Repr

/-- What a read returns, and what the write of its data would. -/
structure Round (Fault : Type*) where
  data : List U8
  er : Option (ReadError Fault)
  nw : Nat
  ew : Option Fault
  within : nw ≤ data.length

/-- How far a copy has come: what the destination has been given, and what the copy returns once
it is finished. -/
structure Copy (Fault : Type*) where
  delivered : List U8
  n : Nat
  readErr : Option Fault
  writeErr : Option (WriteError Fault)
  finished : Bool
deriving DecidableEq, Repr

/-- The error of the write, when there is something to write. -/
def Round.writeError (self : Round Fault) : Option (WriteError Fault) :=
  if self.data.length > 0 then
    match self.ew with
    | some fault => some (.fault fault)
    | none => if self.nw ≠ self.data.length then some .shortWrite else none
  else none

def relayCopyFrom (delivered : List U8) (n : Nat) : List (Round Fault) → Copy Fault
  | [] => ⟨delivered, n, none, none, false⟩
  | round :: rounds =>
      let delivered := delivered ++ round.data.take round.nw
      let n := n + round.nw
      match round.writeError with
      | some error => ⟨delivered, n, none, some error, true⟩
      | none =>
          -- Data that comes along with an error has been written by now.
          match round.er with
          | some .eof => ⟨delivered, n, none, none, true⟩
          | some (.fault fault) => ⟨delivered, n, some fault, none, true⟩
          | none => relayCopyFrom delivered n rounds

def relayCopy (rounds : List (Round Fault)) : Copy Fault := relayCopyFrom [] 0 rounds

end Csqtt.Socks5
