import RoomTransfer.Store.Request
import RoomTransfer.Text.Blank

/-! Scripted databases: what they serve, what they report and where they fail is laid down in
advance. -/
namespace RoomTransfer.Store

/-- A failure that fires wherever its pattern occurs in the text of a request, once `skip` such
requests have passed. -/
structure Trap where
  pattern : String
  skip : Nat := 0
  failure : Failure

structure Script where
  rows : List (String × List Row) := []
  one : Value := .null
  /-- Reported by inserts one after another; once used up, every row counts. -/
  counts : List (Option Int) := []
  traps : List Trap := []

def Request.text : Request → String
  | .connect _ _ _ => "connect"
  | .execute _ _ sql _ | .insert sql _ => Text.squeeze sql
  | .fetch cursor _ _ => "fetchmany " ++ cursor
  | .begin => "begin"
  | .commit => "commit"
  | .close _ => "close"

/-- The first trap that fires; traps that are still to be skipped count down on the way. -/
def spring (text : String) : List Trap → Option Trap × List Trap
  | [] => (none,[])
  | trap :: rest =>
    if Text.occursIn trap.pattern.toList text.toList then
      if trap.skip = 0 then (some trap,trap :: rest)
      else
        let (sprung,rest) := spring text rest
        (sprung,{ trap with skip := trap.skip - 1 } :: rest)
    else
      let (sprung,rest) := spring text rest
      (sprung,trap :: rest)

namespace Script

/-- The rows of a cursor; an unnamed one has the empty name. -/
def rowsOf (s : Script) (cursor : String) : List Row := (List.lookup cursor s.rows).getD []

def report (s : Script) (rows : Nat) : Option Int × Script :=
  match s.counts with
  | [] => (some rows,s)
  | count :: counts => (count,{ s with counts })

def answer (request : Request) (s : Script) : Except Fault Reply × Script :=
  let (sprung,traps) := spring request.text s.traps
  let s := { s with traps }
  match sprung with
  | some trap => (.error ⟨trap.pattern,trap.failure⟩,s)
  | none => match request with
    | .execute _ cursor _ _ => (.ok { rows := s.rowsOf cursor, one := s.one },s)
    | .insert _ rows =>
      let (count,s) := s.report rows.length
      (.ok { count },s)
    | _ => (.ok {},s)

end Script

/-- Both databases scripted. A script set aside for the legacy side takes over at the next
connect. -/
structure Scripts where
  legacy : Script := {}
  target : Script := {}
  next : Option Script := none

namespace Scripts

def turn (s : Scripts) : Scripts :=
  match s.next with
  | none => s
  | some legacy => { s with legacy, next := none }

def answer (request : Request) (s : Scripts) : Except Fault Reply × Scripts :=
  match request.side with
  | .target =>
    let (reply,target) := s.target.answer request
    (reply,{ s with target })
  | .legacy =>
    let s := match request with
      | .connect _ _ _ => s.turn
      | _ => s
    let (reply,legacy) := s.legacy.answer request
    (reply,{ s with legacy })

instance : Database Scripts := ⟨answer⟩

end Scripts

end RoomTransfer.Store
