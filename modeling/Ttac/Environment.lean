import Ttac.Handlers

set_option autoImplicit false

/- What the handlers run in: a database, the list of locations, and the client. -/
namespace Ttac

open Interaction (Program)
open Interaction.Program (World)

section Locations

/-- The text `push_location` stores; its length is an `int`. -/
def locationText (latitude longitude : Bytes) : Except Fault Bytes :=
  let text := latitude ++ ascii "|" ++ longitude
  if 2 ^ 31 ≤ text.length + 1 then .error (.intOverflow (text.length + 1)) else .ok text

/-- `push_location` on `location_list`: the value of the first node with the key is
replaced, and without such a node one is added behind the tail. -/
def pushNode (list : List Node) (userId latitude longitude : Bytes) : Except Fault (List Node) :=
  match list with
  | [] => do
    let value ← locationText latitude longitude
    pure [⟨some userId, value⟩]
  | it :: next =>
    match it.key with
    | none => .error .nullPointer
    | some key =>
      if userId = key then do
        let value ← locationText latitude longitude
        pure (⟨some key, value⟩ :: next)
      else do
        let next ← pushNode next userId latitude longitude
        pure (it :: next)

/-- `pop_location`, which takes nothing off the list. -/
def popNode (list : List Node) (userId : Bytes) : Except Fault (Option Bytes) :=
  findValue list userId

end Locations

/-- What lies outside the server: a database, random numbers and a clock. -/
structure Host (σ : Type) where
  query : Nat → Bytes → σ → Option (List Row) × σ
  commit : Nat → σ → σ
  random : Nat → Nat
  clock : Nat → Tm

/-- `reads` counts the random numbers and the times that have been asked for. -/
structure Env (σ : Type) where
  db : σ
  locationList : List Node
  connections : Nat
  reads : Nat
  sent : List Reply

variable {σ : Type}

/-- The answer to a call. -/
def Host.answer (host : Host σ) (call : Call) (env : Env σ) : Except Fault (Answer call) × Env σ :=
  match call with
  | .connectionPop => (.ok env.connections, { env with connections := env.connections + 1 })
  | .mysqlQuery connection capacity pieces =>
    match sprintf capacity (Sql.render pieces) with
    | .error fault => (.error fault, env)
    | .ok query =>
      (.ok (host.query connection query env.db).1,
        { env with db := (host.query connection query env.db).2 })
  | .mysqlCommit connection => (.ok (), { env with db := host.commit connection env.db })
  | .response reply => (.ok (), { env with sent := env.sent ++ [reply] })
  | .pushLocation userId latitude longitude =>
    match pushNode env.locationList userId latitude longitude with
    | .error fault => (.error fault, env)
    | .ok list => (.ok (), { env with locationList := list })
  | .popLocation userId => (popNode env.locationList userId, env)
  | .rand => (.ok (host.random env.reads), { env with reads := env.reads + 1 })
  | .localtime => (.ok (host.clock env.reads), { env with reads := env.reads + 1 })
  | .connectionPush _ | .mysqlError _ | .close => (.ok (), env)

def Host.world (host : Host σ) : World Call Answer Fault (Env σ) := ⟨host.answer⟩

/-- The environment behind a program. -/
def Host.after {α : Type} (host : Host σ) (program : Prog α) (env : Env σ) : Env σ :=
  (program.run host.world env).2

end Ttac
