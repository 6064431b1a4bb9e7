import AccessGate.Agent.Basic

/-! # Sessions

A session is the life of one agent. Its settings and its disk may change between its steps; the ledger
goes on from step to step; and a step that fails leaves in force what was in force before. -/
namespace AccessGate.Agent

open AccessGate.Provision

structure Session where
  config : Config
  disk : Storage.Disk
  ledger : Ledger := {}
  inForce : Option Ready := none

inductive Order where
  | replaceDisk (disk : Storage.Disk)
  | configure (config : Config)
  | start
  | refresh (rules : List Rule)

/-- What an order comes to: a result if it makes rules ready, and what is told of it. -/
structure Reply where
  result : Option (Except Failure Ready) := none
  events : List Event := []

def Session.finish (s : Session) (o : Outcome Ready) : Reply × Session :=
  (⟨some o.result, o.events⟩,
    { s with ledger := o.ledger, inForce := o.result.toOption.or s.inForce })

def Session.follow (machine : Machine) (s : Session) : Order → Reply × Session
  | .replaceDisk disk => ({}, { s with disk })
  | .configure config => ({}, { s with config })
  | .start => s.finish (Agent.start machine s.disk s.config s.ledger)
  | .refresh rules => s.finish (Agent.refresh machine s.config rules s.ledger)

def Session.followAll (machine : Machine) (s : Session) : List Order → List Reply × Session
  | [] => ([], s)
  | order :: rest =>
    let (reply, s) := s.follow machine order
    let (replies, s) := s.followAll machine rest
    (reply :: replies, s)

end AccessGate.Agent
