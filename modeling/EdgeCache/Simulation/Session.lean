import EdgeCache.Simulation.Basic

/-!
# Sessions

What is done to a simulation, one command after the other.
-/

namespace EdgeCache.Simulation

/-- What can be done to a simulation. -/
inductive Command where
  /-- Tasks are started in order, some of them under a name, and only then run. -/
  | ask (requests : List (Option String × Request))
  /-- The task of a name is asked what it has to tell. -/
  | poll (name : String)
  | cancel (name : String)
  /-- The origin gets another script for a key. -/
  | script (key : String) (script : Script)
  /-- The origin forgets every script. -/
  | disconnect
  /-- The gate of a key gets permits. -/
  | release (key : String) (permits : Nat)
  | advance (ms : Nat)
  | startSweeper (seconds : Nat)
  | stopSweeper
  | sweepOnce
  /-- How the store behaves from now on. -/
  | reading (script : List Reading)
  | writing (script : List Writing)
  /-- The store is used directly. -/
  | put (key : Key) (entry : Entry)
  | get (key : Key)
  | sweep
  | clear

/-- Does what a command says. -/
def perform (s : Simulation) : Command → Simulation
  | .ask requests => (s.begin requests).2
  | .poll _ => s
  | .cancel name => s.cancel name
  | .script key script => { s with origin := s.origin.setScript key script }
  | .disconnect => { s with origin := s.origin.forget }
  | .release key permits => s.release key permits
  | .advance ms => s.advance ms
  | .startSweeper seconds => s.startSweeper seconds
  | .stopSweeper => s.stopSweeper
  | .sweepOnce => s.sweepOnce
  | .reading script => s.script (.reading script)
  | .writing script => s.script (.writing script)
  | .put key entry => s.happen (.put key entry)
  | .get key => s.happen (.get key)
  | .sweep => s.happen .sweep
  | .clear => s.happen .clear

/-- A session, command by command. -/
def session (s : Simulation) (commands : List Command) : Simulation := commands.foldl perform s

end EdgeCache.Simulation
