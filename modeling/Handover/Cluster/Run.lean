import Handover.Cluster.Tick

/-! # Runs

A run is a number of ticks, one after another, with what happened in each.
-/

namespace Handover.Cluster

/-- A tick of a run: what happened in it and where it led. -/
structure Turn where
  summary : TickSummary
  events : List Event
  cluster : Cluster

def turn (cluster : Cluster) : Turn :=
  let ⟨(summary, next), events⟩ := cluster.advance
  ⟨summary, events, next⟩

def run (cluster : Cluster) : Nat → List Turn
  | 0 => []
  | n + 1 => cluster.turn :: cluster.turn.cluster.run n

def after (cluster : Cluster) (turns : List Turn) : Cluster :=
  (turns.getLast?.map (·.cluster)).getD cluster

end Handover.Cluster
