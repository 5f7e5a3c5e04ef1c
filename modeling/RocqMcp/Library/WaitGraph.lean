import Mathlib.Logic.Relation

/-! Closed walks of a waits-for graph. An edge goes from a waiting party to the
party that holds what it waits for. -/

namespace RocqMcp.Library

open Relation

variable {Vertex : Type u} {vertex first last : Vertex}

/-- A vertex lying on a closed walk. -/
def OnCycle (edge : Vertex → Vertex → Prop) (vertex : Vertex) : Prop :=
  TransGen edge vertex vertex

def Acyclic (edge : Vertex → Vertex → Prop) : Prop :=
  ∀ vertex, ¬ OnCycle edge vertex

theorem OnCycle.incoming {edge : Vertex → Vertex → Prop}
    (cycle : OnCycle edge vertex) : ∃ before, edge before vertex := by
  cases cycle with
  | single loop => exact ⟨vertex, loop⟩
  | tail _ last => exact ⟨_, last⟩

theorem OnCycle.outgoing {edge : Vertex → Vertex → Prop}
    (cycle : OnCycle edge vertex) :
    ∃ after, edge vertex after ∧ OnCycle edge after := by
  obtain ⟨after, first, rest⟩ := TransGen.head'_iff.mp cycle
  exact ⟨after, first, TransGen.tail' rest first⟩

private theorem rank_lt_of_walk {edge : Vertex → Vertex → Prop} (rank : Vertex → Nat)
    (raises : ∀ before after, edge before after → OnCycle edge before →
      OnCycle edge after → rank before < rank after)
    (walk : TransGen edge first last) (back : ReflTransGen edge last first) :
    rank first < rank last := by
  induction walk with
  | single step =>
    exact raises _ _ step (TransGen.head' step back) (TransGen.tail' back step)
  | tail earlier step ih =>
    have closing : ReflTransGen edge _ first := .head step back
    have near := ih closing
    have far := raises _ _ step
      (TransGen.trans_right closing earlier) (TransGen.trans_right back (.tail earlier step))
    exact Nat.lt_trans near far

/-- A rank that rises along every edge between vertices on closed walks rules
closed walks out. Vertices off every closed walk may be ranked arbitrarily. -/
theorem acyclic_of_rank {edge : Vertex → Vertex → Prop} (rank : Vertex → Nat)
    (raises : ∀ before after, edge before after → OnCycle edge before →
      OnCycle edge after → rank before < rank after) :
    Acyclic edge := by
  intro vertex cycle
  exact Nat.lt_irrefl _ (rank_lt_of_walk rank raises cycle .refl)

end RocqMcp.Library
