import Mathlib.Order.WellFounded
import TestPlan.Proofs.Plan.Insertion
import TestPlan.Proofs.Plan.Sameness

/-! Graphs that insertions make have no cycles, and their compilation order puts operands first. -/

namespace TestPlan

open Relation (TransGen)

/-! ### No cycles -/

namespace PlanGraph

variable {graph : PlanGraph}

/-- Nothing is fed through ever more plans. -/
theorem wellFounded_feeds (graph : PlanGraph) : WellFounded graph.Feeds := by
  -- The induction is on a plan that the plan at the position equals, and an operand is smaller.
  have each : ∀ (plan : Plan) {position : Nat} {node : Plan},
      graph.nodes[position]? = some node → plan.Linked node → Acc graph.Feeds position := by
    intro plan
    induction plan using Plan.induction_operands with
    | step plan ih =>
      refine fun found linked => ⟨_, fun source feeds => ?_⟩
      obtain ⟨node, reader, placed, found', operand, member, equal⟩ := feeds
      cases found.symm.trans found'
      obtain ⟨smaller, inside, linked'⟩ := linked.exists_operand member
      exact ih smaller inside placed (linked'.trans equal.symm)
  refine ⟨fun position => ⟨_, fun source feeds => ?_⟩⟩
  obtain ⟨node, _, placed, -⟩ := feeds
  exact each node placed (.refl node)

/-- A position leads to another one along edges, from operands to their consumers. -/
def Leads (graph : PlanGraph) : Nat → Nat → Prop :=
  TransGen fun operand consumer => (operand, consumer) ∈ graph.edges

/-- No position leads to itself. -/
theorem Sound.not_leads (sound : Sound graph) (position : Nat) :
    ¬ graph.Leads position position := by
  intro cycle
  -- Along a cycle of edges a plan would feed itself.
  have fed : TransGen graph.Feeds position position :=
    TransGen.mono (fun operand consumer => sound.feeds (operand, consumer)) _ _ cycle
  exact (wellFounded_feeds graph).transGen.irrefl.irrefl position fed

/-- An edge joins positions of the graph. -/
theorem Sound.inside (sound : Sound graph) {operand consumer : Nat}
    (edge : (operand, consumer) ∈ graph.edges) : operand < graph.size ∧ consumer < graph.size := by
  obtain ⟨_, _, source, target, -⟩ := sound.feeds _ edge
  exact ⟨(List.getElem?_eq_some_iff.mp source).1, (List.getElem?_eq_some_iff.mp target).1⟩

/-! ### Walks -/

/-- The consumers of a position are those that an edge leads to. -/
@[simp] theorem mem_consumers {operand consumer : Nat} :
    consumer ∈ graph.consumers operand ↔ (operand, consumer) ∈ graph.edges := by
  simp [consumers]

/-- Positions that were finished one after the other, the latest first, each after its consumers. -/
def Settled (graph : PlanGraph) : List Nat → Prop
  | [] => True
  | position :: earlier =>
    (∀ consumer ∈ graph.consumers position, consumer ∈ earlier) ∧ graph.Settled earlier

/-- A position that waits on a stack until all that is above it is finished. -/
structure WaitsBelow (graph : PlanGraph) (finished above : List Nat) (position : Nat) : Prop where
  /-- Nothing else is expected of the position before it is reached again. -/
  absent : position ∉ above
  consumers : ∀ consumer ∈ graph.consumers position, consumer ∈ finished ∨ consumer ∈ above
  leads : ∀ other ∈ above, graph.Leads position other

/-- A position that waits somewhere on a stack, given with the topmost position first. -/
def Waits (graph : PlanGraph) (finished stack : List Nat) (position : Nat) : Prop :=
  ∃ above below, stack = above ++ position :: below ∧ graph.WaitsBelow finished above position

namespace Waits

variable {finished stack : List Nat} {position top : Nat}

/-- A position below the top is below something that it leads to. -/
theorem leads_top (waits : graph.Waits finished (top :: stack) position) (below : position ≠ top) :
    graph.Leads position top := by
  obtain ⟨_ | ⟨first, above⟩, rest, split, waits⟩ := waits
  · cases split
    exact absurd rfl below
  · cases split
    exact waits.leads _ List.mem_cons_self

/-- The topmost position waits for nothing. -/
theorem consumers_top (waits : graph.Waits finished (position :: stack) position) :
    ∀ consumer ∈ graph.consumers position, consumer ∈ finished := by
  obtain ⟨_ | ⟨first, above⟩, rest, split, waits⟩ := waits
  · exact fun consumer edge => (waits.consumers consumer edge).resolve_right List.not_mem_nil
  · cases split
    exact absurd List.mem_cons_self waits.absent

/-- A position goes on waiting when the top is finished. -/
theorem pop (waits : graph.Waits finished (top :: stack) position) (below : position ≠ top)
    {finished' : List Nat} (more : finished ⊆ finished') (done : top ∈ finished') :
    graph.Waits finished' stack position := by
  obtain ⟨_ | ⟨first, above⟩, rest, split, waits⟩ := waits
  · cases split
    exact absurd rfl below
  · cases split
    refine ⟨above, rest, rfl, fun member => waits.absent (List.mem_cons_of_mem _ member), ?_,
      fun other member => waits.leads other (List.mem_cons_of_mem _ member)⟩
    intro consumer edge
    -- A consumer that has just been above is now finished, or still above.
    rcases waits.consumers consumer edge with old | member
    · exact .inl (more old)
    · rcases List.mem_cons.mp member with rfl | member
      · exact .inl done
      · exact .inr member

/-- A position goes on waiting when consumers of the top are put above it. -/
theorem push (waits : graph.Waits finished (top :: stack) position) (below : position ≠ top)
    {next : List Nat} (edges : ∀ consumer ∈ next, (top, consumer) ∈ graph.edges)
    (absent : position ∉ next) : graph.Waits finished (next ++ top :: stack) position := by
  have toTop := waits.leads_top below
  obtain ⟨above, rest, split, waits⟩ := waits
  refine ⟨next ++ above, rest, by rw [split, List.append_assoc], ?_, ?_, ?_⟩
  · exact fun member => (List.mem_append.mp member).elim absent waits.absent
  · exact fun consumer edge => (waits.consumers consumer edge).imp_right (List.mem_append_right _)
  · intro other member
    rcases List.mem_append.mp member with new | old
    · exact toTop.tail (edges other new)
    · exact waits.leads other old

end Waits

/-- What is true of a walk while positions are left on its stack. -/
structure Walking (graph : PlanGraph) (state : Walk) (stack : List Nat) : Prop where
  inside : ∀ position ∈ stack, position < graph.size
  met : ∀ position ∈ state.discovered, position < graph.size
  once : state.finished.Nodup
  finished : state.finished ⊆ state.discovered
  settled : graph.Settled state.finished
  waits : ∀ position ∈ state.discovered, position ∉ state.finished →
    graph.Waits state.finished stack position

namespace Walking

variable {state : Walk} {position : Nat} {below : List Nat}

/-- A walk has done nothing at first. -/
theorem nothing (graph : PlanGraph) : graph.Walking {} [] where
  inside _ member := by cases member
  met _ member := by cases member
  once := .nil
  finished _ member := by cases member
  settled := trivial
  waits _ member := by cases member

/-- A walk starts at a position of the graph. -/
theorem start (walking : graph.Walking state []) (inside : position < graph.size)
    : graph.Walking state [position] where
  inside other member := List.mem_singleton.mp member ▸ inside
  met := walking.met
  once := walking.once
  finished := walking.finished
  settled := walking.settled
  waits other met unfinished := by
    -- Nothing waits on an empty stack.
    obtain ⟨above, rest, split, -⟩ := walking.waits other met unfinished
    simp at split

/-- A position that is met waits for the consumers that are put above it. -/
theorem meet (sound : Sound graph) (walking : graph.Walking state (position :: below))
    (fresh : position ∉ state.discovered) :
    graph.Walking { state with discovered := position :: state.discovered }
      (((graph.consumers position).filter (! (position :: state.discovered).contains ·)).reverse
        ++ position :: below) := by
  have next : ∀ {consumer}, consumer ∈ ((graph.consumers position).filter
      (! (position :: state.discovered).contains ·)).reverse ↔
        (position, consumer) ∈ graph.edges ∧ consumer ∉ position :: state.discovered := by
    simp
  refine ⟨?_, ?_, walking.once, ?_, walking.settled, ?_⟩
  · intro other member
    rcases List.mem_append.mp member with new | old
    · exact (sound.inside (next.mp new).1).2
    · exact walking.inside other old
  · intro other member
    rcases List.mem_cons.mp member with rfl | old
    · exact walking.inside _ List.mem_cons_self
    · exact walking.met other old
  · exact List.Subset.trans walking.finished (List.subset_cons_self _ _)
  · intro other met unfinished
    -- The position waits right below its consumers, and what has waited before is further below.
    rcases List.mem_cons.mp met with rfl | old
    · refine ⟨_, below, rfl, fun member => (next.mp member).2 List.mem_cons_self, ?_, ?_⟩
      · intro consumer member
        have edge := mem_consumers.mp member
        by_cases met : consumer ∈ other :: state.discovered
        · -- A consumer that still waits would lead back to this position.
          left
          by_contra unfinished
          rcases List.mem_cons.mp met with rfl | old
          · exact sound.not_leads _ (.single edge)
          · have back := (walking.waits consumer old unfinished).leads_top
              (fun same => fresh (same ▸ old))
            exact sound.not_leads _ (back.tail edge)
        · exact .inr (next.mpr ⟨edge, met⟩)
      · exact fun consumer member => .single (next.mp member).1
    · have waits := walking.waits other old unfinished
      exact waits.push (fun same => fresh (same ▸ old)) (fun consumer member => (next.mp member).1)
        (fun member => (next.mp member).2 met)

/-- A position that is finished already is left out. -/
theorem skip (walking : graph.Walking state (position :: below))
    (done : position ∈ state.finished) : graph.Walking state below where
  inside other member := walking.inside other (List.mem_cons_of_mem _ member)
  met := walking.met
  once := walking.once
  finished := walking.finished
  settled := walking.settled
  waits other met unfinished :=
    (walking.waits other met unfinished).pop (fun same => unfinished (same ▸ done))
      (List.Subset.refl _) done

/-- A position that is reached again is finished. -/
theorem finish (walking : graph.Walking state (position :: below))
    (met : position ∈ state.discovered) (waiting : position ∉ state.finished) :
    graph.Walking { state with finished := position :: state.finished } below where
  inside other member := walking.inside other (List.mem_cons_of_mem _ member)
  met := walking.met
  once := List.nodup_cons.mpr ⟨waiting, walking.once⟩
  finished := List.cons_subset.mpr ⟨met, walking.finished⟩
  settled := ⟨(walking.waits position met waiting).consumers_top, walking.settled⟩
  waits other met unfinished := by
    obtain ⟨different, unfinished⟩ := not_or.mp (mt List.mem_cons.mpr unfinished)
    exact (walking.waits other met unfinished).pop different (List.subset_cons_self _ _)
      List.mem_cons_self

/-- A walk ends with all that it has met finished. -/
theorem subset_finished (walking : graph.Walking state []) : state.discovered ⊆ state.finished := by
  intro position met
  by_contra unfinished
  obtain ⟨above, rest, split, -⟩ := walking.waits position met unfinished
  simp at split

/-- A walk goes on until its stack is empty, and meets all that is on it. -/
theorem walk (sound : Sound graph) {stack : List Nat} (walking : graph.Walking state stack) :
    graph.Walking (graph.walk state stack) [] ∧
      state.discovered ⊆ (graph.walk state stack).discovered ∧
        stack ⊆ (graph.walk state stack).discovered := by
  -- The top of the stack is met, left out, or finished, until nothing is on the stack.
  induction state, stack using PlanGraph.walk.induct graph with
  | case1 state =>
    rw [PlanGraph.walk]
    exact ⟨walking, List.Subset.refl _, List.nil_subset _⟩
  | case2 state position below fresh discovered next ih =>
    obtain ⟨ended, met, stacked⟩ := ih (walking.meet sound fresh.2)
    rw [PlanGraph.walk, dif_pos fresh]
    exact ⟨ended, List.Subset.trans (List.subset_cons_self _ _) met,
      List.Subset.trans (List.subset_append_right _ _) stacked⟩
  | case3 state position below old done ih =>
    have done := List.contains_iff_mem.mp done
    obtain ⟨ended, met, stacked⟩ := ih (walking.skip done)
    rw [PlanGraph.walk, dif_neg old, if_pos (List.contains_iff_mem.mpr done)]
    exact ⟨ended, met, List.cons_subset.mpr ⟨met (walking.finished done), stacked⟩⟩
  | case4 state position below old waiting ih =>
    -- A position of the graph that is not fresh has been met.
    have known : position ∈ state.discovered := by
      by_contra new
      exact old ⟨walking.inside position List.mem_cons_self, new⟩
    have waiting' := mt List.contains_iff_mem.mpr waiting
    obtain ⟨ended, met, stacked⟩ := ih (walking.finish known waiting')
    rw [PlanGraph.walk, dif_neg old, if_neg waiting]
    exact ⟨ended, met, List.cons_subset.mpr ⟨met known, stacked⟩⟩

end Walking

/-- Walking from every position of a sound graph in turn finishes all of them. -/
theorem Sound.walkAll (sound : Sound graph) :
    graph.Walking graph.walkAll [] ∧
      ∀ position < graph.size, position ∈ graph.walkAll.finished := by
  -- The induction is on the positions that the walks start from, after those that came before.
  have run : ∀ (positions : List Nat) (state : Walk),
      (∀ position ∈ positions, position < graph.size) →
      graph.Walking state [] →
        let last := positions.foldl (fun state position =>
          if state.discovered.contains position then state else graph.walk state [position]) state
        graph.Walking last [] ∧ state.discovered ⊆ last.discovered ∧
          positions ⊆ last.discovered := by
    intro positions
    induction positions with
    | nil => exact fun _ _ walking => ⟨walking, List.Subset.refl _, List.nil_subset _⟩
    | cons position rest ih =>
      intro state inside walking
      have within := inside position List.mem_cons_self
      have others := fun other member => inside other (List.mem_cons_of_mem _ member)
      rw [List.foldl_cons]
      split
      · rename_i met
        obtain ⟨ended, old, new⟩ := ih state others walking
        exact ⟨ended, old, List.cons_subset.mpr ⟨old (List.contains_iff_mem.mp met), new⟩⟩
      · obtain ⟨walked, kept, started⟩ := (walking.start within).walk sound
        obtain ⟨ended, old, new⟩ := ih _ others walked
        exact ⟨ended, List.Subset.trans kept old,
          List.cons_subset.mpr ⟨old (started List.mem_cons_self), new⟩⟩
  obtain ⟨walking, -, met⟩ := run _ {} (fun _ => List.mem_range.mp) (.nothing graph)
  exact ⟨walking, fun position inside => walking.subset_finished (met (List.mem_range.mpr inside))⟩

namespace Settled

variable {positions : List Nat} {operand consumer : Nat}

/-- What consumes a settled position is settled. -/
theorem mem (settled : graph.Settled positions) (member : operand ∈ positions)
    (edge : (operand, consumer) ∈ graph.edges) : consumer ∈ positions := by
  induction positions with
  | nil => cases member
  | cons position earlier ih =>
    rcases List.mem_cons.mp member with rfl | inside
    · exact List.mem_cons_of_mem _ (settled.1 consumer (mem_consumers.mpr edge))
    · exact List.mem_cons_of_mem _ (ih settled.2 inside)

/-- A settled position is before all that consume it. -/
theorem idxOf_lt (settled : graph.Settled positions) (once : positions.Nodup)
    (member : operand ∈ positions) (edge : (operand, consumer) ∈ graph.edges) :
    positions.idxOf operand < positions.idxOf consumer := by
  induction positions with
  | nil => cases member
  | cons position earlier ih =>
    obtain ⟨absent, once⟩ := List.nodup_cons.mp once
    have different : ∀ {other}, other ∈ earlier → position ≠ other :=
      fun inside same => absent (same ▸ inside)
    -- Its consumers are all behind the first position, which differs from those that follow it.
    rcases List.mem_cons.mp member with rfl | inside
    · have consumed := settled.1 consumer (mem_consumers.mpr edge)
      rw [List.idxOf_cons_self, List.idxOf_cons_ne _ (different consumed)]
      exact Nat.succ_pos _
    · have consumed := settled.2.mem inside edge
      rw [List.idxOf_cons_ne _ (different inside), List.idxOf_cons_ne _ (different consumed)]
      exact Nat.succ_lt_succ (ih settled.2 once inside)

end Settled

/-! ### The order -/

/-- All positions of a graph, in an order in which every edge points forward. -/
structure Topological (graph : PlanGraph) (positions : List Nat) : Prop where
  all : positions.Perm (List.range graph.size)
  forward : ∀ edge ∈ graph.edges, positions.idxOf edge.1 < positions.idxOf edge.2

/-- The walk from all positions of a sound graph finishes them in topological order. -/
theorem Sound.topological_walkAll (sound : Sound graph) :
    graph.Topological graph.walkAll.finished := by
  obtain ⟨walking, all⟩ := sound.walkAll
  refine ⟨(List.perm_ext_iff_of_nodup walking.once List.nodup_range).mpr fun position => ?_, ?_⟩
  · rw [List.mem_range]
    exact ⟨fun member => walking.met position (walking.finished member), all position⟩
  · exact fun edge member =>
      walking.settled.idxOf_lt walking.once (all _ (sound.inside member).1) member

/-- A sound graph is ordered by the walk from all its positions. -/
theorem Sound.compilationOrder (sound : Sound graph) :
    graph.compilationOrder = .ok (graph.walkAll.finished.map graph.nameAt) := by
  -- An edge that leads back is all that the order is refused for.
  have forward : graph.edges.find? (fun edge =>
      graph.walkAll.finished.idxOf edge.2 ≤ graph.walkAll.finished.idxOf edge.1) = none := by
    rw [List.find?_eq_none]
    intro edge member
    simpa using sound.topological_walkAll.forward edge member
  simp only [PlanGraph.compilationOrder, forward]

/-- A sound graph is valid. -/
theorem Sound.validate (sound : Sound graph) : graph.validate = .ok () := by
  rw [PlanGraph.validate, sound.compilationOrder]
  rfl

/-- An order of the names of a graph in which they may be compiled. -/
structure Orders (graph : PlanGraph) (names : List String) : Prop where
  once : names.Nodup
  indexed : ∀ name, name ∈ names ↔ (graph.get? name).isSome = true
  operandsFirst : ∀ name, ∀ dependency ∈ graph.dependencies name,
    names.idxOf dependency < names.idxOf name

/-- The name at a position is that of the plan there. -/
theorem nameAt_of_getElem? {position : Nat} {node : Plan}
    (found : graph.nodes[position]? = some node) : graph.nameAt position = node.name := by
  simp [nameAt, found]

/-- Where a name is found, there is a plan of the name. -/
theorem nameAt_of_position? {name : String} {position : Nat}
    (found : graph.position? name = some position) :
    position < graph.size ∧ graph.nameAt position = name := by
  obtain ⟨inside, named, -⟩ := List.findIdx?_eq_some_iff_getElem.mp found
  have same := nameAt_of_getElem? (List.getElem?_eq_getElem inside)
  exact ⟨inside, same.trans (by simpa using named)⟩

/-- The names of a graph are those at its positions. -/
theorem isSome_get?_iff {name : String} :
    (graph.get? name).isSome = true ↔ ∃ position < graph.size, graph.nameAt position = name := by
  rw [get?, List.find?_isSome]
  constructor
  · rintro ⟨node, member, named⟩
    obtain ⟨position, inside, rfl⟩ := List.getElem_of_mem member
    have found := nameAt_of_getElem? (List.getElem?_eq_getElem inside)
    exact ⟨position, inside, found.trans (beq_iff_eq.mp named)⟩
  · rintro ⟨position, inside, rfl⟩
    have found := nameAt_of_getElem? (List.getElem?_eq_getElem inside)
    exact ⟨_, List.getElem_mem inside, by simpa using found.symm⟩

namespace Sound

/-- Positions of one name are one position. -/
theorem nameAt_inj (sound : Sound graph) {position other : Nat} (inside : position < graph.size)
    (inside' : other < graph.size) (same : graph.nameAt position = graph.nameAt other) :
    position = other := by
  rw [nameAt_of_getElem? (List.getElem?_eq_getElem inside),
    nameAt_of_getElem? (List.getElem?_eq_getElem inside')] at same
  have bound : position < (graph.nodes.map Plan.name).length := by rwa [List.length_map]
  have bound' : other < (graph.nodes.map Plan.name).length := by rwa [List.length_map]
  have equal : (graph.nodes.map Plan.name)[position] = (graph.nodes.map Plan.name)[other] := by
    rwa [List.getElem_map, List.getElem_map]
  exact sound.distinct.getElem_inj_iff.mp equal

/-- The names in a list of positions are where the positions are. -/
theorem idxOf_map_nameAt (sound : Sound graph) {positions : List Nat}
    (inside : ∀ position ∈ positions, position < graph.size)
    {position : Nat} (within : position < graph.size) :
    (positions.map graph.nameAt).idxOf (graph.nameAt position) = positions.idxOf position := by
  induction positions with
  | nil => rfl
  | cons first rest ih =>
    have others := ih fun other member => inside other (List.mem_cons_of_mem _ member)
    by_cases same : first = position
    · rw [same, List.map_cons, List.idxOf_cons_self, List.idxOf_cons_self]
    · have named : graph.nameAt first ≠ graph.nameAt position :=
        fun equal => same (sound.nameAt_inj (inside first List.mem_cons_self) within equal)
      rw [List.map_cons, List.idxOf_cons_ne _ named, List.idxOf_cons_ne _ same, others]

/-- The names of positions in topological order are a compilation order. -/
theorem orders (sound : Sound graph) {positions : List Nat}
    (topological : graph.Topological positions) : graph.Orders (positions.map graph.nameAt) := by
  have inside : ∀ position, position ∈ positions ↔ position < graph.size := by
    intro position
    rw [topological.all.mem_iff, List.mem_range]
  have placed := fun position => (inside position).mp
  refine ⟨?_, ?_, ?_⟩
  · have once : positions.Nodup := topological.all.nodup_iff.mpr List.nodup_range
    exact once.map_on fun _ member _ member' =>
      sound.nameAt_inj (placed _ member) (placed _ member')
  · intro name
    simp only [isSome_get?_iff, List.mem_map, inside]
  · intro name dependency member
    -- A name without a position has no dependencies.
    unfold dependencies at member
    split at member
    · cases member
    · rename_i consumer found
      obtain ⟨within, rfl⟩ := nameAt_of_position? found
      obtain ⟨operand, fed, rfl⟩ := List.mem_map.mp member
      have edge : (operand, consumer) ∈ graph.edges := by simpa [sources] using fed
      rw [sound.idxOf_map_nameAt placed (sound.inside edge).1,
        sound.idxOf_map_nameAt placed within]
      exact topological.forward _ edge

end Sound

/--
Graphs that insertions make have no cycles. They are valid, and their order is a compilation order,
as is every other topological order of them.

Each insertion goes on with the graph that the one before it has left, even if that one has failed.
-/
theorem orders_insertInTurn (sharing : Sharing) (plans : List Plan) :
    (∀ position, ¬ (insertInTurn sharing plans).Leads position position) ∧
      (insertInTurn sharing plans).validate = .ok () ∧
      (∃ names, (insertInTurn sharing plans).compilationOrder = .ok names ∧
        (insertInTurn sharing plans).Orders names) ∧
      ∀ positions, (insertInTurn sharing plans).Topological positions →
        (insertInTurn sharing plans).Orders
          (positions.map (insertInTurn sharing plans).nameAt) := by
  have sound := sound_insertInTurn sharing plans
  exact ⟨sound.not_leads, sound.validate,
    ⟨_, sound.compilationOrder, sound.orders sound.topological_walkAll⟩,
    fun _ topological => sound.orders topological⟩

end PlanGraph

end TestPlan
