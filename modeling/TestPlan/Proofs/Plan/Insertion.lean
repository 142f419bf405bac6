import Mathlib.Data.List.Nodup
import Mathlib.Logic.Relation
import TestPlan.Demo.Plans
import TestPlan.Plan.Graph
import TestPlan.Proofs.Plan.Nesting
import TestPlan.Proofs.Runs

/-! What inserting plans does to a graph of names, whether it succeeds or stops half way. -/

namespace TestPlan

/-- A refusal of plans under other names. -/
def PlanGraphError.map (names : String → String) : PlanGraphError → PlanGraphError
  | .nameConflict name => .nameConflict (names name)
  | .cycle name => .cycle (names name)

namespace Sharing

variable {sharing : Sharing} {meeting : Nat} {indexed plan : Plan}

/-- What passes for an indexed plan is linked to it. -/
theorem linked_of_accepts (accepted : sharing.accepts meeting indexed plan = true) :
    indexed.Linked plan := by
  rcases Bool.or_eq_true_iff.mp accepted with shared | same
  · exact sharing.identical shared ▸ .refl indexed
  · exact .step same (.refl plan)

/-- What does not pass for an indexed plan differs from it. -/
theorem not_same_of_accepts (refused : sharing.accepts meeting indexed plan = false) :
    indexed.same plan = false :=
  (Bool.or_eq_false_iff.mp refused).2

/-- Without sharing only equal plans pass for each other. -/
@[simp] theorem accepts_none : Sharing.none.accepts meeting indexed plan = indexed.same plan :=
  Bool.false_or _

end Sharing

/-- All literals of one name and value are one in memory. -/
def Demo.literalsShared : Sharing where
  shares
    | _, .mk name (.primitive value), .mk name' (.primitive value') =>
      name == name' && value == value'
    | _, _, _ => false
  identical {_ indexed plan} shared := by
    split at shared
    · simp_all
    · cases shared

namespace PlanGraph

variable {sharing : Sharing}

/-! ### Operands in order -/

/-- Operands are inserted one list after the other. -/
theorem insertOperands_append (node : Nat) (plans others : List Plan) :
    insertOperands sharing node (plans ++ others)
      = insertOperands sharing node plans >>= fun _ => insertOperands sharing node others := by
  induction plans with
  | nil => simp [insertOperands]
  | cons plan rest ih => simp [insertOperands, ih]

/-- An optional operand is inserted like the operands of a list. -/
theorem insertOptional_eq (node : Nat) (plan : Option Plan) :
    insertOptional sharing node plan = insertOperands sharing node plan.toList := by
  cases plan <;> simp [insertOptional, insertOperands]

/-- A direct step is inserted by inserting its operands in order. -/
theorem insertAction_eq (node : Nat) (step : Action) :
    insertAction sharing node step = insertOperands sharing node step.operands := by
  cases step <;> simp [insertAction, Action.operands, insertOperands, insertOperands_append,
    insertOptional_eq]

/-- A reflective step is inserted by inserting its operands in order. -/
theorem insertReflectiveAction_eq (node : Nat) (step : ReflectiveAction) :
    insertReflectiveAction sharing node step = insertOperands sharing node step.operands := by
  cases step <;> simp [insertReflectiveAction, ReflectiveAction.operands, insertOperands]

/-- A kind is inserted by inserting its operands in order. -/
theorem insertKind_eq (node : Nat) (kind : PlanKind) :
    insertKind sharing node kind = insertOperands sharing node kind.operands := by
  -- Steps come one after the other, each with its own operands, and leaves have none.
  cases kind with
  | actions steps =>
    simp only [insertKind, PlanKind.operands]
    induction steps with
    | nil => rfl
    | cons step rest ih =>
      simp only [insertActions, insertAction_eq, ih, List.flatMap_cons, insertOperands_append]
  | reflection steps =>
    simp only [insertKind, PlanKind.operands]
    induction steps with
    | nil => rfl
    | cons step rest ih =>
      simp only [insertReflectiveActions, insertReflectiveAction_eq, ih, List.flatMap_cons,
        insertOperands_append]
  | testCall call =>
    obtain ⟨method, receiver, args⟩ := call
    simp only [insertKind, PlanKind.operands, TestCall.operands, insertTestCall,
      insertOptional_eq, insertOperands_append]
  | primitive _ | text _ | mock _ | unknown _ => rfl

/-! ### One plan -/

/-- A name that the graph does not find is the name of no node. -/
theorem name_fresh (graph : PlanGraph) {name : String}
    (absent : graph.position? name = none ∨ graph.get? name = none) :
    name ∉ graph.nodes.map Plan.name := by
  intro member
  obtain ⟨node, inside, same⟩ := List.mem_map.mp member
  -- A node of the name would be found, and so would its position.
  rcases absent with absent | absent
  · rw [position?, List.findIdx?_eq_none_iff] at absent
    simpa [same] using absent node inside
  · rw [get?, List.find?_eq_none] at absent
    simpa [same] using absent node inside

/-- What is found under a name is a plan of that name. -/
theorem mem_of_get? {graph : PlanGraph} {name : String} {node : Plan}
    (found : graph.get? name = some node) : node ∈ graph.nodes ∧ node.name = name := by
  have named := List.find?_some found
  exact ⟨List.mem_of_find?_eq_some found, beq_iff_eq.mp named⟩

/-- A name has a position in a graph when it has a plan there. -/
theorem exists_position (graph : PlanGraph) {name : String} {node : Plan}
    (found : graph.get? name = some node) :
    ∃ position, graph.position? name = some position ∧ graph.nodes[position]? = some node := by
  obtain ⟨member, named⟩ := mem_of_get? found
  cases sought : graph.position? name with
  | none => exact absurd named (by simpa using List.findIdx?_eq_none_iff.mp sought node member)
  | some position =>
    refine ⟨position, rfl, ?_⟩
    -- Both look for the first plan of the name.
    rw [← found, get?, List.find?_eq_getElem?_findIdx]
    rw [position?, List.findIdx?_eq_some_iff_findIdx_eq] at sought
    rw [sought.2]

/-- A graph with one more plan. -/
def extend (graph : PlanGraph) (plan : Plan) : PlanGraph :=
  { graph with nodes := graph.nodes ++ [plan] }

/-- The plan that is added last has the next position. -/
theorem getElem?_extend (graph : PlanGraph) (plan : Plan) :
    (graph.extend plan).nodes[graph.size]? = some plan := by
  simp [extend, size]

/-- A graph that has met one more plan of an indexed name. -/
def again (graph : PlanGraph) : PlanGraph :=
  { graph with meetings := graph.meetings + 1 }

/-- A meeting adds no plan. -/
@[simp] theorem nodes_again (graph : PlanGraph) : graph.again.nodes = graph.nodes :=
  rfl

/-- How the insertion of a plan goes on. -/
inductive Inserts (sharing : Sharing) (plan : Plan) (graph : PlanGraph) : Prop
  /-- The plan itself or an equal one is there already. -/
  | found {position : Nat} {node : Plan} : graph.nodes[position]? = some node →
      node.Linked plan → insert sharing plan graph = .ok position graph.again →
        Inserts sharing plan graph
  /-- The name is taken by another plan. -/
  | refused {node : Plan} : node ∈ graph.nodes → node.name = plan.name → node.same plan = false →
      insert sharing plan graph = .error (.nameConflict plan.name) graph.again →
        Inserts sharing plan graph
  /-- The plan is new, and its operands are inserted after it. -/
  | added : plan.name ∉ graph.nodes.map Plan.name →
      insert sharing plan graph = (insertOperands sharing graph.size plan.operands >>=
        fun _ => return graph.size) (graph.extend plan) → Inserts sharing plan graph

/-- A plan is found, refused or added. -/
theorem inserts (sharing : Sharing) (plan : Plan) (graph : PlanGraph) :
    Inserts sharing plan graph := by
  obtain ⟨name, kind⟩ := plan
  cases found : graph.get? name with
  | none =>
    refine .added (graph.name_fresh (.inr found)) ?_
    -- Without a plan of the name it does not matter what its position is.
    cases sought : graph.position? name <;>
      simp only [insert, get_bind, sought, found, insertKind_eq] <;> rfl
  | some node =>
    obtain ⟨position, sought, inside⟩ := graph.exists_position found
    cases accepted : sharing.accepts graph.meetings node (.mk name kind) with
    | true =>
      refine .found inside (Sharing.linked_of_accepts accepted) ?_
      simp only [insert, get_bind, sought, found, accepted, if_true]
      rfl
    | false =>
      obtain ⟨member, named⟩ := mem_of_get? found
      refine .refused member named (Sharing.not_same_of_accepts accepted) ?_
      simp only [insert, get_bind, sought, found, accepted, Bool.false_eq_true, if_false]
      rfl

-- A number that equals nothing may be met twice only when it is shared.
example : (ofRoots .none [Demo.undefinedNumber "u", Demo.undefinedNumber "u"]).isOk = false ∧
    (ofRoots Demo.literalsShared
      [Demo.undefinedNumber "u", Demo.undefinedNumber "u"]).isOk = true := by
  decide +kernel

/-! ### Step by step -/

/-- A plan that feeds another one: it equals one of the operands of the other plan. -/
def Feeds (graph : PlanGraph) (operand consumer : Nat) : Prop :=
  ∃ node reader, graph.nodes[operand]? = some node ∧ graph.nodes[consumer]? = some reader ∧
    ∃ plan ∈ reader.operands, node.Linked plan

/-- One thing that insertions do to a graph. -/
inductive Change : PlanGraph → PlanGraph → Prop
  /-- A plan of a new name is indexed. -/
  | add {graph : PlanGraph} {plan : Plan} : plan.name ∉ graph.nodes.map Plan.name →
      Change graph (graph.extend plan)
  /-- An operand is linked to its consumer. -/
  | link {graph : PlanGraph} {operand consumer : Nat} : graph.Feeds operand consumer →
      (operand, consumer) ∉ graph.edges →
        Change graph { graph with edges := (operand, consumer) :: graph.edges }
  /-- A plan of an indexed name is met. -/
  | meet {graph : PlanGraph} : Change graph graph.again

/-- What insertions do to a graph, one thing after the other. -/
abbrev Changes : PlanGraph → PlanGraph → Prop :=
  Relation.ReflTransGen Change

variable {before after : PlanGraph}

/-- Plans keep their positions. -/
theorem Changes.prefix_nodes (changes : Changes before after) : before.nodes <+: after.nodes := by
  induction changes with
  | refl => exact List.prefix_refl _
  | tail _ change ih =>
    cases change with
    | add _ => exact ih.trans (List.prefix_append _ _)
    | link _ _ | meet => exact ih

/-- The plan at a position stays there. -/
theorem Changes.getElem?_nodes (changes : Changes before after) {position : Nat} {node : Plan}
    (found : before.nodes[position]? = some node) : after.nodes[position]? = some node := by
  obtain ⟨inside, -⟩ := List.getElem?_eq_some_iff.mp found
  obtain ⟨more, grown⟩ := changes.prefix_nodes
  rwa [← grown, List.getElem?_append_left inside]

/-- An edge stays. -/
theorem Changes.subset_edges (changes : Changes before after) : before.edges ⊆ after.edges := by
  induction changes with
  | refl => exact fun _ => id
  | tail _ change ih =>
    cases change with
    | add _ | meet => exact ih
    | link _ _ => exact List.Subset.trans ih (List.subset_cons_self _ _)

section Operands

variable {graph middle linked : PlanGraph} {consumer position : Nat} {plan : Plan}
  {rest : List Plan}

/-- A link is always laid. -/
theorem exists_link (position consumer : Nat) (middle : PlanGraph) :
    ∃ linked, link position consumer middle = .ok () linked :=
  ⟨_, rfl⟩

/-- A link keeps the plans. -/
theorem nodes_of_link (laid : link position consumer middle = .ok () linked) :
    linked.nodes = middle.nodes := by
  cases laid
  dsimp only
  split <;> rfl

/-- An operand is linked to its consumer, unless it is linked already. -/
theorem link_changes (laid : link position consumer middle = .ok () linked)
    (feeds : middle.Feeds position consumer) :
    Changes middle linked ∧ (position, consumer) ∈ linked.edges := by
  cases laid
  by_cases present : (position, consumer) ∈ middle.edges
  · simp [present, Relation.ReflTransGen.refl]
  · simp [present, Relation.ReflTransGen.single (Change.link feeds present)]

/-- When an operand cannot be inserted, those after it are not inserted either. -/
theorem insertOperands_of_error {error : PlanGraphError}
    (failed : insert sharing plan graph = .error error middle) :
    insertOperands sharing consumer (plan :: rest) graph = .error error middle := by
  simp only [insertOperands, feed, bind_assoc, bind_of_error failed]

/-- When an operand has been inserted and linked, those after it are inserted. -/
theorem insertOperands_of_ok (ran : insert sharing plan graph = .ok position middle)
    (laid : link position consumer middle = .ok () linked) :
    insertOperands sharing consumer (plan :: rest) graph
      = insertOperands sharing consumer rest linked := by
  simp only [insertOperands, feed, bind_assoc, bind_of_ok ran, bind_of_ok laid]

end Operands

/-- A plan that is added leaves the graph as the insertion of its operands leaves it. -/
theorem endState_of_added {plan : Plan} {graph added : PlanGraph} {node : Nat}
    (ran : insert sharing plan graph
      = (insertOperands sharing node plan.operands >>= fun _ => return node) added) :
    endState (insert sharing plan) graph
      = endState (insertOperands sharing node plan.operands) added := by
  calc endState (insert sharing plan) graph
      = endState (insertOperands sharing node plan.operands >>= fun _ => return node) added := by
        simp only [endState, ran]
    _ = endState (insertOperands sharing node plan.operands) added := endState_bind_pure

/-- What inserting a plan does: changes, and on success the position is that of an equal plan. -/
def InsertChanges (sharing : Sharing) (plan : Plan) : Prop :=
  ∀ graph, Changes graph (endState (insert sharing plan) graph) ∧
    ∀ position after, insert sharing plan graph = .ok position after →
      ∃ node, after.nodes[position]? = some node ∧ node.Linked plan

/-- Operands are inserted and linked by changes, if each of them is inserted by changes. -/
theorem insertOperands_changes {plans : List Plan}
    (each : ∀ plan ∈ plans, InsertChanges sharing plan) {consumer : Nat} {reader : Plan}
    {graph : PlanGraph} (found : graph.nodes[consumer]? = some reader)
    (operands : plans ⊆ reader.operands) :
    Changes graph (endState (insertOperands sharing consumer plans) graph) := by
  induction plans generalizing graph with
  | nil => exact .refl
  | cons plan rest ih =>
    obtain ⟨changes, result⟩ := each plan List.mem_cons_self graph
    cases ran : insert sharing plan graph with
    | error error middle =>
      -- What has been done before the refusal is not undone.
      rwa [endState_of_error (insertOperands_of_error ran), ← endState_of_error ran]
    | ok position middle =>
      rw [endState_of_ok ran] at changes
      obtain ⟨node, placed, linked⟩ := result position middle ran
      -- The consumer has been in its place since before the operand was inserted.
      have feeds : middle.Feeds position consumer :=
        ⟨node, reader, placed, changes.getElem?_nodes found, plan, operands List.mem_cons_self,
          linked⟩
      obtain ⟨after, laid⟩ := exists_link position consumer middle
      have changes' := (link_changes laid feeds).1
      have all : Changes graph after := changes.trans changes'
      have others := ih (fun plan member => each plan (List.mem_cons_of_mem _ member))
        (all.getElem?_nodes found) fun plan member => operands (List.mem_cons_of_mem _ member)
      simp only [endState, insertOperands_of_ok ran laid]
      exact all.trans others

/-- A plan is inserted by changes, whether this succeeds or stops half way. -/
theorem insert_changes (sharing : Sharing) (plan : Plan) : InsertChanges sharing plan := by
  -- The induction is on the plan, whose operands are inserted in the same way.
  induction plan using Plan.induction_operands with
  | step plan ih =>
    intro graph
    cases inserts sharing plan graph with
    | found placed linked ran =>
      rw [endState_of_ok ran, ran]
      refine ⟨.single .meet, ?_⟩
      rintro _ _ ⟨⟩
      exact ⟨_, placed, linked⟩
    | refused _ _ _ ran =>
      rw [endState_of_error ran, ran]
      exact ⟨.single .meet, nofun⟩
    | added fresh ran =>
      -- The plan is in its place before its operands are inserted, and stays there.
      have placed := graph.getElem?_extend plan
      have changes := insertOperands_changes ih placed (List.Subset.refl _)
      refine ⟨?_, fun position after inserted => ?_⟩
      · rw [endState_of_added ran]
        exact .head (.add fresh) changes
      · rw [ran] at inserted
        obtain ⟨_, _, operands, ⟨⟩⟩ := bind_eq_ok_iff.mp inserted
        rw [endState_of_ok operands] at changes
        exact ⟨plan, changes.getElem?_nodes placed, .refl plan⟩

/-! ### Names and edges -/

/-- What is true of every graph that insertions make, whether or not they succeed. -/
structure Sound (graph : PlanGraph) : Prop where
  /-- A name is the name of one plan. -/
  distinct : (graph.nodes.map Plan.name).Nodup
  /-- An edge is there once. -/
  simple : graph.edges.Nodup
  /-- An edge leads from an operand to its consumer. -/
  feeds : ∀ edge ∈ graph.edges, graph.Feeds edge.1 edge.2

/-- What feeds a plan goes on feeding it. -/
theorem Feeds.mono {operand consumer : Nat} (feeds : before.Feeds operand consumer)
    (change : Change before after) : after.Feeds operand consumer := by
  obtain ⟨node, reader, source, target, linked⟩ := feeds
  have changes : Changes before after := .single change
  exact ⟨node, reader, changes.getElem?_nodes source, changes.getElem?_nodes target, linked⟩

namespace Sound

/-- Nothing is wrong with the empty graph. -/
theorem empty : Sound {} where
  distinct := .nil
  simple := .nil
  feeds _ member := by cases member

/-- A change keeps a graph sound. -/
theorem change (sound : Sound before) (change : Change before after) : Sound after := by
  have feeds : ∀ edge ∈ before.edges, after.Feeds edge.1 edge.2 :=
    fun edge member => (sound.feeds edge member).mono change
  cases change with
  | add fresh =>
    refine ⟨?_, sound.simple, feeds⟩
    rw [extend, List.map_append, List.nodup_append]
    refine ⟨sound.distinct, List.nodup_singleton _, ?_⟩
    rintro name member _ new rfl
    cases List.mem_singleton.mp new
    exact fresh member
  -- An edge is laid only when it is not there yet.
  | link fed absent =>
    refine ⟨sound.distinct, List.nodup_cons.mpr ⟨absent, sound.simple⟩, ?_⟩
    intro edge member
    rcases List.mem_cons.mp member with rfl | old
    · exact fed
    · exact feeds edge old
  | meet => exact ⟨sound.distinct, sound.simple, feeds⟩

/-- Changes keep a graph sound. -/
theorem changes (sound : Sound before) (changes : Changes before after) : Sound after := by
  induction changes with
  | refl => exact sound
  | tail _ last ih => exact ih.change last

end Sound

/-- The graph that insertions make of the empty one, each going on where the last one stopped. -/
def insertInTurn (sharing : Sharing) (plans : List Plan) : PlanGraph :=
  plans.foldl (fun graph plan => endState (insert sharing plan) graph) {}

/-- Insertions make a sound graph, whether or not they succeed. -/
theorem sound_insertInTurn (sharing : Sharing) (plans : List Plan) :
    Sound (insertInTurn sharing plans) := by
  -- The induction is on the plans, over every graph that those before them may leave.
  suffices run : ∀ graph, Sound graph →
      Sound (plans.foldl (fun graph plan => endState (insert sharing plan) graph) graph) from
    run {} .empty
  induction plans with
  | nil => exact fun _ => id
  | cons plan rest ih =>
    exact fun graph sound => ih _ (sound.changes (insert_changes sharing plan graph).1)

end PlanGraph

end TestPlan
