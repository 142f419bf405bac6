import TestPlan.Plan.Equality

/-! The graph of plan names: every plan once, with an edge from each operand to its consumer. -/

namespace TestPlan

/--
Where plans lie in memory. Consumers may share a plan, so that the plan that is indexed is met
itself, and not only one that equals it. This is asked at every meeting anew. The contents of plans
do not decide it; they only are the same when it is so.
-/
structure Sharing where
  /-- Whether what is met is the indexed plan itself, by the number of the meeting. -/
  shares (meeting : Nat) (indexed plan : Plan) : Bool
  identical {meeting : Nat} {indexed plan : Plan} : shares meeting indexed plan = true →
    indexed = plan

namespace Sharing

/-- Every plan has its own place in memory, as when each is read from a text. -/
def none : Sharing where
  shares _ _ _ := false
  identical := nofun

/-- Whether a plan passes for the indexed one: it is that plan itself, or equals it. -/
def accepts (sharing : Sharing) (meeting : Nat) (indexed plan : Plan) : Bool :=
  sharing.shares meeting indexed plan || indexed.same plan

end Sharing

/-- Plans in the order they were indexed, and edges between their positions, newest first. -/
structure PlanGraph where
  nodes : List Plan := []
  /-- Pairs of an operand and the plan that consumes it. -/
  edges : List (Nat × Nat) := []
  /-- How many plans of indexed names were met, which only tells the meetings apart. -/
  meetings : Nat := 0

/-- Why plans do not form a graph. -/
inductive PlanGraphError where
  /-- Two distinct plans have one name. -/
  | nameConflict (name : String)
  /-- A plan is among its own operands at some depth. -/
  | cycle (name : String)
  deriving DecidableEq, Repr

/-- The wording of a refusal. -/
def PlanGraphError.message : PlanGraphError → String
  | .nameConflict name => "plan name `" ++ name ++ "` is used by more than one distinct plan"
  | .cycle name => "plan `" ++ name ++ "` depends on itself"

namespace PlanGraph

/-- The number of plans indexed. -/
def size (graph : PlanGraph) : Nat :=
  graph.nodes.length

/-- The position of the plan with a name. -/
def position? (graph : PlanGraph) (name : String) : Option Nat :=
  graph.nodes.findIdx? (·.name == name)

/-- The plan indexed under a name. -/
def get? (graph : PlanGraph) (name : String) : Option Plan :=
  graph.nodes.find? (·.name == name)

/-- The name of the plan at a position. -/
def nameAt (graph : PlanGraph) (position : Nat) : String :=
  (graph.nodes[position]?.map Plan.name).getD ""

/-- A change of a graph, which may stop half way and keeps what it has done. -/
abbrev Build := EStateM PlanGraphError PlanGraph

/-- Indexes a plan at the next position. -/
def add (plan : Plan) : Build Nat := do
  let graph ← get
  set { graph with nodes := graph.nodes ++ [plan] }
  return graph.size

/-- Adds an edge unless it is there already. -/
def link (operand consumer : Nat) : Build Unit :=
  modify fun graph =>
    if graph.edges.contains (operand, consumer) then graph
    else { graph with edges := (operand, consumer) :: graph.edges }

/-- Counts one more meeting with a plan of an indexed name. -/
def meet : Build Unit :=
  modify fun graph => { graph with meetings := graph.meetings + 1 }

/-- Indexes an operand and links it to its consumer. -/
def feed (consumer : Nat) (index : Build Nat) : Build Unit := do
  link (← index) consumer

section Insertion

variable (sharing : Sharing)

mutual

/-- Indexes a plan and, unless a plan that it passes for has its name, all it consumes. -/
def insert : Plan → Build Nat
  | .mk name kind => do
    let graph ← get
    match graph.position? name, graph.get? name with
    | some position, some indexed =>
      meet
      -- A plan with an undefined number in it does not equal itself, but it may be shared.
      if sharing.accepts graph.meetings indexed (.mk name kind) then return position
      else throw (.nameConflict name)
    | _, _ =>
      -- The plan is indexed before its operands are looked at.
      let node ← add (.mk name kind)
      insertKind node kind
      return node

/-- Indexes the operands of a kind and links them to their consumer. -/
def insertKind (node : Nat) : PlanKind → Build Unit
  | .actions steps => insertActions node steps
  | .reflection steps => insertReflectiveActions node steps
  | .testCall call => insertTestCall node call
  | .primitive _
  | .text _
  | .mock _
  | .unknown _ => return ()

/-- Indexes and links the operands of direct steps. -/
def insertActions (node : Nat) : List Action → Build Unit
  | [] => return ()
  | step :: rest => do
    insertAction node step
    insertActions node rest

/-- Indexes and links the operands of reflective steps. -/
def insertReflectiveActions (node : Nat) : List ReflectiveAction → Build Unit
  | [] => return ()
  | step :: rest => do
    insertReflectiveAction node step
    insertReflectiveActions node rest

/-- Indexes and links the operands of a direct step. -/
def insertAction (node : Nat) : Action → Build Unit
  | .arrayWrite index value => do
    feed node (insert index)
    feed node (insert value)
  | .constructorCall _ args
  | .externalConstructorCall _ args
  | .methodCall _ args
  | .staticMethodCall _ args => insertOperands node args
  | .innerClassConstructorCall _ outer args => do
    feed node (insert outer)
    insertOperands node args
  | .externalMethodCall _ receiver args => do
    insertOptional node receiver
    insertOperands node args
  | .fieldGetter receiver _ => feed node (insert receiver)
  | .fieldSetter _ value
  | .staticFieldSetter _ value => feed node (insert value)
  | .newArray _ length => feed node (insert length)
  | .newArrayWithInitializer _ elements => insertOperands node elements
  | .arrayClassConstantGetter elementType => feed node (insert elementType)
  | .defaultConstructorCall _
  | .enumValueCreation _ _
  | .staticFieldGetter _
  | .classConstantGetter _ => return ()

/-- Indexes and links the operands of a reflective step. -/
def insertReflectiveAction (node : Nat) : ReflectiveAction → Build Unit
  | .newInstance _
  | .getStaticField _ => return ()
  | .newArray _ length => feed node (insert length)
  | .arrayWrite index value => do
    feed node (insert index)
    feed node (insert value)
  | .arrayRead array index _ => do
    feed node (insert array)
    feed node (insert index)
  | .setField _ value
  | .setStaticField _ value => feed node (insert value)
  | .getField receiver _ => feed node (insert receiver)

/-- Indexes and links the operands of a test call. -/
def insertTestCall (node : Nat) : TestCall → Build Unit
  | .mk _ receiver args => do
    insertOptional node receiver
    insertOperands node args

/-- Indexes and links operands in order. -/
def insertOperands (node : Nat) : List Plan → Build Unit
  | [] => return ()
  | operand :: rest => do
    feed node (insert operand)
    insertOperands node rest

/-- Indexes and links an operand that may be absent. -/
def insertOptional (node : Nat) : Option Plan → Build Unit
  | none => return ()
  | some operand => feed node (insert operand)

end

/-- Indexes plans in order. -/
def insertAll : List Plan → Build Unit
  | [] => return ()
  | plan :: rest => do
    let _ ← insert sharing plan
    insertAll rest

/-- The graph of all plans reachable from the roots. -/
def ofRoots (roots : List Plan) : Except PlanGraphError PlanGraph :=
  match insertAll sharing roots {} with
  | .ok () graph => .ok graph
  | .error error _ => .error error

end Insertion

/-! ### Edges and orders -/

/-- The positions that a plan consumes, by the newest edge first. -/
def sources (graph : PlanGraph) (consumer : Nat) : List Nat :=
  (graph.edges.filter (·.2 == consumer)).map (·.1)

/-- The positions that consume a plan, by the newest edge first. -/
def consumers (graph : PlanGraph) (operand : Nat) : List Nat :=
  (graph.edges.filter (·.1 == operand)).map (·.2)

/-- The names of the plans that a plan consumes, by the newest edge first. -/
def dependencies (graph : PlanGraph) (name : String) : List String :=
  match graph.position? name with
  | none => []
  | some position => (graph.sources position).map graph.nameAt

/-- What a depth-first walk has met and finished, the latest first. -/
structure Walk where
  discovered : List Nat := []
  finished : List Nat := []

/-- The positions that a walk has not met. -/
def unmet (graph : PlanGraph) (discovered : List Nat) : List Nat :=
  (List.range graph.size).filter (! discovered.contains ·)

/-- Meeting a position of the graph leaves fewer to meet. -/
theorem length_unmet_cons_lt (graph : PlanGraph) {discovered : List Nat} {position : Nat}
    (inside : position < graph.size) (fresh : position ∉ discovered) :
    (graph.unmet (position :: discovered)).length < (graph.unmet discovered).length := by
  -- What is unmet afterwards is the unmet part of what was unmet before.
  have split : graph.unmet (position :: discovered)
      = (graph.unmet discovered).filter (· != position) := by
    simp only [unmet, List.filter_filter]
    exact List.filter_congr fun other _ => by by_cases same : other = position <;> simp [same]
  rw [split, List.length_filter_lt_length_iff_exists]
  exact ⟨position, by simp [unmet, inside, fresh], by simp⟩

/-- Walks the graph from a stack of positions towards their consumers. -/
def walk (graph : PlanGraph) (state : Walk) : List Nat → Walk
  | [] => state
  | position :: below =>
    if _fresh : position < graph.size ∧ position ∉ state.discovered then
      -- The position stays on the stack below the consumers that are still unmet.
      let discovered := position :: state.discovered
      let next := (graph.consumers position).filter (! discovered.contains ·)
      walk graph { state with discovered } (next.reverse ++ position :: below)
    else if state.finished.contains position then walk graph state below
    else walk graph { state with finished := position :: state.finished } below
termination_by stack => ((graph.unmet state.discovered).length, stack.length)
decreasing_by
  · exact Prod.Lex.left _ _ (graph.length_unmet_cons_lt _fresh.1 _fresh.2)
  · exact Prod.Lex.right _ (by simp)
  · exact Prod.Lex.right _ (by simp)

/-- Walks the graph from each position that an earlier walk has not met. -/
def walkAll (graph : PlanGraph) : Walk :=
  (List.range graph.size).foldl (fun state position =>
    if state.discovered.contains position then state else graph.walk state [position]) {}

/--
An order in which every edge points forward, if there is one: the reversed order in which a
depth-first walk finishes the plans.
-/
def compilationOrder (graph : PlanGraph) : Except PlanGraphError (List String) :=
  -- A position finishes after all that consume it, so the latest to finish comes first.
  let order := graph.walkAll.finished
  let backward := graph.edges.find? fun edge => order.idxOf edge.2 ≤ order.idxOf edge.1
  match backward with
  | none => .ok (order.map graph.nameAt)
  | some edge => .error (.cycle (graph.nameAt edge.2))

/-- Checks that no plan consumes itself. -/
def validate (graph : PlanGraph) : Except PlanGraphError Unit := do
  let _ ← graph.compilationOrder

end PlanGraph

end TestPlan
