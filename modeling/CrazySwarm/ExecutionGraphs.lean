import CrazySwarm.RoutePlanning
import CrazySwarm.Lib.Digraphs

/-! Mission intents and the execution graphs compiled from them: phases and transitions become nodes
and edges once every role has a route and the phases are reached without a cycle. -/
namespace CrazySwarm
namespace ExecutionGraphs
open PyFloat

variable {F : Type} [PyMath F]

inductive TransitionKind where
  | complete | hold | resume | replan | retry | handover | returnHome | land | abort
  deriving DecidableEq, Repr

inductive RecoveryAction where
  | hold | replan | returnHome | handover | land | abortAndLand | emergencyStop
  deriving DecidableEq, Repr

/-- What the compiler reads of a `MissionSafetyDeclaration`. -/
structure MissionSafetyDeclaration where
  allowedRecoveryActions : List RecoveryAction
  deriving DecidableEq, Repr

/-- `str = Field(min_length=1, max_length=500)`. -/
def isObjective (text : String) : Bool := 1 ≤ text.length && text.length ≤ 500

structure IntentPhaseData (F : Type) where
  phaseId : String
  objective : String
  roleIds : List String
  routeCapability : RouteCapability
  completionConditions : List String
  maximumDurationS : F
  checkpointRequired : Bool := false
  deriving DecidableEq, Repr

/-- The field checks and `complete_and_owned`. -/
def IntentPhaseData.validate (data : IntentPhaseData F) : Except (Fault F) Unit := do
  validated "IntentPhase"
    [("phase_id", isIdentifier data.phaseId),
     ("objective", isObjective data.objective),
     ("role_ids", data.roleIds.all isIdentifier),
     ("maximum_duration_s", gt data.maximumDurationS zero)] ()
  require (!data.roleIds.isEmpty) (.value "intent phase requires at least one role")
  require (!data.completionConditions.isEmpty)
    (.value "intent phase requires completion conditions")

structure IntentPhase (F : Type) [PyMath F] extends IntentPhaseData F where
  valid : toIntentPhaseData.validate = .ok ()

structure IntentTransitionData where
  transitionId : String
  fromPhaseId : String
  kind : TransitionKind
  toPhaseId : Option String := none
  maximumRetries : Nat := 0
  recoveryAction : Option RecoveryAction := none
  deriving DecidableEq, Repr

/-- The field checks and `bounded_retry`. -/
def IntentTransitionData.validate (F : Type) (data : IntentTransitionData) :
    Except (Fault F) Unit := do
  validated "IntentTransition"
    [("transition_id", isIdentifier data.transitionId),
     ("from_phase_id", isIdentifier data.fromPhaseId),
     ("to_phase_id", data.toPhaseId.all isIdentifier),
     ("maximum_retries", decide (data.maximumRetries ≤ 10))] ()
  require (!(data.kind == .retry && data.maximumRetries < 1))
    (.value "retry transition requires a positive retry bound")
  require (!(data.kind != .retry && data.maximumRetries != 0))
    (.value "retry bound is only valid for retry transitions")

structure IntentTransition (F : Type) extends IntentTransitionData where
  valid : toIntentTransitionData.validate F = .ok ()

structure MissionIntentData (F : Type) [PyMath F] where
  intentId : String
  missionId : String
  objective : String
  successCriteria : List String
  roleIds : List String
  phases : List (IntentPhase F)
  entryPhaseId : String
  transitions : List (IntentTransition F)
  safetyDeclaration : MissionSafetyDeclaration

namespace MissionIntentData

def phaseIds (data : MissionIntentData F) : List String := data.phases.map fun phase => phase.phaseId

def unknownRoles (data : MissionIntentData F) : List String :=
  Sorting.sortBy id
    ((data.phases.flatMap fun phase => phase.roleIds).filter (· ∉ data.roleIds)).dedup

def printed (ids : List String) : String :=
  "[" ++ ", ".intercalate (ids.map fun id => "\x27" ++ id ++ "\x27") ++ "]"

/-- The field checks and `valid_shape`. -/
def validate (data : MissionIntentData F) : Except (Fault F) Unit := do
  validated "MissionIntent"
    [("intent_id", isIdentifier data.intentId),
     ("mission_id", isIdentifier data.missionId),
     ("objective", isObjective data.objective),
     ("role_ids", data.roleIds.all isIdentifier),
     ("entry_phase_id", isIdentifier data.entryPhaseId)] ()
  require (!data.successCriteria.isEmpty) (.value "mission intent requires success criteria")
  require (decide data.roleIds.Nodup) (.value "mission intent role identities must be unique")
  require (decide data.phaseIds.Nodup) (.value "mission intent phase identities must be unique")
  require (decide (data.entryPhaseId ∈ data.phaseIds))
    (.value "mission intent entry phase is missing")
  require data.unknownRoles.isEmpty
    (.value ("intent phases reference unknown roles: " ++ printed data.unknownRoles))

end MissionIntentData

structure MissionIntent (F : Type) [PyMath F] extends MissionIntentData F where
  valid : toMissionIntentData.validate = .ok ()

/-- What the compiler reads of a `RoutePlanArtifact`. -/
structure CompiledRoute where
  roleId : String
  routeSha256 : String
  digest : isSha256 routeSha256 = true

structure ExecutionNode (F : Type) where
  nodeId : String
  phaseId : String
  roleIds : List String
  routeSha256s : List String
  maximumDurationS : F
  completionConditions : List String
  deriving DecidableEq, Repr

/-- The constructor of `ExecutionNode`. -/
def ExecutionNode.make (node : ExecutionNode F) : Except (Fault F) (ExecutionNode F) :=
  validated "ExecutionNode"
    [("node_id", isIdentifier node.nodeId),
     ("phase_id", isIdentifier node.phaseId),
     ("role_ids", node.roleIds.all isIdentifier),
     ("route_sha256s", node.routeSha256s.all isSha256),
     ("maximum_duration_s", gt node.maximumDurationS zero)] node

structure ExecutionEdge where
  edgeId : String
  fromNodeId : String
  kind : TransitionKind
  toNodeId : Option String
  maximumRetries : Nat
  recoveryAction : Option RecoveryAction
  deriving DecidableEq, Repr

/-- The constructor of `ExecutionEdge`. -/
def ExecutionEdge.make (edge : ExecutionEdge) : Except (Fault F) ExecutionEdge :=
  validated "ExecutionEdge"
    [("edge_id", isIdentifier edge.edgeId),
     ("from_node_id", isIdentifier edge.fromNodeId),
     ("to_node_id", edge.toNodeId.all isIdentifier),
     ("maximum_retries", decide (edge.maximumRetries ≤ 10))] edge

/-- The digests of the intent and of the graph are left out. -/
structure ExecutionGraph (F : Type) where
  graphId : String
  entryNodeId : String
  nodes : List (ExecutionNode F)
  edges : List ExecutionEdge
  selectedPlugins : List PluginSelection
  deriving DecidableEq, Repr

/-- The constructor of `ExecutionGraph`. -/
def ExecutionGraph.make (graph : ExecutionGraph F) : Except (Fault F) (ExecutionGraph F) :=
  validated "ExecutionGraph"
    [("graph_id", isIdentifier graph.graphId),
     ("entry_node_id", isIdentifier graph.entryNodeId)] graph

/-- `_reject`. -/
def reject (message : String) (details : Details F) : Fault F :=
  .crazySwarm .preflightFailed message details

namespace MissionIntent

variable (intent : MissionIntent F)

/-- The intent roles without a compiled route, sorted. -/
def missingRoutes (routes : List CompiledRoute) : List String :=
  Sorting.sortBy id (intent.roleIds.filter fun role => !routes.any fun route => route.roleId == role)

/-- `outgoing[phase_id]`. -/
def outgoing (phaseId : String) : List (IntentTransition F) :=
  intent.transitions.filter fun transition => transition.fromPhaseId == phaseId

/-- The phases that `visit` goes on to. -/
def next (phaseId : String) : List String :=
  (intent.outgoing phaseId).filterMap fun transition => transition.toPhaseId

/-- The body of the loop over the transitions, up to the entry in `outgoing`. -/
def checkTransition (transition : IntentTransition F) : Except (Fault F) Unit := do
  let details : Details F := .entries [("transition", .text transition.transitionId)]
  require (decide (transition.fromPhaseId ∈ intent.phaseIds))
    (reject "transition source phase is missing" details)
  require (transition.toPhaseId.all fun phase => decide (phase ∈ intent.phaseIds))
    (reject "transition target phase is missing" details)
  require (transition.recoveryAction.all fun action =>
      decide (action ∈ intent.safetyDeclaration.allowedRecoveryActions))
    (reject "transition recovery is outside the safety declaration" details)

/-- `visit(intent.entry_phase_id)`, with the phases that it has reached. No call is nested deeper than
there are phases, so that the recursion is never cut off. -/
def reachable : Except (Fault F) (List String) :=
  match Digraphs.visit intent.next (intent.phaseIds.length + 1) intent.entryPhaseId ⟨[], []⟩ with
  | .ok search => .ok search.reached
  | .error (.cycle phase) =>
    .error (reject "execution graph contains a cycle" (.entries [("phase", .text phase)]))
  | .error .exhausted => .error (.value "maximum recursion depth exceeded")

/-- `route_by_role[role_id].route_sha256`; of several routes of a role the last one counts. -/
def routeSha256 (routes : List CompiledRoute) (role : String) : Except (Fault F) String :=
  match routes.reverse.find? fun route => route.roleId == role with
  | some route => .ok route.routeSha256
  | none => .error (.value "KeyError")

def node (routes : List CompiledRoute) (phase : IntentPhase F) :
    Except (Fault F) (ExecutionNode F) := do
  let routeSha256s ← phase.roleIds.mapM (routeSha256 routes)
  ExecutionNode.make
    { nodeId := "node-" ++ phase.phaseId
      phaseId := phase.phaseId
      roleIds := phase.roleIds
      routeSha256s
      maximumDurationS := phase.maximumDurationS
      completionConditions := phase.completionConditions }

def edgeOf (transition : IntentTransition F) : ExecutionEdge where
  edgeId := "edge-" ++ transition.transitionId
  fromNodeId := "node-" ++ transition.fromPhaseId
  kind := transition.kind
  toNodeId := transition.toPhaseId.map ("node-" ++ ·)
  maximumRetries := transition.maximumRetries
  recoveryAction := transition.recoveryAction

def edge (transition : IntentTransition F) : Except (Fault F) ExecutionEdge :=
  (edgeOf transition).make

end MissionIntent

/-- `compile_execution_graph`. -/
def compileExecutionGraph (intent : MissionIntent F) (routes : List CompiledRoute)
    (selections : List PluginSelection) : Except (Fault F) (ExecutionGraph F) := do
  let missing := intent.missingRoutes routes
  require missing.isEmpty (reject "intent roles are missing compiled routes" (.missing missing))
  let _ ← intent.transitions.mapM intent.checkTransition
  let reachable ← intent.reachable
  let unreachable := Sorting.sortBy id (intent.phaseIds.filter (· ∉ reachable))
  require unreachable.isEmpty (reject "execution graph contains unreachable phases"
    (.entries (unreachable.map fun phase => ("phases", .text phase))))
  let _ ← intent.phaseIds.mapM fun phase =>
    require (!(intent.outgoing phase).isEmpty)
      (reject "execution phase has no bounded terminal transition"
        (.entries [("phase", .text phase)]))
  let nodes ← intent.phases.mapM (MissionIntent.node routes)
  let edges ← intent.transitions.mapM MissionIntent.edge
  ExecutionGraph.make
    { graphId := "graph-" ++ intent.intentId
      entryNodeId := "node-" ++ intent.entryPhaseId
      nodes
      edges
      selectedPlugins := selections }

end ExecutionGraphs
end CrazySwarm
