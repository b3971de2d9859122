import CrazySwarm.ExecutionGraphs

/-! Which intents compile to an execution graph, in terms of the paths through their phases, and
what the walks through a compiled graph are like. -/
namespace CrazySwarm
namespace ExecutionGraphs
open Digraphs Relation
open PyFloat (gt zero)

variable {F : Type} [PyMath F]

section Statement

/-- Some transition leads from the one phase to the other. -/
def PhaseStep (intent : MissionIntent F) : String → String → Prop :=
  Step (fun transition : IntentTransition F => transition.fromPhaseId)
    (fun transition => transition.toPhaseId) intent.transitions

structure WellFormed (intent : MissionIntent F) (routes : List CompiledRoute) : Prop where
  declared : ∀ transition ∈ intent.transitions, transition.fromPhaseId ∈ intent.phaseIds ∧
    ∀ phase ∈ transition.toPhaseId, phase ∈ intent.phaseIds
  reachable : ∀ phase ∈ intent.phaseIds, ReflTransGen (PhaseStep intent) intent.entryPhaseId phase
  acyclic : ∀ phase, ¬ TransGen (PhaseStep intent) phase phase
  outgoing : ∀ phase ∈ intent.phaseIds, ∃ transition ∈ intent.transitions,
    transition.fromPhaseId = phase
  routed : ∀ role ∈ intent.roleIds, ∃ route ∈ routes, route.roleId = role

/-- The safety declaration allows every recovery action that a transition names. -/
def Recoverable (intent : MissionIntent F) : Prop :=
  ∀ transition ∈ intent.transitions, ∀ action ∈ transition.recoveryAction,
    action ∈ intent.safetyDeclaration.allowedRecoveryActions

/-- With the prefixes that the graph puts before them the identifiers are still identifiers. -/
structure LeavesRoom (intent : MissionIntent F) : Prop where
  intentId : intent.intentId.length ≤ 90
  phaseIds : ∀ phase ∈ intent.phaseIds, phase.length ≤ 91
  transitionIds : ∀ transition ∈ intent.transitions, transition.transitionId.length ≤ 91

/-- A walk along the edges of the graph, from its entry. -/
def GraphWalk (graph : ExecutionGraph F) (walk : List ExecutionEdge) : Prop :=
  Walk ExecutionEdge.fromNodeId ExecutionEdge.toNodeId graph.edges graph.entryNodeId walk

end Statement

section Parts

variable {intent : MissionIntent F} {routes : List CompiledRoute} {v w : String}

theorem arc_iff : Arc intent.next v w ↔ PhaseStep intent v w := by
  simp only [Arc, MissionIntent.next, MissionIntent.outgoing, List.mem_filterMap, List.mem_filter,
    beq_iff_eq, PhaseStep, Step, and_assoc]

theorem missingRoutes_isEmpty : (intent.missingRoutes routes).isEmpty = true ↔
    ∀ role ∈ intent.roleIds, ∃ route ∈ routes, route.roleId = role := by
  rw [List.isEmpty_iff, List.eq_nil_iff_forall_not_mem]
  simp only [MissionIntent.missingRoutes, Sorting.mem_sortBy, List.mem_filter, not_and,
    Bool.not_eq_true', Bool.not_eq_false, List.any_eq_true, beq_iff_eq]

theorem checkTransition_eq_ok {transition : IntentTransition F} :
    intent.checkTransition transition = .ok () ↔
      (transition.fromPhaseId ∈ intent.phaseIds ∧
        ∀ phase ∈ transition.toPhaseId, phase ∈ intent.phaseIds) ∧
      ∀ action ∈ transition.recoveryAction,
        action ∈ intent.safetyDeclaration.allowedRecoveryActions := by
  simp only [MissionIntent.checkTransition, bind_eq_ok, require_eq_ok, decide_eq_true_eq,
    Option.all_eq_true, exists_const, and_assoc, Option.mem_def]

omit [PyMath F] in
/-- A pass of checks succeeds when each of them does. -/
theorem exists_mapM_iff {α : Type} {check : α → Except (Fault F) Unit} {items : List α} :
    (∃ units, items.mapM check = .ok units) ↔ ∀ item ∈ items, check item = .ok () := by
  constructor
  · rintro ⟨units, ok⟩ item member
    obtain ⟨_, _, passed⟩ := exists_of_mem_items ok member
    exact passed
  · intro each
    have passed : ∃ units, items.mapM check = .ok units ∧ List.Forall₂ (fun _ _ => True) items units :=
      mapM_of_forall fun item member => ⟨(), each item member, trivial⟩
    obtain ⟨units, ok, -⟩ := passed
    exact ⟨units, ok⟩

theorem entry_declared (intent : MissionIntent F) : intent.entryPhaseId ∈ intent.phaseIds := by
  have valid := intent.valid
  simp only [MissionIntentData.validate, bind_eq_ok, require_eq_ok, decide_eq_true_eq] at valid
  obtain ⟨_, _, _, _, _, _, _, _, _, entry, _⟩ := valid
  exact entry

/-- The search reaches the phases that a path leads to, unless there is a cycle on one of them. -/
theorem reachable_cases
    (declared : ∀ transition ∈ intent.transitions,
      ∀ phase ∈ transition.toPhaseId, phase ∈ intent.phaseIds) :
    (∃ reached, intent.reachable = .ok reached ∧
        (∀ phase, phase ∈ reached ↔ ReflTransGen (PhaseStep intent) intent.entryPhaseId phase) ∧
        ∀ phase, ReflTransGen (PhaseStep intent) intent.entryPhaseId phase →
          ¬ TransGen (PhaseStep intent) phase phase) ∨
      (∃ fault, intent.reachable = .error fault) ∧
        ∃ phase, TransGen (PhaseStep intent) phase phase := by
  have same : Arc intent.next = PhaseStep intent := by
    funext v w
    exact propext arc_iff
  have closed : ∀ v ∈ intent.phaseIds, ∀ w, Arc intent.next v w → w ∈ intent.phaseIds := by
    intro v _ w arc
    rw [same] at arc
    obtain ⟨transition, member, -, into⟩ := arc
    exact declared transition member w into
  have cases := visit_cases closed (entry_declared intent)
  rw [same] at cases
  unfold MissionIntent.reachable
  rcases cases with ⟨search, ok, reached, acyclic⟩ | ⟨phase, stopped, _, cycle⟩
  · rw [ok]
    exact .inl ⟨search.reached, rfl, reached, acyclic⟩
  · rw [stopped]
    exact .inr ⟨⟨_, rfl⟩, phase, cycle⟩

end Parts

section Identifiers

theorem identifierRest_of_start {c : Char} (start : identifierStart c = true) :
    identifierRest c = true := by
  unfold identifierStart at start
  simp [identifierRest, start]

/-- Behind a prefix that is an identifier itself an identifier stays one unless it gets too long. -/
theorem isIdentifier_prefixed {before text : String} (head : isIdentifier before = true)
    (identifier : isIdentifier text = true) (room : before.length + text.length ≤ 96) :
    isIdentifier (before ++ text) = true := by
  rw [← String.length_toList, ← String.length_toList] at room
  unfold isIdentifier at head identifier ⊢
  rw [String.toList_append]
  cases chars : before.toList with
  | nil => simp [chars] at head
  | cons first rest =>
    cases others : text.toList with
    | nil => simp [others] at identifier
    | cons second more =>
      simp only [chars, others, Bool.and_eq_true, decide_eq_true_eq, List.length_cons] at head identifier room
      obtain ⟨⟨start, middle⟩, -⟩ := head
      obtain ⟨⟨next, last⟩, -⟩ := identifier
      simp only [List.cons_append, List.all_append, List.all_cons, List.length_append,
        List.length_cons, start, middle, identifierRest_of_start next, last, Bool.and_self,
        Bool.true_and, decide_eq_true_eq]
      omega

end Identifiers

section Compiled

variable {intent : MissionIntent F} {routes : List CompiledRoute}
  {selections : List PluginSelection} {graph : ExecutionGraph F}

omit [PyMath F] in
theorem edges_eq {transitions : List (IntentTransition F)} {edges : List ExecutionEdge}
    (ok : transitions.mapM MissionIntent.edge = (.ok edges : Except (Fault F) _)) :
    edges = transitions.map MissionIntent.edgeOf := by
  have each := mapM_eq_ok ok
  clear ok
  induction each with
  | nil => rfl
  | cons made _ ih =>
    simp only [MissionIntent.edge, ExecutionEdge.make, validated_eq_ok] at made
    rw [ih, ← made.2]
    rfl

/-- No phase is left over exactly when every phase is among those that have been reached. -/
theorem unreachable_isEmpty {reached : List String} :
    (Sorting.sortBy id (intent.phaseIds.filter (· ∉ reached))).isEmpty = true ↔
      ∀ phase ∈ intent.phaseIds, phase ∈ reached := by
  rw [List.isEmpty_iff, List.eq_nil_iff_forall_not_mem]
  simp only [Sorting.mem_sortBy, List.mem_filter, decide_eq_true_eq, not_and, not_not]

theorem outgoing_eq_nil {phase : String} : (!(intent.outgoing phase).isEmpty) = true ↔
    ∃ transition ∈ intent.transitions, transition.fromPhaseId = phase := by
  rw [Bool.not_eq_true', List.isEmpty_eq_false_iff_exists_mem]
  simp only [MissionIntent.outgoing, List.mem_filter, beq_iff_eq]

theorem compile_eq_ok (ok : compileExecutionGraph intent routes selections = .ok graph) :
    WellFormed intent routes ∧ Recoverable intent ∧
      graph.entryNodeId = "node-" ++ intent.entryPhaseId ∧
      graph.edges = intent.transitions.map MissionIntent.edgeOf := by
  simp only [compileExecutionGraph, bind_eq_ok, require_eq_ok, missingRoutes_isEmpty,
    unreachable_isEmpty, ExecutionGraph.make, validated_eq_ok] at ok
  obtain ⟨_, routed, units, transitions, reached, search, _, everywhere, others, exits, nodes, _,
    edges, edgesOk, _, rfl⟩ := ok
  have checked := exists_mapM_iff.mp ⟨units, transitions⟩
  have left := exists_mapM_iff.mp ⟨others, exits⟩
  have declared : ∀ transition ∈ intent.transitions, transition.fromPhaseId ∈ intent.phaseIds ∧
      ∀ phase ∈ transition.toPhaseId, phase ∈ intent.phaseIds :=
    fun transition member => (checkTransition_eq_ok.mp (checked transition member)).1
  rcases reachable_cases fun transition member => (declared transition member).2 with
    ⟨found, again, paths, acyclic⟩ | ⟨⟨fault, failed⟩, _⟩
  · cases search.symm.trans again
    have reachable : ∀ phase ∈ intent.phaseIds,
        ReflTransGen (PhaseStep intent) intent.entryPhaseId phase :=
      fun phase member => (paths phase).mp (everywhere phase member)
    refine ⟨⟨declared, reachable, ?_, ?_, routed⟩, ?_, rfl, edges_eq edgesOk⟩
    · intro phase cycle
      obtain ⟨_, ⟨transition, member, rfl, _⟩, _⟩ := TransGen.head'_iff.mp cycle
      exact acyclic _ (reachable _ (declared transition member).1) cycle
    · intro phase member
      exact outgoing_eq_nil.mp (require_eq_ok.mp (left phase member))
    · exact fun transition member =>
        (checkTransition_eq_ok.mp (checked transition member)).2
  · cases search.symm.trans failed

omit [PyMath F] in
theorem isIdentifier_node {phase : String} (identifier : isIdentifier phase = true)
    (room : phase.length ≤ 91) : isIdentifier ("node-" ++ phase) = true := by
  have five : "node-".length = 5 := by decide
  exact isIdentifier_prefixed (by decide) identifier (by omega)

omit [PyMath F] in
theorem routeSha256_of_routed {role : String} (routed : ∃ route ∈ routes, route.roleId = role) :
    ∃ digest, (MissionIntent.routeSha256 routes role : Except (Fault F) String) = .ok digest ∧
      isSha256 digest = true := by
  obtain ⟨route, among, same⟩ := routed
  unfold MissionIntent.routeSha256
  cases search : routes.reverse.find? fun route => route.roleId == role with
  | none =>
    have unlike := List.find?_eq_none.mp search route (List.mem_reverse.mpr among)
    rw [beq_iff_eq] at unlike
    exact absurd same unlike
  | some last => exact ⟨_, rfl, last.digest⟩

theorem node_eq_ok {phase : IntentPhase F} (room : phase.phaseId.length ≤ 91)
    (routed : ∀ role ∈ phase.roleIds, ∃ route ∈ routes, route.roleId = role) :
    ∃ node, MissionIntent.node routes phase = .ok node := by
  have valid := phase.valid
  simp only [IntentPhaseData.validate, bind_eq_ok, validated_eq_ok, List.forall_mem_cons] at valid
  obtain ⟨_, ⟨⟨phaseId, _, roleIds, duration, _⟩, _⟩, _⟩ := valid
  obtain ⟨digests, looked, _⟩ := mapM_of_forall fun role member =>
    routeSha256_of_routed (F := F) (routed role member)
  have valid : digests.all isSha256 = true := by
    rw [List.all_eq_true]
    intro digest member
    obtain ⟨role, among, found⟩ := exists_of_mem_mapM looked member
    obtain ⟨again, same, valid⟩ := routeSha256_of_routed (F := F) (routed role among)
    cases found.symm.trans same
    exact valid
  refine ⟨_, bind_eq_ok.mpr ⟨digests, looked, validated_eq_ok.mpr ⟨?_, rfl⟩⟩⟩
  simp only [List.forall_mem_cons]
  exact ⟨isIdentifier_node phaseId room, phaseId, roleIds, valid, duration, by simp⟩

omit [PyMath F] in
theorem edge_eq_ok {transition : IntentTransition F} (room : transition.transitionId.length ≤ 91)
    (source : transition.fromPhaseId.length ≤ 91)
    (target : ∀ phase ∈ transition.toPhaseId, phase.length ≤ 91) :
    ∃ edge, (MissionIntent.edge transition : Except (Fault F) ExecutionEdge) = .ok edge := by
  have valid := transition.valid
  simp only [IntentTransitionData.validate, bind_eq_ok, validated_eq_ok, List.forall_mem_cons,
    Option.all_eq_true] at valid
  obtain ⟨_, ⟨⟨transitionId, fromPhaseId, toPhaseId, retries, _⟩, _⟩, _⟩ := valid
  have five : "edge-".length = 5 := by decide
  refine ⟨_, validated_eq_ok.mpr ⟨?_, rfl⟩⟩
  simp only [List.forall_mem_cons]
  refine ⟨isIdentifier_prefixed (by decide) transitionId (by omega),
    isIdentifier_node fromPhaseId source, ?_, retries, by simp⟩
  simp only [MissionIntent.edgeOf, Option.all_map, Option.all_eq_true]
  intro phase into
  exact isIdentifier_node (toPhaseId phase into) (target phase into)

theorem exists_compiled (wellFormed : WellFormed intent routes) (recoverable : Recoverable intent)
    (room : LeavesRoom intent) :
    ∃ graph, compileExecutionGraph intent routes selections = .ok graph := by
  have valid := intent.valid
  simp only [MissionIntentData.validate, bind_eq_ok, validated_eq_ok, require_eq_ok,
    List.forall_mem_cons, decide_eq_true_eq, List.isEmpty_iff] at valid
  obtain ⟨_, ⟨⟨intentId, _, _, _, entryId, _⟩, _⟩, _, _, _, _, _, _, _, entry, known⟩ := valid
  have roles : ∀ phase ∈ intent.phases, ∀ role ∈ phase.roleIds, role ∈ intent.roleIds := by
    intro phase member role among
    by_contra unknown
    have listed : role ∈ intent.unknownRoles := by
      simp only [MissionIntentData.unknownRoles, Sorting.mem_sortBy, List.mem_dedup, List.mem_filter,
        List.mem_flatMap, decide_eq_true_eq]
      exact ⟨⟨phase, member, among⟩, unknown⟩
    rw [known] at listed
    cases listed
  obtain ⟨units, checked⟩ := exists_mapM_iff.mpr fun transition member =>
    checkTransition_eq_ok.mpr
      ⟨wellFormed.declared transition member, recoverable transition member⟩
  obtain ⟨others, exits⟩ := exists_mapM_iff.mpr fun phase member =>
    require_eq_ok.mpr (outgoing_eq_nil.mpr (wellFormed.outgoing phase member))
  have nodes : ∃ nodes, intent.phases.mapM (MissionIntent.node routes) = .ok nodes ∧
      List.Forall₂ (fun _ _ => True) intent.phases nodes := by
    refine mapM_of_forall fun phase member => ?_
    obtain ⟨node, made⟩ := node_eq_ok
      (room.phaseIds phase.phaseId (List.mem_map_of_mem member)) fun role among =>
        wellFormed.routed role (roles phase member role among)
    exact ⟨node, made, trivial⟩
  have edges : ∃ edges, intent.transitions.mapM MissionIntent.edge = (.ok edges : Except (Fault F) _) ∧
      List.Forall₂ (fun _ _ => True) intent.transitions edges := by
    refine mapM_of_forall fun transition member => ?_
    obtain ⟨source, target⟩ := wellFormed.declared transition member
    obtain ⟨edge, made⟩ := edge_eq_ok (room.transitionIds transition member)
      (room.phaseIds _ source) fun phase into => room.phaseIds phase (target phase into)
    exact ⟨edge, made, trivial⟩
  obtain ⟨nodes, nodesOk, -⟩ := nodes
  obtain ⟨edges, edgesOk, -⟩ := edges
  rcases reachable_cases fun transition member => (wellFormed.declared transition member).2 with
    ⟨reached, search, paths, _⟩ | ⟨_, phase, cycle⟩
  · have everywhere : ∀ phase ∈ intent.phaseIds, phase ∈ reached := fun phase member =>
      (paths phase).mpr (wellFormed.reachable phase member)
    simp only [compileExecutionGraph, bind_eq_ok, require_eq_ok, missingRoutes_isEmpty,
      unreachable_isEmpty, ExecutionGraph.make, validated_eq_ok, List.forall_mem_cons]
    have six : "graph-".length = 6 := by decide
    have identifier := room.intentId
    exact ⟨_, (), wellFormed.routed, units, checked, reached, search, (), everywhere, others, exits,
      nodes, nodesOk, edges, edgesOk, ⟨isIdentifier_prefixed (by decide) intentId (by omega),
        isIdentifier_node entryId (room.phaseIds _ entry), by simp⟩, rfl⟩
  · exact absurd cycle (wellFormed.acyclic phase)

end Compiled

section GraphWalks

variable {transitions : List (IntentTransition F)} {a b : String}

theorem node_injective {v w : String} (same : "node-" ++ v = "node-" ++ w) : v = w := by
  have chars := congrArg String.toList same
  rw [String.toList_append, String.toList_append] at chars
  exact String.toList_inj.mp (List.append_cancel_left chars)

omit [PyMath F] in
/-- A path along the edges of a graph is one along the phases of its intent. -/
theorem exists_phases_of_path
    (path : TransGen (Step ExecutionEdge.fromNodeId ExecutionEdge.toNodeId
      (transitions.map MissionIntent.edgeOf)) a b) :
    ∃ v w, a = "node-" ++ v ∧ b = "node-" ++ w ∧
      TransGen (Step (fun transition : IntentTransition F => transition.fromPhaseId)
        (fun transition => transition.toPhaseId) transitions) v w := by
  have arc {a b : String} (step : Step ExecutionEdge.fromNodeId ExecutionEdge.toNodeId
      (transitions.map MissionIntent.edgeOf) a b) :
      ∃ v w, a = "node-" ++ v ∧ b = "node-" ++ w ∧
        Step (fun transition : IntentTransition F => transition.fromPhaseId)
          (fun transition => transition.toPhaseId) transitions v w := by
    obtain ⟨_, among, rfl, into⟩ := step
    obtain ⟨transition, member, rfl⟩ := List.mem_map.mp among
    obtain ⟨w, target, rfl⟩ := Option.map_eq_some_iff.mp into
    exact ⟨_, w, rfl, rfl, transition, member, rfl, target⟩
  induction path with
  | single step =>
    obtain ⟨v, w, rfl, rfl, between⟩ := arc step
    exact ⟨v, w, rfl, rfl, .single between⟩
  | tail _ step ih =>
    obtain ⟨v, middle, rfl, same, path⟩ := ih
    obtain ⟨_, w, again, rfl, between⟩ := arc step
    rw [same] at again
    cases node_injective again
    exact ⟨v, w, rfl, rfl, path.tail between⟩

/-- Without a cycle of phases a graph has no cycle of nodes. -/
theorem graph_acyclic {intent : MissionIntent F}
    (acyclic : ∀ phase, ¬ TransGen (PhaseStep intent) phase phase) (node : String) :
    ¬ TransGen (Step ExecutionEdge.fromNodeId ExecutionEdge.toNodeId
      (intent.transitions.map MissionIntent.edgeOf)) node node := by
  intro cycle
  obtain ⟨v, w, rfl, same, path⟩ := exists_phases_of_path cycle
  cases node_injective same
  exact acyclic v path

end GraphWalks

/-! An intent whose one transition names a recovery action that is not allowed. -/
section Stop

def stopPhase : IntentPhase ℚ where
  phaseId := "survey-phase"
  objective := "survey the target"
  roleIds := ["survey"]
  routeCapability := .direct
  completionConditions := ["target reached"]
  maximumDurationS := 10
  valid := by decide +kernel

def stopTransition : IntentTransition ℚ where
  transitionId := "stop"
  fromPhaseId := "survey-phase"
  kind := .abort
  recoveryAction := some .emergencyStop
  valid := by decide +kernel

def stopIntent (allowed : List RecoveryAction) : MissionIntentData ℚ where
  intentId := "intent-test"
  missionId := "mission"
  objective := "survey"
  successCriteria := ["survey completes"]
  roleIds := ["survey"]
  phases := [stopPhase]
  entryPhaseId := "survey-phase"
  transitions := [stopTransition]
  safetyDeclaration := ⟨allowed⟩

def disallowedStop : MissionIntent ℚ := ⟨stopIntent [.hold, .land], by decide +kernel⟩

def allowedStop : MissionIntent ℚ := ⟨stopIntent [.land, .emergencyStop], by decide +kernel⟩

def stopRoutes : List CompiledRoute :=
  [⟨"survey", String.ofList (List.replicate 64 'a'), by decide +kernel⟩]

/-- The intent is as it should be, but no graph is compiled. -/
theorem disallowed_recovery_rejected : WellFormed disallowedStop stopRoutes ∧
    ¬ ∃ graph, compileExecutionGraph disallowedStop stopRoutes [] = .ok graph := by
  have stays (v w : String) : ¬ PhaseStep disallowedStop v w := by
    rintro ⟨transition, member, -, into⟩
    cases List.mem_singleton.mp member
    cases into
  constructor
  · refine ⟨by decide, ?_, ?_, by decide, by decide⟩
    · intro phase member
      cases List.mem_singleton.mp member
      exact .refl
    · intro phase cycle
      obtain ⟨_, step, _⟩ := TransGen.head'_iff.mp cycle
      exact stays _ _ step
  · rintro ⟨graph, ok⟩
    have recoverable := (compile_eq_ok ok).2.1
    exact absurd recoverable (by unfold Recoverable; decide)

end Stop

/-- A graph is compiled only for intents whose transitions name declared phases and allowed recovery
actions, whose phases are all reached from the entry, lie on no cycle and have a transition out
of them, and whose roles are routed; and for each of these whose identifiers leave room. A walk
from the entry of the graph takes at most as many steps as there are phases, and it can be
extended until it leaves the graph. -/
theorem compile_accepts (intent : MissionIntent F) (routes : List CompiledRoute)
    (selections : List PluginSelection) :
    ((∃ graph, compileExecutionGraph intent routes selections = .ok graph) →
        WellFormed intent routes ∧ Recoverable intent) ∧
      (LeavesRoom intent → WellFormed intent routes → Recoverable intent →
        ∃ graph, compileExecutionGraph intent routes selections = .ok graph) ∧
      ∀ graph, compileExecutionGraph intent routes selections = .ok graph →
        ∀ walk, GraphWalk graph walk → walk.length ≤ intent.phases.length ∧
          ∃ more, GraphWalk graph (walk ++ more) ∧ Ends ExecutionEdge.toNodeId (walk ++ more) := by
  refine ⟨?_, fun room wellFormed recoverable => exists_compiled wellFormed recoverable room, ?_⟩
  · rintro ⟨graph, ok⟩
    obtain ⟨wellFormed, recoverable, -, -⟩ := compile_eq_ok ok
    exact ⟨wellFormed, recoverable⟩
  · intro graph ok walk walked
    obtain ⟨wellFormed, -, entry, edges⟩ := compile_eq_ok ok
    unfold GraphWalk at walked ⊢
    rw [entry, edges] at walked ⊢
    have acyclic := graph_acyclic wellFormed.acyclic
    have sources : ∀ edge ∈ intent.transitions.map MissionIntent.edgeOf,
        edge.fromNodeId ∈ intent.phaseIds.map ("node-" ++ ·) := by
      intro edge among
      obtain ⟨transition, member, rfl⟩ := List.mem_map.mp among
      exact List.mem_map_of_mem (wellFormed.declared transition member).1
    have targets : ∀ edge ∈ intent.transitions.map MissionIntent.edgeOf,
        ∀ node ∈ edge.toNodeId, node ∈ intent.phaseIds.map ("node-" ++ ·) := by
      intro edge among node into
      obtain ⟨transition, member, rfl⟩ := List.mem_map.mp among
      obtain ⟨phase, target, rfl⟩ := Option.map_eq_some_iff.mp into
      exact List.mem_map_of_mem ((wellFormed.declared transition member).2 phase target)
    have exits : ∀ node ∈ intent.phaseIds.map ("node-" ++ ·),
        ∃ edge ∈ intent.transitions.map MissionIntent.edgeOf, edge.fromNodeId = node := by
      intro node among
      obtain ⟨phase, member, rfl⟩ := List.mem_map.mp among
      obtain ⟨transition, leads, rfl⟩ := wellFormed.outgoing phase member
      exact ⟨_, List.mem_map_of_mem leads, rfl⟩
    have vertex : "node-" ++ intent.entryPhaseId ∈ intent.phaseIds.map ("node-" ++ ·) :=
      List.mem_map_of_mem (entry_declared intent)
    have bound := walked.length_le acyclic sources
    rw [List.length_map, MissionIntentData.phaseIds, List.length_map] at bound
    exact ⟨bound, walked.extends acyclic sources exits targets vertex⟩

/-- With the action allowed the graph is compiled, and no walk takes a second step. -/
theorem compile_accepts_allowed_stop :
    ∃ graph, compileExecutionGraph allowedStop stopRoutes [] = .ok graph ∧
      ∀ walk, GraphWalk graph walk → walk.length ≤ 1 := by
  obtain ⟨graph, ok, -⟩ := exists_of_okWith
    (x := compileExecutionGraph allowedStop stopRoutes [])
    (t := fun _ => true) (by decide)
  exact ⟨graph, ok, fun walk walked =>
    ((compile_accepts allowedStop stopRoutes []).2.2 graph ok walk walked).1⟩

end ExecutionGraphs
end CrazySwarm
