import Mathlib.Logic.Relation
import Mathlib.Data.List.Nodup
import Mathlib.Data.List.Perm.Subperm
import Mathlib.Tactic.Common

/-! Directed graphs whose edges may leave the graph: depth-first search that stops at a cycle, and
the walks along the edges of a graph without cycles. -/
namespace Digraphs
open Relation

section Search

variable {V : Type} [DecidableEq V] (next : V → List V)

def Arc (v w : V) : Prop := w ∈ next v

/-- The vertices on the way to the current one, and all that have been entered. -/
structure Search (V : Type) where
  visiting : List V
  reached : List V

inductive Stop (V : Type) where
  | cycle (vertex : V)
  | exhausted
  deriving DecidableEq

/-- Visit some vertices one after the other. -/
def visitAll (step : V → Search V → Except (Stop V) (Search V)) :
    List V → Search V → Except (Stop V) (Search V)
  | [], search => .ok search
  | w :: rest, search =>
    match step w search with
    | .ok search => visitAll step rest search
    | .error stop => .error stop

/-- Enter a vertex, visit its successors, and leave it again. -/
def visit : Nat → V → Search V → Except (Stop V) (Search V)
  | 0, _, _ => .error .exhausted
  | fuel + 1, v, search =>
    if v ∈ search.visiting then .error (.cycle v)
    else if v ∈ search.reached then .ok search
    else
      match visitAll (visit fuel) (next v) ⟨v :: search.visiting, v :: search.reached⟩ with
      | .ok search => .ok ⟨search.visiting.erase v, search.reached⟩
      | .error stop => .error stop

def Left (search : Search V) (v : V) : Prop := v ∈ search.reached ∧ v ∉ search.visiting

/-- A vertex that has been left lies on no cycle, and its successors have been left. -/
structure Sound (search : Search V) : Prop where
  visiting : ∀ v ∈ search.visiting, v ∈ search.reached
  closed : ∀ v w, Left search v → Arc next v w → Left search w
  acyclic : ∀ v, Left search v → ¬ TransGen (Arc next) v v

structure Visited (from_ : List V) (search search' : Search V) : Prop where
  sound : Sound next search'
  visiting : search'.visiting = search.visiting
  kept : ∀ v ∈ search.reached, v ∈ search'.reached
  left : ∀ v ∈ from_, Left search' v
  added : ∀ v ∈ search'.reached, v ∈ search.reached ∨
    ∃ start ∈ from_, ReflTransGen (Arc next) start v

/-- What visiting some vertices comes to: it leaves them, or it stops at a cycle that can be reached
from one of them. -/
def Meets (from_ : List V) (search : Search V) : Except (Stop V) (Search V) → Prop
  | .ok search' => Visited next from_ search search'
  | .error (.cycle w) =>
    (∃ start ∈ from_, ReflTransGen (Arc next) start w) ∧ TransGen (Arc next) w w
  | .error .exhausted => False

variable {next}

omit [DecidableEq V] in
theorem Sound.reaches {search : Search V} (sound : Sound next search) {v w : V}
    (left : Left search v) (path : ReflTransGen (Arc next) v w) : Left search w := by
  induction path with
  | refl => exact left
  | tail _ arc ih => exact sound.closed _ _ ih arc

omit [DecidableEq V] in
theorem Sound.enter {search : Search V} (sound : Sound next search) {v : V}
    (fresh : v ∉ search.reached) : Sound next ⟨v :: search.visiting, v :: search.reached⟩ := by
  have before {w : V} (left : Left ⟨v :: search.visiting, v :: search.reached⟩ w) :
      Left search w := by
    simp only [Left, List.mem_cons, not_or] at left
    exact ⟨left.1.resolve_left left.2.1, left.2.2⟩
  refine ⟨?_, ?_, fun w left => sound.acyclic w (before left)⟩
  · intro w member
    rcases List.mem_cons.mp member with rfl | member
    · exact List.mem_cons_self
    · exact List.mem_cons_of_mem _ (sound.visiting w member)
  · intro w x left arc
    obtain ⟨reached, passed⟩ := sound.closed w x (before left) arc
    refine ⟨List.mem_cons_of_mem _ reached, ?_⟩
    rintro (_ | ⟨_, member⟩)
    · exact fresh reached
    · exact passed member

/-- Once its successors have been left a vertex can be left: a cycle through it would lead back to
it from vertices that have been left before it. -/
theorem Sound.leave {search : Search V} {v : V} {visiting : List V}
    (sound : Sound next search) (current : search.visiting = v :: visiting)
    (apart : v ∉ visiting) (successors : ∀ w, Arc next v w → Left search w) :
    Sound next ⟨search.visiting.erase v, search.reached⟩ := by
  have on_way : v ∈ search.visiting := by
    rw [current]
    exact List.mem_cons_self
  have erased : search.visiting.erase v = visiting := by
    rw [current, List.erase_cons_head]
  have widen {w : V} (left : Left search w) : Left ⟨search.visiting.erase v, search.reached⟩ w :=
    ⟨left.1, fun member => left.2 (List.mem_of_mem_erase member)⟩
  have before {w : V} (left : Left ⟨search.visiting.erase v, search.reached⟩ w) :
      w = v ∨ Left search w := by
    by_cases same : w = v
    · exact .inl same
    · refine .inr ⟨left.1, fun member => left.2 ?_⟩
      exact (List.mem_erase_of_ne same).mpr member
  refine ⟨fun w member => sound.visiting w (List.mem_of_mem_erase member), ?_, ?_⟩
  · intro w x left arc
    rcases before left with rfl | left
    · exact widen (successors x arc)
    · exact widen (sound.closed w x left arc)
  · intro w left cycle
    rcases before left with rfl | left
    · obtain ⟨x, arc, path⟩ := TransGen.head'_iff.mp cycle
      exact (sound.reaches (successors x arc) path).2 on_way
    · exact sound.acyclic w left cycle

omit [DecidableEq V] in
theorem meets_visitAll {step : V → Search V → Except (Stop V) (Search V)} {visiting vertices : List V}
    (each : ∀ w ∈ vertices, ∀ search, Sound next search → search.visiting = visiting →
      Meets next [w] search (step w search)) {search : Search V} (sound : Sound next search)
    (current : search.visiting = visiting) :
    Meets next vertices search (visitAll step vertices search) := by
  induction vertices generalizing search with
  | nil => exact ⟨sound, rfl, fun _ => id, by simp, fun _ => .inl⟩
  | cons w rest ih =>
    have first := each w List.mem_cons_self search sound current
    unfold visitAll
    cases result : step w search with
    | ok middle =>
      rw [result] at first
      have rests := ih (fun x among => each x (List.mem_cons_of_mem _ among)) first.sound
        (first.visiting.trans current)
      simp only
      cases last : visitAll step rest middle with
      | ok search' =>
        rw [last] at rests
        refine ⟨rests.sound, rests.visiting.trans first.visiting,
          fun v known => rests.kept v (first.kept v known), ?_, ?_⟩
        · intro v member
          rcases List.mem_cons.mp member with rfl | member
          · have left := first.left v List.mem_cons_self
            refine ⟨rests.kept v left.1, ?_⟩
            rw [rests.visiting]
            exact left.2
          · exact rests.left v member
        · intro v reached
          rcases rests.added v reached with early | ⟨start, among, path⟩
          · rcases first.added v early with known | ⟨start, among, path⟩
            · exact .inl known
            · rw [List.mem_singleton.mp among] at path
              exact .inr ⟨w, List.mem_cons_self, path⟩
          · exact .inr ⟨start, List.mem_cons_of_mem _ among, path⟩
      | error stop =>
        rw [last] at rests
        cases stop with
        | cycle x =>
          obtain ⟨⟨start, among, path⟩, cycle⟩ := rests
          exact ⟨⟨start, List.mem_cons_of_mem _ among, path⟩, cycle⟩
        | exhausted => exact rests
    | error stop =>
      rw [result] at first
      cases stop with
      | cycle x =>
        obtain ⟨⟨start, among, path⟩, cycle⟩ := first
        rw [List.mem_singleton.mp among] at path
        exact ⟨⟨w, List.mem_cons_self, path⟩, cycle⟩
      | exhausted => exact first

variable (next) in
structure Way (vertices : List V) (fuel : Nat) (v : V) (visiting : List V) : Prop where
  leads : ∀ u ∈ visiting, TransGen (Arc next) u v
  distinct : visiting.Nodup
  known : visiting ⊆ vertices
  vertex : v ∈ vertices
  room : vertices.length < fuel + visiting.length

omit [DecidableEq V] in
theorem Way.extend {vertices visiting : List V} {fuel : Nat} {v w : V}
    (way : Way next vertices (fuel + 1) v visiting) (fresh : v ∉ visiting)
    (arc : Arc next v w) (closed : ∀ v ∈ vertices, ∀ w, Arc next v w → w ∈ vertices) :
    Way next vertices fuel w (v :: visiting) := by
  refine ⟨?_, List.nodup_cons.mpr ⟨fresh, way.distinct⟩, ?_, closed v way.vertex w arc, ?_⟩
  · intro u member
    rcases List.mem_cons.mp member with rfl | member
    · exact .single arc
    · exact (way.leads u member).tail arc
  · exact List.cons_subset.mpr ⟨way.vertex, way.known⟩
  · have room := way.room
    rw [List.length_cons]
    omega

/-- By induction on the fuel, which bounds how many vertices can still be entered. -/
theorem meets_visit {vertices : List V}
    (closed : ∀ v ∈ vertices, ∀ w, Arc next v w → w ∈ vertices) {fuel : Nat} {v : V}
    {search : Search V} (sound : Sound next search)
    (way : Way next vertices fuel v search.visiting) :
    Meets next [v] search (visit next fuel v search) := by
  induction fuel generalizing v search with
  | zero =>
    have fits := (way.distinct.subperm way.known).length_le
    have room := way.room
    omega
  | succ fuel ih =>
    unfold visit
    by_cases current : v ∈ search.visiting
    · rw [if_pos current]
      exact ⟨⟨v, List.mem_cons_self, .refl⟩, way.leads v current⟩
    rw [if_neg current]
    by_cases known : v ∈ search.reached
    · rw [if_pos known]
      refine ⟨sound, rfl, fun _ => id, ?_, fun _ => .inl⟩
      intro w member
      rw [List.mem_singleton.mp member]
      exact ⟨known, current⟩
    rw [if_neg known]
    have successors : Meets next (next v) ⟨v :: search.visiting, v :: search.reached⟩
        (visitAll (visit next fuel) (next v) ⟨v :: search.visiting, v :: search.reached⟩) := by
      refine meets_visitAll (fun w arc later soundLater same => ?_) (sound.enter known) rfl
      apply ih soundLater
      rw [same]
      exact way.extend current arc closed
    cases result : visitAll (visit next fuel) (next v)
        ⟨v :: search.visiting, v :: search.reached⟩ with
    | ok middle =>
      rw [result] at successors
      have erased : middle.visiting.erase v = search.visiting := by
        rw [successors.visiting, List.erase_cons_head]
      refine ⟨successors.sound.leave successors.visiting current successors.left, erased, ?_, ?_, ?_⟩
      · exact fun w earlier => successors.kept w (List.mem_cons_of_mem _ earlier)
      · intro w member
        rw [List.mem_singleton.mp member]
        refine ⟨successors.kept v List.mem_cons_self, ?_⟩
        simp only [erased]
        exact current
      · intro w reached
        rcases successors.added w reached with before | ⟨start, arc, path⟩
        · rcases List.mem_cons.mp before with rfl | before
          · exact .inr ⟨w, List.mem_cons_self, .refl⟩
          · exact .inl before
        · exact .inr ⟨v, List.mem_cons_self, .head arc path⟩
    | error stop =>
      rw [result] at successors
      cases stop with
      | cycle x =>
        obtain ⟨⟨start, arc, path⟩, cycle⟩ := successors
        exact ⟨⟨v, List.mem_cons_self, .head arc path⟩, cycle⟩
      | exhausted => exact successors

theorem visit_cases {vertices : List V}
    (closed : ∀ v ∈ vertices, ∀ w, Arc next v w → w ∈ vertices) {entry : V}
    (vertex : entry ∈ vertices) :
    (∃ search, visit next (vertices.length + 1) entry ⟨[], []⟩ = .ok search ∧
        (∀ v, v ∈ search.reached ↔ ReflTransGen (Arc next) entry v) ∧
        ∀ v, ReflTransGen (Arc next) entry v → ¬ TransGen (Arc next) v v) ∨
      ∃ v, visit next (vertices.length + 1) entry ⟨[], []⟩ = .error (.cycle v) ∧
        ReflTransGen (Arc next) entry v ∧ TransGen (Arc next) v v := by
  have way : Way next vertices (vertices.length + 1) entry [] :=
    ⟨by simp, List.nodup_nil, List.nil_subset _, vertex, by simp⟩
  have nothing : Sound next (⟨[], []⟩ : Search V) := by
    refine ⟨by simp, ?_, ?_⟩
    · intro v w left
      cases left.1
    · intro v left
      cases left.1
  have met := meets_visit closed nothing way
  cases result : visit next (vertices.length + 1) entry ⟨[], []⟩ with
  | ok search =>
    rw [result] at met
    have left := met.left entry List.mem_cons_self
    refine .inl ⟨search, rfl, fun v => ⟨?_, fun path => (met.sound.reaches left path).1⟩,
      fun v path => met.sound.acyclic v (met.sound.reaches left path)⟩
    intro reached
    rcases met.added v reached with none | ⟨start, among, path⟩
    · cases none
    · rwa [List.mem_singleton.mp among] at path
  | error stop =>
    rw [result] at met
    cases stop with
    | cycle v =>
      obtain ⟨⟨start, among, path⟩, cycle⟩ := met
      rw [List.mem_singleton.mp among] at path
      exact .inr ⟨v, rfl, path, cycle⟩
    | exhausted => exact met.elim

end Search

section Walks

variable {V E : Type} (source : E → V) (target : E → Option V) (edges : List E)

/-- An edge leads from one vertex to the other. -/
def Step (v w : V) : Prop := ∃ edge ∈ edges, source edge = v ∧ target edge = some w

inductive Walk : V → List E → Prop where
  | stay (v : V) : Walk v []
  | leave {edge : E} (member : edge ∈ edges) (out : target edge = none) :
      Walk (source edge) [edge]
  | follow {edge : E} {w : V} {rest : List E} (member : edge ∈ edges)
      (into : target edge = some w) (onward : Walk w rest) : Walk (source edge) (edge :: rest)

variable {source target edges} {v : V} {walk : List E}

/-- From its start a walk passes vertices further on only. -/
theorem Walk.ahead (walked : Walk source target edges v walk) :
    ∀ edge ∈ walk, ReflTransGen (Step source target edges) v (source edge) := by
  induction walked with
  | stay => simp
  | leave member out =>
    intro edge among
    rw [List.mem_singleton.mp among]
  | follow member into onward ih =>
    intro edge among
    rcases List.mem_cons.mp among with rfl | among
    · exact .refl
    · exact .head ⟨_, member, rfl, into⟩ (ih edge among)

/-- Without cycles a walk leaves no vertex twice. -/
theorem Walk.sources_nodup (acyclic : ∀ v, ¬ TransGen (Step source target edges) v v)
    (walked : Walk source target edges v walk) : (walk.map source).Nodup := by
  induction walked with
  | stay => exact List.nodup_nil
  | leave => exact List.nodup_singleton _
  | @follow first w rest member into onward ih =>
    rw [List.map_cons, List.nodup_cons]
    refine ⟨?_, ih⟩
    rintro again
    obtain ⟨edge, among, same⟩ := List.mem_map.mp again
    have path := onward.ahead edge among
    rw [same] at path
    exact acyclic (source first) (.head' ⟨first, member, rfl, into⟩ path)

theorem Walk.subset (walked : Walk source target edges v walk) : walk ⊆ edges := by
  induction walked with
  | stay => exact List.nil_subset _
  | leave member => simpa using member
  | follow member _ _ ih => exact List.cons_subset.mpr ⟨member, ih⟩

/-- Without cycles a walk is no longer than there are vertices. -/
theorem Walk.length_le {vertices : List V}
    (acyclic : ∀ v, ¬ TransGen (Step source target edges) v v)
    (sources : ∀ edge ∈ edges, source edge ∈ vertices)
    (walked : Walk source target edges v walk) : walk.length ≤ vertices.length := by
  have passed : walk.map source ⊆ vertices := by
    intro u member
    obtain ⟨edge, among, rfl⟩ := List.mem_map.mp member
    exact sources edge (walked.subset among)
  have fits := ((walked.sources_nodup acyclic).subperm passed).length_le
  rwa [List.length_map] at fits

/-- The walk ends with an edge that leaves the graph. -/
def Ends (target : E → Option V) (walk : List E) : Prop :=
  ∃ last ∈ walk.getLast?, target last = none

theorem Walk.step {vertices : List V} (exits : ∀ v ∈ vertices, ∃ edge ∈ edges, source edge = v)
    (targets : ∀ edge ∈ edges, ∀ w ∈ target edge, w ∈ vertices) (vertex : v ∈ vertices)
    (walked : Walk source target edges v walk) :
    Ends target walk ∨ ∃ edge, Walk source target edges v (walk ++ [edge]) := by
  induction walked with
  | stay v =>
    obtain ⟨edge, member, rfl⟩ := exits v vertex
    refine .inr ⟨edge, ?_⟩
    cases into : target edge with
    | none => exact .leave member into
    | some w => exact .follow member into (.stay w)
  | @leave edge member out => exact .inl ⟨edge, rfl, out⟩
  | @follow edge w rest member into onward ih =>
    rcases ih (targets edge member w into) with ended | ⟨next, further⟩
    · obtain ⟨last, at_end, out⟩ := ended
      refine .inl ⟨last, ?_, out⟩
      rw [List.getLast?_cons, at_end]
      rfl
    · exact .inr ⟨next, .follow member into further⟩

/-- Without cycles every walk can be extended to one that leaves the graph. By induction on how much
longer it can become. -/
theorem Walk.extends {vertices : List V}
    (acyclic : ∀ v, ¬ TransGen (Step source target edges) v v)
    (sources : ∀ edge ∈ edges, source edge ∈ vertices)
    (exits : ∀ v ∈ vertices, ∃ edge ∈ edges, source edge = v)
    (targets : ∀ edge ∈ edges, ∀ w ∈ target edge, w ∈ vertices) (vertex : v ∈ vertices)
    (walked : Walk source target edges v walk) :
    ∃ more, Walk source target edges v (walk ++ more) ∧ Ends target (walk ++ more) := by
  induction room : vertices.length - walk.length generalizing walk with
  | zero =>
    rcases walked.step exits targets vertex with ended | ⟨edge, further⟩
    · exact ⟨[], by rwa [List.append_nil], by rwa [List.append_nil]⟩
    · have fits := further.length_le acyclic sources
      rw [List.length_append, List.length_singleton] at fits
      omega
  | succ room ih =>
    rcases walked.step exits targets vertex with ended | ⟨edge, further⟩
    · exact ⟨[], by rwa [List.append_nil], by rwa [List.append_nil]⟩
    · obtain ⟨more, walked, ended⟩ := ih further (by
        rw [List.length_append, List.length_singleton]
        omega)
      rw [List.append_assoc] at walked ended
      exact ⟨[edge] ++ more, walked, ended⟩

end Walks

end Digraphs
