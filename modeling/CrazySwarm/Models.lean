import Mathlib.Data.Nat.Sqrt
import Mathlib.Data.Rat.Defs
import Mathlib.Data.String.Basic
import Mathlib.Algebra.Order.Ring.Unbundled.Rat

/-! Values shared by the fleet and mission models: float arithmetic, clock readings,
identifiers, capabilities and the errors a call can raise. -/
namespace CrazySwarm

/-- Float arithmetic as the code uses it. No law is assumed: not-a-number, infinities
and rounding are among the instances. -/
class PyFloat (F : Type) where
  lt : F → F → Bool
  le : F → F → Bool
  eq : F → F → Bool
  add : F → F → F
  sub : F → F → F
  mul : F → F → F
  div : F → F → F
  sqrt : F → F
  ofRat : ℚ → F

/-- Exact arithmetic, for evaluating the model; `sqrt` is exact on squares. -/
instance : PyFloat ℚ where
  lt a b := decide (a < b)
  le a b := decide (a ≤ b)
  eq a b := decide (a = b)
  add a b := a + b
  sub a b := a - b
  mul a b := a * b
  div a b := a / b
  sqrt a := mkRat (Nat.sqrt a.num.toNat) (Nat.sqrt a.den)
  ofRat a := a

namespace PyFloat
variable {F : Type} [PyFloat F]

def zero : F := ofRat 0

/-- The bound checks of pydantic reject on the opposite comparison, so that an
incomparable value passes them. -/
def ge (value bound : F) : Bool := !lt value bound
def gt (value bound : F) : Bool := !le value bound
def atMost (value bound : F) : Bool := !lt bound value

def max (a b : F) : F := if lt a b then b else a
def min (a b : F) : F := if lt b a then b else a

end PyFloat

/-- The successive readings of `time.monotonic` during one call; it never reads below zero. -/
structure MonotonicClock (F : Type) [PyFloat F] where
  read : Nat → F
  nonneg : ∀ i, PyFloat.ge (read i) PyFloat.zero = true

def now [PyFloat F] (value : Option F) (reading : F) : F := value.getD reading

def identifierStart (c : Char) : Bool := c.isAlphanum
def identifierRest (c : Char) : Bool := c.isAlphanum || c ∈ ['_', '.', ':', '-']

/-- `Identifier`: 1 to 96 characters matching `^[A-Za-z0-9][A-Za-z0-9_.:-]*$`. -/
def isIdentifier (text : String) : Bool :=
  match text.toList with
  | [] => false
  | first :: rest => identifierStart first && rest.all identifierRest && rest.length < 96

/-- `SHA256`: 64 lower-case hexadecimal digits. -/
def isSha256 (text : String) : Bool :=
  text.toList.length == 64 && text.toList.all fun c => c.isDigit || ('a' ≤ c && c ≤ 'f')

inductive VehicleCapability where
  | arming | relativePositioning | globalPositioning | highLevelCommands | rangeSensing
  | parameterAccess | emergencyStop | timeParameterizedTrajectory
  deriving DecidableEq, Repr

def VehicleCapability.value : VehicleCapability → String
  | .arming => "arming"
  | .relativePositioning => "relative_positioning"
  | .globalPositioning => "global_positioning"
  | .highLevelCommands => "high_level_commands"
  | .rangeSensing => "range_sensing"
  | .parameterAccess => "parameter_access"
  | .emergencyStop => "emergency_stop"
  | .timeParameterizedTrajectory => "time_parameterized_trajectory"

structure Vector3 (F : Type) where
  x : F
  y : F
  z : F
  deriving DecidableEq, Repr

inductive ErrorCode where
  | invalidCommand | invalidState | modeNotAuthorized | capabilityMissing | preflightFailed
  | commandTimeout | commandDropped | linkLost | telemetryStale | localizationInvalid
  | criticalBattery | geofenceBreach | identityMismatch | emergencyStopped | internalError
  deriving DecidableEq, Repr

inductive DetailValue (F : Type) where
  | text (value : String)
  | number (value : F)
  deriving DecidableEq, Repr

inductive Details (F : Type) where
  | none
  | missing (capabilities : List String)
  | energy (observed : Option F) (required : F)
  | entries (items : List (String × DetailValue F))
  deriving DecidableEq, Repr

/-- What a call can raise: the application's own error, a contract model that rejects
some of its fields, or a plain `ValueError`. -/
inductive Fault (F : Type) where
  | crazySwarm (code : ErrorCode) (message : String) (details : Details F)
  | validation (model : String) (fields : List String)
  | value (message : String)
  deriving DecidableEq, Repr

/-- `raise` unless the condition holds. -/
def require (condition : Bool) (fault : ε) : Except ε Unit :=
  if condition then .ok () else .error fault

/-- Construct a contract model whose named field checks must all pass. -/
def validated (model : String) (checks : List (String × Bool)) (value : α) :
    Except (Fault F) α :=
  if checks.all (·.2) then .ok value
  else .error (.validation model ((checks.filter (!·.2)).map (·.1)))

@[simp] theorem require_eq_ok {condition : Bool} {fault : ε} {u : Unit} :
    require condition fault = .ok u ↔ condition = true := by
  cases condition <;> simp [require]

@[simp] theorem validated_eq_ok {model : String} {checks : List (String × Bool)} {value result : α} :
    (validated model checks value : Except (Fault F) α) = .ok result ↔
      (∀ check ∈ checks, check.2 = true) ∧ value = result := by
  unfold validated
  split <;> simp_all

/-- A computation that succeeds has a first part that succeeds. -/
theorem bind_eq_ok {x : Except ε α} {f : α → Except ε β} {result : β} :
    (x >>= f) = .ok result ↔ ∃ value, x = .ok value ∧ f value = .ok result := by
  cases x <;> simp [bind, Except.bind]

/-- A pass over some items that succeeds has a value for each of them. -/
theorem mapM_eq_ok {f : α → Except ε β} {items : List α} {values : List β}
    (ok : items.mapM f = .ok values) :
    List.Forall₂ (fun item value => f item = .ok value) items values := by
  induction items generalizing values with
  | nil =>
    cases ok
    exact .nil
  | cons item rest ih =>
    rw [List.mapM_cons] at ok
    obtain ⟨value, itemOk, ok⟩ := bind_eq_ok.mp ok
    obtain ⟨later, laterOk, ok⟩ := bind_eq_ok.mp ok
    cases ok
    exact .cons itemOk (ih laterOk)

theorem mapM_id_eq_ok {items : List (Except ε α)} {values : List α}
    (ok : items.mapM id = .ok values) : items = values.map .ok := by
  have each := mapM_eq_ok ok
  clear ok
  induction each with
  | nil => rfl
  | cons itemOk _ ih =>
    rw [List.map_cons, ← ih]
    exact congrArg (· :: _) itemOk

/-- A value of a pass that succeeds comes from one of the items. -/
theorem exists_of_mem_mapM {f : α → Except ε β} {items : List α} {values : List β}
    (ok : items.mapM f = .ok values) {value : β} (member : value ∈ values) :
    ∃ item ∈ items, f item = .ok value := by
  have each := mapM_eq_ok ok
  clear ok
  induction each with
  | nil => cases member
  | cons itemOk _ ih =>
    rcases List.mem_cons.mp member with rfl | member
    · exact ⟨_, List.mem_cons_self, itemOk⟩
    · obtain ⟨item, among, found⟩ := ih member
      exact ⟨item, List.mem_cons_of_mem _ among, found⟩

theorem exists_of_mem_items {f : α → Except ε β} {items : List α} {values : List β}
    (ok : items.mapM f = .ok values) {item : α} (member : item ∈ items) :
    ∃ value ∈ values, f item = .ok value := by
  have each := mapM_eq_ok ok
  clear ok
  induction each with
  | nil => cases member
  | cons itemOk _ ih =>
    rcases List.mem_cons.mp member with rfl | member
    · exact ⟨_, List.mem_cons_self, itemOk⟩
    · obtain ⟨value, among, found⟩ := ih member
      exact ⟨value, List.mem_cons_of_mem _ among, found⟩

/-- A pass succeeds when each of its items does. -/
theorem mapM_of_forall {f : α → Except ε β} {kind : α → β → Prop} {items : List α}
    (each : ∀ item ∈ items, ∃ value, f item = .ok value ∧ kind item value) :
    ∃ values, items.mapM f = .ok values ∧ List.Forall₂ kind items values := by
  induction items with
  | nil => exact ⟨[], rfl, .nil⟩
  | cons item rest ih =>
    obtain ⟨value, itemOk, valid⟩ := each item List.mem_cons_self
    obtain ⟨values, restOk, rests⟩ := ih fun other among =>
      each other (List.mem_cons_of_mem _ among)
    refine ⟨value :: values, ?_, .cons valid rests⟩
    rw [List.mapM_cons, itemOk, restOk]
    rfl

/-- A loop that only checks succeeds when every check does. -/
theorem forM_eq_ok {f : α → Except ε Unit} {items : List α} :
    items.forM f = .ok () ↔ ∀ item ∈ items, f item = .ok () := by
  induction items with
  | nil => exact ⟨fun _ _ among => (nomatch among), fun _ => rfl⟩
  | cons item rest ih =>
    rw [List.forall_mem_cons, ← ih]
    change (f item >>= fun _ => rest.forM f) = .ok () ↔ _
    cases f item <;> simp [bind, Except.bind]

theorem map_eq_ok {x : Except ε α} {f : α → β} {result : β} :
    x.map f = .ok result ↔ ∃ value, x = .ok value ∧ f value = result := by
  cases x <;> simp [Except.map]

/-- Continue a stateful call with its result; a raised fault keeps the state reached so far. -/
def andThen (result : σ × Except ε α) (next : σ → α → σ × Except ε β) : σ × Except ε β :=
  match result with
  | (state, .error fault) => (state, .error fault)
  | (state, .ok value) => next state value

/-- The computation succeeds with a result that passes the test. -/
def okWith (x : Except ε α) (test : α → Bool) : Bool :=
  match x with
  | .ok value => test value
  | .error _ => false

theorem exists_of_okWith {x : Except ε α} {t : α → Bool} (h : okWith x t = true) :
    ∃ value, x = .ok value ∧ t value = true := by
  cases x with
  | error fault => simp [okWith] at h
  | ok value => exact ⟨value, rfl, h⟩

end CrazySwarm
