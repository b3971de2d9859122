import CrazySwarm.Lib.Runs

/-! Coroutines of an event loop. A coroutine runs without interruption from one wait to the
next; the loop may take any other coroutine's turn in between. What holds of every segment of
every coroutine, from any state it can be resumed in, holds of every interleaving. -/

/-- `act` changes the shared state and continues with the state it found. -/
inductive Coroutine (σ W : Type) (R : W → Type) (ε α : Type) : Type where
  | done (result : Except ε α)
  | act (change : σ → σ) (next : σ → Coroutine σ W R ε α)
  | wait (on : W) (next : R on → Coroutine σ W R ε α)

namespace Coroutine

variable {σ τ φ W : Type} {R : W → Type} {ε δ α β : Type}

/-- Continue with the result, whether it was returned or raised. -/
def handle : Coroutine σ W R ε α → (Except ε α → Coroutine σ W R δ β) → Coroutine σ W R δ β
  | done result, f => f result
  | act change next, f => act change fun s => (next s).handle f
  | wait on next, f => wait on fun reply => (next reply).handle f

def returns (value : α) : Coroutine σ W R ε α := done (.ok value)
def raises (error : ε) : Coroutine σ W R ε α := done (.error error)

def andThen (c : Coroutine σ W R ε α) (f : α → Coroutine σ W R ε β) : Coroutine σ W R ε β :=
  c.handle fun
    | .ok value => f value
    | .error error => raises error

def rescue (c : Coroutine σ W R ε α) (f : ε → Coroutine σ W R ε α) : Coroutine σ W R ε α :=
  c.handle fun
    | .ok value => returns value
    | .error error => f error

instance : Monad (Coroutine σ W R ε) where
  pure := returns
  bind := andThen

/-- `try … finally`: the last part runs on every exit, and what it raises replaces the result. -/
def ensure (c : Coroutine σ W R ε α) (last : Coroutine σ W R ε Unit) : Coroutine σ W R ε α :=
  c.handle fun result => last.andThen fun _ => done result

def get : Coroutine σ W R ε σ := act id returns
def modify (change : σ → σ) : Coroutine σ W R ε Unit := act change fun _ => returns ()
def ofResult (result : Except ε α) : Coroutine σ W R ε α := done result

/-- Run a coroutine on one part of a larger state, with its waits among those of a larger
system. -/
def zoom {V : Type} {S : V → Type} (view : τ → σ) (put : σ → τ → τ) (embed : W → V)
    (back : (on : W) → S (embed on) → R on) : Coroutine σ W R ε α → Coroutine τ V S ε α
  | done result => done result
  | act change next =>
    act (fun t => put (change (view t)) t) fun t => (next (view t)).zoom view put embed back
  | wait on next => wait (embed on) fun reply => (next (back on reply)).zoom view put embed back

def segment : Coroutine σ W R ε α → σ → σ × Coroutine σ W R ε α
  | done result, s => (s, done result)
  | act change next, s => (next s).segment (change s)
  | wait on next, s => (s, wait on next)

/-- The states that the next segment goes through. -/
def passes : Coroutine σ W R ε α → σ → List σ
  | done _, s => [s]
  | act change next, s => s :: (next s).passes (change s)
  | wait _ _, s => [s]

def succeeded : Coroutine σ W R ε α → Bool
  | done (.ok _) => true
  | _ => false

section Segment

@[simp] theorem succeeded_ok {value : α} :
    (done (.ok value) : Coroutine σ W R ε α).succeeded = true := rfl
@[simp] theorem succeeded_error {error : ε} :
    (done (.error error) : Coroutine σ W R ε α).succeeded = false := rfl
@[simp] theorem succeeded_returns {value : α} :
    (returns value : Coroutine σ W R ε α).succeeded = true := rfl
@[simp] theorem succeeded_raises {error : ε} :
    (raises error : Coroutine σ W R ε α).succeeded = false := rfl
@[simp] theorem segment_done (result : Except ε α) (s : σ) :
    (done result : Coroutine σ W R ε α).segment s = (s, done result) := rfl
@[simp] theorem segment_returns (value : α) (s : σ) :
    (returns value : Coroutine σ W R ε α).segment s = (s, returns value) := rfl
@[simp] theorem segment_raises (error : ε) (s : σ) :
    (raises error : Coroutine σ W R ε α).segment s = (s, raises error) := rfl
@[simp] theorem segment_pure (value : α) (s : σ) :
    (pure value : Coroutine σ W R ε α).segment s = (s, returns value) := rfl
@[simp] theorem segment_get (s : σ) :
    (get : Coroutine σ W R ε σ).segment s = (s, returns s) := rfl
@[simp] theorem segment_modify (change : σ → σ) (s : σ) :
    (modify change : Coroutine σ W R ε Unit).segment s = (change s, returns ()) := rfl
@[simp] theorem segment_ofResult (result : Except ε α) (s : σ) :
    (ofResult result : Coroutine σ W R ε α).segment s = (s, done result) := rfl

theorem segment_handle (c : Coroutine σ W R ε α) (f : Except ε α → Coroutine σ W R δ β) (s : σ) :
    (c.handle f).segment s = ((c.segment s).2.handle f).segment (c.segment s).1 := by
  induction c generalizing s with
  | done result => rfl
  | act change next ih => exact ih s (change s)
  | wait on next ih => rfl

/-- The first part of a sequence that returns hands its value and state to the second. -/
theorem segment_bind_of_returns {c : Coroutine σ W R ε α} {f : α → Coroutine σ W R ε β}
    {s s' : σ} {value : α} (ended : c.segment s = (s', returns value)) :
    (c >>= f).segment s = (f value).segment s' := by
  change (c.handle _).segment s = _
  rw [segment_handle, ended]
  rfl

theorem segment_bind_of_raises {c : Coroutine σ W R ε α} {f : α → Coroutine σ W R ε β}
    {s s' : σ} {error : ε} (ended : c.segment s = (s', raises error)) :
    (c >>= f).segment s = (s', raises error) := by
  change (c.handle _).segment s = _
  rw [segment_handle, ended]
  rfl

/-- A sequence waits where its first part does. -/
theorem segment_bind_of_waits {c : Coroutine σ W R ε α} {f : α → Coroutine σ W R ε β}
    {s s' : σ} {on : W} {next : R on → Coroutine σ W R ε α} (ended : c.segment s = (s', wait on next)) :
    (c >>= f).segment s = (s', wait on fun reply => next reply >>= f) := by
  change (c.handle _).segment s = _
  rw [segment_handle, ended]
  rfl

end Segment

section Meets

/-- `first` is what is remembered of the beginning of a segment. `rel` relates it to the end
of every segment that ends at a wait, `post` to that of the last one, and `ready` says what
may be assumed, and remembered, when a wait ends: the state it began in, its reply and the
state it resumes in. -/
def Meets (rel : φ → W → σ → Prop) (ready : (on : W) → σ → R on → σ → φ → Prop)
    (post : φ → Except ε α → σ → Prop) : Coroutine σ W R ε α → φ → σ → Prop
  | done result, first, s => post first result s
  | act change next, first, s => Meets rel ready post (next s) first (change s)
  | wait on next, first, s => rel first on s ∧ ∀ reply later resumed,
      ready on s reply later resumed → Meets rel ready post (next reply) resumed later

variable {rel : φ → W → σ → Prop} {ready : (on : W) → σ → R on → σ → φ → Prop}
  {post : φ → Except ε α → σ → Prop} {first : φ} {s : σ}

@[simp] theorem meets_done {result : Except ε α} :
    (done result : Coroutine σ W R ε α).Meets rel ready post first s ↔ post first result s := Iff.rfl

@[simp] theorem meets_returns {value : α} :
    (returns value : Coroutine σ W R ε α).Meets rel ready post first s ↔
      post first (.ok value) s := Iff.rfl

@[simp] theorem meets_pure {value : α} :
    (pure value : Coroutine σ W R ε α).Meets rel ready post first s ↔
      post first (.ok value) s := Iff.rfl

@[simp] theorem meets_wait {on : W} {next : R on → Coroutine σ W R ε α} :
    (wait on next).Meets rel ready post first s ↔
      rel first on s ∧ ∀ reply later resumed, ready on s reply later resumed →
        (next reply).Meets rel ready post resumed later := Iff.rfl

@[simp] theorem meets_modify {change : σ → σ} {post : φ → Except ε Unit → σ → Prop} :
    (modify change : Coroutine σ W R ε Unit).Meets rel ready post first s ↔
      post first (.ok ()) (change s) := Iff.rfl

@[simp] theorem meets_get {post : φ → Except ε σ → σ → Prop} :
    (get : Coroutine σ W R ε σ).Meets rel ready post first s ↔ post first (.ok s) s := Iff.rfl

@[simp] theorem meets_ofResult {result : Except ε α} :
    (ofResult result : Coroutine σ W R ε α).Meets rel ready post first s ↔
      post first result s := Iff.rfl

/-- What follows a coroutine is judged from the state it ends in. -/
@[simp] theorem meets_handle {c : Coroutine σ W R ε α} {f : Except ε α → Coroutine σ W R δ β}
    {post : φ → Except δ β → σ → Prop} :
    (c.handle f).Meets rel ready post first s ↔
      c.Meets rel ready (fun first result s => (f result).Meets rel ready post first s) first s := by
  induction c generalizing first s with
  | done result => rfl
  | act change next ih => exact ih s
  | wait on next ih => simp only [handle, meets_wait, ih]

theorem meets_andThen {c : Coroutine σ W R ε α} {f : α → Coroutine σ W R ε β}
    {post : φ → Except ε β → σ → Prop} :
    (c.andThen f).Meets rel ready post first s ↔
      c.Meets rel ready (fun first result s =>
        match result with
        | .ok value => (f value).Meets rel ready post first s
        | .error error => post first (.error error) s) first s := by
  rw [andThen, meets_handle]
  apply iff_of_eq
  congr 1
  funext first result s
  cases result <;> rfl

@[simp] theorem meets_bind {c : Coroutine σ W R ε α} {f : α → Coroutine σ W R ε β}
    {post : φ → Except ε β → σ → Prop} :
    (c >>= f).Meets rel ready post first s ↔
      c.Meets rel ready (fun first result s =>
        match result with
        | .ok value => (f value).Meets rel ready post first s
        | .error error => post first (.error error) s) first s := meets_andThen

theorem Meets.weaken {c : Coroutine σ W R ε α} {rel' : φ → W → σ → Prop}
    {other : φ → Except ε α → σ → Prop} (meets : c.Meets rel ready post first s)
    (rels : ∀ first on s, rel first on s → rel' first on s)
    (posts : ∀ first result s, post first result s → other first result s) :
    c.Meets rel' ready other first s := by
  induction c generalizing first s with
  | done result => exact posts _ _ _ meets
  | act change next ih => exact ih s meets
  | wait on next ih =>
    exact ⟨rels _ _ _ meets.1, fun reply later resumed given =>
      ih reply (meets.2 reply later resumed given)⟩

theorem Meets.mono {c : Coroutine σ W R ε α} {other : φ → Except ε α → σ → Prop}
    (meets : c.Meets rel ready post first s)
    (implies : ∀ first result s, post first result s → other first result s) :
    c.Meets rel ready other first s :=
  meets.weaken (fun _ _ _ => id) implies

theorem Meets.of_forall (rels : ∀ first on s, rel first on s)
    (posts : ∀ first result s, post first result s) (c : Coroutine σ W R ε α) :
    c.Meets rel ready post first s := by
  induction c generalizing first s with
  | done result => exact posts _ _ _
  | act change next ih => exact ih s
  | wait on next ih => exact ⟨rels _ _ _, fun reply _ _ _ => ih reply⟩

/-- Two judgements about one coroutine hold together. -/
theorem Meets.and {c : Coroutine σ W R ε α} {rel' : φ → W → σ → Prop}
    {other : φ → Except ε α → σ → Prop} (meets : c.Meets rel ready post first s)
    (also : c.Meets rel' ready other first s) :
    c.Meets (fun a on b => rel a on b ∧ rel' a on b) ready
      (fun a r b => post a r b ∧ other a r b) first s := by
  induction c generalizing first s with
  | done result => exact ⟨meets, also⟩
  | act change next ih => exact ih s meets also
  | wait on next ih =>
    exact ⟨⟨meets.1, also.1⟩, fun reply later resumed given =>
      ih reply (meets.2 reply later resumed given) (also.2 reply later resumed given)⟩

theorem meets_segment {c : Coroutine σ W R ε α} :
    (c.segment s).2.Meets rel ready post first (c.segment s).1 ↔
      c.Meets rel ready post first s := by
  induction c generalizing s with
  | done result => rfl
  | act change next ih => exact ih s
  | wait on next ih => rfl

theorem Meets.ends {c : Coroutine σ W R ε α}
    (meets : c.Meets (fun _ _ _ => False) ready post first s) :
    ∃ result, (c.segment s).2 = done result ∧ post first result (c.segment s).1 := by
  induction c generalizing s with
  | done result => exact ⟨result, rfl, meets⟩
  | act change next ih => exact ih s meets
  | wait on next ih => exact meets.1.elim

/-- The run in which each wait is answered as soon as it begins: the answers by their number. -/
def answered (answers : Nat → (on : W) → R on) :
    Coroutine σ W R ε α → Nat → σ → σ × Nat × Except ε α
  | done result, count, s => (s, count, result)
  | act change next, count, s => answered answers (next s) count (change s)
  | wait on next, count, s => answered answers (next (answers count on)) (count + 1) s

/-- A contract over waits that end in the state they begin in holds of every such run. -/
theorem Meets.answered {c : Coroutine σ W R ε α}
    (meets : c.Meets rel (fun _ s _ later _ => later = s) post first s)
    (answers : Nat → (on : W) → R on) (count : Nat) :
    ∃ last, post last (c.answered answers count s).2.2 (c.answered answers count s).1 := by
  induction c generalizing first s count with
  | done result => exact ⟨first, meets⟩
  | act change next ih => exact ih s meets count
  | wait on next ih => exact ih _ (meets.2 (answers count on) s first rfl) (count + 1)

end Meets

section Twins

theorem answered_handle (answers : Nat → (on : W) → R on) (c : Coroutine σ W R ε α)
    (f : Except ε α → Coroutine σ W R δ β) (count : Nat) (s : σ) :
    (c.handle f).answered answers count s =
      (f (c.answered answers count s).2.2).answered answers (c.answered answers count s).2.1
        (c.answered answers count s).1 := by
  induction c generalizing count s with
  | done result => rfl
  | act change next ih => exact ih s count (change s)
  | wait on next ih => exact ih (answers count on) (count + 1) s

theorem answered_bind (answers : Nat → (on : W) → R on) (c : Coroutine σ W R ε α)
    (f : α → Coroutine σ W R ε β) (count : Nat) (s : σ) :
    (c >>= f).answered answers count s =
      match c.answered answers count s with
      | (s, count, .ok value) => (f value).answered answers count s
      | (s, count, .error error) => (s, count, .error error) := by
  refine (answered_handle answers c _ count s).trans ?_
  rcases c.answered answers count s with ⟨s, count, error | value⟩ <;> rfl

/-- What two runs come to is the same, up to a relation between the values they return. -/
def Agree (vals : α → β → Prop) : Except ε α → Except ε β → Prop
  | .ok value, .ok other => vals value other
  | .error error, .error other => error = other
  | _, _ => False

/-- Two coroutines that take the same answers in related states end in related states, after
the same number of waits, and agree in what they come to. -/
def Twins (rel : σ → σ → Prop) (vals : α → β → Prop) (c : Coroutine σ W R ε α)
    (d : Coroutine σ W R ε β) : Prop :=
  ∀ (answers : Nat → (on : W) → R on) (count : Nat) (s t : σ), rel s t →
    rel (c.answered answers count s).1 (d.answered answers count t).1 ∧
      (c.answered answers count s).2.1 = (d.answered answers count t).2.1 ∧
        Agree vals (c.answered answers count s).2.2 (d.answered answers count t).2.2

variable {α' β' : Type} {rel : σ → σ → Prop} {vals : α → α' → Prop} {wals : β → β' → Prop}

theorem twins_ofResult {result : Except ε α} {result' : Except ε α'} (agree : Agree vals result result') :
    Twins rel vals (ofResult result : Coroutine σ W R ε α) (ofResult result') :=
  fun _ _ _ _ related => ⟨related, rfl, agree⟩

theorem twins_returns {value : α} {value' : α'} (same : vals value value') :
    Twins rel vals (returns value : Coroutine σ W R ε α) (returns value') := twins_ofResult same

theorem twins_raises {error : ε} :
    Twins rel vals (raises error : Coroutine σ W R ε α) (raises error) := twins_ofResult rfl

theorem twins_same (result : Except ε α) :
    Twins rel Eq (ofResult result : Coroutine σ W R ε α) (ofResult result) := by
  cases result with
  | ok value => exact twins_returns rfl
  | error error => exact twins_raises

theorem twins_get : Twins rel rel (get : Coroutine σ W R ε σ) get :=
  fun _ _ _ _ related => ⟨related, rfl, related⟩

theorem twins_modify {change change' : σ → σ} {vals : Unit → Unit → Prop} (unit : vals () ())
    (kept : ∀ s t, rel s t → rel (change s) (change' t)) :
    Twins rel vals (modify change : Coroutine σ W R ε Unit) (modify change') :=
  fun _ _ s t related => ⟨kept s t related, rfl, unit⟩

theorem twins_wait {on : W} {next : R on → Coroutine σ W R ε α} {next' : R on → Coroutine σ W R ε α'}
    (rest : ∀ reply, Twins rel vals (next reply) (next' reply)) :
    Twins rel vals (wait on next) (wait on next') :=
  fun answers count s t related => rest (answers count on) answers (count + 1) s t related

theorem Twins.bind {c : Coroutine σ W R ε α} {d : Coroutine σ W R ε α'}
    {f : α → Coroutine σ W R ε β} {g : α' → Coroutine σ W R ε β'} (front : Twins rel vals c d)
    (rest : ∀ value value', vals value value' → Twins rel wals (f value) (g value')) :
    Twins rel wals (c >>= f) (d >>= g) := by
  intro answers count s t related
  have ends := front answers count s t related
  rw [answered_bind, answered_bind]
  generalize c.answered answers count s = left at ends
  generalize d.answered answers count t = right at ends
  obtain ⟨s, count, result⟩ := left
  obtain ⟨t, count', result'⟩ := right
  obtain ⟨related, counts, agree⟩ := ends
  cases counts
  cases result with
  | ok value =>
    cases result' with
    | ok value' => exact rest value value' agree answers count s t related
    | error error => exact agree.elim
  | error error =>
    cases result' with
    | ok value' => exact agree.elim
    | error error' => exact ⟨related, rfl, agree⟩

theorem Twins.mono {c : Coroutine σ W R ε α} {d : Coroutine σ W R ε α'} {wider : α → α' → Prop}
    (twins : Twins rel vals c d) (implies : ∀ value value', vals value value' → wider value value') :
    Twins rel wider c d := by
  intro answers count s t related
  obtain ⟨ends, counts, agree⟩ := twins answers count s t related
  refine ⟨ends, counts, ?_⟩
  revert agree
  generalize (c.answered answers count s).2.2 = left
  generalize (d.answered answers count t).2.2 = right
  cases left <;> cases right
  case ok.ok value value' => exact implies value value'
  all_goals exact id

theorem twins_ite {condition condition' : Prop} [Decidable condition] [Decidable condition']
    {yes no : Coroutine σ W R ε α} {yes' no' : Coroutine σ W R ε α'} (same : condition ↔ condition')
    (left : Twins rel vals yes yes') (right : Twins rel vals no no') :
    Twins rel vals (if condition then yes else no) (if condition' then yes' else no') := by
  by_cases holds : condition
  · rw [if_pos holds, if_pos (same.mp holds)]
    exact left
  · rw [if_neg holds, if_neg (mt same.mpr holds)]
    exact right

end Twins

section Everywhere

def Everywhere (rel : σ → σ → Prop) (may : W → Prop) : Coroutine σ W R ε α → Prop
  | done _ => True
  | act change next => (∀ s, rel s (change s)) ∧ ∀ s, (next s).Everywhere rel may
  | wait on next => may on ∧ ∀ reply, (next reply).Everywhere rel may

variable {rel : σ → σ → Prop} {may : W → Prop}

@[simp] theorem everywhere_done {result : Except ε α} :
    (done result : Coroutine σ W R ε α).Everywhere rel may := trivial
@[simp] theorem everywhere_returns {value : α} :
    (returns value : Coroutine σ W R ε α).Everywhere rel may := trivial
@[simp] theorem everywhere_pure {value : α} :
    (pure value : Coroutine σ W R ε α).Everywhere rel may := trivial
@[simp] theorem everywhere_ofResult {result : Except ε α} :
    (ofResult result : Coroutine σ W R ε α).Everywhere rel may := trivial
@[simp] theorem everywhere_modify {change : σ → σ} :
    (modify change : Coroutine σ W R ε Unit).Everywhere rel may ↔ ∀ s, rel s (change s) :=
  ⟨fun allowed => allowed.1, fun allowed => ⟨allowed, fun _ => trivial⟩⟩

theorem everywhere_get (refl : ∀ s, rel s s) :
    (get : Coroutine σ W R ε σ).Everywhere rel may := ⟨refl, fun _ => trivial⟩

theorem Everywhere.handle {c : Coroutine σ W R ε α} {f : Except ε α → Coroutine σ W R δ β}
    (front : c.Everywhere rel may) (rest : ∀ result, (f result).Everywhere rel may) :
    (c.handle f).Everywhere rel may := by
  induction c with
  | done result => exact rest result
  | act change next ih => exact ⟨front.1, fun s => ih s (front.2 s)⟩
  | wait on next ih => exact ⟨front.1, fun reply => ih reply (front.2 reply)⟩

theorem Everywhere.bind {c : Coroutine σ W R ε α} {f : α → Coroutine σ W R ε β}
    (front : c.Everywhere rel may) (rest : ∀ value, (f value).Everywhere rel may) :
    (c >>= f).Everywhere rel may := by
  apply front.handle
  rintro (error | value)
  · trivial
  · exact rest value

theorem Everywhere.rescue {c : Coroutine σ W R ε α} {f : ε → Coroutine σ W R ε α}
    (front : c.Everywhere rel may) (rest : ∀ error, (f error).Everywhere rel may) :
    (c.rescue f).Everywhere rel may := by
  apply front.handle
  rintro (error | value)
  · exact rest error
  · trivial

theorem Everywhere.mono {c : Coroutine σ W R ε α} {wider : σ → σ → Prop} {might : W → Prop}
    (every : c.Everywhere rel may) (implies : ∀ a b, rel a b → wider a b)
    (waits : ∀ on, may on → might on) : c.Everywhere wider might := by
  induction c with
  | done result => trivial
  | act change next ih => exact ⟨fun s => implies _ _ (every.1 s), fun s => ih s (every.2 s)⟩
  | wait on next ih => exact ⟨waits on every.1, fun reply => ih reply (every.2 reply)⟩

/-- Small changes that compose make the whole segment one of them. -/
theorem Everywhere.segment {c : Coroutine σ W R ε α} (every : c.Everywhere rel may)
    (refl : ∀ s, rel s s) (trans : ∀ a b d, rel a b → rel b d → rel a d) (s : σ) :
    rel s (c.segment s).1 ∧ (c.segment s).2.Everywhere rel may := by
  induction c generalizing s with
  | done result => exact ⟨refl s, trivial⟩
  | act change next ih =>
    obtain ⟨moved, rest⟩ := ih s (every.2 s) (change s)
    exact ⟨trans _ _ _ (every.1 s) moved, rest⟩
  | wait on next ih => exact ⟨refl s, every⟩

theorem Everywhere.meets {c : Coroutine σ W R ε α} {waits : φ → W → σ → Prop}
    {ready : (on : W) → σ → R on → σ → φ → Prop} {post : φ → Except ε α → σ → Prop} {first : φ} {s : σ}
    (every : c.Everywhere rel fun _ => False) (refl : ∀ s, rel s s)
    (trans : ∀ a b d, rel a b → rel b d → rel a d)
    (ends : ∀ result s', rel s s' → post first result s') : c.Meets waits ready post first s := by
  induction c generalizing s with
  | done result => exact ends result s (refl s)
  | act change next ih =>
    exact ih s (every.2 s) fun result s' moved => ends result s' (trans _ _ _ (every.1 s) moved)
  | wait on next ih => exact every.1.elim

/-- A coroutine waits only for what it may, and what is remembered of a segment that begins
with the end of a wait is true at each of its waits and at its end. -/
theorem Everywhere.waits {c : Coroutine σ W R ε α} {Q : φ → Prop} {first : φ} {s : σ}
    {ready : (on : W) → σ → R on → σ → φ → Prop} (every : c.Everywhere rel may) (given : Q first)
    (resumes : ∀ on since reply later resumed, ready on since reply later resumed → Q resumed) :
    c.Meets (fun first on _ => Q first ∧ may on) ready (fun first _ _ => Q first) first s := by
  induction c generalizing first s with
  | done result => exact given
  | act change next ih => exact ih s (every.2 s) given
  | wait on next ih =>
    exact ⟨⟨given, every.1⟩, fun reply later resumed ended =>
      ih reply (every.2 reply) (resumes _ _ _ _ _ ended)⟩

theorem Everywhere.passes {c : Coroutine σ W R ε α} (every : c.Everywhere rel may)
    (refl : ∀ s, rel s s) (trans : ∀ a b d, rel a b → rel b d → rel a d) {s s' : σ}
    (passed : s' ∈ c.passes s) : rel s s' := by
  induction c generalizing s with
  | done result =>
    obtain rfl := List.mem_singleton.mp passed
    exact refl _
  | act change next ih =>
    rcases List.mem_cons.mp passed with rfl | later
    · exact refl _
    · exact trans _ _ _ (every.1 s) (ih s (every.2 s) later)
  | wait on next ih =>
    obtain rfl := List.mem_singleton.mp passed
    exact refl _

/-- A coroutine on one part of a larger state changes that part alone. -/
theorem everywhere_zoom {V : Type} {S : V → Type} {view : τ → σ} {put : σ → τ → τ} {embed : W → V}
    {back : (on : W) → S (embed on) → R on} {outer : τ → τ → Prop} {might : V → Prop}
    {c : Coroutine σ W R ε α} (every : c.Everywhere rel may)
    (changes : ∀ t s, rel (view t) s → outer t (put s t)) (waits : ∀ on, may on → might (embed on)) :
    (c.zoom view put embed back).Everywhere outer might := by
  induction c with
  | done result => trivial
  | act change next ih =>
    exact ⟨fun t => changes t _ (every.1 (view t)), fun t => ih (view t) (every.2 (view t))⟩
  | wait on next ih => exact ⟨waits on every.1, fun reply => ih _ (every.2 _)⟩

/-- What every change does for each of a family, it does for all of it. -/
theorem everywhere_forall {ι : Type} {P : ι → Prop} {rels : ι → σ → σ → Prop} {c : Coroutine σ W R ε α}
    (every : ∀ i, P i → c.Everywhere (rels i) fun _ => True) :
    c.Everywhere (fun a b => ∀ i, P i → rels i a b) fun _ => True := by
  induction c with
  | done result => trivial
  | act change next ih =>
    exact ⟨fun s i given => (every i given).1 s, fun s => ih s fun i given => (every i given).2 s⟩
  | wait on next ih => exact ⟨trivial, fun reply => ih reply fun i given => (every i given).2 reply⟩

theorem everywhere_anything (c : Coroutine σ W R ε α) :
    c.Everywhere (fun _ _ => True) fun _ => True := by
  induction c with
  | done result => trivial
  | act change next ih => exact ⟨fun _ => trivial, ih⟩
  | wait on next ih => exact ⟨trivial, ih⟩

end Everywhere

section Raises

/-- Whatever the coroutine raises satisfies `P`, as long as the replies are such as `calm`
says. -/
def Raises (P : ε → Prop) (calm : (on : W) → R on → Prop) : Coroutine σ W R ε α → Prop
  | done result => ∀ error, result = .error error → P error
  | act _ next => ∀ s, (next s).Raises P calm
  | wait on next => ∀ reply, calm on reply → (next reply).Raises P calm

variable {P : ε → Prop} {calm : (on : W) → R on → Prop}

@[simp] theorem raises_returns {value : α} :
    (returns value : Coroutine σ W R ε α).Raises P calm := nofun
@[simp] theorem raises_get : (get : Coroutine σ W R ε σ).Raises P calm := fun _ => nofun
@[simp] theorem raises_modify {change : σ → σ} :
    (modify change : Coroutine σ W R ε Unit).Raises P calm := fun _ => nofun

theorem raises_raises {error : ε} (holds : P error) :
    (raises error : Coroutine σ W R ε α).Raises P calm := by
  rintro _ ⟨⟩
  exact holds

theorem Raises.handle {c : Coroutine σ W R ε α} {f : Except ε α → Coroutine σ W R ε β}
    (front : c.Raises P calm) (returned : ∀ value, (f (.ok value)).Raises P calm)
    (raised : ∀ error, P error → (f (.error error)).Raises P calm) :
    (c.handle f).Raises P calm := by
  induction c with
  | done result =>
    cases result with
    | error error => exact raised error (front error rfl)
    | ok value => exact returned value
  | act change next ih => exact fun s => ih s (front s)
  | wait on next ih => exact fun reply given => ih reply (front reply given)

theorem Raises.bind {c : Coroutine σ W R ε α} {f : α → Coroutine σ W R ε β}
    (front : c.Raises P calm) (rest : ∀ value, (f value).Raises P calm) :
    (c >>= f).Raises P calm :=
  front.handle rest fun _ holds => raises_raises holds

/-- A judgement about a coroutine may use what it raises. -/
theorem Raises.meets {c : Coroutine σ W R ε α} {waits : φ → W → σ → Prop}
    {ready : (on : W) → σ → R on → σ → φ → Prop} {post : φ → Except ε α → σ → Prop} {first : φ} {s : σ}
    (raised : c.Raises P calm) (meets : c.Meets waits ready post first s)
    (answers : ∀ on s reply later resumed, ready on s reply later resumed → calm on reply) :
    c.Meets waits ready (fun first result s =>
      post first result s ∧ ∀ error, result = .error error → P error) first s := by
  induction c generalizing first s with
  | done result => exact ⟨meets, raised⟩
  | act change next ih => exact ih s (raised s) meets
  | wait on next ih =>
    exact ⟨meets.1, fun reply later resumed given => ih reply
      (raised reply (answers on s reply later resumed given)) (meets.2 reply later resumed given)⟩

end Raises

section Keeps

/-- From wherever the precondition holds, the coroutine keeps `rel` up to each of its waits and
to its end, waits only for what it may, and establishes the postcondition in the end. -/
def Keeps (rel : φ → σ → Prop) (may : φ → W → Prop)
    (ready : (on : W) → σ → R on → σ → φ → Prop) (P : φ → σ → Prop)
    (c : Coroutine σ W R ε α) (Q : φ → Except ε α → σ → Prop) : Prop :=
  ∀ first s, rel first s → P first s →
    c.Meets (fun first on s => rel first s ∧ may first on) ready
      (fun first result s => rel first s ∧ Q first result s) first s

variable {rel : φ → σ → Prop} {may : φ → W → Prop}
  {ready : (on : W) → σ → R on → σ → φ → Prop} {P P' : φ → σ → Prop}

theorem Keeps.consequence {c : Coroutine σ W R ε α} {Q Q' : φ → Except ε α → σ → Prop}
    (keeps : c.Keeps rel may ready P Q) (pre : ∀ first s, P' first s → P first s)
    (post : ∀ first result s, Q first result s → Q' first result s) :
    c.Keeps rel may ready P' Q' :=
  fun first s kept holds => (keeps first s kept (pre first s holds)).mono
    fun first result s ended => ⟨ended.1, post first result s ended.2⟩

theorem Keeps.done {result : Except ε α} {Q : φ → Except ε α → σ → Prop}
    (established : ∀ first s, P first s → Q first result s) :
    (done result : Coroutine σ W R ε α).Keeps rel may ready P Q :=
  fun first s kept holds => ⟨kept, established first s holds⟩

theorem Keeps.get : (get : Coroutine σ W R ε σ).Keeps rel may ready P
    fun first result s => result = .ok s ∧ P first s :=
  fun _ _ kept holds => ⟨kept, rfl, holds⟩

theorem Keeps.modify {change : σ → σ} {Q : φ → Except ε Unit → σ → Prop}
    (kept : ∀ first s, rel first s → P first s →
      rel first (change s) ∧ Q first (.ok ()) (change s)) :
    (modify change : Coroutine σ W R ε Unit).Keeps rel may ready P Q :=
  kept

theorem Keeps.wait {on : W} {Q : φ → Except ε α → σ → Prop} {next : R on → Coroutine σ W R ε α}
    (allowed : ∀ first s, P first s → may first on)
    (resumes : ∀ first s reply later resumed, rel first s → P first s →
      ready on s reply later resumed →
        (next reply).Meets (fun first on s => rel first s ∧ may first on) ready
          (fun first result s => rel first s ∧ Q first result s) resumed later) :
    (wait on next).Keeps rel may ready P Q :=
  fun first s kept holds => ⟨⟨kept, allowed first s holds⟩, fun reply later resumed given =>
    resumes first s reply later resumed kept holds given⟩

theorem Keeps.handle {c : Coroutine σ W R ε α} {f : Except ε α → Coroutine σ W R δ β}
    {M : φ → Except ε α → σ → Prop} {Q : φ → Except δ β → σ → Prop}
    (front : c.Keeps rel may ready P M)
    (rest : ∀ result, (f result).Keeps rel may ready (fun first => M first result) Q) :
    (c.handle f).Keeps rel may ready P Q := by
  intro first s kept holds
  rw [meets_handle]
  exact (front first s kept holds).mono fun first result s ended =>
    rest result first s ended.1 ended.2

theorem Keeps.bind {c : Coroutine σ W R ε α} {f : α → Coroutine σ W R ε β}
    {M : φ → Except ε α → σ → Prop} {Q : φ → Except ε β → σ → Prop}
    (front : c.Keeps rel may ready P M)
    (fails : ∀ first error s, M first (.error error) s → Q first (.error error) s)
    (rest : ∀ value, (f value).Keeps rel may ready (fun first => M first (.ok value)) Q) :
    (c >>= f).Keeps rel may ready P Q := by
  apply front.handle
  rintro (error | value)
  · exact Keeps.done fun first => fails first error
  · exact rest value

theorem Keeps.rescue {c : Coroutine σ W R ε α} {f : ε → Coroutine σ W R ε α}
    {M Q : φ → Except ε α → σ → Prop} (front : c.Keeps rel may ready P M)
    (succeeds : ∀ first value s, M first (.ok value) s → Q first (.ok value) s)
    (rest : ∀ error, (f error).Keeps rel may ready (fun first => M first (.error error)) Q) :
    (c.rescue f).Keeps rel may ready P Q := by
  apply front.handle
  rintro (error | value)
  · exact rest error
  · exact Keeps.done fun first => succeeds first value

/-- The parts of a sequence each keep the condition they start from. -/
theorem Keeps.seq {c : Coroutine σ W R ε α} {f : α → Coroutine σ W R ε β}
    (front : c.Keeps rel may ready P fun first _ => P first)
    (rest : ∀ value, (f value).Keeps rel may ready P fun first _ => P first) :
    (c >>= f).Keeps rel may ready P fun first _ => P first :=
  front.bind (fun _ _ _ => id) rest

/-- What the beginning of a segment satisfies, if it outlasts every wait, is there in the end. -/
theorem Keeps.frame {c : Coroutine σ W R ε α} {Q : φ → Except ε α → σ → Prop} {L : φ → Prop}
    (keeps : c.Keeps rel may ready P Q)
    (outlasts : ∀ first on since reply later resumed, rel first since → may first on →
      ready on since reply later resumed → L first → L resumed) :
    c.Keeps rel may ready (fun first s => L first ∧ P first s)
      fun first result s => L first ∧ Q first result s := by
  intro first s kept holds
  have meets := keeps first s kept holds.2
  have lasts := holds.1
  clear keeps kept holds
  induction c generalizing first s with
  | done result => exact ⟨meets.1, lasts, meets.2⟩
  | act change next ih => exact ih s _ _ meets lasts
  | wait on next ih =>
    exact ⟨meets.1, fun reply later resumed given => ih reply _ _ (meets.2 _ _ _ given)
      (outlasts first on s reply later resumed meets.1.1 meets.1.2 given lasts)⟩

/-- What every single change and every wait preserves is kept throughout. -/
theorem Everywhere.keeps {c : Coroutine σ W R ε α} {small : σ → σ → Prop} {waits : W → Prop}
    (every : c.Everywhere small waits)
    (stays : ∀ first s s', rel first s → P first s → small s s' → rel first s' ∧ P first s')
    (allowed : ∀ first on s, waits on → P first s → may first on)
    (resumes : ∀ first on s reply later resumed, waits on → ready on s reply later resumed →
      rel first s → P first s → rel resumed later ∧ P resumed later) :
    c.Keeps rel may ready P fun first _ => P first := by
  intro first s kept holds
  induction c generalizing first s with
  | done result => exact ⟨kept, holds⟩
  | act change next ih =>
    obtain ⟨kept', holds'⟩ := stays _ _ _ kept holds (every.1 s)
    exact ih s (every.2 s) _ _ kept' holds'
  | wait on next ih =>
    refine ⟨⟨kept, allowed _ _ _ every.1 holds⟩, fun reply later resumed given => ?_⟩
    obtain ⟨kept', holds'⟩ := resumes first on s reply later resumed every.1 given kept holds
    exact ih reply (every.2 reply) resumed later kept' holds'

end Keeps

section Maintains

/-- From wherever the invariant holds, it holds at each wait of the coroutine and at its end, as
long as it does when a wait ends and the replies are calm. -/
def Maintains (inv : σ → Prop) (calm : (on : W) → R on → σ → Prop) (c : Coroutine σ W R ε α) :
    Prop :=
  ∀ s, inv s → c.Meets (fun _ _ s => inv s)
    (fun on _ reply later (_ : Unit) => inv later ∧ calm on reply later) (fun _ _ s => inv s) () s

variable {inv : σ → Prop} {calm : (on : W) → R on → σ → Prop}

theorem Maintains.done {result : Except ε α} :
    (done result : Coroutine σ W R ε α).Maintains inv calm := fun _ holds => holds

theorem Maintains.handle {c : Coroutine σ W R ε α} {f : Except ε α → Coroutine σ W R δ β}
    (front : c.Maintains inv calm) (rest : ∀ result, (f result).Maintains inv calm) :
    (c.handle f).Maintains inv calm := by
  intro s holds
  rw [meets_handle]
  exact (front s holds).mono fun _ result s holds => rest result s holds

theorem Maintains.bind {c : Coroutine σ W R ε α} {f : α → Coroutine σ W R ε β}
    (front : c.Maintains inv calm) (rest : ∀ value, (f value).Maintains inv calm) :
    (c >>= f).Maintains inv calm := by
  apply front.handle
  rintro (error | value)
  · exact .done
  · exact rest value

theorem Maintains.rescue {c : Coroutine σ W R ε α} {f : ε → Coroutine σ W R ε α}
    (front : c.Maintains inv calm) (rest : ∀ error, (f error).Maintains inv calm) :
    (c.rescue f).Maintains inv calm := by
  apply front.handle
  rintro (error | value)
  · exact rest error
  · exact .done

theorem Maintains.read {f : σ → Coroutine σ W R ε α} (rest : ∀ s, (f s).Maintains inv calm) :
    (Coroutine.get >>= f).Maintains inv calm := fun s holds => rest s s holds

theorem Maintains.modify {change : σ → σ} (kept : ∀ s, inv s → inv (change s)) :
    (modify change : Coroutine σ W R ε Unit).Maintains inv calm := kept

theorem Maintains.wait {on : W} {next : R on → Coroutine σ W R ε α}
    (rest : ∀ reply s, inv s → calm on reply s → (next reply).Meets (fun _ _ s => inv s)
      (fun on _ reply later (_ : Unit) => inv later ∧ calm on reply later) (fun _ _ s => inv s) () s) :
    (wait on next).Maintains inv calm :=
  fun _ holds => ⟨holds, fun reply later _ given => rest reply later given.1 given.2⟩

theorem Maintains.await {on : W} {next : R on → Coroutine σ W R ε α}
    (rest : ∀ reply, (next reply).Maintains inv calm) : (Coroutine.wait on next).Maintains inv calm :=
  .wait fun reply s holds _ => rest reply s holds

end Maintains

end Coroutine

/-- A started call: what it is, the state its last segment ended in, and what is left of it. -/
structure EventLoop.Task (Λ σ W : Type) (R : W → Type) (ε α : Type) where
  label : Λ
  since : σ
  rest : Coroutine σ W R ε α

structure EventLoop (Λ σ W : Type) (R : W → Type) (ε α : Type) where
  state : σ
  tasks : List (EventLoop.Task Λ σ W R ε α)

namespace EventLoop
open Coroutine

variable {Λ σ φ W : Type} {R : W → Type} {ε α : Type}

/-- The loop calls a new coroutine, or ends the wait of a task with a reply. -/
inductive Turn (Λ W : Type) (R : W → Type) where
  | call (label : Λ)
  | resume (task : Nat) (reply : (on : W) → R on)

variable (program : Λ → Coroutine σ W R ε α)

def step (loop : EventLoop Λ σ W R ε α) : Turn Λ W R → EventLoop Λ σ W R ε α
  | .call label =>
    let ended := (program label).segment loop.state
    ⟨ended.1, loop.tasks ++ [⟨label, ended.1, ended.2⟩]⟩
  | .resume task reply =>
    match loop.tasks[task]? with
    | some ⟨label, _, .wait on next⟩ =>
      let ended := (next (reply on)).segment loop.state
      ⟨ended.1, loop.tasks.set task ⟨label, ended.1, ended.2⟩⟩
    | _ => loop

def moved (loop : EventLoop Λ σ W R ε α) : Turn Λ W R → Option (Λ × σ × σ × Coroutine σ W R ε α)
  | .call label =>
    let ended := (program label).segment loop.state
    some (label, loop.state, ended.1, ended.2)
  | .resume task reply =>
    match loop.tasks[task]? with
    | some ⟨label, _, .wait on next⟩ =>
      let ended := (next (reply on)).segment loop.state
      some (label, loop.state, ended.1, ended.2)
    | _ => none

/-- What a segment begins with: the wait that has ended, if any, and the state it finds. -/
structure Begun (σ W : Type) (R : W → Type) where
  resumed : Option ((on : W) × R on)
  state : σ

def begun (loop : EventLoop Λ σ W R ε α) : Turn Λ W R → Begun σ W R
  | .call _ => ⟨none, loop.state⟩
  | .resume task reply =>
    match loop.tasks[task]? with
    | some ⟨_, _, .wait on _⟩ => ⟨some ⟨on, reply on⟩, loop.state⟩
    | _ => ⟨none, loop.state⟩

/-- The states that the turn's segment goes through. -/
def passes (loop : EventLoop Λ σ W R ε α) : Turn Λ W R → List σ
  | .call label => (program label).passes loop.state
  | .resume task reply =>
    match loop.tasks[task]? with
    | some ⟨_, _, .wait on next⟩ => (next (reply on)).passes loop.state
    | _ => [loop.state]

/-- A contract for the segments of every label. -/
structure Contract (Λ σ W : Type) (R : W → Type) (ε α φ : Type) where
  begins : Λ → σ → φ → Prop
  ready : Λ → (on : W) → σ → R on → σ → φ → Prop
  rel : Λ → φ → W → σ → Prop
  post : Λ → φ → Except ε α → σ → Prop

variable (contract : Contract Λ σ W R ε α φ)

/-- What the contract promises of a segment that begins and ends so, with this remainder. -/
def Contract.Promises (label : Λ) (first : φ) (after : σ) : Coroutine σ W R ε α → Prop
  | .done result => contract.post label first result after
  | .wait on _ => contract.rel label first on after
  | .act .. => False

/-- What the contract lets be remembered of the beginning of the turn's segment. -/
def Begins (loop : EventLoop Λ σ W R ε α) (turn : Turn Λ W R) (first : φ) : Prop :=
  match turn with
  | .call label => contract.begins label loop.state first
  | .resume task reply =>
    match loop.tasks[task]? with
    | some ⟨label, since, .wait on _⟩ =>
      contract.ready label on since (reply on) loop.state first
    | _ => True

/-- The turn is one the contract makes promises about. -/
def Admitted (loop : EventLoop Λ σ W R ε α) (turn : Turn Λ W R) : Prop :=
  (moved program loop turn).isSome → ∃ first, loop.Begins contract turn first

/-- The segment of the turn does what the contract promises. -/
def Kept (loop : EventLoop Λ σ W R ε α) (turn : Turn Λ W R) : Prop :=
  ∀ first label before after rest, loop.Begins contract turn first →
    moved program loop turn = some (label, before, after, rest) →
      contract.Promises label first after rest

/-- Every task is suspended where its contract holds of what is left. -/
def Sound (loop : EventLoop Λ σ W R ε α) : Prop :=
  ∀ task ∈ loop.tasks, ∃ first,
    task.rest.Meets (contract.rel task.label) (contract.ready task.label)
      (contract.post task.label) first task.since

/-- Every call meets its contract from wherever it may begin. -/
def Contract.Met (program : Λ → Coroutine σ W R ε α) : Prop :=
  ∀ label s first, contract.begins label s first →
    (program label).Meets (contract.rel label) (contract.ready label) (contract.post label) first s

variable {program contract} {loop : EventLoop Λ σ W R ε α}

/-- A contract that remembers all that a segment begins with. `calm` is what may be assumed of
the state that a wait began in, its reply and the state it ends in. -/
def Contract.ofReplies (admits : Λ → σ → Prop) (calm : Λ → (on : W) → σ → R on → σ → Prop)
    (rel : Λ → Begun σ W R → W → σ → Prop) (post : Λ → Begun σ W R → Except ε α → σ → Prop) :
    Contract Λ σ W R ε α (Begun σ W R) where
  begins label s first := first = ⟨none, s⟩ ∧ admits label s
  ready label on since reply later first :=
    first = ⟨some ⟨on, reply⟩, later⟩ ∧ calm label on since reply later
  rel := rel
  post := post

/-- The same whatever the reply. -/
def Contract.ofBegun (admits : Λ → σ → Prop) (calm : Λ → (on : W) → σ → σ → Prop)
    (rel : Λ → Begun σ W R → W → σ → Prop) (post : Λ → Begun σ W R → Except ε α → σ → Prop) :
    Contract Λ σ W R ε α (Begun σ W R) where
  begins label s first := first = ⟨none, s⟩ ∧ admits label s
  ready label on since reply later first :=
    first = ⟨some ⟨on, reply⟩, later⟩ ∧ calm label on since later
  rel := rel
  post := post

theorem segment_ends {c rest : Coroutine σ W R ε α} {s s' : σ}
    (ended : c.segment s = (s', rest)) (change : σ → σ) (next : σ → Coroutine σ W R ε α) :
    rest ≠ .act change next := by
  induction c generalizing s with
  | done result => cases ended; rintro ⟨⟩
  | act change' next' ih => exact ih s ended
  | wait on next' => cases ended; rintro ⟨⟩

theorem promises_of_meets {label : Λ} {first : φ} {before after : σ}
    {c rest : Coroutine σ W R ε α}
    (meets : c.Meets (contract.rel label) (contract.ready label) (contract.post label) first before)
    (ended : c.segment before = (after, rest)) : contract.Promises label first after rest := by
  have := meets_segment.mpr meets
  rw [ended] at this
  cases rest with
  | done result => exact this
  | wait on next => exact this.1
  | act change next => exact absurd rfl (segment_ends ended change next)

/-- Contracts that hold of every call hold of every turn of every admitted interleaving. -/
theorem step_sound (met : contract.Met program) (sound : loop.Sound contract) {turn : Turn Λ W R}
    (admitted : loop.Admitted program contract turn) :
    Kept program contract loop turn ∧ (step program loop turn).Sound contract := by
  cases turn with
  | call label =>
    constructor
    · rintro first _ _ _ _ begins ⟨⟩
      exact promises_of_meets (met label loop.state first begins) rfl
    · obtain ⟨first, begins⟩ := admitted rfl
      intro task member
      rcases List.mem_append.mp member with old | new
      · exact sound task old
      · obtain rfl := List.mem_singleton.mp new
        exact ⟨_, meets_segment.mpr (met label loop.state first begins)⟩
  | resume i reply =>
    simp only [Admitted, Begins, moved] at admitted
    simp only [Kept, Begins, moved, step]
    split
    · next label since on next found =>
      simp only [found] at admitted
      obtain ⟨_, suspended⟩ := sound _ (List.mem_of_getElem? found)
      constructor
      · rintro first _ _ _ _ begins ⟨⟩
        exact promises_of_meets (suspended.2 _ _ _ begins) rfl
      · obtain ⟨first, begins⟩ := admitted rfl
        intro task member
        rcases List.mem_or_eq_of_mem_set member with old | new
        · exact sound task old
        · subst new
          exact ⟨_, meets_segment.mpr (suspended.2 _ _ _ begins)⟩
    · constructor
      · rintro _ _ _ _ _ _ ⟨⟩
      · exact sound

section Begun

variable {admits : Λ → σ → Prop} {calm : Λ → (on : W) → σ → R on → σ → Prop}
  {rel : Λ → Begun σ W R → W → σ → Prop} {post : Λ → Begun σ W R → Except ε α → σ → Prop}
  {turn : Turn Λ W R}

theorem begins_ofReplies {first : Begun σ W R}
    (begins : loop.Begins
      (.ofReplies admits calm rel post : Contract Λ σ W R ε α (Begun σ W R)) turn first)
    (moves : (moved program loop turn).isSome) : first = loop.begun turn := by
  cases turn with
  | call label => exact begins.1
  | resume i reply =>
    simp only [Begins] at begins
    simp only [moved] at moves
    simp only [begun]
    split at begins
    · exact begins.1
    · next unfound =>
      split at moves
      · next label since on next found => exact absurd found (unfound label since on next)
      · cases moves

theorem admitted_ofReplies (calls : ∀ label, turn = .call label → admits label loop.state)
    (resumes : ∀ task reply, turn = .resume task reply → ∀ label since on next,
      loop.tasks[task]? = some ⟨label, since, .wait on next⟩ →
        calm label on since (reply on) loop.state) :
    loop.Admitted program (.ofReplies admits calm rel post) turn := by
  intro moves
  cases turn with
  | call label => exact ⟨_, rfl, calls label rfl⟩
  | resume i reply =>
    simp only [moved] at moves
    simp only [Begins]
    split
    · next label since on next found =>
      exact ⟨_, rfl, resumes i reply rfl label since on next found⟩
    · next unfound =>
      split at moves
      · next label since on next found => exact absurd found (unfound label since on next)
      · cases moves

theorem promises_ofReplies
    (admitted : loop.Admitted program (.ofReplies admits calm rel post) turn)
    (kept : Kept program (.ofReplies admits calm rel post) loop turn) {label : Λ}
    {before after : σ} {rest : Coroutine σ W R ε α}
    (moves : moved program loop turn = some (label, before, after, rest)) :
    (Contract.ofReplies admits calm rel post).Promises label (loop.begun turn) after rest := by
  obtain ⟨first, begins⟩ := admitted (by rw [moves]; rfl)
  rw [← begins_ofReplies begins (by rw [moves]; rfl)]
  exact kept _ _ _ _ _ begins moves

variable {calm : Λ → (on : W) → σ → σ → Prop}

theorem admitted_ofBegun (calls : ∀ label, turn = .call label → admits label loop.state)
    (resumes : ∀ task reply, turn = .resume task reply → ∀ label since on next,
      loop.tasks[task]? = some ⟨label, since, .wait on next⟩ → calm label on since loop.state) :
    loop.Admitted program (.ofBegun admits calm rel post) turn :=
  admitted_ofReplies calls resumes

theorem promises_begun (admitted : loop.Admitted program (.ofBegun admits calm rel post) turn)
    (kept : Kept program (.ofBegun admits calm rel post) loop turn) {label : Λ}
    {before after : σ} {rest : Coroutine σ W R ε α}
    (moves : moved program loop turn = some (label, before, after, rest)) :
    (Contract.ofBegun admits calm rel post).Promises label (loop.begun turn) after rest :=
  promises_ofReplies admitted kept moves

end Begun

/-- Every single change of every task is one that its label allows. -/
def Within (rel : Λ → σ → σ → Prop) (loop : EventLoop Λ σ W R ε α) : Prop :=
  ∀ task ∈ loop.tasks, task.rest.Everywhere (rel task.label) fun _ => True

theorem step_within {rel : Λ → σ → σ → Prop} {turn : Turn Λ W R}
    (called : ∀ label, turn = .call label → (program label).Everywhere (rel label) fun _ => True)
    (refl : ∀ label s, rel label s s)
    (trans : ∀ label a b d, rel label a b → rel label b d → rel label a d)
    (within : loop.Within rel) :
    (∀ label before after rest, moved program loop turn = some (label, before, after, rest) →
      rel label before after) ∧ (step program loop turn).Within rel := by
  cases turn with
  | call label =>
    obtain ⟨whole, left⟩ := (called label rfl).segment (refl label) (trans label) loop.state
    constructor
    · rintro _ _ _ _ ⟨⟩
      exact whole
    · intro task member
      rcases List.mem_append.mp member with old | new
      · exact within task old
      · obtain rfl := List.mem_singleton.mp new
        exact left
  | resume i reply =>
    simp only [moved, step]
    split
    · next label since on next found =>
      have suspended := within _ (List.mem_of_getElem? found)
      obtain ⟨whole, left⟩ := (suspended.2 (reply on)).segment (refl label) (trans label) loop.state
      constructor
      · rintro _ _ _ _ ⟨⟩
        exact whole
      · intro task member
        rcases List.mem_or_eq_of_mem_set member with old | new
        · exact within task old
        · subst new
          exact left
    · constructor
      · rintro _ _ _ _ ⟨⟩
      · exact within

theorem Within.passes {rel : Λ → σ → σ → Prop} {turn : Turn Λ W R}
    (called : ∀ label, turn = .call label → (program label).Everywhere (rel label) fun _ => True)
    (refl : ∀ label s, rel label s s)
    (trans : ∀ label a b d, rel label a b → rel label b d → rel label a d)
    (within : loop.Within rel) {s : σ} (passed : s ∈ loop.passes program turn) :
    s = loop.state ∨ ∃ label, rel label loop.state s := by
  cases turn with
  | call label =>
    exact .inr ⟨label, (called label rfl).passes (refl label) (trans label) passed⟩
  | resume i reply =>
    simp only [EventLoop.passes] at passed
    split at passed
    · next label since on next found =>
      have suspended := within _ (List.mem_of_getElem? found)
      exact .inr ⟨label, (suspended.2 (reply on)).passes (refl label) (trans label) passed⟩
    · exact .inl (List.mem_singleton.mp passed)

theorem moved_before {turn : Turn Λ W R} {label : Λ} {before after : σ}
    {rest : Coroutine σ W R ε α}
    (moves : moved program loop turn = some (label, before, after, rest)) :
    before = loop.state := by
  cases turn with
  | call label => cases moves; rfl
  | resume i reply =>
    simp only [moved] at moves
    split at moves <;> cases moves
    rfl

theorem step_state (turn : Turn Λ W R) :
    (step program loop turn).state =
      ((moved program loop turn).map fun ended => ended.2.2.1).getD loop.state := by
  cases turn with
  | call label => rfl
  | resume i reply =>
    simp only [step, moved]
    split <;> rfl

def index (loop : EventLoop Λ σ W R ε α) : Turn Λ W R → Nat
  | .call _ => loop.tasks.length
  | .resume task _ => task

theorem step_task {turn : Turn Λ W R} {j : Nat} {task : Task Λ σ W R ε α}
    (found : (step program loop turn).tasks[j]? = some task) :
    loop.tasks[j]? = some task ∨ j = loop.index turn ∧
      moved program loop turn = some (task.label, loop.state, task.since, task.rest) := by
  cases turn with
  | call label =>
    rcases Nat.lt_or_ge j loop.tasks.length with old | new
    · left
      rwa [step, List.getElem?_append_left old] at found
    · right
      rw [step, List.getElem?_append_right new] at found
      obtain ⟨bound, rfl⟩ := List.getElem?_eq_some_iff.mp found
      have last : j - loop.tasks.length = 0 := by simpa using bound
      simp only [last, List.getElem_cons_zero, index, moved, and_true]
      omega
  | resume i reply =>
    simp only [step] at found
    simp only [moved, index]
    split at found
    · next label since on next suspended =>
      by_cases same : i = j
      · subst same
        right
        rw [List.getElem?_set_self (List.getElem?_eq_some_iff.mp suspended).1] at found
        cases found
        exact ⟨rfl, rfl⟩
      · left
        rwa [List.getElem?_set_ne same] at found
    · exact .inl found

/-- Only the turn's own task moves. -/
theorem step_other (turn : Turn Λ W R) {j : Nat} (other : j ≠ loop.index turn) :
    (step program loop turn).tasks[j]? = loop.tasks[j]? := by
  cases turn with
  | call label =>
    simp only [index] at other
    rcases Nat.lt_or_ge j loop.tasks.length with old | new
    · rw [step, List.getElem?_append_left old]
    · have bound : loop.tasks.length ≤ j := new
      rw [step, List.getElem?_eq_none (by simp; omega), List.getElem?_eq_none bound]
  | resume i reply =>
    simp only [index] at other
    simp only [step]
    split
    · rw [List.getElem?_set_ne (Ne.symm other)]
    · rfl

theorem step_index {turn : Turn Λ W R} {label : Λ} {before after : σ} {rest : Coroutine σ W R ε α}
    (moves : moved program loop turn = some (label, before, after, rest)) :
    (step program loop turn).tasks[loop.index turn]? = some ⟨label, after, rest⟩ := by
  cases turn with
  | call label =>
    cases moves
    rw [step, index, List.getElem?_append_right (Nat.le_refl _)]
    simp
  | resume i reply =>
    simp only [moved] at moves
    simp only [step, index]
    split at moves
    · next label since on next found =>
      cases moves
      exact List.getElem?_set_self (List.getElem?_eq_some_iff.mp found).1
    · cases moves

def Turn.called : Turn Λ W R → List Λ
  | .call label => [label]
  | .resume _ _ => []

def labels (loop : EventLoop Λ σ W R ε α) : List Λ := loop.tasks.map (·.label)

theorem labels_of_task {j : Nat} {task : Task Λ σ W R ε α} (found : loop.tasks[j]? = some task) :
    loop.labels[j]? = some task.label := by
  rw [labels, List.getElem?_map, found]
  rfl

/-- Tasks keep their labels, and a call adds its own. -/
theorem step_labels (turn : Turn Λ W R) :
    (step program loop turn).labels = loop.labels ++ turn.called := by
  cases turn with
  | call label => simp [labels, step, Turn.called]
  | resume i reply =>
    simp only [labels, step, Turn.called, List.append_nil]
    split
    · next label since on next found =>
      have bound := (List.getElem?_eq_some_iff.mp found).1
      refine List.ext_getElem? fun j => ?_
      rw [List.getElem?_map, List.getElem?_map]
      by_cases here : i = j
      · subst here
        rw [List.getElem?_set_self bound, found]
        rfl
      · rw [List.getElem?_set_ne here]
    · rfl

/-- A label is an old one in its old place, or that of the call. -/
theorem step_label_cases {turn : Turn Λ W R} {k : Nat} {label : Λ}
    (found : (step program loop turn).labels[k]? = some label) :
    loop.labels[k]? = some label ∨ k = loop.labels.length ∧ turn = .call label := by
  rw [step_labels] at found
  cases turn with
  | resume task reply =>
    rw [Turn.called, List.append_nil] at found
    exact .inl found
  | call called =>
    rcases Nat.lt_or_ge k loop.labels.length with old | new
    · left
      rwa [List.getElem?_append_left old] at found
    · rw [List.getElem?_append_right new] at found
      obtain ⟨bound, same⟩ := List.getElem?_eq_some_iff.mp found
      have last : k - loop.labels.length = 0 := by simpa [Turn.called] using bound
      refine .inr ⟨by omega, congrArg _ ?_⟩
      simpa [last, Turn.called] using same

theorem step_idle {turn : Turn Λ W R} (idle : moved program loop turn = none) :
    step program loop turn = loop := by
  cases turn with
  | call label => cases idle
  | resume i reply =>
    simp only [moved] at idle
    simp only [step]
    split at idle
    · cases idle
    · rfl

theorem step_record {β : Type} {entries : Task Λ σ W R ε α → List β}
    (waiting : ∀ label since on next, entries ⟨label, since, .wait on next⟩ = []) (turn : Turn Λ W R) :
    ((step program loop turn).tasks.flatMap entries).Perm (loop.tasks.flatMap entries ++
      (moved program loop turn).toList.flatMap fun ended =>
        entries ⟨ended.1, ended.2.2.1, ended.2.2.2⟩) := by
  cases turn with
  | call label => simp [step, moved]
  | resume i reply =>
    simp only [step, moved]
    split
    · next label since on next found =>
      obtain ⟨bound, same⟩ := List.getElem?_eq_some_iff.mp found
      have silent : entries loop.tasks[i] = [] := same ▸ waiting label since on next
      have before : loop.tasks.flatMap entries =
          (loop.tasks.take i).flatMap entries ++ (loop.tasks.drop (i + 1)).flatMap entries := by
        calc loop.tasks.flatMap entries
            = (loop.tasks.take i ++ loop.tasks[i] :: loop.tasks.drop (i + 1)).flatMap entries := by
              rw [List.getElem_cons_drop, List.take_append_drop]
          _ = _ := by rw [List.flatMap_append, List.flatMap_cons, silent, List.nil_append]
      rw [before]
      simp only [List.set_eq_take_append_cons_drop, if_pos bound, List.flatMap_append,
        List.flatMap_cons, Option.toList_some, List.flatMap_nil, List.append_nil, List.append_assoc]
      exact List.perm_append_comm.append_left _
    · simp

/-- Every task waits or has ended. -/
def Rests (loop : EventLoop Λ σ W R ε α) : Prop :=
  ∀ task ∈ loop.tasks, ∀ change next, task.rest ≠ .act change next

theorem step_rests (rests : loop.Rests) (turn : Turn Λ W R) : (step program loop turn).Rests := by
  intro task member
  cases turn with
  | call label =>
    rcases List.mem_append.mp member with old | new
    · exact rests task old
    · obtain rfl := List.mem_singleton.mp new
      exact segment_ends rfl
  | resume i reply =>
    simp only [step] at member
    split at member
    · rcases List.mem_or_eq_of_mem_set member with old | rfl
      · exact rests task old
      · exact segment_ends rfl
    · exact rests task member

/-- A segment begins where the loop is. -/
theorem begun_state (loop : EventLoop Λ σ W R ε α) (turn : Turn Λ W R) :
    (loop.begun turn).state = loop.state := by
  cases turn with
  | call label => rfl
  | resume i reply =>
    simp only [begun]
    split <;> rfl

theorem moved_cases {turn : Turn Λ W R} {label : Λ} {before after : σ} {rest : Coroutine σ W R ε α}
    (moves : moved program loop turn = some (label, before, after, rest)) :
    turn = .call label ∨ ∃ since on next reply,
      loop.tasks[loop.index turn]? = some ⟨label, since, .wait on next⟩ ∧
        (loop.begun turn).resumed = some ⟨on, reply⟩ := by
  cases turn with
  | call label =>
    cases moves
    exact .inl rfl
  | resume i reply =>
    simp only [moved] at moves
    simp only [begun, index]
    split at moves
    · next label since on next found =>
      cases moves
      simp only [found]
      exact .inr ⟨since, on, next, reply on, rfl, rfl⟩
    · cases moves

theorem step_since {rel : σ → σ → Prop} {turn : Turn Λ W R} (refl : ∀ s, rel s s)
    (trans : ∀ a b d, rel a b → rel b d → rel a d)
    (whole : rel loop.state (step program loop turn).state)
    (since : ∀ task ∈ loop.tasks, rel task.since loop.state) :
    ∀ task ∈ (step program loop turn).tasks, rel task.since (step program loop turn).state := by
  intro task member
  obtain ⟨j, found⟩ := List.mem_iff_getElem?.mp member
  rcases step_task found with old | ⟨_, moves⟩
  · exact trans _ _ _ (since task (List.mem_of_getElem? old)) whole
  · rw [step_state, moves]
    exact refl _

/-- What every change of every task preserves has held since each task was suspended. -/
structure Settled (rel : σ → σ → Prop) (loop : EventLoop Λ σ W R ε α) : Prop where
  within : loop.Within fun _ => rel
  since : ∀ task ∈ loop.tasks, rel task.since loop.state

theorem step_settled {rel : σ → σ → Prop} (every : ∀ label, (program label).Everywhere rel fun _ => True)
    (refl : ∀ s, rel s s) (trans : ∀ a b d, rel a b → rel b d → rel a d)
    (settled : loop.Settled rel) (turn : Turn Λ W R) :
    rel loop.state (step program loop turn).state ∧ (step program loop turn).Settled rel := by
  obtain ⟨moves, within⟩ := step_within (fun label (_ : turn = .call label) => every label)
    (fun _ => refl) (fun _ => trans) settled.within
  have whole : rel loop.state (step program loop turn).state := by
    rw [step_state]
    cases moving : moved program loop turn with
    | none => exact refl _
    | some ended => exact moved_before moving ▸ moves _ _ _ _ moving
  exact ⟨whole, within, step_since refl trans whole settled.since⟩

section Invariant

/-- The reply that ends the turn's wait, if any, is calm in the state it resumes in. -/
def Calm (calm : (on : W) → R on → σ → Prop) (loop : EventLoop Λ σ W R ε α) (turn : Turn Λ W R) :
    Prop :=
  ∀ on reply, (loop.begun turn).resumed = some ⟨on, reply⟩ → calm on reply loop.state

instance Calm.decidable (calm : (on : W) → R on → σ → Prop)
    [∀ on reply s, Decidable (calm on reply s)] (loop : EventLoop Λ σ W R ε α) (turn : Turn Λ W R) :
    Decidable (loop.Calm calm turn) :=
  match found : (loop.begun turn).resumed with
  | none => .isTrue fun on reply resumed => by simp [found] at resumed
  | some ⟨on, reply⟩ => decidable_of_iff (calm on reply loop.state) <| by
      simp only [Calm, found, Option.some.injEq, Sigma.mk.injEq]
      constructor
      · rintro given _ _ ⟨rfl, same⟩
        exact eq_of_heq same ▸ given
      · exact fun every => every on reply ⟨rfl, HEq.rfl⟩

/-- Every segment keeps the invariant, as long as the replies are calm. -/
def Contract.maintaining (inv : σ → Prop) (calm : (on : W) → R on → σ → Prop) :
    Contract Λ σ W R ε α Unit where
  begins _ s _ := inv s
  ready _ on _ reply later _ := inv later ∧ calm on reply later
  rel _ _ _ s := inv s
  post _ _ _ s := inv s

variable {inv : σ → Prop} {calm : (on : W) → R on → σ → Prop}

theorem step_invariant (maintains : ∀ label, (program label).Maintains inv calm)
    (sound : loop.Sound (Contract.maintaining inv calm)) {turn : Turn Λ W R}
    (quiet : loop.Calm calm turn) (holds : inv loop.state) :
    inv (step program loop turn).state ∧
      (step program loop turn).Sound (Contract.maintaining inv calm) := by
  have begins : loop.Begins (Contract.maintaining inv calm) turn () := by
    cases turn with
    | call label => exact holds
    | resume task reply =>
      simp only [Begins]
      split
      · next label since on next found =>
        refine ⟨holds, quiet on (reply on) ?_⟩
        simp only [begun, found]
      · trivial
  have met : (Contract.maintaining inv calm).Met program := fun label s _ => maintains label s
  obtain ⟨kept, sound⟩ := step_sound met sound fun _ => ⟨(), begins⟩
  refine ⟨?_, sound⟩
  rw [step_state]
  cases moving : moved program loop turn with
  | none => exact holds
  | some ended =>
    obtain ⟨label, before, after, rest⟩ := ended
    have promises := kept () label before after rest begins moving
    cases rest with
    | done result => exact promises
    | wait on next => exact promises
    | act change next => exact promises.elim

theorem run_invariant (maintains : ∀ label, (program label).Maintains inv calm)
    {turns : List (Turn Λ W R)} (holds : inv loop.state) (idle : loop.tasks = [])
    (quiet : Runs.Along (step program) (fun loop turn => loop.Calm calm turn) loop turns) :
    inv (Runs.run (step program) loop turns).state := by
  refine (Runs.invariant_along (I := fun loop => inv loop.state ∧
    loop.Sound (Contract.maintaining inv calm)) ?_ ⟨holds, ?_⟩ quiet).1
  · exact fun loop turn kept quiet => step_invariant maintains kept.2 quiet kept.1
  · simp [Sound, idle]

end Invariant

end EventLoop
