import Covalent.Base.Scripted

/-!
# Programs whose writes can fail

A program works on a durable store by single replacements, each of which happens
completely or not at all.  A replacement may be disturbed in five ways: it is
refused, it is made and then reported as a failure, or the process ends before it,
after it, or before it with a staging file left behind.

## Design notes

**One predicate for all early ends.**  A caller never sees how far a program came
that ended early, so the second postcondition does not tell a failure from a crash:
it is the invariant of the store.
-/

namespace Covalent.Durable

export Scripted (Stop Within attempt triple_bind triple_pure)

/-! ## Programs -/

/-- What can happen to one write besides its success. -/
inductive Fault where
  /-- The write fails and nothing changed. -/
  | refused
  /-- The write is made and then fails, as when the directory is not synchronised. -/
  | late
  /-- The process ends before the write. -/
  | lost
  /-- The process ends before the write and leaves its staging file, whole or not. -/
  | stranded (whole : Bool)
  /-- The process ends after the write. -/
  | cut
deriving DecidableEq

/-- The store a program works on and what happens to its next writes. -/
abbrev Session (σ : Type) := Scripted.Session Fault σ

abbrev Io (σ ε α : Type) := Scripted.Io Fault σ ε α

variable {σ ε ε' α β γ : Type}

/-- One write: the store it makes, and the store it leaves when its staging file
stays. -/
def act (error : ε) (change : σ → σ) (strand : Bool → σ → σ) : Io σ ε Unit := fun session =>
  let rest := session.script.tail
  match session.script.head?.join with
  | none => .ok () ⟨change session.state, rest⟩
  | some .refused => .error (.failed error) ⟨session.state, rest⟩
  | some .late => .error (.failed error) ⟨change session.state, rest⟩
  | some .lost => .error .crashed ⟨session.state, rest⟩
  | some (.stranded whole) => .error .crashed ⟨strand whole session.state, rest⟩
  | some .cut => .error .crashed ⟨change session.state, rest⟩

/-- Read the store and decide. -/
def check (test : σ → Except ε α) : Io σ ε α := fun session =>
  match test session.state with
  | .ok value => .ok value session
  | .error error => .error (.failed error) session

/-- Change what the process itself holds; nothing can go wrong. -/
def assign (change : σ → σ) : Io σ ε Unit := fun session =>
  .ok () ⟨change session.state, session.script⟩

section

variable (allowed : Fault → Prop) (program : Io σ ε α) (store : σ) (post : α → σ → Prop)

/-- Run a program for every item, in order, from one value to the next. -/
def loop (body : β → α → Io σ ε β) : β → List α → Io σ ε β
  | value, [] => pure value
  | value, item :: rest => do
    let next ← body value item
    loop body next rest

/-- What a program returned, if it did. -/
def returned : EStateM.Result (Stop ε) (Session σ) α → Option α
  | .ok value _ => some value
  | .error _ _ => none

theorem returned_eq_some {result : EStateM.Result (Stop ε) (Session σ) α} {value : α} :
    returned result = some value ↔ ∃ after, result = .ok value after := by
  cases result <;> simp [returned]

/-! ## Rules -/

/-- A program leaves `post` when it returns and `stop` otherwise, for every script of
allowed faults. -/
abbrev Triple (stop : σ → Prop) : Prop :=
  Scripted.Triple allowed program store post fun _ => stop

/-- A program leaves a store that is fine, however it ends. -/
abbrev Ends (fine : σ → Prop) : Prop :=
  Triple allowed program store (fun _ => fine) fine

end

variable {allowed : Fault → Prop} {store : σ} {stop : σ → Prop}

variable {script : List (Option Fault)} {error : ε} {strand : Bool → σ → σ} {condition : Prop}
  {final : β → Prop}

variable {value : β} {first program : Io σ ε α} {next : α → Io σ ε β} {post : α → σ → Prop}
  {test : σ → Except ε α} {change : σ → σ} {body : β → α → Io σ ε β} {items : List α}

theorem triple_check (fine : ∀ value, test store = .ok value → post value store)
    (problematic : ∀ error, test store = .error error → stop store) :
    Triple allowed (check test) store post stop := by
  intro script within
  unfold Effect.Ensures check
  cases tested : test store with
  | ok value => exact ⟨fine value tested, script.suffix_refl⟩
  | error error => exact ⟨problematic error tested, script.suffix_refl⟩

theorem triple_checked {post : β → σ → Prop} (stops : stop store)
    (goesOn : ∀ value, test store = .ok value → Triple allowed (next value) store post stop) :
    Triple allowed (check test >>= next) store post stop :=
  triple_bind (triple_check goesOn fun _ _ => stops)

/-- A program that reads the store and goes on. -/
theorem triple_read {view : σ → α} {post : β → σ → Prop}
    (goesOn : Triple allowed (next (view store)) store post stop) :
    Triple allowed (check (fun store => pure (view store)) >>= next) store post stop := by
  refine triple_bind (triple_check (fun value read => ?_) nofun)
  cases read
  exact goesOn

theorem triple_act {post : Unit → σ → Prop} (fine : post () (change store))
    (before : (∃ fault, allowed fault) → stop store)
    (after : (∃ fault, allowed fault) → stop (change store))
    (stranded : ∀ whole, allowed (.stranded whole) → stop (strand whole store)) :
    Triple allowed (act error change strand) store post stop := by
  intro script within
  have tail := script.tail_suffix
  unfold Effect.Ensures act
  cases headed : script.head?.join with
  | none => exact ⟨fine, tail⟩
  | some fault =>
    have permitted : allowed fault := within.head headed
    have disturbed : ∃ fault, allowed fault := ⟨fault, permitted⟩
    cases fault with
    | refused => exact ⟨before disturbed, tail⟩
    | late => exact ⟨after disturbed, tail⟩
    | lost => exact ⟨before disturbed, tail⟩
    | stranded whole => exact ⟨stranded whole permitted, tail⟩
    | cut => exact ⟨after disturbed, tail⟩

theorem triple_assign {post : Unit → σ → Prop} (holds : post () (change store)) :
    Triple allowed (assign change : Io σ ε Unit) store post stop := by
  intro script _
  unfold Effect.Ensures assign
  exact ⟨holds, script.suffix_refl⟩

theorem triple_attempt {program : Io σ ε' α} {post : Except ε' α → σ → Prop}
    (holds : Triple allowed program store (fun value after => post (.ok value) after)
      (fun after => stop after ∧ ∀ error, post (.error error) after)) :
    Triple allowed (attempt program : Io σ ε (Except ε' α)) store post stop := by
  refine Scripted.triple_attempt (holds.imp (fun _ _ fine => fine) fun reason after ended => ?_)
  cases reason with
  | failed error => exact ended.2 error
  | crashed => exact ended.1

theorem Triple.imp {weaker : α → σ → Prop} {weakerStop : σ → Prop}
    (strong : Triple allowed program store post stop)
    (fine : ∀ value after, post value after → weaker value after)
    (problematic : ∀ after, stop after → weakerStop after) :
    Triple allowed program store weaker weakerStop :=
  Scripted.Triple.imp strong fine fun _ => problematic

/-- A loop keeps what each round keeps; the invariant sees the items still to come. -/
theorem triple_loop {body : β → α → Io σ ε β} {invariant : List α → β → σ → Prop}
    (round : ∀ value item rest store, invariant (item :: rest) value store →
      Triple allowed (body value item) store (invariant rest) stop)
    {value : β} {items : List α} (holds : invariant items value store) :
    Triple allowed (loop body value items) store (invariant []) stop := by
  induction items generalizing value store with
  | nil => exact triple_pure holds
  | cons item rest ih =>
    exact (round value item rest store holds).andThen fun next after kept => ih kept

/-! ## Invariants -/

/-- A program keeps a property of the store, however it ends. -/
def Keeps (allowed : Fault → Prop) (invariant : σ → Prop) (program : Io σ ε α) : Prop :=
  ∀ store, invariant store → Triple allowed program store (fun _ after => invariant after) invariant

variable {invariant : σ → Prop}

theorem keeps_pure {value : α} : Keeps allowed invariant (pure value : Io σ ε α) :=
  fun _ holds => triple_pure holds

theorem keeps_check : Keeps allowed invariant (check test) :=
  fun _ holds => triple_check (fun _ _ => holds) fun _ _ => holds

theorem keeps_act (changed : ∀ store, invariant store → invariant (change store))
    (stranded : ∀ whole store, allowed (.stranded whole) → invariant store →
      invariant (strand whole store)) :
    Keeps allowed invariant (act error change strand) := fun store holds =>
  triple_act (changed store holds) (fun _ => holds) (fun _ => changed store holds)
    fun whole permitted => stranded whole store permitted holds

theorem keeps_assign (changed : ∀ store, invariant store → invariant (change store)) :
    Keeps allowed invariant (assign change : Io σ ε Unit) :=
  fun store holds => triple_assign (changed store holds)

theorem keeps_bind (one : Keeps allowed invariant first)
    (two : ∀ value, Keeps allowed invariant (next value)) :
    Keeps allowed invariant (first >>= next) := fun store holds =>
  (one store holds).andThen two

theorem keeps_checked {next : α → Io σ ε β} (rest : ∀ value, Keeps allowed invariant (next value)) :
    Keeps allowed invariant (check test >>= next) :=
  keeps_bind keeps_check rest

theorem keeps_attempt {program : Io σ ε' α} (kept : Keeps allowed invariant program) :
    Keeps allowed invariant (attempt program : Io σ ε (Except ε' α)) := fun store holds =>
  triple_attempt ((kept store holds).imp (fun _ _ after => after)
    fun _ stopped => ⟨stopped, fun _ => stopped⟩)

theorem keeps_loop (round : ∀ value item, Keeps allowed invariant (body value item)) :
    Keeps allowed invariant (loop body value items) := by
  induction items generalizing value with
  | nil => exact keeps_pure
  | cons item rest ih =>
    exact keeps_bind (round value item) fun next => ih

/-- A loop keeps what each round over one of its items keeps. -/
theorem keeps_loop_of_mem
    (round : ∀ item ∈ items, ∀ value, Keeps allowed invariant (body value item)) :
    Keeps allowed invariant (loop body value items) := by
  induction items generalizing value with
  | nil => exact keeps_pure
  | cons item rest ih =>
    refine keeps_bind (round item List.mem_cons_self value) fun next => ?_
    exact ih fun other member => round other (List.mem_cons_of_mem _ member)

theorem keeps_ite [Decidable condition] {one two : Io σ ε α}
    (yes : Keeps allowed invariant one) (no : Keeps allowed invariant two) :
    Keeps allowed invariant (if condition then one else two) := by
  split_ifs
  · exact yes
  · exact no

/-- A step that is left out when a condition fails, and the rest of the program. -/
theorem keeps_join [Decidable condition] {first : Io σ ε Unit} {rest : Unit → Io σ ε α}
    (one : Keeps allowed invariant first) (two : Keeps allowed invariant (rest ())) :
    Keeps allowed invariant (if condition then first >>= rest else rest ()) :=
  keeps_ite (keeps_bind one fun _ => two) two

/-! ## Invariants and results -/

/-- A program keeps a property of the store, however it ends, and what it returns has a
property too. -/
def Yields (allowed : Fault → Prop) (invariant : σ → Prop) (program : Io σ ε α)
    (result : α → Prop) : Prop :=
  ∀ store, invariant store →
    Triple allowed program store (fun value after => invariant after ∧ result value) invariant

variable {result : α → Prop}

theorem Yields.keeps {program : Io σ ε α} (yields : Yields allowed invariant program result) :
    Keeps allowed invariant program := fun store holds =>
  (yields store holds).imp (fun _ _ both => both.1) fun _ kept => kept

theorem Keeps.yields (kept : Keeps allowed invariant program) (every : ∀ value, result value) :
    Yields allowed invariant program result := fun store holds =>
  (kept store holds).imp (fun value _ after => ⟨after, every value⟩) fun _ after => after

theorem yields_pure {value : α} (holds : result value) :
    Yields allowed invariant (pure value : Io σ ε α) result :=
  fun _ kept => triple_pure ⟨kept, holds⟩

theorem yields_check
    (fine : ∀ store value, invariant store → test store = .ok value → result value) :
    Yields allowed invariant (check test) result := fun store holds =>
  triple_check (fun value tested => ⟨holds, fine store value holds tested⟩) fun _ _ => holds

theorem yields_bind (one : Yields allowed invariant first result)
    (two : ∀ value, result value → Yields allowed invariant (next value) final) :
    Yields allowed invariant (first >>= next) final := fun store holds =>
  (one store holds).andThen fun value after both => two value both.2 after both.1

/-- A step whose result does not matter, and the rest of a program. -/
theorem yields_seq (one : Keeps allowed invariant first)
    (two : ∀ value, Yields allowed invariant (next value) final) :
    Yields allowed invariant (first >>= next) final :=
  yields_bind (one.yields fun _ => trivial) fun value _ => two value

/-- A step whose result the rest of a program relies on. -/
theorem Yields.bind (one : Yields allowed invariant first result)
    (two : ∀ value, result value → Keeps allowed invariant (next value)) :
    Keeps allowed invariant (first >>= next) :=
  (yields_bind one fun value holds => (two value holds).yields fun _ => trivial).keeps

/-- A loop yields what each round over one of its items yields from it. -/
theorem yields_loop {good : β → Prop}
    (round : ∀ item ∈ items, ∀ value, good value → Yields allowed invariant (body value item) good)
    (holds : good value) : Yields allowed invariant (loop body value items) good := by
  induction items generalizing value with
  | nil => exact yields_pure holds
  | cons item rest ih =>
    refine yields_bind (round item List.mem_cons_self value holds) fun next better => ?_
    exact ih (fun other member => round other (List.mem_cons_of_mem _ member)) better

end Covalent.Durable
