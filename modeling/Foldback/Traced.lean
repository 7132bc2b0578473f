/-
Computations that leave notes. A traced computation gives an outcome, a value
or an error, and the notes it made on the way there. The notes never influence
the outcome: `outcome` turns a sequence of traced computations into the sequence
of their outcomes, so every statement about results can forget the notes.
-/

namespace Foldback

/-- An outcome and the notes made before it, in order. -/
structure Traced (note error value : Type) where
  /-- What was noted. -/
  notes : List note
  /-- The value, or the error that ended the computation. -/
  outcome : Except error value

namespace Traced

variable {note error value other : Type}

/-- A value without notes. -/
def done (result : value) : Traced note error value := ⟨[], .ok result⟩

/-- An error without notes. -/
def fail (reason : error) : Traced note error value := ⟨[], .error reason⟩

/-- An outcome without notes. -/
def ofExcept (outcome : Except error value) : Traced note error value := ⟨[], outcome⟩

/-- One note. -/
def mark (message : note) : Traced note error Unit := ⟨[message], .ok ()⟩

/-- Goes on after a value; an error ends the computation. -/
def andThen (first : Traced note error value) (next : value → Traced note error other) :
    Traced note error other :=
  match first.outcome with
  | .error reason => ⟨first.notes, .error reason⟩
  | .ok result => ⟨first.notes ++ (next result).notes, (next result).outcome⟩

instance : Monad (Traced note error) where
  pure := done
  bind := andThen

/-- The same outcome under other notes. -/
def mapNotes {target : Type} (rename : note → target) (traced : Traced note error value) :
    Traced target error value :=
  ⟨traced.notes.map rename, traced.outcome⟩

/-- The same notes and value under another form of error. -/
def mapError {target : Type} (convert : error → target) (traced : Traced note error value) :
    Traced note target value :=
  ⟨traced.notes, traced.outcome.mapError convert⟩

/-! ### The outcome forgets the notes -/

@[simp]
theorem outcome_pure (result : value) :
    (pure result : Traced note error value).outcome = .ok result := rfl

@[simp]
theorem outcome_done (result : value) :
    (done result : Traced note error value).outcome = .ok result := rfl

@[simp]
theorem outcome_fail (reason : error) :
    (fail reason : Traced note error value).outcome = .error reason := rfl

@[simp]
theorem outcome_ofExcept (outcome : Except error value) :
    (ofExcept outcome : Traced note error value).outcome = outcome := rfl

@[simp]
theorem outcome_mark (message : note) :
    (mark message : Traced note error Unit).outcome = .ok () := rfl

@[simp]
theorem outcome_bind (first : Traced note error value) (next : value → Traced note error other) :
    (first >>= next).outcome = first.outcome.bind fun result => (next result).outcome := by
  show (andThen first next).outcome = _
  unfold andThen
  cases first.outcome <;> rfl

@[simp]
theorem outcome_mapNotes {target : Type} (rename : note → target)
    (traced : Traced note error value) : (traced.mapNotes rename).outcome = traced.outcome := rfl

@[simp]
theorem outcome_mapError {target : Type} (convert : error → target)
    (traced : Traced note error value) :
    (traced.mapError convert).outcome = traced.outcome.mapError convert := rfl

end Traced

/-! ### Outcomes that are values -/

section Values

variable {reason other value result : Type}

/-- A sequence that gives a value gives one at its first step. -/
theorem exists_of_bind_eq_ok {first : Except reason value} {next : value → Except reason result}
    {last : result} (given : first.bind next = .ok last) :
    ∃ middle, first = .ok middle ∧ next middle = .ok last := by
  cases first with
  | error _ => cases given
  | ok middle => exact ⟨middle, rfl, given⟩

/-- An error is no value. -/
theorem ne_ok_of_eq_error {outcome : Except reason value} {failure : reason} {given : value}
    (failed : outcome = .error failure) : outcome ≠ .ok given := by
  rintro rfl
  cases failed

theorem mapError_eq_ok {convert : reason → other} {outcome : Except reason value} {given : value} :
    outcome.mapError convert = .ok given ↔ outcome = .ok given := by
  constructor
  · intro converted
    cases outcome with
    | error _ => cases converted
    | ok value =>
      cases converted
      rfl
  · rintro rfl
    rfl

theorem exists_of_map_eq_ok {change : value → result} {outcome : Except reason value}
    {given : result} (changed : outcome.map change = .ok given) :
    ∃ middle, outcome = .ok middle ∧ change middle = given := by
  cases outcome with
  | error _ => cases changed
  | ok middle => exact ⟨middle, rfl, Except.ok.inj changed⟩

end Values

end Foldback
